/-
The per-target circuit breaker (`crates/fabric-wire/src/breaker.rs`) and the callers
that connect through it (`connect_through_breaker` in `crates/fabric-backends/src/db.rs`).

Instants and durations are in the clock's own unit; `latest` is the last instant there
is, so that `checked_add` fails beyond it. The mutex makes `allow` and `record` atomic,
and it is never poisoned here: neither of them can panic while it holds the lock.

Section 1 is the code, section 2 what a history of calls says about a target, section 3
the two against each other. Section 4 is about callers whose connects take their time.
-/
import Mathlib.Algebra.Order.Ring.Nat
import Mathlib.Data.List.AList
import Mathlib.Data.List.Induction
import Runlet.Lib.Count
import Runlet.Lib.Machine

set_option autoImplicit false

namespace Runlet.Breaker

open Machine

/-! ## 1. The breaker -/

/-- `BreakerConfig`. -/
structure BreakerConfig where
  threshold : UInt32
  cooldown : ℕ
  deriving DecidableEq, Repr

/-- `TargetState`. -/
structure TargetState where
  failures : UInt32
  open_until : Option ℕ
  deriving DecidableEq, Repr

/-- `CircuitBreaker`. -/
structure CircuitBreaker where
  config : BreakerConfig
  targets : AList fun _ : String => TargetState
  trips : UInt64

/-- `CircuitBreaker::new`: `None` when disabled. -/
def CircuitBreaker.new (config : BreakerConfig) : Option CircuitBreaker :=
  if config.threshold = 0 then none
  else some { config, targets := ∅, trips := 0 }

/-- `Instant::checked_add`. -/
def checked_add (latest now duration : ℕ) : Option ℕ :=
  if now + duration ≤ latest then some (now + duration) else none

/-- `u32::saturating_add(1)`. -/
def saturating_succ (n : UInt32) : UInt32 :=
  if n = UInt32.ofNat (2 ^ 32 - 1) then n else n + 1

/-- The entry `record` starts a target with. -/
def TargetState.closed : TargetState := ⟨0, none⟩

/-- `CircuitBreaker::allow` at an instant. -/
def CircuitBreaker.allow (latest : ℕ) (breaker : CircuitBreaker) (target : String) (now : ℕ) :
    Bool × CircuitBreaker :=
  match breaker.targets.lookup target with
  | none => (true, breaker)
  | some state =>
    match state.open_until with
    | some until_ =>
      if now < until_ then (false, breaker)
      else
        let state' := { state with open_until := checked_add latest now breaker.config.cooldown }
        (true, { breaker with targets := breaker.targets.insert target state' })
    | none => (true, breaker)

/-- `CircuitBreaker::record` at an instant. -/
def CircuitBreaker.record (latest : ℕ) (breaker : CircuitBreaker) (target : String)
    (success : Bool) (now : ℕ) : CircuitBreaker :=
  let state := (breaker.targets.lookup target).getD TargetState.closed
  if success then
    { breaker with targets := breaker.targets.insert target ⟨0, none⟩ }
  else
    let failures := saturating_succ state.failures
    if breaker.config.threshold ≤ failures then
      { breaker with
        -- only the closed→open transition is counted, not every failure while already open
        trips := if state.open_until = none then breaker.trips + 1 else breaker.trips
        targets := breaker.targets.insert target
          ⟨failures, checked_add latest now breaker.config.cooldown⟩ }
    else
      { breaker with targets := breaker.targets.insert target ⟨failures, state.open_until⟩ }

inductive Op
  | allow
  | record (success : Bool)
  deriving DecidableEq, Repr

/-- A call of `allow` or `record`, with the instant it reads. -/
structure Call where
  target : String
  now : ℕ
  op : Op
  deriving DecidableEq, Repr

/-- The breaker after one call. -/
def CircuitBreaker.perform (latest : ℕ) (breaker : CircuitBreaker) (c : Call) : CircuitBreaker :=
  match c.op with
  | .allow => (breaker.allow latest c.target c.now).2
  | .record success => breaker.record latest c.target success c.now

/-- The breaker after a history of calls. -/
def CircuitBreaker.after (latest : ℕ) (breaker : CircuitBreaker) (calls : List Call) :
    CircuitBreaker :=
  calls.foldl (CircuitBreaker.perform latest) breaker

/-- The state of a target; one without an entry is closed. -/
def CircuitBreaker.state (breaker : CircuitBreaker) (target : String) : TargetState :=
  (breaker.targets.lookup target).getD TargetState.closed

/-- `open_until` is set. -/
def CircuitBreaker.Open (breaker : CircuitBreaker) (target : String) : Prop :=
  ((breaker.state target).open_until).isSome = true

instance (breaker : CircuitBreaker) (target : String) : Decidable (breaker.Open target) :=
  inferInstanceAs (Decidable (_ = true))

/-! ## 2. What a history says of a target -/

/-- What a call records. -/
def Call.outcome (c : Call) : Option Bool :=
  match c.op with
  | .allow => none
  | .record success => some success

/-- The outcomes recorded for a target, oldest first. -/
def outcomes (target : String) (calls : List Call) : List Bool :=
  (calls.filter fun c => c.target = target).filterMap Call.outcome

/-- How many of the last recorded outcomes failed, back to the last success. -/
def consecutive_failures (target : String) (calls : List Call) : ℕ :=
  ((outcomes target calls).reverse.takeWhile fun success => !success).length

/-- How many calls of the history took their target from closed to open. -/
def transitions (latest : ℕ) (breaker : CircuitBreaker) : List Call → ℕ
  | [] => 0
  | c :: calls =>
    (if ¬ breaker.Open c.target ∧ (breaker.perform latest c).Open c.target then 1 else 0)
      + transitions latest (breaker.perform latest c) calls

/-! ## 3. The breaker keeps count -/

/-- What a call on a target makes of its state. -/
def next (latest : ℕ) (config : BreakerConfig) (state : TargetState) (c : Call) : TargetState :=
  match c.op with
  | .allow =>
    match state.open_until with
    | none => state
    | some until_ =>
      if c.now < until_ then state
      else { state with open_until := checked_add latest c.now config.cooldown }
  | .record true => ⟨0, none⟩
  | .record false =>
    if config.threshold ≤ saturating_succ state.failures then
      ⟨saturating_succ state.failures, checked_add latest c.now config.cooldown⟩
    else ⟨saturating_succ state.failures, state.open_until⟩

section Calls

variable {latest : ℕ} {breaker : CircuitBreaker} {c : Call} {calls : List Call} {target : String}

theorem checked_add_eq {now duration : ℕ} (h : now + duration ≤ latest) :
    checked_add latest now duration = some (now + duration) := if_pos h

/-- The counter of failures stops at its largest value and does not wrap. -/
theorem saturating_succ_toNat (n : UInt32) :
    (saturating_succ n).toNat = min (n.toNat + 1) (2 ^ 32 - 1) := by
  have hlt := n.toNat_lt
  rw [saturating_succ]
  by_cases hn : n = UInt32.ofNat (2 ^ 32 - 1)
  · rw [if_pos hn, hn]
    rfl
  · have hne : n.toNat ≠ 2 ^ 32 - 1 := by
      intro heq
      apply hn
      rw [← UInt32.toNat_inj, heq]
      rfl
    rw [if_neg hn, UInt32.toNat_add]
    have hone : (1 : UInt32).toNat = 1 := rfl
    omega

/-- An entry put in for a target is its state, and no other target's. -/
theorem state_insert (entry : TargetState) (trips : UInt64) (target' : String) :
    CircuitBreaker.state { breaker with
      targets := breaker.targets.insert target entry, trips := trips } target'
      = if target = target' then entry else breaker.state target' := by
  rw [CircuitBreaker.state]
  by_cases h : target = target'
  · rw [if_pos h, ← h, AList.lookup_insert]
    rfl
  · rw [if_neg h, AList.lookup_insert_ne (Ne.symm h)]
    rfl

/-- A call changes the state of its own target as `next` says. The map of targets is looked up
once and written once; whether the target was known before makes no difference, because an unknown
one has the state of a fresh one. -/
theorem perform_state_self :
    (breaker.perform latest c).state c.target
      = next latest breaker.config (breaker.state c.target) c := by
  obtain ⟨target, now, op⟩ := c
  cases op with
  | allow =>
      rw [CircuitBreaker.perform, CircuitBreaker.allow, next]
      dsimp only
      cases hlookup : breaker.targets.lookup target with
      | none =>
          -- a target that is not known is closed, and stays unknown
          have hstate : breaker.state target = TargetState.closed := by
            rw [CircuitBreaker.state, hlookup]
            rfl
          dsimp only
          rw [hstate]
          rfl
      | some entry =>
          have hstate : breaker.state target = entry := by
            rw [CircuitBreaker.state, hlookup]
            rfl
          dsimp only
          rw [hstate]
          cases hopen : entry.open_until with
          | none => exact hstate
          | some until_ =>
              -- only the probe writes: it moves the window on
              dsimp only
              by_cases hnow : now < until_
              · rw [if_pos hnow, if_pos hnow]
                exact hstate
              · rw [if_neg hnow, if_neg hnow, state_insert, if_pos rfl]
  | record success =>
      unfold CircuitBreaker.perform CircuitBreaker.record
      dsimp only
      cases success with
      | true =>
          rw [if_pos rfl, state_insert, if_pos rfl]
          rfl
      | false =>
          have hstate : (breaker.targets.lookup target).getD TargetState.closed
              = breaker.state target := rfl
          rw [if_neg Bool.false_ne_true, next]
          dsimp only
          rw [hstate]
          by_cases hreach : breaker.config.threshold
              ≤ saturating_succ (breaker.state target).failures
          · rw [if_pos hreach, if_pos hreach, state_insert, if_pos rfl]
          · rw [if_neg hreach, if_neg hreach, state_insert, if_pos rfl]

/-- And no other's: all it writes is an entry of its target. -/
theorem perform_state_other {target' : String} (ht : c.target ≠ target') :
    (breaker.perform latest c).state target' = breaker.state target' := by
  obtain ⟨target, now, op⟩ := c
  cases op with
  | allow =>
      rw [CircuitBreaker.perform, CircuitBreaker.allow]
      dsimp only
      split
      · rfl
      · split
        · split
          · rfl
          · rw [state_insert, if_neg ht]
        · rfl
  | record success =>
      unfold CircuitBreaker.perform CircuitBreaker.record
      dsimp only
      split
      · rw [state_insert, if_neg ht]
      · split
        · rw [state_insert, if_neg ht]
        · rw [state_insert, if_neg ht]

/-- A call changes the state of its own target only. -/
theorem perform_state (target' : String) :
    (breaker.perform latest c).state target'
      = if c.target = target' then next latest breaker.config (breaker.state target') c
        else breaker.state target' := by
  by_cases ht : c.target = target'
  · rw [if_pos ht, ← ht, perform_state_self]
  · rw [if_neg ht, perform_state_other ht]

/-- No call changes the configuration. -/
@[simp] theorem perform_config : (breaker.perform latest c).config = breaker.config := by
  rw [CircuitBreaker.perform]
  split
  · rw [CircuitBreaker.allow]
    split
    · rfl
    · split
      · split <;> rfl
      · rfl
  · rw [CircuitBreaker.record]
    dsimp only
    split
    · rfl
    · split <;> rfl

/-- A target has an entry once an outcome was recorded for it. A record creates the entry of its
own target and of no other, and asking creates none. -/
theorem perform_known (target' : String) :
    ((breaker.perform latest c).targets.lookup target').isSome = true
      ↔ (breaker.targets.lookup target').isSome = true
        ∨ c.target = target' ∧ c.op ≠ .allow := by
  obtain ⟨target, now, op⟩ := c
  have hinsert : ∀ entry : TargetState,
      ((breaker.targets.insert target entry).lookup target').isSome = true
        ↔ (breaker.targets.lookup target').isSome = true ∨ target = target' := by
    intro entry
    rw [AList.lookup_isSome, AList.lookup_isSome, AList.mem_insert, or_comm, @eq_comm _ target']
  cases op with
  | allow =>
      rw [CircuitBreaker.perform, CircuitBreaker.allow]
      dsimp only
      have hnot : ¬ (target = target' ∧ Op.allow ≠ .allow) := fun h => h.2 rfl
      rw [or_iff_left hnot]
      cases hlookup : breaker.targets.lookup target with
      | none => rfl
      | some entry =>
          dsimp only
          split
          · split
            · rfl
            · rw [hinsert]
              -- the target it re-arms has an entry already
              refine or_iff_left_of_imp ?_
              intro heq
              rw [← heq, hlookup]
              rfl
          · rfl
  | record success =>
      unfold CircuitBreaker.perform CircuitBreaker.record
      dsimp only
      have hrecord : (target = target' ∧ Op.record success ≠ .allow) ↔ target = target' :=
        and_iff_left (by simp)
      rw [hrecord]
      split
      · exact hinsert _
      · split
        · exact hinsert _
        · exact hinsert _

theorem after_snoc : breaker.after latest (calls ++ [c]) = (breaker.after latest calls).perform latest c := by
  rw [CircuitBreaker.after, List.foldl_append]
  rfl

@[simp] theorem after_config : (breaker.after latest calls).config = breaker.config := by
  induction calls using List.reverseRecOn with
  | nil => rfl
  | append_singleton calls c ih => rw [after_snoc, perform_config, ih]

/-- The state of a target is settled by its own calls. By induction from the end of the run: a
call on another target leaves the state as it is, a call on this one is one turn of `next`. -/
theorem after_state (target : String) :
    (breaker.after latest calls).state target
      = (calls.filter fun c => c.target = target).foldl (next latest breaker.config)
          (breaker.state target) := by
  induction calls using List.reverseRecOn with
  | nil => rfl
  | append_singleton calls c ih =>
      rw [after_snoc, perform_state, after_config, ih, List.filter_append, List.foldl_append]
      by_cases ht : c.target = target
      · rw [if_pos ht, List.filter_cons, if_pos (decide_eq_true ht)]
        rfl
      · have hdrop : ¬ decide (c.target = target) = true := by
          rw [decide_eq_true_iff]
          exact ht
        rw [if_neg ht, List.filter_cons, if_neg hdrop]
        rfl

/-- `allow` answers by the state of the target alone: it refuses while a window is armed and its
end is ahead. Whatever else the map holds is not looked at. -/
theorem allow_eq_false {now : ℕ} :
    (breaker.allow latest target now).1 = false
      ↔ ∃ until_, (breaker.state target).open_until = some until_ ∧ now < until_ := by
  rw [CircuitBreaker.allow, CircuitBreaker.state]
  cases hlookup : breaker.targets.lookup target with
  | none =>
      refine iff_of_false (by simp) ?_
      rintro ⟨until_, hopen, -⟩
      cases hopen
  | some entry =>
      dsimp only [Option.getD_some]
      cases hopen : entry.open_until with
      | none =>
          refine iff_of_false (by simp) ?_
          rintro ⟨until_, hnone, -⟩
          cases hnone
      | some until_ =>
          dsimp only
          by_cases hnow : now < until_
          · rw [if_pos hnow]
            exact iff_of_true rfl ⟨until_, rfl, hnow⟩
          · rw [if_neg hnow]
            refine iff_of_false (by simp) ?_
            rintro ⟨u, hu, hlt⟩
            rw [Option.some.injEq] at hu
            omega

/-- Who is let through an open breaker comes after its window. -/
theorem window_over {now until_ : ℕ} (hopen : (breaker.state target).open_until = some until_)
    (h : (breaker.allow latest target now).1 = true) : until_ ≤ now := by
  by_contra hlt
  have hno : (breaker.allow latest target now).1 = false :=
    allow_eq_false.mpr ⟨until_, hopen, Nat.lt_of_not_le hlt⟩
  rw [hno] at h
  cases h

/-- What one more call makes of the number of consecutive failures. They are counted from the end
of the run, so a success cuts the count off and a call on another target is passed over. -/
theorem consecutive_failures_snoc (target : String) :
    consecutive_failures target (calls ++ [c])
      = if c.target = target then
          match c.op with
          | .allow => consecutive_failures target calls
          | .record true => 0
          | .record false => consecutive_failures target calls + 1
        else consecutive_failures target calls := by
  rw [consecutive_failures, outcomes, List.filter_append, List.filterMap_append]
  by_cases ht : c.target = target
  · rw [if_pos ht, List.filter_cons, if_pos (decide_eq_true ht), List.filter_nil]
    cases hop : c.op with
    | allow =>
        have hnone : c.outcome = none := by rw [Call.outcome, hop]
        rw [List.filterMap_cons_none hnone, List.filterMap_nil, List.append_nil]
        rfl
    | record success =>
        have hsome : c.outcome = some success := by rw [Call.outcome, hop]
        rw [List.filterMap_cons_some hsome, List.filterMap_nil, List.reverse_append,
          List.reverse_singleton, List.singleton_append]
        cases success with
        | true => rfl
        | false => rfl
  · have hdrop : ¬ decide (c.target = target) = true := by
      rw [decide_eq_true_iff]
      exact ht
    rw [if_neg ht, List.filter_cons, if_neg hdrop, List.filter_nil, List.filterMap_nil,
      List.append_nil]
    rfl

/-- The state of a target that has failed `n` times since its last success. -/
structure Recorded (config : BreakerConfig) (n : ℕ) (state : TargetState) : Prop where
  failures : state.failures.toNat = min n (2 ^ 32 - 1)
  opened : state.open_until.isSome = true ↔ config.threshold.toNat ≤ n

/-- The comparison with the threshold is one of the true count of failures: a counter that has
saturated is above any threshold a `u32` can be. -/
theorem Recorded.reached {config : BreakerConfig} {n : ℕ} {state : TargetState}
    (h : Recorded config n state) :
    config.threshold ≤ saturating_succ state.failures ↔ config.threshold.toNat ≤ n + 1 := by
  have hlt := config.threshold.toNat_lt
  have hsucc := saturating_succ_toNat state.failures
  have hfailures := h.failures
  rw [UInt32.le_iff_toNat_le]
  omega

/-- One call on a target. A success starts the count again and closes the target; a failure adds
one and opens the target at the threshold; asking changes neither. The clock has room for the
cooldown, or the target would stay closed at the threshold. -/
theorem next_recorded {config : BreakerConfig} {n : ℕ} {state : TargetState}
    (hroom : c.now + config.cooldown ≤ latest) (hpos : 0 < config.threshold.toNat)
    (h : Recorded config n state) :
    Recorded config (match c.op with | .allow => n | .record true => 0 | .record false => n + 1)
      (next latest config state c) := by
  obtain ⟨target, now, op⟩ := c
  cases op with
  | allow =>
      rw [next]
      dsimp only
      cases hopen : state.open_until with
      | none => exact h
      | some until_ =>
          dsimp only
          by_cases hnow : now < until_
          · rw [if_pos hnow]
            exact h
          · rw [if_neg hnow]
            refine ⟨h.failures, ?_⟩
            -- re-armed: as open as it was
            have hbefore := h.opened
            rw [hopen] at hbefore
            rw [checked_add_eq hroom]
            exact hbefore
  | record success =>
      cases success with
      | true =>
          refine ⟨rfl, iff_of_false Bool.false_ne_true ?_⟩
          exact Nat.not_le.mpr hpos
      | false =>
          have hfailures : (saturating_succ state.failures).toNat = min (n + 1) (2 ^ 32 - 1) := by
            have hsucc := saturating_succ_toNat state.failures
            have hold := h.failures
            omega
          rw [next]
          dsimp only
          by_cases hreach : config.threshold ≤ saturating_succ state.failures
          · rw [if_pos hreach]
            refine ⟨hfailures, iff_of_true ?_ (h.reached.mp hreach)⟩
            dsimp only
            rw [checked_add_eq hroom]
            rfl
          · rw [if_neg hreach]
            refine ⟨hfailures, ?_⟩
            have hopened := h.opened
            have hbelow := mt h.reached.mpr hreach
            dsimp only
            rw [hopened]
            omega

/-- A breaker that is made has a threshold and knows no target. -/
theorem new_eq {config : BreakerConfig} {breaker : CircuitBreaker}
    (hnew : CircuitBreaker.new config = some breaker) :
    0 < config.threshold.toNat ∧ breaker = ⟨config, ∅, 0⟩ := by
  rw [CircuitBreaker.new] at hnew
  by_cases hzero : config.threshold = 0
  · rw [if_pos hzero] at hnew
    cases hnew
  · rw [if_neg hzero, Option.some.injEq] at hnew
    refine ⟨Nat.pos_of_ne_zero ?_, hnew.symm⟩
    intro heq
    apply hzero
    rw [← UInt32.toNat_inj, heq]
    rfl

/-- The state of a target after any calls is that of its failures in a row, whatever the calls on
the other targets were. By induction on the calls from the last one. -/
theorem after_recorded {config : BreakerConfig} {breaker : CircuitBreaker}
    (hnew : CircuitBreaker.new config = some breaker)
    (hroom : ∀ c ∈ calls, c.now + config.cooldown ≤ latest) (target : String) :
    Recorded config (consecutive_failures target calls)
      ((breaker.after latest calls).state target) := by
  obtain ⟨hpos, hfresh⟩ := new_eq hnew
  have hconfig : breaker.config = config := by
    rw [hfresh]
  -- along the history, oldest call first
  induction calls using List.reverseRecOn with
  | nil =>
      have hstate : breaker.state target = TargetState.closed := by
        rw [hfresh]
        rfl
      rw [CircuitBreaker.after, List.foldl_nil, hstate]
      refine ⟨rfl, iff_of_false Bool.false_ne_true ?_⟩
      exact Nat.not_le.mpr hpos
  | append_singleton calls c ih =>
      have hbefore := ih fun c hc => hroom c (List.mem_append_left _ hc)
      have hroomc := hroom c (List.mem_append_right _ List.mem_cons_self)
      rw [after_snoc, perform_state, after_config, hconfig, consecutive_failures_snoc]
      by_cases ht : c.target = target
      · rw [if_pos ht, if_pos ht]
        exact next_recorded hroomc hpos hbefore
      · rw [if_neg ht, if_neg ht]
        exact hbefore

/-- A target is known from its first record on; asking for it leaves no trace. By induction from
the end, with `perform_known` for the last call. -/
theorem after_known (hempty : breaker.targets = ∅) (target : String) :
    ((breaker.after latest calls).targets.lookup target).isSome = true
      ↔ ∃ c ∈ calls, c.target = target ∧ c.op ≠ .allow := by
  induction calls using List.reverseRecOn with
  | nil =>
      rw [CircuitBreaker.after, List.foldl_nil, hempty, AList.lookup_empty]
      refine iff_of_false (by simp) ?_
      rintro ⟨c, hc, -⟩
      cases hc
  | append_singleton calls c ih =>
      rw [after_snoc, perform_known, ih]
      constructor
      · rintro (⟨d, hd, hrecord⟩ | hrecord)
        · exact ⟨d, List.mem_append_left _ hd, hrecord⟩
        · exact ⟨c, List.mem_append_right _ List.mem_cons_self, hrecord⟩
      · rintro ⟨d, hd, hrecord⟩
        rcases List.mem_append.mp hd with hd | hd
        · exact Or.inl ⟨d, hd, hrecord⟩
        · rw [List.mem_singleton] at hd
          exact Or.inr (hd ▸ hrecord)

/-- A window that is not over before `a + cooldown`. -/
def Armed (config : BreakerConfig) (a : ℕ) (state : TargetState) : Prop :=
  ∀ until_, state.open_until = some until_ → a + config.cooldown ≤ until_

/-- A target armed at `now` is open for the cooldown from any earlier instant as well. -/
theorem checked_add_armed {config : BreakerConfig} {a now until_ : ℕ} (hle : a ≤ now)
    (h : checked_add latest now config.cooldown = some until_) : a + config.cooldown ≤ until_ := by
  rw [checked_add] at h
  by_cases hroom : now + config.cooldown ≤ latest
  · rw [if_pos hroom, Option.some.injEq] at h
    omega
  · rw [if_neg hroom] at h
    cases h

/-- Whatever is called later arms the window for later. A record that opens the target arms it
from its own instant, and so does the probe that is let through; the others leave the window or
close it. -/
theorem next_armed {config : BreakerConfig} {a : ℕ} {state : TargetState} (hle : a ≤ c.now)
    (h : Armed config a state) : Armed config a (next latest config state c) := by
  intro until_ hopen
  obtain ⟨target, now, op⟩ := c
  rw [next] at hopen
  cases op with
  | allow =>
      dsimp only at hopen
      cases hold : state.open_until with
      | none =>
          rw [hold] at hopen
          dsimp only at hopen
          rw [hold] at hopen
          cases hopen
      | some old =>
          rw [hold] at hopen
          dsimp only at hopen
          by_cases hnow : now < old
          · rw [if_pos hnow] at hopen
            exact h until_ hopen
          -- the probe starts the next window from its own instant
          · rw [if_neg hnow] at hopen
            exact checked_add_armed hle hopen
  | record success =>
      cases success with
      | true => cases hopen
      | false =>
          dsimp only at hopen
          by_cases hreach : config.threshold ≤ saturating_succ state.failures
          · rw [if_pos hreach] at hopen
            exact checked_add_armed hle hopen
          · rw [if_neg hreach] at hopen
            exact h until_ hopen

/-- If a target is armed no earlier than `a` it stays so over calls that come no earlier than `a`.
-/
theorem after_armed {a : ℕ} (hle : ∀ c ∈ calls, a ≤ c.now)
    (h : Armed breaker.config a (breaker.state target)) :
    Armed breaker.config a ((breaker.after latest calls).state target) := by
  induction calls using List.reverseRecOn with
  | nil => exact h
  | append_singleton calls c ih =>
      have hbefore := ih fun c hc => hle c (List.mem_append_left _ hc)
      rw [after_snoc, perform_state, after_config]
      by_cases ht : c.target = target
      · rw [if_pos ht]
        exact next_armed (hle c (List.mem_append_right _ List.mem_cons_self)) hbefore
      · rw [if_neg ht]
        exact hbefore

/-- A probe: an `allow` that says yes while the target is open. -/
def CircuitBreaker.Probes (latest : ℕ) (breaker : CircuitBreaker) (c : Call) : Prop :=
  c.op = .allow ∧ breaker.Open c.target ∧ (breaker.allow latest c.target c.now).1 = true

/-- A probe comes after the window and starts the next one. -/
theorem Probes.window (h : breaker.Probes latest c) :
    (∃ until_, (breaker.state c.target).open_until = some until_ ∧ until_ ≤ c.now)
      ∧ ((breaker.perform latest c).state c.target).open_until
        = checked_add latest c.now breaker.config.cooldown := by
  obtain ⟨hop, hopen, hyes⟩ := h
  obtain ⟨until_, huntil⟩ := Option.isSome_iff_exists.mp hopen
  have hover : until_ ≤ c.now := window_over huntil hyes
  refine ⟨⟨until_, huntil, hover⟩, ?_⟩
  rw [perform_state_self, next, hop]
  dsimp only
  rw [huntil]
  dsimp only
  rw [if_neg (Nat.not_lt.mpr hover)]

/-- Two probes of a target are a cool-down apart. The first arms the window from its own instant,
nothing in between moves the window back, and the second is let through only when it has passed.
-/
theorem probes_apart {before between : List Call} {c₁ c₂ : Call}
    (hsorted : (c₁ :: between ++ [c₂]).Pairwise fun c d => c.now ≤ d.now)
    (htarget : c₁.target = c₂.target) (h₁ : (breaker.after latest before).Probes latest c₁)
    (h₂ : (breaker.after latest (before ++ c₁ :: between)).Probes latest c₂) :
    c₁.now + breaker.config.cooldown ≤ c₂.now := by
  obtain ⟨until_, huntil, hover⟩ := (Probes.window h₂).1
  have hrest : breaker.after latest (before ++ c₁ :: between)
      = ((breaker.after latest before).perform latest c₁).after latest between := by
    rw [CircuitBreaker.after, List.foldl_append, List.foldl_cons]
    rfl
  -- the first probe arms the window, and what is between arms it no earlier
  have harmed : Armed breaker.config c₁.now
      (((breaker.after latest before).perform latest c₁).state c₂.target) := by
    intro u hu
    rw [← htarget, (Probes.window h₁).2, after_config] at hu
    exact checked_add_armed (Nat.le_refl _) hu
  have hle : ∀ c ∈ between, c₁.now ≤ c.now := by
    intro c hc
    rw [List.cons_append, List.pairwise_cons] at hsorted
    exact hsorted.1 c (List.mem_append_left _ hc)
  have hconfig : ((breaker.after latest before).perform latest c₁).config = breaker.config := by
    rw [perform_config, after_config]
  have hlater : Armed breaker.config c₁.now
      ((breaker.after latest (before ++ c₁ :: between)).state c₂.target) := by
    rw [hrest, ← hconfig]
    rw [← hconfig] at harmed
    exact after_armed hle harmed
  have := hlater until_ huntil
  omega

/-- Asking trips nothing. -/
theorem allow_trips {now : ℕ} : (breaker.allow latest target now).2.trips = breaker.trips := by
  rw [CircuitBreaker.allow]
  split
  · rfl
  · split
    · split <;> rfl
    · rfl

/-- `trips` goes up by the transition the call is, if it is one. Only a failure can open a target:
it does at the threshold, and one that was open already opens no second time. -/
theorem perform_trips (hroom : c.now + breaker.config.cooldown ≤ latest) :
    (breaker.perform latest c).trips
      = breaker.trips + UInt64.ofNat
          (if ¬ breaker.Open c.target ∧ (breaker.perform latest c).Open c.target then 1 else 0) := by
  have hafter : (breaker.perform latest c).Open c.target
      ↔ ((next latest breaker.config (breaker.state c.target) c).open_until).isSome = true := by
    rw [CircuitBreaker.Open, perform_state, if_pos rfl]
  have hnone : ∀ P : Prop, ¬ P → ∀ [Decidable P],
      breaker.trips = breaker.trips + UInt64.ofNat (if P then 1 else 0) := by
    intro P hP _
    rw [if_neg hP]
    exact (UInt64.add_zero _).symm
  rw [next] at hafter
  cases hop : c.op with
  | allow =>
      have hsame : (breaker.perform latest c).trips = breaker.trips := by
        rw [CircuitBreaker.perform, hop]
        exact allow_trips
      rw [hsame]
      apply hnone
      rintro ⟨hclosed, hopen⟩
      -- a closed target stays closed
      rw [CircuitBreaker.Open, Option.not_isSome_iff_eq_none] at hclosed
      rw [hafter, hop] at hopen
      dsimp only at hopen
      rw [hclosed] at hopen
      dsimp only at hopen
      rw [hclosed] at hopen
      cases hopen
  | record success =>
      rw [hop] at hafter
      have hrecord : breaker.perform latest c = breaker.record latest c.target success c.now := by
        rw [CircuitBreaker.perform, hop]
      cases success with
      | true =>
          have hsame : (breaker.perform latest c).trips = breaker.trips := by
            rw [hrecord]
            rfl
          rw [hsame]
          apply hnone
          rintro ⟨-, hopen⟩
          cases hafter.mp hopen
      | false =>
          have hstate : (breaker.targets.lookup c.target).getD TargetState.closed
              = breaker.state c.target := rfl
          rw [CircuitBreaker.record] at hrecord
          dsimp only at hafter hrecord
          rw [if_neg Bool.false_ne_true, hstate] at hrecord
          by_cases hreach : breaker.config.threshold
              ≤ saturating_succ (breaker.state c.target).failures
          · rw [if_pos hreach] at hafter hrecord
            rw [checked_add_eq hroom] at hafter
            have hopen : (breaker.perform latest c).Open c.target := hafter.mpr rfl
            have htrips : (breaker.perform latest c).trips
                = if (breaker.state c.target).open_until = none then breaker.trips + 1
                  else breaker.trips := by
              rw [hrecord]
            rw [htrips]
            by_cases hclosed : (breaker.state c.target).open_until = none
            · have hshut : ¬ breaker.Open c.target := by
                rw [CircuitBreaker.Open, hclosed]
                exact Bool.false_ne_true
              rw [if_pos hclosed, if_pos ⟨hshut, hopen⟩]
              rfl
            · rw [if_neg hclosed]
              apply hnone
              rintro ⟨hshut, -⟩
              rw [CircuitBreaker.Open, Option.not_isSome_iff_eq_none] at hshut
              exact hclosed hshut
          · rw [if_neg hreach] at hafter hrecord
            have hsame : (breaker.perform latest c).trips = breaker.trips := by
              rw [hrecord]
            rw [hsame]
            apply hnone
            rintro ⟨hshut, hopen⟩
            exact hshut (hafter.mp hopen)

/-- The trip counter counts the changes from closed to open, modulo `2 ^ 64`. By induction along
the calls, one transition or none at each. -/
theorem after_trips (hroom : ∀ c ∈ calls, c.now + breaker.config.cooldown ≤ latest) :
    (breaker.after latest calls).trips
      = breaker.trips + UInt64.ofNat (transitions latest breaker calls) := by
  induction calls generalizing breaker with
  | nil => exact (UInt64.add_zero _).symm
  | cons c calls ih =>
      have hrest : ∀ d ∈ calls, d.now + (breaker.perform latest c).config.cooldown ≤ latest := by
        intro d hd
        rw [perform_config]
        exact hroom d (List.mem_cons_of_mem _ hd)
      have hstep := ih hrest
      rw [perform_trips (hroom c List.mem_cons_self)] at hstep
      rw [transitions, UInt64.ofNat_add, ← UInt64.add_assoc]
      exact hstep

end Calls

/-- What the breaker owes after a history of calls on any targets. -/
structure BreakerAccounts (latest : ℕ) (config : BreakerConfig) (breaker : CircuitBreaker)
    (calls : List Call) : Prop where
  /-- A target is stored once an outcome of it was. -/
  known : ∀ target, ((breaker.after latest calls).targets.lookup target).isSome = true
    ↔ ∃ c ∈ calls, c.target = target ∧ c.op ≠ .allow
  failures : ∀ target, ((breaker.after latest calls).state target).failures.toNat
    = min (consecutive_failures target calls) (2 ^ 32 - 1)
  opened : ∀ target, (breaker.after latest calls).Open target
    ↔ config.threshold.toNat ≤ consecutive_failures target calls
  refused : ∀ target now, ((breaker.after latest calls).allow latest target now).1 = false
    ↔ ∃ until_, ((breaker.after latest calls).state target).open_until = some until_ ∧ now < until_
  /-- Whatever lies between two calls that were allowed while open, a cool-down does. -/
  window : ∀ before c₁ between c₂ rest, calls = before ++ c₁ :: between ++ c₂ :: rest →
    c₁.target = c₂.target → (breaker.after latest before).Probes latest c₁ →
    (breaker.after latest (before ++ c₁ :: between)).Probes latest c₂ →
    c₁.now + config.cooldown ≤ c₂.now
  trips : (breaker.after latest calls).trips = UInt64.ofNat (transitions latest breaker calls)
  /-- A call leaves every other target's state alone, -/
  others : ∀ (c : Call) target, c.target ≠ target →
    ((breaker.after latest calls).perform latest c).state target
      = (breaker.after latest calls).state target
  /-- so that a target is answered by its own calls. -/
  own : ∀ target (calls' : List Call),
    calls'.filter (fun c => c.target = target) = calls.filter (fun c => c.target = target) →
    ∀ now, ((breaker.after latest calls').allow latest target now).1
      = ((breaker.after latest calls).allow latest target now).1

/-- **The breaker.** At non-decreasing instants, and as long as a cool-down can be added to
them, the breaker of every target is what the target's own history says. -/
theorem breaker_accounts (latest : ℕ) (config : BreakerConfig) (breaker : CircuitBreaker)
    (hnew : CircuitBreaker.new config = some breaker) (calls : List Call)
    (hsorted : calls.Pairwise fun c d => c.now ≤ d.now)
    (hroom : ∀ c ∈ calls, c.now + config.cooldown ≤ latest) :
    BreakerAccounts latest config breaker calls := by
  obtain ⟨-, hfresh⟩ := new_eq hnew
  have hconfig : breaker.config = config := by
    rw [hfresh]
  have hempty : breaker.targets = ∅ := by
    rw [hfresh]
  have htrips : breaker.trips = 0 := by
    rw [hfresh]
  constructor
  · intro target
    exact after_known hempty target
  · intro target
    exact (after_recorded hnew hroom target).failures
  · intro target
    exact (after_recorded hnew hroom target).opened
  · intro target now
    exact allow_eq_false
  · intro before c₁ between c₂ rest hcalls htarget h₁ h₂
    rw [← hconfig]
    refine probes_apart ?_ htarget h₁ h₂
    have hsub : (c₁ :: between ++ [c₂]).Sublist calls := by
      have hsplit : calls = before ++ (c₁ :: between ++ [c₂]) ++ rest := by
        rw [hcalls]
        simp
      rw [hsplit, List.append_assoc]
      exact (List.sublist_append_left _ _).trans (List.sublist_append_right _ _)
    exact hsorted.sublist hsub
  -- the counter starts at zero
  · rw [← hconfig] at hroom
    rw [after_trips hroom, htrips]
    exact UInt64.zero_add _
  · intro c target ht
    rw [perform_state, if_neg ht]
  · intro target calls' hown now
    have hstate : (breaker.after latest calls').state target
        = (breaker.after latest calls).state target := by
      rw [after_state, after_state, hown]
    rw [Bool.eq_iff_iff, ← not_iff_not, Bool.not_eq_true, Bool.not_eq_true, allow_eq_false,
      allow_eq_false, hstate]

/-- Two failures of `a` open it, `b` is not touched; one call of `a` gets through in each
of the two windows after the first, and the success closes it. -/
def opened_and_probed : List Call :=
  [⟨"a", 0, .record false⟩, ⟨"b", 0, .allow⟩, ⟨"a", 1, .record false⟩, ⟨"a", 2, .allow⟩,
    ⟨"a", 4, .allow⟩, ⟨"a", 5, .allow⟩, ⟨"a", 7, .allow⟩, ⟨"a", 8, .record true⟩]

/-- A target that opens, and is probed once. -/
theorem breaker_accounts_opened_and_probed :
    ∃ breaker, CircuitBreaker.new ⟨2, 3⟩ = some breaker
      ∧ transitions 100 breaker opened_and_probed = 1
      ∧ BreakerAccounts 100 ⟨2, 3⟩ breaker opened_and_probed := by
  refine ⟨⟨⟨2, 3⟩, ∅, 0⟩, rfl, by decide, ?_⟩
  exact breaker_accounts 100 ⟨2, 3⟩ _ rfl opened_and_probed (by decide) (by decide)

/-! ## 4. Callers of one target

`connect_through_breaker` is two calls of the breaker with a connect between them that takes
as long as it takes. The probe is nothing but a window of one cool-down that `allow` starts:
nothing remembers that a connect is under way. -/

/-- Any number of callers of one target. `opened` and `armed` are bookkeeping: the connects
started when the breaker last went from closed to open, and the instant of the last probe
or failed outcome. -/
structure Callers where
  breaker : CircuitBreaker
  now : ℕ
  /-- The connects in the order they started; `true` while outstanding. -/
  connects : List Bool
  opened : ℕ
  armed : ℕ

/-- A fresh breaker at an instant. -/
def Callers.new (breaker : CircuitBreaker) (now : ℕ) : Callers where
  breaker := breaker
  now := now
  connects := []
  opened := 0
  armed := now

inductive CallerEvent
  | tick (duration : ℕ)
  /-- `connect_through_breaker` is called. -/
  | call
  /-- The connect is over and its outcome recorded. -/
  | finish (connect : ℕ) (is_ok : Bool)
  deriving DecidableEq, Repr

/-- `connect_through_breaker` up to the connect; where `allow` says no it is over. -/
def Callers.call (latest : ℕ) (target : String) (s : Callers) : Callers :=
  if (s.breaker.allow latest target s.now).1 = false then
    { s with breaker := (s.breaker.allow latest target s.now).2 }
  else
    { s with
      breaker := (s.breaker.allow latest target s.now).2
      connects := s.connects ++ [true]
      armed := if s.breaker.Open target then s.now else s.armed }

/-- `connect_through_breaker` from there on. -/
def Callers.finish (latest : ℕ) (target : String) (s : Callers) (connect : ℕ) (is_ok : Bool) :
    Callers :=
  let breaker := s.breaker.record latest target is_ok s.now
  { s with
    breaker := breaker
    connects := s.connects.set connect false
    opened := if ¬ s.breaker.Open target ∧ breaker.Open target then s.connects.length else s.opened
    armed := if is_ok then s.armed else s.now }

def callers_step (latest : ℕ) (target : String) (s : Callers) : CallerEvent → Option Callers
  | .tick duration => some { s with now := s.now + duration }
  | .call => some (s.call latest target)
  | .finish connect is_ok =>
    if s.connects[connect]? = some true then some (s.finish latest target connect is_ok) else none

/-- The outstanding connects that started after the breaker opened. -/
def Callers.probes (s : Callers) : ℕ := (s.connects.drop s.opened).count true

/-- What single probing owes along a run. -/
structure ProbesAlone (latest : ℕ) (target : String) (s₀ : Callers) (events : List CallerEvent) :
    Prop where
  single : ∀ before rest s, events = before ++ rest →
    run (callers_step latest target) s₀ before = some s → s.breaker.Open target → s.probes ≤ 1
  /-- While the probe is out, the others fail fast. -/
  refused : ∀ before rest s, events = before ++ .call :: rest →
    run (callers_step latest target) s₀ before = some s → s.breaker.Open target → 0 < s.probes →
    (s.breaker.allow latest target s.now).1 = false

/-- This is not a call while a probe is out and a cool-down has passed since the last one
began or a connect failed. -/
def InWindow (target : String) (s : Callers) (e : CallerEvent) : Prop :=
  e = .call → s.breaker.Open target → 0 < s.probes → s.now < s.armed + s.breaker.config.cooldown

instance (target : String) (s : Callers) (e : CallerEvent) : Decidable (InWindow target s e) :=
  inferInstanceAs (Decidable (_ → _ → _ → _))

/-- What holds of the bookkeeping in every state. -/
structure Callers.Inv (target : String) (s : Callers) : Prop where
  window : ∀ until_, (s.breaker.state target).open_until = some until_ →
    until_ = s.armed + s.breaker.config.cooldown
      ∧ s.breaker.config.threshold ≤ (s.breaker.state target).failures
  opened : s.opened ≤ s.connects.length

section Callers

variable {latest : ℕ} {target : String} {s t : Callers}

/-- The counter does not go down. -/
theorem saturating_succ_ge (n : UInt32) : n ≤ saturating_succ n := by
  have hsucc := saturating_succ_toNat n
  have hlt := n.toNat_lt
  rw [UInt32.le_iff_toNat_le]
  omega

/-- Where the clock has room for it, the cooldown is added. -/
theorem checked_add_some {now duration until_ : ℕ}
    (h : checked_add latest now duration = some until_) : until_ = now + duration := by
  rw [checked_add] at h
  by_cases hroom : now + duration ≤ latest
  · rw [if_pos hroom, Option.some.injEq] at h
    exact h.symm
  · rw [if_neg hroom] at h
    cases h

/-- A caller that is refused leaves no trace. -/
theorem call_refused (h : (s.breaker.allow latest target s.now).1 = false) :
    s.call latest target = s := by
  have hsame : (s.breaker.allow latest target s.now).2 = s.breaker := by
    rw [CircuitBreaker.allow] at h ⊢
    split at h
    · rfl
    · split at h
      · split at h
        · rename_i hnow
          dsimp only
          rw [if_pos hnow]
        · cases h
      · cases h
  rw [Callers.call, if_pos h, hsame]

/-- What a caller that is let through changes. On a closed target it only goes and connects; on an
open one it is the probe, and arms the window again before it connects. -/
theorem call_allowed (h : (s.breaker.allow latest target s.now).1 = true) :
    (s.call latest target).connects = s.connects ++ [true]
      ∧ (s.call latest target).opened = s.opened
      ∧ (s.call latest target).breaker.config = s.breaker.config
      ∧ ((s.call latest target).breaker.state target).failures = (s.breaker.state target).failures
      ∧ ((s.breaker.state target).open_until = none
          ∧ ((s.call latest target).breaker.state target).open_until = none
        ∨ s.breaker.Open target ∧ (s.call latest target).armed = s.now
          ∧ ((s.call latest target).breaker.state target).open_until
            = checked_add latest s.now s.breaker.config.cooldown) := by
  have hcall : s.call latest target = { s with
      breaker := (s.breaker.allow latest target s.now).2
      connects := s.connects ++ [true]
      armed := if s.breaker.Open target then s.now else s.armed } := by
    rw [Callers.call, if_neg (by rw [h]; simp)]
  have hperform : (s.breaker.allow latest target s.now).2
      = s.breaker.perform latest ⟨target, s.now, .allow⟩ := rfl
  have hstate : (s.call latest target).breaker.state target
      = next latest s.breaker.config (s.breaker.state target) ⟨target, s.now, .allow⟩ := by
    rw [hcall]
    dsimp only
    rw [hperform, perform_state, if_pos rfl]
  have hconfig : (s.call latest target).breaker.config = s.breaker.config := by
    rw [hcall]
    dsimp only
    rw [hperform, perform_config]
  rw [next] at hstate
  dsimp only at hstate
  refine ⟨by rw [hcall], by rw [hcall], hconfig, ?_, ?_⟩
  · rw [hstate]
    split
    · rfl
    · split <;> rfl
  · cases hopen : (s.breaker.state target).open_until with
    | none =>
        rw [hopen] at hstate
        dsimp only at hstate
        refine Or.inl ⟨rfl, ?_⟩
        rw [hstate]
        exact hopen
    | some until_ =>
        -- let through although open: the probe
        have hover : ¬ s.now < until_ := Nat.not_lt.mpr (window_over hopen h)
        have hOpen : s.breaker.Open target := by
          rw [CircuitBreaker.Open, hopen]
          rfl
        rw [hopen] at hstate
        dsimp only at hstate
        rw [if_neg hover] at hstate
        refine Or.inr ⟨hOpen, ?_, ?_⟩
        · rw [hcall]
          exact if_pos hOpen
        · rw [hstate]

/-- A connect that comes back is a record on its target. -/
theorem finish_state (connect : ℕ) (is_ok : Bool) :
    (s.finish latest target connect is_ok).breaker.state target
      = next latest s.breaker.config (s.breaker.state target) ⟨target, s.now, .record is_ok⟩ := by
  have hperform : (s.finish latest target connect is_ok).breaker
      = s.breaker.perform latest ⟨target, s.now, .record is_ok⟩ := rfl
  rw [hperform, perform_state, if_pos rfl]

/-- It does not change the configuration. -/
theorem finish_config (connect : ℕ) (is_ok : Bool) :
    (s.finish latest target connect is_ok).breaker.config = s.breaker.config := by
  have hperform : (s.finish latest target connect is_ok).breaker
      = s.breaker.perform latest ⟨target, s.now, .record is_ok⟩ := rfl
  rw [hperform, perform_config]

/-- A call that is let through is one more connect that is out, and a probe if the target was
open. -/
theorem inv_call (h : s.Inv target) : (s.call latest target).Inv target := by
  by_cases hallow : (s.breaker.allow latest target s.now).1 = false
  · rw [call_refused hallow]
    exact h
  · rw [Bool.not_eq_false] at hallow
    obtain ⟨hconnects, hopened, hconfig, hfailures, hwindow⟩ := call_allowed hallow
    constructor
    · intro until_ huntil
      rw [hconfig, hfailures]
      rcases hwindow with ⟨-, hclosed⟩ | ⟨hopen, harmed, hset⟩
      · rw [hclosed] at huntil
        cases huntil
      · rw [hset] at huntil
        obtain ⟨old, hold⟩ := Option.isSome_iff_exists.mp hopen
        rw [harmed]
        exact ⟨checked_add_some huntil, (h.window old hold).2⟩
    · rw [hconnects, hopened, List.length_append]
      have := h.opened
      omega

/-- A connect that comes back is no longer out. Its record opens the target or closes it, and the
probes that are out are still among the connects. -/
theorem inv_finish (h : s.Inv target) (connect : ℕ) (is_ok : Bool) :
    (s.finish latest target connect is_ok).Inv target := by
  constructor
  · intro until_ huntil
    rw [finish_state] at huntil ⊢
    rw [finish_config]
    rw [next] at huntil ⊢
    dsimp only at huntil ⊢
    cases is_ok with
    | true => cases huntil
    | false =>
        dsimp only at huntil ⊢
        by_cases hreach : s.breaker.config.threshold
            ≤ saturating_succ (s.breaker.state target).failures
        · rw [if_pos hreach] at huntil ⊢
          exact ⟨checked_add_some huntil, hreach⟩
        -- an open target has reached the threshold before
        · rw [if_neg hreach] at huntil
          have hbefore := (h.window until_ huntil).2
          exact absurd (UInt32.le_trans hbefore (saturating_succ_ge _)) hreach
  · have hlen : (s.finish latest target connect is_ok).connects.length = s.connects.length :=
      List.length_set
    have hopened : (s.finish latest target connect is_ok).opened = s.connects.length
        ∨ (s.finish latest target connect is_ok).opened = s.opened := by
      rw [Callers.finish]
      dsimp only
      split
      · exact Or.inl rfl
      · exact Or.inr rfl
    have := h.opened
    omega

/-- Each event of the callers keeps the invariant: a call, the end of a connect, and time that
passes. -/
theorem inv_step (s : Callers) (e : CallerEvent) (t : Callers) (h : s.Inv target)
    (hstep : callers_step latest target s e = some t) : t.Inv target := by
  cases e with
  | tick duration =>
      rw [callers_step, Option.some.injEq] at hstep
      rw [← hstep]
      exact ⟨h.window, h.opened⟩
  | call =>
      rw [callers_step, Option.some.injEq] at hstep
      rw [← hstep]
      exact inv_call h
  | finish connect is_ok =>
      rw [callers_step] at hstep
      split at hstep
      · rw [Option.some.injEq] at hstep
        rw [← hstep]
        exact inv_finish h connect is_ok
      · cases hstep

/-- While there is no probe the next caller may be one; while there is one, nobody. The window
that the probe armed has not passed, so the next caller finds it ahead and is refused. -/
theorem single_call (hinv : s.Inv target) (h : s.breaker.Open target → s.probes ≤ 1)
    (hwindow : s.breaker.Open target → 0 < s.probes →
      s.now < s.armed + s.breaker.config.cooldown)
    (hopen : (s.call latest target).breaker.Open target) : (s.call latest target).probes ≤ 1 := by
  by_cases hallow : (s.breaker.allow latest target s.now).1 = false
  · rw [call_refused hallow] at hopen ⊢
    exact h hopen
  · rw [Bool.not_eq_false] at hallow
    obtain ⟨hconnects, hopened, -, -, hcases⟩ := call_allowed hallow
    rcases hcases with ⟨-, hclosed⟩ | ⟨hbefore, -, -⟩
    · rw [CircuitBreaker.Open, hclosed] at hopen
      cases hopen
    -- a probe that is out keeps its window shut for this caller
    · have hzero : s.probes = 0 := by
        by_contra hprobe
        obtain ⟨until_, huntil⟩ := Option.isSome_iff_exists.mp hbefore
        have hin := hwindow hbefore (Nat.pos_of_ne_zero hprobe)
        have hover := window_over huntil hallow
        rw [(hinv.window until_ huntil).1] at hover
        omega
      have hcount : (s.call latest target).probes = s.probes + 1 := by
        rw [Callers.probes, hconnects, hopened, List.drop_append_of_le_length hinv.opened,
          List.count_append]
        rfl
      omega

/-- While the target stays open no probe is added by a connect that comes back, so there is still
at most one. -/
theorem single_finish (h : s.breaker.Open target → s.probes ≤ 1) {connect : ℕ} {is_ok : Bool}
    (hout : s.connects[connect]? = some true)
    (hopen : (s.finish latest target connect is_ok).breaker.Open target) :
    (s.finish latest target connect is_ok).probes ≤ 1 := by
  by_cases hbefore : s.breaker.Open target
  · have hopened : (s.finish latest target connect is_ok).opened = s.opened := by
      rw [Callers.finish]
      exact if_neg fun hcloses => hcloses.1 hbefore
    have hfewer : ((s.connects.set connect false).drop s.opened).countP (· == true)
        ≤ (s.connects.drop s.opened).countP (· == true) :=
      Count.countP_drop_set_le _ hout (fun _ => rfl) _
    rw [Callers.probes, hopened]
    exact Nat.le_trans hfewer (h hbefore)
  -- the breaker opens here: nothing has started since
  · have hopened : (s.finish latest target connect is_ok).opened = s.connects.length := by
      rw [Callers.finish]
      exact if_pos ⟨hbefore, hopen⟩
    have hnone : (s.finish latest target connect is_ok).probes = 0 := by
      rw [Callers.probes, hopened, List.count_eq_zero, List.drop_eq_nil_of_le]
      · exact List.not_mem_nil
      · exact Nat.le_of_eq List.length_set
    omega

/-- No connect is out, so none of them is a probe. The clause about armed windows is about open
targets, and the target is closed. -/
theorem inv_new (breaker : CircuitBreaker) (now : ℕ)
    (hclosed : (breaker.state target).open_until = none) :
    (Callers.new breaker now).Inv target := by
  constructor
  · intro until_ huntil
    rw [Callers.new, hclosed] at huntil
    cases huntil
  · exact Nat.le_refl _

end Callers

/-- **Single half-open probe.** Callers of one target probe one at a time, in every
interleaving, exactly in the runs where nobody calls while a probe is out whose window is
over. -/
theorem single_probe (latest : ℕ) (config : BreakerConfig) (breaker : CircuitBreaker)
    (hnew : CircuitBreaker.new config = some breaker) (target : String) (now : ℕ)
    (events : List CallerEvent) :
    ProbesAlone latest target (Callers.new breaker now) events
      ↔ Guarded (callers_step latest target) (InWindow target) (Callers.new breaker now) events := by
  obtain ⟨-, hfresh⟩ := new_eq hnew
  have hclosed : (breaker.state target).open_until = none := by
    rw [hfresh]
    rfl
  have hinv : ∀ before s, run (callers_step latest target) (Callers.new breaker now) before
      = some s → s.Inv target :=
    fun before s hrun => run_inv inv_step (inv_new breaker now hclosed) hrun
  rw [guarded_iff]
  constructor
  -- who is refused while a probe is out is refused by a window that is not over
  · intro h before e rest s hevents hrun hcall hopen hprobe
    rw [hcall] at hevents
    have hrefused := h.refused before rest s hevents hrun hopen hprobe
    obtain ⟨until_, huntil, hlt⟩ := allow_eq_false.mp hrefused
    rw [← ((hinv before s hrun).window until_ huntil).1]
    exact hlt
  · intro h
    constructor
    -- along the run, oldest event first
    · intro before
      induction before using List.reverseRecOn with
      | nil =>
          intro rest s _ hrun hopen
          rw [run_nil, Option.some.injEq] at hrun
          rw [← hrun, Callers.new, CircuitBreaker.Open, hclosed] at hopen
          cases hopen
      | append_singleton before e ih =>
          intro rest t hevents hrun hopen
          obtain ⟨s, hs, hstep⟩ := run_snoc.mp hrun
          rw [List.append_assoc, List.singleton_append] at hevents
          have hsingle := ih (e :: rest) s hevents hs
          cases e with
          | tick duration =>
              rw [callers_step, Option.some.injEq] at hstep
              rw [← hstep] at hopen ⊢
              exact hsingle hopen
          | call =>
              rw [callers_step, Option.some.injEq] at hstep
              rw [← hstep] at hopen ⊢
              have hwindow := h before .call rest s hevents hs rfl
              exact single_call (hinv before s hs) hsingle hwindow hopen
          | finish connect is_ok =>
              rw [callers_step] at hstep
              by_cases hout : s.connects[connect]? = some true
              · rw [if_pos hout, Option.some.injEq] at hstep
                rw [← hstep] at hopen ⊢
                exact single_finish hsingle hout hopen
              · rw [if_neg hout] at hstep
                cases hstep
    · intro before rest s hevents hrun hopen hprobe
      obtain ⟨until_, huntil⟩ := Option.isSome_iff_exists.mp hopen
      refine allow_eq_false.mpr ⟨until_, huntil, ?_⟩
      rw [((hinv before s hrun).window until_ huntil).1]
      exact h before .call rest s hevents hrun rfl hopen hprobe

/-- One failure opens the breaker. The probe takes one unit of a cool-down of two; a second
caller fails fast. -/
theorem single_probe_in_time :
    ∃ breaker, CircuitBreaker.new ⟨1, 2⟩ = some breaker
      ∧ ProbesAlone 100 "db:1" (Callers.new breaker 0)
        [.call, .finish 0 false, .tick 2, .call, .tick 1, .call, .finish 1 true, .call] :=
  ⟨⟨⟨1, 2⟩, ∅, 0⟩, rfl, (single_probe 100 ⟨1, 2⟩ _ rfl "db:1" 0 _).mpr (by decide)⟩

/-- A probe that outlasts the cool-down: the next caller is let through as well, and two
connects are out while the breaker is open. -/
theorem single_probe_outlasted :
    ∃ breaker, CircuitBreaker.new ⟨1, 2⟩ = some breaker
      ∧ ¬ ProbesAlone 100 "db:1" (Callers.new breaker 0)
        [.call, .finish 0 false, .tick 2, .call, .tick 2, .call] := by
  refine ⟨⟨⟨1, 2⟩, ∅, 0⟩, rfl, ?_⟩
  intro h
  have htwo := h.single [.call, .finish 0 false, .tick 2, .call, .tick 2, .call] [] _ rfl rfl
    (by decide)
  exact absurd htwo (by decide)

end Runlet.Breaker
