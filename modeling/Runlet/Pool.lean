/-
The pool of warm runtimes and its teardown (`crates/runlet-core/src/pool.rs`), as the
threads of `LogicHost::run` (`crates/runlet-core/src/host.rs`) use it.

Every load, store, `fetch_add`, `fetch_sub`, `push` and `pop` is a step of its own, and the
threads take their steps in any order. `release` reads the flag in one step and pushes in
another, so a whole `shutdown` fits in between.
-/
import Mathlib.Data.List.Nodup
import Runlet.Lib.Count
import Runlet.Lib.Machine

set_option autoImplicit false

namespace Runlet.Pool

open Machine Count

/-- What a thread does next. A runtime is known by the number it was created under. -/
inductive Phase
  /-- `LogicHost::run`: `is_accepting` -/
  | checking
  /-- the script is looked up -/
  | resolving
  /-- `acquire`: `pop`, or `create_runtime` -/
  | acquiring
  /-- `acquire`: `fetch_add` -/
  | counting (runtime : ℕ)
  /-- the script runs; then `release`: `fetch_sub` -/
  | holding (runtime : ℕ)
  /-- `release`: `accepting.load` -/
  | loading (runtime : ℕ)
  /-- `release`: `push` -/
  | pushing (runtime : ℕ)
  /-- `run` has returned. -/
  | done
  /-- `shutdown`: `accepting.store` -/
  | stopping
  /-- `shutdown`: `pop` -/
  | draining
  /-- `shutdown` has returned. -/
  | returned
  deriving DecidableEq, Repr

/-- `JsPool`. `acquired` and `released` count the acquisitions completed and the releases
begun; `created` numbers the runtimes. -/
structure JsPool where
  inner : List ℕ
  size : ℕ
  accepting : Bool
  in_flight : UInt64
  created : ℕ
  acquired : ℕ
  released : ℕ
  threads : List Phase

/-- `JsPool::new`: every slot warm. -/
def JsPool.new (size : ℕ) : JsPool where
  inner := List.range size
  size := size
  accepting := true
  in_flight := 0
  created := size
  acquired := 0
  released := 0
  threads := []

/-- `ArrayQueue::push`: the queue as it was when it is full. -/
def push (size : ℕ) (inner : List ℕ) (runtime : ℕ) : List ℕ :=
  if inner.length < size then inner ++ [runtime] else inner

/-- The next step of a thread. `ok` is what the pool does not decide: that there is such a
script, that a runtime can be created, that the script's run does not unwind. -/
def JsPool.advance (s : JsPool) (thread : ℕ) (ok : Bool) : Phase → Option JsPool
  | .checking =>
    some { s with threads := s.threads.set thread (if s.accepting then .resolving else .done) }
  | .resolving => some { s with threads := s.threads.set thread (if ok then .acquiring else .done) }
  | .acquiring =>
    match s.inner with
    | runtime :: inner =>
      some { s with inner := inner, threads := s.threads.set thread (.counting runtime) }
    | [] =>
      if ok then
        some { s with
          created := s.created + 1
          threads := s.threads.set thread (.counting s.created) }
      else some { s with threads := s.threads.set thread .done }
  | .counting runtime =>
    some { s with
      in_flight := s.in_flight + 1
      acquired := s.acquired + 1
      threads := s.threads.set thread (.holding runtime) }
  | .holding runtime =>
    if ok then
      some { s with
        in_flight := s.in_flight - 1
        released := s.released + 1
        threads := s.threads.set thread (.loading runtime) }
    else
      -- the runtime is dropped on the way out, and `release` is not reached
      some { s with threads := s.threads.set thread .done }
  | .loading runtime =>
    some { s with
      threads := s.threads.set thread (if s.accepting then .pushing runtime else .done) }
  | .pushing runtime =>
    some { s with inner := push s.size s.inner runtime, threads := s.threads.set thread .done }
  | .stopping => some { s with accepting := false, threads := s.threads.set thread .draining }
  | .draining =>
    match s.inner with
    | _ :: inner => some { s with inner := inner, threads := s.threads.set thread .draining }
    | [] => some { s with threads := s.threads.set thread .returned }
  | .done => none
  | .returned => none

inductive Event
  /-- A thread enters `LogicHost::run`. -/
  | run
  /-- A thread enters `shutdown`. -/
  | shutdown
  /-- A thread takes its next step. -/
  | step (thread : ℕ) (ok : Bool)
  deriving DecidableEq, Repr

def pool_step (s : JsPool) : Event → Option JsPool
  | .run => some { s with threads := s.threads ++ [.checking] }
  | .shutdown => some { s with threads := s.threads ++ [.stopping] }
  | .step thread ok =>
    match s.threads[thread]? with
    | none => none
    | some phase => s.advance thread ok phase

/-! ## What the pool owes -/

/-- The thread has this runtime. -/
def Phase.has (runtime : ℕ) : Phase → Bool
  | .counting r => r == runtime
  | .holding r => r == runtime
  | .loading r => r == runtime
  | .pushing r => r == runtime
  | _ => false

/-- The acquisition is complete and its release not begun. -/
def Phase.is_holding : Phase → Bool
  | .holding _ => true
  | _ => false

/-- How many threads have a runtime. -/
def JsPool.holders (s : JsPool) (runtime : ℕ) : ℕ := s.threads.countP (Phase.has runtime)

/-- The part that no interleaving breaks. -/
structure Lifecycle (s : JsPool) : Prop where
  idle : s.inner.length ≤ s.size
  /-- A runtime is idle or has one holder, or is gone. -/
  exclusive : ∀ runtime, s.inner.count runtime + s.holders runtime ≤ 1
  in_flight : s.released ≤ s.acquired ∧ s.in_flight = UInt64.ofNat (s.acquired - s.released)
  /-- A thread about to `fetch_sub` finds the gauge above zero. -/
  no_underflow : ∀ (thread runtime : ℕ), s.threads[thread]? = some (Phase.holding runtime) →
    s.released < s.acquired

/-- After a `shutdown`, and once no thread has a runtime, none is idle. -/
def Drained (s : JsPool) : Prop :=
  .returned ∈ s.threads → (∀ runtime, s.holders runtime = 0) → s.inner = []

/-- `release` has found the pool accepting and pushes next. -/
def Phase.is_pushing : Phase → Bool
  | .pushing _ => true
  | _ => false

/-- This is not a `push` after a `shutdown` has returned. -/
def NoLatePush (s : JsPool) : Event → Prop
  | .step thread _ => (s.threads[thread]?).any Phase.is_pushing = true → .returned ∉ s.threads
  | _ => True

instance (s : JsPool) : ∀ e, Decidable (NoLatePush s e)
  | .run => isTrue trivial
  | .shutdown => isTrue trivial
  | .step _ _ => inferInstanceAs (Decidable (_ → _))

/-! ## The gauge and the holders -/

structure Inv (s : JsPool) : Prop where
  idle : s.inner.length ≤ s.size
  exclusive : ∀ runtime, s.inner.count runtime + s.holders runtime ≤ 1
  fresh : ∀ runtime, s.created ≤ runtime → s.inner.count runtime + s.holders runtime = 0
  gauge : s.in_flight = UInt64.ofNat (s.acquired - s.released)
  counted : s.released + s.threads.countP Phase.is_holding ≤ s.acquired

/-- A fresh pool has `size` runtimes, each once, and no thread. The numbers below `size` are in
the queue and nowhere else. -/
theorem inv_new (size : ℕ) : Inv (JsPool.new size) := by
  have hcount : ∀ runtime, (List.range size).count runtime ≤ 1 :=
    fun runtime => List.nodup_iff_count.mp List.nodup_range runtime
  constructor
  · exact Nat.le_of_eq List.length_range
  · exact hcount
  · intro runtime hge
    have hnot : runtime ∉ List.range size := by
      rw [List.mem_range]
      exact Nat.not_lt.mpr hge
    have hzero : (List.range size).count runtime = 0 := List.count_eq_zero.mpr hnot
    exact hzero
  · rfl
  · exact Nat.le_refl _

section Steps

variable {s t : JsPool} {thread : ℕ} {p q : Phase}

/-- A thread goes from `p` to `q` and passes on no more runtimes than it had or found in the
queue. -/
theorem inv_move (h : Inv s) (hp : s.threads[thread]? = some p)
    (hthreads : t.threads = s.threads.set thread q) (hsize : t.size = s.size)
    (hidle : t.inner.length ≤ s.size)
    (hown : ∀ runtime, t.inner.count runtime + unit (q.has runtime)
      ≤ s.inner.count runtime + unit (p.has runtime))
    (hcreated : t.created = s.created) (hgauge : t.in_flight = UInt64.ofNat (t.acquired - t.released))
    (hcounted : t.released + s.acquired + unit q.is_holding
      ≤ s.released + t.acquired + unit p.is_holding) : Inv t := by
  -- the other threads have what they had
  have hholders : ∀ runtime, t.holders runtime + unit (p.has runtime)
      = s.holders runtime + unit (q.has runtime) := by
    intro runtime
    rw [JsPool.holders, hthreads]
    exact countP_set (Phase.has runtime) hp
  constructor
  · rw [hsize]
    exact hidle
  · intro runtime
    have hbefore := h.exclusive runtime
    have hmove := hown runtime
    have hset := hholders runtime
    omega
  · intro runtime hge
    rw [hcreated] at hge
    have hbefore := h.fresh runtime hge
    have hmove := hown runtime
    have hset := hholders runtime
    omega
  · exact hgauge
  · have hbefore := h.counted
    have hset := countP_set Phase.is_holding (b := q) hp
    rw [hthreads]
    omega

/-- A runtime is created under a number that none has. The number is the counter's, and the
invariant says that all numbers in use lie below it; the thread that created it is the only one to
have it. -/
theorem inv_create (h : Inv s) (hp : s.threads[thread]? = some .acquiring) :
    Inv { s with
      created := s.created + 1
      threads := s.threads.set thread (.counting s.created) } := by
  have hholders : ∀ runtime,
      (s.threads.set thread (.counting s.created)).countP (Phase.has runtime)
        = s.holders runtime + unit (Phase.has runtime (.counting s.created)) :=
    fun runtime => countP_set (Phase.has runtime) hp
  have hnew : ∀ runtime, unit (Phase.has runtime (.counting s.created)) ≤ 1
      ∧ (runtime ≠ s.created → unit (Phase.has runtime (.counting s.created)) = 0) := by
    intro runtime
    rw [Phase.has]
    by_cases hr : s.created = runtime
    · rw [hr]
      simp
    · rw [beq_eq_false_iff_ne.mpr hr]
      simp
  constructor
  · exact h.idle
  · intro runtime
    have hone := hnew runtime
    rw [JsPool.holders]
    dsimp only
    rw [hholders]
    by_cases hr : runtime = s.created
    -- nobody had this number, so the creator is its only holder
    · have hzero := h.fresh runtime (Nat.le_of_eq hr.symm)
      omega
    · have hbefore := h.exclusive runtime
      have hnone := hone.2 hr
      omega
  · intro runtime hge
    dsimp only at hge
    have hzero := h.fresh runtime (by omega)
    have hnone := (hnew runtime).2 (by omega)
    rw [JsPool.holders]
    dsimp only
    rw [hholders]
    omega
  · exact h.gauge
  · have hset := countP_set Phase.is_holding (b := .counting s.created) hp
    have hbefore := h.counted
    have hfalse : unit (Phase.is_holding (.counting s.created)) = 0 := rfl
    dsimp only
    omega

/-- A runtime is pushed only into a pool with a free place. -/
theorem push_length {size : ℕ} {inner : List ℕ} (h : inner.length ≤ size) (runtime : ℕ) :
    (push size inner runtime).length ≤ size := by
  rw [push]
  by_cases hroom : inner.length < size
  · rw [if_pos hroom, List.length_append]
    exact hroom
  · rw [if_neg hroom]
    exact h

/-- A push adds its runtime at most, and no other. -/
theorem push_count (size : ℕ) (inner : List ℕ) (runtime r : ℕ) :
    (push size inner runtime).count r ≤ inner.count r + unit (runtime == r) := by
  rw [push, unit]
  by_cases hroom : inner.length < size
  · exact Nat.le_of_eq (by rw [if_pos hroom, List.count_append, List.count_singleton])
  · rw [if_neg hroom]
    exact Nat.le_add_right _ _

/-- A move that takes nothing from the queue and puts nothing into it. The thread goes on to a
phase that has no runtime it did not have, and counts for no more. -/
theorem inv_move_same (h : Inv s) (hp : s.threads[thread]? = some p)
    (hholding : unit q.is_holding ≤ unit p.is_holding)
    (hhas : ∀ runtime, unit (q.has runtime) ≤ unit (p.has runtime)) :
    Inv { s with threads := s.threads.set thread q } := by
  refine inv_move h hp rfl rfl h.idle ?_ rfl h.gauge ?_
  · intro runtime
    exact Nat.add_le_add_left (hhas runtime) _
  · dsimp only
    omega

/-- **One move of one thread.** Each phase has its own accounts: whether the thread takes a
runtime from the queue, makes one, holds it, or pushes it back. In each case the thread goes on to
a phase that owns no more than it had or found in the queue, which is what `inv_move` asks for; a
runtime that is made is one that nobody had. -/
theorem inv_advance (h : Inv s) {ok : Bool} (hp : s.threads[thread]? = some p)
    (hstep : s.advance thread ok p = some t) : Inv t := by
  cases p with
  | checking =>
      rw [JsPool.advance, Option.some.injEq] at hstep
      rw [← hstep]
      apply inv_move_same h hp
      · split <;> exact Nat.le_refl _
      · intro runtime
        split <;> exact Nat.le_refl _
  | resolving =>
      rw [JsPool.advance, Option.some.injEq] at hstep
      rw [← hstep]
      apply inv_move_same h hp
      · split <;> exact Nat.le_refl _
      · intro runtime
        split <;> exact Nat.le_refl _
  | acquiring =>
      rw [JsPool.advance] at hstep
      split at hstep
      · rename_i runtime inner hinner
        rw [Option.some.injEq] at hstep
        rw [← hstep]
        have hidle := h.idle
        rw [hinner, List.length_cons] at hidle
        refine inv_move h hp rfl rfl (Nat.le_of_succ_le hidle) ?_ rfl h.gauge (Nat.le_refl _)
        -- it leaves the queue with the thread that pops it
        intro r
        rw [hinner, List.count_cons]
        exact Nat.le_refl _
      · split at hstep
        · rw [Option.some.injEq] at hstep
          rw [← hstep]
          exact inv_create h hp
        · rw [Option.some.injEq] at hstep
          rw [← hstep]
          exact inv_move_same h hp (Nat.le_refl _) (fun _ => Nat.le_refl _)
  | counting runtime =>
      rw [JsPool.advance, Option.some.injEq] at hstep
      rw [← hstep]
      have hle : s.released ≤ s.acquired := Nat.le_trans (Nat.le_add_right _ _) h.counted
      refine inv_move h hp rfl rfl h.idle (fun _ => Nat.le_refl _) rfl ?_ ?_
      · dsimp only
        rw [h.gauge, Nat.sub_add_comm hle, UInt64.ofNat_add]
        rfl
      · dsimp only [Phase.is_holding, unit_true, unit_false]
        omega
  | holding runtime =>
      have hset := countP_set Phase.is_holding (b := .done) hp
      have hcounted := h.counted
      have hunit : unit (Phase.is_holding (.holding runtime)) = 1 := rfl
      have hzero : unit (Phase.is_holding .done) = 0 := rfl
      rw [JsPool.advance] at hstep
      split at hstep
      · rw [Option.some.injEq] at hstep
        rw [← hstep]
        refine inv_move h hp rfl rfl h.idle (fun _ => Nat.le_refl _) rfl ?_ ?_
        · dsimp only
          -- the thread itself is one of those counted, so there is something to take off
          have hone : s.acquired - s.released = s.acquired - (s.released + 1) + 1 := by omega
          rw [h.gauge, hone, UInt64.ofNat_add]
          exact UInt64.add_sub_cancel _ _
        · dsimp only [Phase.is_holding, unit_true, unit_false]
          omega
      · rw [Option.some.injEq] at hstep
        rw [← hstep]
        exact inv_move_same h hp (Nat.zero_le _) (fun _ => Nat.zero_le _)
  | loading runtime =>
      rw [JsPool.advance, Option.some.injEq] at hstep
      rw [← hstep]
      apply inv_move_same h hp
      · split <;> exact Nat.le_refl _
      · intro r
        split
        · exact Nat.le_refl _
        · exact Nat.zero_le _
  | pushing runtime =>
      rw [JsPool.advance, Option.some.injEq] at hstep
      rw [← hstep]
      exact inv_move h hp rfl rfl (push_length h.idle runtime)
        (fun r => push_count s.size s.inner runtime r) rfl h.gauge (Nat.le_refl _)
  | stopping =>
      rw [JsPool.advance, Option.some.injEq] at hstep
      rw [← hstep]
      exact inv_move h hp rfl rfl h.idle (fun _ => Nat.le_refl _) rfl h.gauge (Nat.le_refl _)
  | draining =>
      rw [JsPool.advance] at hstep
      split at hstep
      · rename_i runtime inner hinner
        rw [Option.some.injEq] at hstep
        rw [← hstep]
        have hidle := h.idle
        rw [hinner, List.length_cons] at hidle
        refine inv_move h hp rfl rfl (Nat.le_of_succ_le hidle) ?_ rfl h.gauge (Nat.le_refl _)
        intro r
        rw [hinner, List.count_cons]
        exact Nat.le_add_right _ _
      · rw [Option.some.injEq] at hstep
        rw [← hstep]
        exact inv_move_same h hp (Nat.le_refl _) (fun _ => Nat.le_refl _)
  | done => cases hstep
  | returned => cases hstep

/-- A new thread has nothing. No count over the threads changes when one with neither a runtime
nor a share of the counter is added. -/
theorem inv_enter (h : Inv s) (hhas : ∀ runtime, p.has runtime = false)
    (hholding : p.is_holding = false) : Inv { s with threads := s.threads ++ [p] } := by
  have hholders : ∀ runtime, (s.threads ++ [p]).countP (Phase.has runtime) = s.holders runtime := by
    intro runtime
    rw [countP_append_singleton, hhas]
    rfl
  constructor
  · exact h.idle
  · intro runtime
    rw [JsPool.holders]
    dsimp only
    rw [hholders]
    exact h.exclusive runtime
  · intro runtime hge
    rw [JsPool.holders]
    dsimp only
    rw [hholders]
    exact h.fresh runtime hge
  · exact h.gauge
  · dsimp only
    rw [countP_append_singleton, hholding]
    exact h.counted

/-- The events of the pool: a thread that begins with nothing, and a move of one that is there.
The first is `inv_enter`, the second `inv_advance`. -/
theorem inv_step (s : JsPool) (e : Event) (t : JsPool) (h : Inv s)
    (hstep : pool_step s e = some t) : Inv t := by
  cases e with
  | run =>
      rw [pool_step, Option.some.injEq] at hstep
      rw [← hstep]
      exact inv_enter h (fun _ => rfl) rfl
  | shutdown =>
      rw [pool_step, Option.some.injEq] at hstep
      rw [← hstep]
      exact inv_enter h (fun _ => rfl) rfl
  | step thread ok =>
      rw [pool_step] at hstep
      split at hstep
      · cases hstep
      · rename_i phase hp
        exact inv_advance h hp hstep

/-- What the pool owes is a part of the invariant, said of what can be seen: no runtime is in two
places, and the gauge is what is out. -/
theorem Inv.lifecycle (h : Inv s) : Lifecycle s := by
  refine ⟨h.idle, h.exclusive, ⟨?_, h.gauge⟩, ?_⟩
  · exact Nat.le_trans (Nat.le_add_right _ _) h.counted
  · intro thread runtime hp
    have hpos : 0 < s.threads.countP Phase.is_holding :=
      List.countP_pos_iff.mpr ⟨_, List.mem_of_getElem? hp, rfl⟩
    have hcounted := h.counted
    omega

/-! ## The drain -/

/-- A thread that goes on to another phase has not returned. -/
theorem returned_set (hq : q ≠ .returned) (h : .returned ∈ s.threads.set thread q) :
    .returned ∈ s.threads := by
  rcases List.mem_or_eq_of_mem_set h with h | h
  · exact h
  · exact absurd h.symm hq

/-- As long as nobody pushes after it, the queue a `shutdown` left stays empty. Phase by phase:
only a push puts a runtime into the queue, and a `shutdown` returns when it has found the queue
empty. -/
theorem drained_advance {ok : Bool} (h : .returned ∈ s.threads → s.inner = [])
    (hpush : ∀ runtime, p = .pushing runtime → .returned ∉ s.threads)
    (hstep : s.advance thread ok p = some t) : .returned ∈ t.threads → t.inner = [] := by
  intro hret
  -- every phase but two leaves the queue alone or finds it empty
  cases p with
  | checking =>
      rw [JsPool.advance, Option.some.injEq] at hstep
      rw [← hstep] at hret ⊢
      exact h (returned_set (by split <;> simp) hret)
  | resolving =>
      rw [JsPool.advance, Option.some.injEq] at hstep
      rw [← hstep] at hret ⊢
      exact h (returned_set (by split <;> simp) hret)
  | acquiring =>
      rw [JsPool.advance] at hstep
      split at hstep
      · rename_i runtime inner hinner
        rw [Option.some.injEq] at hstep
        rw [← hstep] at hret
        have hempty := h (returned_set (by simp) hret)
        rw [hinner] at hempty
        cases hempty
      · split at hstep
        · rw [Option.some.injEq] at hstep
          rw [← hstep] at hret ⊢
          exact h (returned_set (by simp) hret)
        · rw [Option.some.injEq] at hstep
          rw [← hstep] at hret ⊢
          exact h (returned_set (by simp) hret)
  | counting runtime =>
      rw [JsPool.advance, Option.some.injEq] at hstep
      rw [← hstep] at hret ⊢
      exact h (returned_set (by simp) hret)
  | holding runtime =>
      rw [JsPool.advance] at hstep
      split at hstep
      · rw [Option.some.injEq] at hstep
        rw [← hstep] at hret ⊢
        exact h (returned_set (by simp) hret)
      · rw [Option.some.injEq] at hstep
        rw [← hstep] at hret ⊢
        exact h (returned_set (by simp) hret)
  | loading runtime =>
      rw [JsPool.advance, Option.some.injEq] at hstep
      rw [← hstep] at hret ⊢
      exact h (returned_set (by split <;> simp) hret)
  | pushing runtime =>
      rw [JsPool.advance, Option.some.injEq] at hstep
      rw [← hstep] at hret
      exact absurd (returned_set (by simp) hret) (hpush runtime rfl)
  | stopping =>
      rw [JsPool.advance, Option.some.injEq] at hstep
      rw [← hstep] at hret ⊢
      exact h (returned_set (by simp) hret)
  | draining =>
      rw [JsPool.advance] at hstep
      split at hstep
      · rename_i runtime inner hinner
        rw [Option.some.injEq] at hstep
        rw [← hstep] at hret
        have hempty := h (returned_set (by simp) hret)
        rw [hinner] at hempty
        cases hempty
      · rename_i hempty
        rw [Option.some.injEq] at hstep
        rw [← hstep]
        exact hempty
  | done => cases hstep
  | returned => cases hstep

/-- Once the pool was dropped its queue is empty, and stays so as long as no thread pushes late. A
push that comes after the drop leaves a runtime behind in the queue. -/
theorem drained_step (s : JsPool) (e : Event) (t : JsPool)
    (h : .returned ∈ s.threads → s.inner = []) (hguard : NoLatePush s e)
    (hstep : pool_step s e = some t) : .returned ∈ t.threads → t.inner = [] := by
  cases e with
  | run =>
      rw [pool_step, Option.some.injEq] at hstep
      intro hret
      rw [← hstep] at hret ⊢
      simp only [List.mem_append, List.mem_singleton, reduceCtorEq, or_false] at hret
      exact h hret
  | shutdown =>
      rw [pool_step, Option.some.injEq] at hstep
      intro hret
      rw [← hstep] at hret ⊢
      simp only [List.mem_append, List.mem_singleton, reduceCtorEq, or_false] at hret
      exact h hret
  | step thread ok =>
      rw [pool_step] at hstep
      split at hstep
      · cases hstep
      -- the guard of the run is what keeps a late `push` out
      · rename_i phase hp
        refine drained_advance h ?_ hstep
        intro runtime hphase
        apply hguard
        rw [hp, hphase]
        rfl

end Steps

/-- **The pool's lifecycle.** In every interleaving the pool keeps its size, its runtimes
have one holder and the gauge counts them; and in those where no release that found the
pool accepting gets to its `push` only after a `shutdown` has returned, a drained pool is
empty. -/
theorem pool_lifecycle (size : ℕ) (events : List Event) (s : JsPool)
    (hrun : run pool_step (JsPool.new size) events = some s) :
    Lifecycle s ∧ (Guarded pool_step NoLatePush (JsPool.new size) events → Drained s) := by
  have hinv : Inv s := run_inv inv_step (inv_new size) hrun
  refine ⟨hinv.lifecycle, ?_⟩
  intro hguard hret _
  have hstart : Phase.returned ∈ (JsPool.new size).threads → (JsPool.new size).inner = [] := by
    intro hnone
    cases hnone
  exact run_inv_of_guarded drained_step hstart hguard hrun hret

/-- A run and a `shutdown` of a pool of one: the runtime in flight is disposed of by its
release, and the second run is turned away. -/
def orderly : List Event :=
  [.run, .step 0 true, .step 0 true, .step 0 true, .step 0 true, .step 0 true, .shutdown,
    .step 1 true, .step 0 true, .step 1 true, .run, .step 2 true]

/-- A thread that runs and is back before the pool is dropped. -/
theorem pool_lifecycle_orderly :
    ∃ s, run pool_step (JsPool.new 1) orderly = some s
      ∧ s.threads = [.done, .returned, .done] ∧ Lifecycle s ∧ Drained s := by
  have hrun : ∃ s, run pool_step (JsPool.new 1) orderly = some s
      ∧ s.threads = [.done, .returned, .done] := ⟨_, rfl, rfl⟩
  obtain ⟨s, hrun, hthreads⟩ := hrun
  have h := pool_lifecycle 1 orderly s hrun
  exact ⟨s, hrun, hthreads, h.1, h.2 (by decide)⟩

/-- The release reads the flag; the whole `shutdown` runs; the release pushes. -/
theorem shutdown_overtakes_release :
    ∃ s, run pool_step (JsPool.new 1)
        [.run, .step 0 true, .step 0 true, .step 0 true, .step 0 true, .step 0 true, .step 0 true,
          .shutdown, .step 1 true, .step 1 true, .step 0 true] = some s
      ∧ s.threads = [.done, .returned] ∧ s.inner = [0] ∧ ¬ Drained s := by
  refine ⟨_, rfl, rfl, rfl, ?_⟩
  intro h
  have hempty := h (by decide) (fun _ => rfl)
  cases hempty

end Runlet.Pool
