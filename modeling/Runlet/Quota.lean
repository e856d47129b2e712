/-
Per-tenant, plan-gated quota (`crates/runlet/src/quota.rs`): the pure gate
`PlanLimits` and the in-flight accounting `TenantQuota` over it.

The mutex around the in-flight table makes `admit` and the guard's `drop` atomic,
so each is one function from table to table. The counters are `u64`: the add is
saturating, and below a limit it never saturates.

`quota_accounts` is about sequences of admissions and drops: the table counts the
live guards, tenant by tenant, and every answer follows from the tenant's own count.
-/
import Mathlib.Data.List.AList
import Mathlib.Tactic.Ring
import Runlet.Lib.Count
import Runlet.Lib.Machine

set_option autoImplicit false

namespace Runlet.Quota

open Count Machine

/-! ## The gate -/

structure PlanLimit where
  max_concurrent : UInt64
  deriving DecidableEq, Repr

structure QuotaExceeded where
  plan : String
  limit : ℕ
  usage : ℕ
  deriving DecidableEq, Repr

inductive QuotaDecision
  | allowed
  | exceeded (detail : QuotaExceeded)
  deriving DecidableEq, Repr

/-- Plan name → limit. -/
abbrev PlanLimits := AList fun _ : String => PlanLimit

namespace PlanLimits

/-- The smallest configured limit, and 0 when nothing is configured. -/
def most_restrictive (plans : PlanLimits) : ℕ :=
  ((plans.entries.map fun entry => entry.2.max_concurrent.toNat).min?).getD 0

/-- The limit of a plan; an unknown or absent one gets the most restrictive. -/
def limit_for (plans : PlanLimits) (plan : Option String) : ℕ :=
  match plan.bind fun name => plans.lookup name with
  | some limit => limit.max_concurrent.toNat
  | none => plans.most_restrictive

/-- At or above the limit refuses. -/
def check (plans : PlanLimits) (plan : Option String) (usage : ℕ) : QuotaDecision :=
  let limit := plans.limit_for plan
  if limit ≤ usage then .exceeded ⟨plan.getD "unknown", limit, usage⟩ else .allowed

/-- The least limit is a `u64`. -/
theorem most_restrictive_lt (plans : PlanLimits) : plans.most_restrictive < 2 ^ 64 := by
  rw [most_restrictive]
  cases hmin : (plans.entries.map fun entry => entry.2.max_concurrent.toNat).min? with
  | none => exact Nat.two_pow_pos 64
  | some n =>
      obtain ⟨entry, -, rfl⟩ := List.mem_map.mp (List.min?_mem hmin)
      exact entry.2.max_concurrent.toNat_lt

/-- Every limit is a `u64`. -/
theorem limit_for_lt (plans : PlanLimits) (plan : Option String) :
    plans.limit_for plan < 2 ^ 64 := by
  rw [limit_for]
  split
  · rename_i limit _
    exact limit.max_concurrent.toNat_lt
  · exact plans.most_restrictive_lt

end PlanLimits

/-! ## The accounting -/

structure TenantQuota where
  limits : PlanLimits
  inflight : AList fun _ : String => ℕ

namespace TenantQuota

def new (plans : PlanLimits) : TenantQuota := ⟨plans, ∅⟩

/-- A tenant's in-flight count. -/
def usage (q : TenantQuota) (tenant : String) : ℕ := (q.inflight.lookup tenant).getD 0

/-- `TenantQuota::admit`: the table with the tenant's execution counted, or the refusal. -/
def admit_tenant (q : TenantQuota) (tenant : String) (plan : Option String) :
    Except QuotaExceeded TenantQuota :=
  match q.limits.check plan (q.usage tenant) with
  | .allowed =>
    .ok { q with inflight := q.inflight.insert tenant (saturating_add 64 (q.usage tenant) 1) }
  | .exceeded detail => .error detail

/-- `QuotaGuard::drop`: one less, and no entry at zero. -/
def release (q : TenantQuota) (tenant : String) : TenantQuota :=
  match q.inflight.lookup tenant with
  | some count =>
    if count - 1 = 0 then { q with inflight := q.inflight.erase tenant }
    else { q with inflight := q.inflight.insert tenant (count - 1) }
  | none => q

/-- What an admission means: the tenant was below the limit of the plan, and now
counts one more; nobody else does. -/
theorem admit_tenant_ok {q q' : TenantQuota} {tenant : String} {plan : Option String}
    (h : q.admit_tenant tenant plan = .ok q') :
    q'.limits = q.limits ∧ q.usage tenant < q.limits.limit_for plan
      ∧ q'.usage tenant = q.usage tenant + 1
      ∧ ∀ other, other ≠ tenant → q'.usage other = q.usage other := by
  rw [admit_tenant, PlanLimits.check] at h
  by_cases hlim : q.limits.limit_for plan ≤ q.usage tenant
  · simp [hlim] at h
  · simp only [if_neg hlim, Except.ok.injEq] at h
    subst h
    have hlt := q.limits.limit_for_lt plan
    refine ⟨rfl, not_le.mp hlim, ?_, ?_⟩
    · rw [usage, AList.lookup_insert, Option.getD_some, saturating_add_of_lt]
      omega
    · intro other hne
      rw [usage, AList.lookup_insert_ne hne, ← usage]

/-- What a release means. -/
theorem usage_release (q : TenantQuota) (tenant : String) :
    (q.release tenant).limits = q.limits
      ∧ (q.release tenant).usage tenant = q.usage tenant - 1
      ∧ ∀ other, other ≠ tenant → (q.release tenant).usage other = q.usage other := by
  rw [release]
  cases hl : q.inflight.lookup tenant with
  | none =>
      refine ⟨rfl, ?_, fun other _ => rfl⟩
      simp only [usage, hl, Option.getD_none]
  | some count =>
      dsimp only
      by_cases hz : count - 1 = 0
      -- the last guard takes the entry with it
      · rw [if_pos hz]
        refine ⟨rfl, ?_, ?_⟩
        · simp only [usage, AList.lookup_erase, Option.getD_none, hl, Option.getD_some, hz]
        · intro other hne
          simp only [usage, AList.lookup_erase_ne hne]
      · rw [if_neg hz]
        refine ⟨rfl, ?_, ?_⟩
        · simp only [usage, AList.lookup_insert, hl, Option.getD_some]
        · intro other hne
          simp only [usage, AList.lookup_insert_ne hne]

/-- The table after an admission, entry by entry. -/
theorem admit_tenant_lookup {q q' : TenantQuota} {tenant : String} {plan : Option String}
    (h : q.admit_tenant tenant plan = .ok q') (t : String) :
    q'.inflight.lookup t
      = if t = tenant then some (q.usage tenant + 1) else q.inflight.lookup t := by
  obtain ⟨-, -, husage, -⟩ := admit_tenant_ok h
  rw [admit_tenant, PlanLimits.check] at h
  by_cases hlim : q.limits.limit_for plan ≤ q.usage tenant
  · simp [hlim] at h
  · simp only [if_neg hlim, Except.ok.injEq] at h
    have hentry : q'.inflight.lookup tenant = some (saturating_add 64 (q.usage tenant) 1) := by
      rw [← h, AList.lookup_insert]
    by_cases ht : t = tenant
    · rw [usage, hentry, Option.getD_some] at husage
      rw [if_pos ht, ht, hentry, husage]
    · rw [if_neg ht, ← h, AList.lookup_insert_ne ht]

/-- The table after a drop, entry by entry. -/
theorem release_lookup {q : TenantQuota} {tenant : String} {count : ℕ}
    (h : q.inflight.lookup tenant = some count) (t : String) :
    (q.release tenant).inflight.lookup t
      = if t = tenant then (if count - 1 = 0 then none else some (count - 1))
        else q.inflight.lookup t := by
  rw [release, h]
  dsimp only
  by_cases hz : count - 1 = 0
  · rw [if_pos hz, if_pos hz]
    by_cases ht : t = tenant
    · rw [if_pos ht, ht, AList.lookup_erase]
    · rw [if_neg ht, AList.lookup_erase_ne ht]
  · rw [if_neg hz, if_neg hz]
    by_cases ht : t = tenant
    · rw [if_pos ht, ht, AList.lookup_insert]
    · rw [if_neg ht, AList.lookup_insert_ne ht]

/-- What a caller of `admit` is told. -/
def answer (q : TenantQuota) (tenant : String) (plan : Option String) : Except QuotaExceeded Unit :=
  (q.admit_tenant tenant plan).map fun _ => ()

/-- The answer is the gate's decision on the tenant's count. -/
theorem answer_eq (q : TenantQuota) (tenant : String) (plan : Option String) :
    q.answer tenant plan
      = if q.limits.limit_for plan ≤ q.usage tenant
        then .error ⟨plan.getD "unknown", q.limits.limit_for plan, q.usage tenant⟩ else .ok () := by
  rw [answer, admit_tenant, PlanLimits.check]
  by_cases hlim : q.limits.limit_for plan ≤ q.usage tenant
  · rw [if_pos hlim, if_pos hlim]
    rfl
  · rw [if_neg hlim, if_neg hlim]
    rfl

end TenantQuota

/-! ## Admissions and drops in sequence -/

/-- The limit of a plan, as the operator reads the table: the plan's own, the smallest
of the table for a plan it does not have, and 0 when it has none. -/
inductive IsLimit (plans : PlanLimits) : Option String → ℕ → Prop
  | own {name : String} {limit : PlanLimit} : plans.lookup name = some limit →
      IsLimit plans (some name) limit.max_concurrent.toNat
  | smallest {plan : Option String} {limit : PlanLimit} {name : String} :
      (∀ known ∈ plan, plans.lookup known = none) → plans.lookup name = some limit →
      (∀ other limit', plans.lookup other = some limit' →
        limit.max_concurrent.toNat ≤ limit'.max_concurrent.toNat) →
      IsLimit plans plan limit.max_concurrent.toNat
  | empty {plan : Option String} : (∀ name, plans.lookup name = none) → IsLimit plans plan 0

/-- A plan that is not in the table has the least limit that is in it. -/
theorem most_restrictive_isLimit {plans : PlanLimits} {plan : Option String}
    (hplan : ∀ known ∈ plan, plans.lookup known = none) :
    IsLimit plans plan plans.most_restrictive := by
  rw [PlanLimits.most_restrictive]
  cases hmin : (plans.entries.map fun entry => entry.2.max_concurrent.toNat).min? with
  | none =>
      rw [List.min?_eq_none_iff, List.map_eq_nil_iff] at hmin
      apply IsLimit.empty
      intro name
      rw [AList.lookup_eq_none, AList.mem_keys, AList.keys, hmin]
      exact List.not_mem_nil
  | some n =>
      obtain ⟨hmem, hle⟩ := List.min?_eq_some_iff.mp hmin
      obtain ⟨entry, hentry, rfl⟩ := List.mem_map.mp hmem
      refine .smallest hplan (AList.mem_lookup_iff.mpr hentry) ?_
      intro other limit' hother
      exact hle _ (List.mem_map.mpr ⟨⟨other, limit'⟩, AList.mem_lookup_iff.mp hother, rfl⟩)

/-- `limit_for` is the limit of the plan. -/
theorem limit_for_isLimit (plans : PlanLimits) (plan : Option String) :
    IsLimit plans plan (plans.limit_for plan) := by
  rw [PlanLimits.limit_for]
  cases plan with
  | none => exact most_restrictive_isLimit (fun known hknown => by cases hknown)
  | some name =>
      cases hlookup : plans.lookup name with
      | none =>
          rw [Option.bind_some, hlookup]
          apply most_restrictive_isLimit
          intro known hknown
          rw [Option.mem_some_iff.mp hknown] at hlookup
          exact hlookup
      | some limit =>
          rw [Option.bind_some, hlookup]
          exact .own hlookup

/-- A plan has one limit: its own where the table has it, the least of the table where it has not,
and none at all where the table is empty. -/
theorem IsLimit.unique {plans : PlanLimits} {plan : Option String} {m n : ℕ}
    (hm : IsLimit plans plan m) (hn : IsLimit plans plan n) : m = n := by
  cases hm with
  | own hlookup =>
      cases hn with
      | own hlookup' => rw [Option.some.inj (hlookup.symm.trans hlookup')]
      | smallest hunknown _ _ =>
          rw [hunknown _ rfl] at hlookup
          cases hlookup
      | empty hempty =>
          rw [hempty] at hlookup
          cases hlookup
  | smallest hunknown hlookup hle =>
      cases hn with
      | own hlookup' =>
          rw [hunknown _ rfl] at hlookup'
          cases hlookup'
      | smallest _ hlookup' hle' => exact Nat.le_antisymm (hle _ _ hlookup') (hle' _ _ hlookup)
      | empty hempty =>
          rw [hempty] at hlookup
          cases hlookup
  | empty hempty =>
      cases hn with
      | own hlookup' =>
          rw [hempty] at hlookup'
          cases hlookup'
      | smallest _ hlookup' _ =>
          rw [hempty] at hlookup'
          cases hlookup'
      | empty _ => rfl

/-- The accounting together with the guards that are live. A guard is its tenant's name,
so two guards of one tenant are interchangeable. -/
structure Held where
  quota : TenantQuota
  guards : List String

def Held.new (plans : PlanLimits) : Held := ⟨TenantQuota.new plans, []⟩

inductive QuotaEvent
  | request (tenant : String) (plan : Option String)
  /-- One of the tenant's live guards is dropped. -/
  | drop (tenant : String)
  deriving DecidableEq, Repr

def QuotaEvent.tenant : QuotaEvent → String
  | request tenant _ => tenant
  | drop tenant => tenant

def quota_step (h : Held) : QuotaEvent → Option Held
  | .request tenant plan =>
    match h.quota.admit_tenant tenant plan with
    | .ok quota => some ⟨quota, tenant :: h.guards⟩
    | .error _ => some h
  | .drop tenant =>
    if tenant ∈ h.guards then some ⟨h.quota.release tenant, h.guards.erase tenant⟩ else none

/-- The table counts the live guards: an entry for each tenant that has one. -/
structure Counted (plans : PlanLimits) (h : Held) : Prop where
  limits : h.quota.limits = plans
  stored : ∀ tenant, h.quota.inflight.lookup tenant
    = if h.guards.count tenant = 0 then none else some (h.guards.count tenant)

section Sequences

variable {plans : PlanLimits} {h : Held}

/-- The usage of a tenant is the number of its guards. -/
theorem Counted.usage (hc : Counted plans h) (tenant : String) :
    h.quota.usage tenant = h.guards.count tenant := by
  rw [TenantQuota.usage, hc.stored]
  by_cases hzero : h.guards.count tenant = 0
  · rw [if_pos hzero, hzero]
    rfl
  · rw [if_neg hzero]
    rfl

theorem counted_new (plans : PlanLimits) : Counted plans (Held.new plans) := by
  refine ⟨rfl, ?_⟩
  intro tenant
  rw [Held.new, TenantQuota.new, AList.lookup_empty, List.count_nil, if_pos rfl]

/-- An admission hands out one guard and adds one to the tenant's entry. -/
theorem counted_admit (hc : Counted plans h) {tenant : String} {plan : Option String}
    {quota : TenantQuota} (hentry : h.quota.admit_tenant tenant plan = .ok quota) :
    Counted plans ⟨quota, tenant :: h.guards⟩ := by
  obtain ⟨hlimits, -, -, -⟩ := TenantQuota.admit_tenant_ok hentry
  refine ⟨hlimits.trans hc.limits, ?_⟩
  intro t
  have hlookup := TenantQuota.admit_tenant_lookup hentry t
  by_cases ht : t = tenant
  · rw [if_pos ht, hc.usage] at hlookup
    rw [hlookup, ht, List.count_cons_self, if_neg (Nat.succ_ne_zero _)]
  · rw [if_neg ht, hc.stored] at hlookup
    rw [hlookup, List.count_cons_of_ne (Ne.symm ht)]

/-- A guard that is dropped takes one from its tenant's entry, and the entry goes with the last.
-/
theorem counted_drop (hc : Counted plans h) {tenant : String} (hmem : tenant ∈ h.guards) :
    Counted plans ⟨h.quota.release tenant, h.guards.erase tenant⟩ := by
  have hpos : 0 < h.guards.count tenant := List.count_pos_iff.mpr hmem
  have hstored : h.quota.inflight.lookup tenant = some (h.guards.count tenant) := by
    rw [hc.stored, if_neg (by omega)]
  refine ⟨(h.quota.usage_release tenant).1.trans hc.limits, ?_⟩
  intro t
  have hlookup := TenantQuota.release_lookup hstored t
  by_cases ht : t = tenant
  · rw [if_pos ht] at hlookup
    rw [hlookup, ht, List.count_erase_self]
  · rw [if_neg ht, hc.stored] at hlookup
    rw [hlookup, List.count_erase_of_ne ht]

/-- Admissions, refusals and drops all keep the entries equal to the guards that are out. An entry
that comes to nothing is taken out, so that a tenant without a guard has no entry. -/
theorem counted_step (h : Held) (e : QuotaEvent) (h' : Held) (hc : Counted plans h)
    (hstep : quota_step h e = some h') : Counted plans h' := by
  cases e with
  | request tenant plan =>
      rw [quota_step] at hstep
      cases hentry : h.quota.admit_tenant tenant plan with
      | ok quota =>
          rw [hentry, Option.some.injEq] at hstep
          rw [← hstep]
          exact counted_admit hc hentry
      | error detail =>
          rw [hentry, Option.some.injEq] at hstep
          rw [← hstep]
          exact hc
  | drop tenant =>
      rw [quota_step] at hstep
      by_cases hmem : tenant ∈ h.guards
      · rw [if_pos hmem, Option.some.injEq] at hstep
        rw [← hstep]
        exact counted_drop hc hmem
      · rw [if_neg hmem] at hstep
        cases hstep

theorem counted_run {events : List QuotaEvent}
    (hrun : run quota_step (Held.new plans) events = some h) : Counted plans h := by
  exact run_inv counted_step (counted_new plans) hrun

/-- What an event of a tenant does to the tenant's count, told from the count alone. -/
def count_after (plans : PlanLimits) (n : ℕ) : QuotaEvent → ℕ
  | .request _ plan => if plans.limit_for plan ≤ n then n else n + 1
  | .drop _ => n - 1

/-- What one event does to the guards of a tenant: its own events count, and those of the others
leave it as it was. -/
theorem count_step (hc : Counted plans h) {e : QuotaEvent} {h' : Held}
    (hstep : quota_step h e = some h') (t : String) :
    h'.guards.count t
      = if e.tenant = t then count_after plans (h.guards.count t) e else h.guards.count t := by
  cases e with
  | request tenant plan =>
      rw [QuotaEvent.tenant, count_after]
      rw [quota_step] at hstep
      have hanswer := h.quota.answer_eq tenant plan
      rw [hc.limits, hc.usage, TenantQuota.answer] at hanswer
      cases hentry : h.quota.admit_tenant tenant plan with
      | ok quota =>
          rw [hentry, Option.some.injEq] at hstep
          rw [hentry] at hanswer
          rw [← hstep]
          by_cases ht : tenant = t
          -- admitted, so it was below its limit
          · subst ht
            have hbelow : ¬ plans.limit_for plan ≤ h.guards.count tenant := by
              intro hle
              rw [if_pos hle] at hanswer
              cases hanswer
            rw [if_pos rfl, if_neg hbelow, List.count_cons_self]
          · rw [if_neg ht, List.count_cons_of_ne ht]
      | error detail =>
          rw [hentry, Option.some.injEq] at hstep
          rw [hentry] at hanswer
          rw [← hstep]
          by_cases ht : tenant = t
          -- refused, so it was not
          · subst ht
            have hfull : plans.limit_for plan ≤ h.guards.count tenant := by
              by_contra hlt
              rw [if_neg hlt] at hanswer
              cases hanswer
            rw [if_pos rfl, if_pos hfull]
          · rw [if_neg ht]
  | drop tenant =>
      rw [QuotaEvent.tenant, count_after]
      rw [quota_step] at hstep
      by_cases hmem : tenant ∈ h.guards
      · rw [if_pos hmem, Option.some.injEq] at hstep
        rw [← hstep]
        by_cases ht : tenant = t
        · rw [if_pos ht, ht, List.count_erase_self]
        · rw [if_neg ht, List.count_erase_of_ne (Ne.symm ht)]
      · rw [if_neg hmem] at hstep
        cases hstep

/-- A tenant's count is settled by the tenant's own events. By induction along the run: an event
of another tenant leaves the count, and one of its own makes of it what `count_after` says. -/
theorem count_run {events : List QuotaEvent} {h' : Held} (hc : Counted plans h)
    (hrun : run quota_step h events = some h') (t : String) :
    h'.guards.count t
      = (events.filter (fun e => e.tenant = t)).foldl (count_after plans) (h.guards.count t) := by
  induction events generalizing h with
  | nil =>
      rw [run_nil, Option.some.injEq] at hrun
      rw [hrun]
      rfl
  | cons e events ih =>
      obtain ⟨mid, hstep, hrest⟩ := run_cons.mp hrun
      rw [ih (counted_step h e mid hc hstep) hrest, count_step hc hstep t]
      by_cases ht : e.tenant = t
      · rw [if_pos ht, List.filter_cons, if_pos (decide_eq_true ht), List.foldl_cons]
      · have hdrop : ¬ decide (e.tenant = t) = true := by
          rw [decide_eq_true_iff]
          exact ht
        rw [if_neg ht, List.filter_cons, if_neg hdrop]

end Sequences

/-- What the accounting owes in a state with these live guards. -/
structure QuotaAccounts (plans : PlanLimits) (h : Held) : Prop where
  /-- A tenant has an entry iff it has a live guard, and the entry is their number. -/
  stored : ∀ tenant n, h.quota.inflight.lookup tenant = some n
    ↔ n = h.guards.count tenant ∧ 0 < n
  admitted : ∀ tenant plan limit, IsLimit plans plan limit →
    (h.quota.answer tenant plan = .ok () ↔ h.guards.count tenant < limit)
  refused : ∀ tenant plan limit, IsLimit plans plan limit → limit ≤ h.guards.count tenant →
    h.quota.answer tenant plan = .error ⟨plan.getD "unknown", limit, h.guards.count tenant⟩
      ∧ quota_step h (.request tenant plan) = some h
  /-- Neither of the saturating operations saturates. -/
  add_exact : ∀ tenant plan, h.quota.answer tenant plan = .ok () →
    saturating_add 64 (h.quota.usage tenant) 1 = h.quota.usage tenant + 1
  sub_exact : ∀ tenant ∈ h.guards, ∃ n, h.quota.inflight.lookup tenant = some (n + 1)

/-- A tenant has an entry exactly while it has guards, and the entry is their number. So the table
does not grow with the tenants that were ever seen. -/
theorem Counted.stored_iff {plans : PlanLimits} {h : Held} (hc : Counted plans h) {tenant : String}
    {n : ℕ} :
    h.quota.inflight.lookup tenant = some n ↔ n = h.guards.count tenant ∧ 0 < n := by
  rw [hc.stored]
  by_cases hzero : h.guards.count tenant = 0
  · rw [if_pos hzero, hzero]
    constructor
    · intro hnone
      cases hnone
    · rintro ⟨rfl, hpos⟩
      exact absurd hpos (Nat.lt_irrefl 0)
  · rw [if_neg hzero, Option.some.injEq]
    constructor
    · rintro rfl
      exact ⟨rfl, Nat.pos_of_ne_zero hzero⟩
    · rintro ⟨rfl, -⟩
      rfl

/-- What the quota owes follows from its entries being the guards: an admission within the limit
is granted and one beyond it refused, and the answer depends on this tenant's guards alone. -/
theorem Counted.accounts {plans : PlanLimits} {h : Held} (hc : Counted plans h) :
    QuotaAccounts plans h := by
  have hanswer : ∀ tenant plan, h.quota.answer tenant plan
      = if plans.limit_for plan ≤ h.guards.count tenant
        then .error ⟨plan.getD "unknown", plans.limit_for plan, h.guards.count tenant⟩
        else .ok () := by
    intro tenant plan
    rw [TenantQuota.answer_eq, hc.limits, hc.usage]
  have hlimit : ∀ plan limit, IsLimit plans plan limit → limit = plans.limit_for plan :=
    fun plan limit hlim => hlim.unique (limit_for_isLimit plans plan)
  constructor
  · intro tenant n
    exact hc.stored_iff
  · intro tenant plan limit hlim
    rw [hanswer, hlimit plan limit hlim]
    by_cases hfull : plans.limit_for plan ≤ h.guards.count tenant
    · rw [if_pos hfull]
      exact iff_of_false (by simp) (Nat.not_lt.mpr hfull)
    · rw [if_neg hfull]
      exact iff_of_true rfl (Nat.not_le.mp hfull)
  · intro tenant plan limit hlim hfull
    rw [hlimit plan limit hlim] at hfull ⊢
    have hrefused := hanswer tenant plan
    rw [if_pos hfull] at hrefused
    refine ⟨hrefused, ?_⟩
    rw [quota_step]
    cases hentry : h.quota.admit_tenant tenant plan with
    | ok quota =>
        rw [TenantQuota.answer, hentry] at hrefused
        cases hrefused
    | error detail => rfl
  · intro tenant plan hok
    rw [hanswer] at hok
    by_cases hfull : plans.limit_for plan ≤ h.guards.count tenant
    · rw [if_pos hfull] at hok
      cases hok
    -- below a limit that is itself a `u64` there is room for one more
    · have hlt := plans.limit_for_lt plan
      rw [hc.usage, saturating_add_of_lt]
      omega
  · intro tenant hmem
    have hpos : 0 < h.guards.count tenant := List.count_pos_iff.mpr hmem
    obtain ⟨n, hn⟩ := Nat.exists_eq_succ_of_ne_zero (Nat.ne_of_gt hpos)
    refine ⟨n, ?_⟩
    rw [hc.stored, if_neg (Nat.ne_of_gt hpos), hn]

/-- **Quota accounting.** After any sequence of admissions and drops the table counts the
live guards and answers by them; and whatever the other tenants do, a tenant is answered
by its own events. -/
theorem quota_accounts (plans : PlanLimits) (events : List QuotaEvent) (h : Held)
    (hrun : run quota_step (Held.new plans) events = some h) :
    QuotaAccounts plans h
      ∧ ∀ tenant (events' : List QuotaEvent) (h' : Held),
          run quota_step (Held.new plans) events' = some h' →
          events'.filter (fun e => e.tenant = tenant) = events.filter (fun e => e.tenant = tenant) →
          ∀ plan, h'.quota.answer tenant plan = h.quota.answer tenant plan := by
  have hc := counted_run hrun
  refine ⟨hc.accounts, ?_⟩
  intro tenant events' h' hrun' hown plan
  have hc' := counted_run hrun'
  have hcount : h'.guards.count tenant = h.guards.count tenant := by
    rw [count_run (counted_new plans) hrun tenant, count_run (counted_new plans) hrun' tenant, hown]
  rw [TenantQuota.answer_eq, TenantQuota.answer_eq, hc.limits, hc'.limits, hc.usage, hc'.usage,
    hcount]

def two_plans : PlanLimits := AList.insert "free" ⟨1⟩ (AList.insert "pro" ⟨2⟩ ∅)

/-- Tenant `a` changes its plan between requests, `b` has none. -/
def two_tenants : List QuotaEvent :=
  [.request "a" (some "pro"), .request "b" none, .request "a" none, .drop "b", .request "a" (some "pro")]

/-- Two tenants, of which one is done. -/
theorem quota_accounts_two_tenants :
    ∃ h, run quota_step (Held.new two_plans) two_tenants = some h ∧ h.guards = ["a", "a"]
      ∧ QuotaAccounts two_plans h := by
  have hrun : ∃ h, run quota_step (Held.new two_plans) two_tenants = some h
      ∧ h.guards = ["a", "a"] := ⟨_, rfl, rfl⟩
  obtain ⟨h, hrun, hguards⟩ := hrun
  exact ⟨h, hrun, hguards, (quota_accounts two_plans two_tenants h hrun).1⟩

end Runlet.Quota
