/-
Concurrency limits and the executions they bound: the permits of
`acquire_permits` (`crates/runlet/src/handler.rs`) with the partition limiter
(`crates/runlet-core/src/partition.rs`), the quota guard, and the life of a
request in `run_execute`.

A request has two sides. Its handler is an async function that holds the quota
guard and the permits as locals; it ends when it returns, or is dropped at an
await when the client disconnects. Its execution is a `spawn_blocking` closure
that runs to completion on a thread of its own, whatever happens to the handler.
The machine below takes the steps of many requests in any order.

`concurrency_bounded` says that the limits bound the executions in every run in
which no handler is dropped while its execution is queued or running.
`dropped_handler_overcommits` is what a disconnect at that await does.
-/
import Runlet.Lib.Count
import Runlet.Lib.Machine
import Runlet.Quota

set_option autoImplicit false

namespace Runlet.Concurrency

open Machine Count Runlet.Quota

/-! ## Permits -/

/-- The configured limits; `hash` is the hasher of the partition limiter. -/
structure Limits where
  max_concurrent_executions : ℕ
  partition_buckets : ℕ
  max_concurrent_per_partition : ℕ
  hash : String → ℕ

/-- `PartitionLimiter::new`: the permits left in each bucket, or `none` when
disabled. -/
def PartitionLimiter.new (count per_partition : ℕ) : Option (List ℕ) :=
  if per_partition = 0 ∨ count = 0 then none else some (List.replicate count per_partition)

/-- `bucket_for`: the index of a partition's bucket. -/
def bucket_for (hash : String → ℕ) (buckets : List ℕ) (partition : String) : ℕ :=
  if buckets.length = 0 then 0 else hash partition % buckets.length

/-- `try_acquire`: the bucket a permit was taken from, and what is left. -/
def try_acquire (hash : String → ℕ) (buckets : List ℕ) (partition : String) :
    Option (ℕ × List ℕ) :=
  match buckets[bucket_for hash buckets partition]? with
  | some (n + 1) =>
    some (bucket_for hash buckets partition, buckets.set (bucket_for hash buckets partition) n)
  | some 0 | none => none

/-- The permits left in the bulkhead and, when enabled, in the buckets. -/
structure Permits where
  limiter : ℕ
  partition_limiter : Option (List ℕ)
  deriving DecidableEq

inductive Admission
  | granted (bucket : Option ℕ) (permits : Permits)
  | partition_busy
  | global_busy
  deriving DecidableEq

/-- `acquire_permits`: the partition's bucket first, then the bulkhead. A bucket
permit taken before the bulkhead refused goes back. -/
def acquire_permits (hash : String → ℕ) (permits : Permits) (partition : Option String) :
    Admission :=
  match permits.partition_limiter, partition with
  | some buckets, some id =>
    match try_acquire hash buckets id with
    | none => .partition_busy
    | some (bucket, buckets') =>
      match permits.limiter with
      | 0 => .global_busy
      | n + 1 => .granted (some bucket) ⟨n, some buckets'⟩
  | _, _ =>
    match permits.limiter with
    | 0 => .global_busy
    | n + 1 => .granted none ⟨n, permits.partition_limiter⟩

/-- Dropping the permits of one execution. -/
def Permits.release (permits : Permits) (bucket : Option ℕ) : Permits where
  limiter := permits.limiter + 1
  partition_limiter := permits.partition_limiter.map fun buckets =>
    match bucket with
    | none => buckets
    | some b => buckets.modify b (· + 1)

/-! ## Requests -/

/-- The handler: between the quota and the permits (it may be waiting for the
egress session), at the await of its execution, or ended. -/
inductive Handler
  | waiting
  | executing
  | gone
  deriving DecidableEq

/-- The blocking closure. -/
inductive Closure
  | unborn
  | queued
  | running
  | done
  deriving DecidableEq

structure Request where
  /-- The tenant whose quota guard the handler holds. -/
  guard : Option String
  plan : Option String
  partition : Option String
  /-- The bucket a permit was taken from. -/
  bucket : Option ℕ
  handler : Handler
  closure : Closure
  deriving DecidableEq

namespace Request

def holds_permit (r : Request) : Bool := r.handler = .executing

def holds_bucket (b : ℕ) (r : Request) : Bool := r.handler = .executing ∧ r.bucket = some b

def holds_guard (tenant : String) (r : Request) : Bool :=
  r.handler ≠ .gone ∧ r.guard = some tenant

def is_running (r : Request) : Bool := r.closure = .running

def runs_in (b : ℕ) (r : Request) : Bool := r.closure = .running ∧ r.bucket = some b

def runs_for (tenant : String) (r : Request) : Bool :=
  r.closure = .running ∧ r.guard = some tenant

end Request

structure Server where
  permits : Permits
  quota : Option TenantQuota
  /-- The requests the quota let pass, in that order. -/
  requests : List Request

/-- A server that has seen no request. -/
def Server.new (limits : Limits) (plans : Option PlanLimits) : Server where
  permits := ⟨limits.max_concurrent_executions,
    PartitionLimiter.new limits.partition_buckets limits.max_concurrent_per_partition⟩
  quota := plans.map TenantQuota.new
  requests := []

/-- The handler of request `i` ends, and its locals are dropped. -/
def Server.retire (s : Server) (i : ℕ) (r : Request) : Server where
  permits := if r.handler = .executing then s.permits.release r.bucket else s.permits
  quota := match r.guard with
    | some tenant => s.quota.map fun q => q.release tenant
    | none => s.quota
  requests := s.requests.set i { r with handler := .gone }

/-! ## Steps -/

inductive Event
  | arrive (tenant plan partition : Option String)
  | acquire (i : ℕ)
  | start (i : ℕ)
  | complete (i : ℕ)
  | finish (i : ℕ)
  | disconnect (i : ℕ)

/-- A request reaches `enforce_quota`. Without a quota or a trusted tenant it
passes uncounted; a tenant over its limit is answered at once. -/
def arrive (s : Server) (tenant plan partition : Option String) : Option Server :=
  match s.quota, tenant with
  | some q, some t =>
    match q.admit_tenant t plan with
    | .ok q' => some { s with
        quota := some q'
        requests := s.requests ++ [⟨some t, plan, partition, none, .waiting, .unborn⟩] }
    | .error _ => some s
  | _, _ => some { s with
      requests := s.requests ++ [⟨none, plan, partition, none, .waiting, .unborn⟩] }

/-- A waiting handler asks for its permits, and spawns its execution or answers
429. -/
def acquire (hash : String → ℕ) (s : Server) (i : ℕ) : Option Server :=
  match s.requests[i]? with
  | none => none
  | some r =>
    if r.handler = .waiting then
      match acquire_permits hash s.permits r.partition with
      | .granted bucket permits => some { s with
          permits := permits
          requests := s.requests.set i { r with bucket, handler := .executing, closure := .queued } }
      | .partition_busy | .global_busy => some (s.retire i r)
    else none

/-- A thread of the blocking pool takes a queued closure. -/
def start (s : Server) (i : ℕ) : Option Server :=
  match s.requests[i]? with
  | none => none
  | some r =>
    if r.closure = .queued then
      some { s with requests := s.requests.set i { r with closure := .running } }
    else none

/-- A closure returns. -/
def complete (s : Server) (i : ℕ) : Option Server :=
  match s.requests[i]? with
  | none => none
  | some r =>
    if r.closure = .running then
      some { s with requests := s.requests.set i { r with closure := .done } }
    else none

/-- A handler resumes after its execution, and returns. -/
def finish (s : Server) (i : ℕ) : Option Server :=
  match s.requests[i]? with
  | none => none
  | some r => if r.handler = .executing ∧ r.closure = .done then some (s.retire i r) else none

/-- The client disconnects: the handler is dropped at its await. -/
def disconnect (s : Server) (i : ℕ) : Option Server :=
  match s.requests[i]? with
  | none => none
  | some r => if r.handler = .gone then none else some (s.retire i r)

def step (limits : Limits) (s : Server) : Event → Option Server
  | .arrive tenant plan partition => arrive s tenant plan partition
  | .acquire i => acquire limits.hash s i
  | .start i => start s i
  | .complete i => complete s i
  | .finish i => finish s i
  | .disconnect i => disconnect s i

/-! ## The limits -/

/-- The executions running stay within the bulkhead, within every bucket, and
within the plan: when an execution runs, no more of its tenant's executions
admitted up to it run than the plan it was admitted under allows. -/
structure Bounded (limits : Limits) (plans : Option PlanLimits) (s : Server) : Prop where
  global : s.requests.countP Request.is_running ≤ limits.max_concurrent_executions
  bucket : ∀ b, s.requests.countP (Request.runs_in b) ≤ limits.max_concurrent_per_partition
  tenant : ∀ table, plans = some table → ∀ i r t, s.requests[i]? = some r →
    r.runs_for t = true → (s.requests.take (i + 1)).countP (Request.runs_for t) ≤ table.limit_for r.plan

/-- A tenant whose executions were all admitted under one plan runs at most what
that plan allows. -/
theorem Bounded.tenant_total {limits : Limits} {plans : Option PlanLimits} {s : Server}
    (h : Bounded limits plans s) {table : PlanLimits} (htable : plans = some table) {t : String}
    {plan : Option String} (hplan : ∀ r ∈ s.requests, r.runs_for t = true → r.plan = plan) :
    s.requests.countP (Request.runs_for t) ≤ table.limit_for plan := by
  by_cases hsome : ∃ r ∈ s.requests, r.runs_for t = true
  · obtain ⟨i, r, hi, hrun, hlast⟩ := countP_take_last (Request.runs_for t) hsome
    rw [← hlast, ← hplan r (List.mem_of_getElem? hi) hrun]
    exact h.tenant table htable i r t hi hrun
  · have hzero : s.requests.countP (Request.runs_for t) = 0 := by
      rw [List.countP_eq_zero]
      intro r hr hrun
      exact hsome ⟨r, hr, hrun⟩
    omega

/-- No handler is dropped while its execution is queued or running. -/
def AttachedDrop (s : Server) : Event → Prop
  | .disconnect i => ∀ r ∈ s.requests[i]?, r.closure ≠ .queued ∧ r.closure ≠ .running
  | .arrive _ _ _ | .acquire _ | .start _ | .complete _ | .finish _ => True

instance (s : Server) : ∀ e, Decidable (AttachedDrop s e)
  | .disconnect i => by unfold AttachedDrop; infer_instance
  | .arrive _ _ _ | .acquire _ | .start _ | .complete _ | .finish _ => isTrue trivial

/-! ## The invariant

What the counters say about the handlers, and that every execution in hand has
its handler. -/

structure Inv (limits : Limits) (plans : Option PlanLimits) (s : Server) : Prop where
  global : s.permits.limiter + s.requests.countP Request.holds_permit
    = limits.max_concurrent_executions
  bucket : ∀ buckets, s.permits.partition_limiter = some buckets → ∀ b n, buckets[b]? = some n →
    n + s.requests.countP (Request.holds_bucket b) = limits.max_concurrent_per_partition
  bucket_lt : ∀ (i : ℕ) (r : Request) (b : ℕ), s.requests[i]? = some r → r.bucket = some b →
    ∃ buckets, s.permits.partition_limiter = some buckets ∧ b < buckets.length
  tables : s.quota.map TenantQuota.limits = plans
  usage : ∀ q, s.quota = some q → ∀ t, q.usage t = s.requests.countP (Request.holds_guard t)
  order : ∀ table, plans = some table → ∀ (i : ℕ) (r : Request) (t : String),
    s.requests[i]? = some r → r.holds_guard t = true →
    (s.requests.take (i + 1)).countP (Request.holds_guard t) ≤ table.limit_for r.plan
  attached : ∀ (i : ℕ) (r : Request), s.requests[i]? = some r →
    r.closure = .queued ∨ r.closure = .running → r.handler = .executing

variable {limits : Limits} {plans : Option PlanLimits}

/-- The invariant is more than the limits: with every running execution attached,
each of the three counts of executions is at most a count of handlers. -/
theorem Inv.bounded {s : Server} (h : Inv limits plans s) : Bounded limits plans s := by
  have hattached : ∀ r ∈ s.requests, r.closure = .running → r.handler = .executing := by
    intro r hr hrun
    obtain ⟨i, hi⟩ := List.getElem?_of_mem hr
    exact h.attached i r hi (Or.inr hrun)
  refine ⟨?_, ?_, ?_⟩
  · have hle : s.requests.countP Request.is_running ≤ s.requests.countP Request.holds_permit := by
      apply List.countP_mono_left
      intro r hr hrun
      simp only [Request.is_running, decide_eq_true_eq] at hrun
      simp [Request.holds_permit, hattached r hr hrun]
    have hglobal := h.global
    omega
  · intro b
    have hle : s.requests.countP (Request.runs_in b)
        ≤ s.requests.countP (Request.holds_bucket b) := by
      apply List.countP_mono_left
      intro r hr hrun
      simp only [Request.runs_in, decide_eq_true_eq] at hrun
      simp [Request.holds_bucket, hattached r hr hrun.1, hrun.2]
    by_cases hsome : ∃ r ∈ s.requests, r.runs_in b = true
    -- some execution runs in the bucket, so the bucket exists
    · obtain ⟨r, hr, hrun⟩ := hsome
      obtain ⟨i, hi⟩ := List.getElem?_of_mem hr
      simp only [Request.runs_in, decide_eq_true_eq] at hrun
      obtain ⟨buckets, hbuckets, hlt⟩ := h.bucket_lt i r b hi hrun.2
      have hbucket := h.bucket buckets hbuckets b buckets[b] (List.getElem?_eq_getElem hlt)
      omega
    · have hzero : s.requests.countP (Request.runs_in b) = 0 := by
        rw [List.countP_eq_zero]
        intro r hr hrun
        exact hsome ⟨r, hr, hrun⟩
      omega
  · intro table htable i r t hi hrun
    have hmono : ∀ l : List Request, (∀ r ∈ l, r ∈ s.requests) →
        l.countP (Request.runs_for t) ≤ l.countP (Request.holds_guard t) := by
      intro l hl
      apply List.countP_mono_left
      intro r hr hrun
      simp only [Request.runs_for, decide_eq_true_eq] at hrun
      simp [Request.holds_guard, hattached r (hl r hr) hrun.1, hrun.2]
    have hguard : r.holds_guard t = true := by
      simp only [Request.runs_for, decide_eq_true_eq] at hrun
      simp [Request.holds_guard, hattached r (List.mem_of_getElem? hi) hrun.1, hrun.2]
    calc (s.requests.take (i + 1)).countP (Request.runs_for t)
        ≤ (s.requests.take (i + 1)).countP (Request.holds_guard t) :=
          hmono _ (fun r hr => List.mem_of_mem_take hr)
      _ ≤ table.limit_for r.plan := h.order table htable i r t hi hguard

/-! ## Every step keeps it -/

/-- A fresh server has all its permits and no request. Every count in the invariant is a count
over no request, so each equation says that the limiter holds its limit. -/
theorem inv_new (limits : Limits) (plans : Option PlanLimits) :
    Inv limits plans (Server.new limits plans) := by
  refine ⟨?_, ?_, ?_, ?_, ?_, ?_, ?_⟩
  · rfl
  · intro buckets hbuckets b n hn
    simp only [Server.new, PartitionLimiter.new] at hbuckets
    split at hbuckets
    · cases hbuckets
    · cases hbuckets
      simp only [Server.new, List.countP_nil, Nat.add_zero]
      exact List.eq_of_mem_replicate (List.mem_of_getElem? hn)
  · intro i r b hi
    simp [Server.new] at hi
  · cases plans with
    | none => rfl
    | some table => rfl
  · intro q hq t
    simp only [Server.new, Option.map_eq_some_iff] at hq
    obtain ⟨table, -, rfl⟩ := hq
    rfl
  · intro table _ i r t hi
    simp [Server.new] at hi
  · intro i r hi
    simp [Server.new] at hi

/-- Reading one entry of a list after a change. -/
theorem getElem?_set_cases {l : List Request} {i j : ℕ} {r r' : Request}
    (h : (l.set i r)[j]? = some r') : (j = i ∧ r' = r) ∨ (j ≠ i ∧ l[j]? = some r') := by
  rw [List.getElem?_set] at h
  split at h
  · rename_i hij
    split at h
    · left
      exact ⟨hij.symm, (Option.some.inj h).symm⟩
    · cases h
  · rename_i hij
    exact Or.inr ⟨fun hji => hij hji.symm, h⟩

/-! ### A handler ends -/

/-- A handler that retires gives back the permit it holds, and no other. -/
theorem retire_limiter (s : Server) (i : ℕ) (r : Request) :
    (s.retire i r).permits.limiter = s.permits.limiter + unit r.holds_permit := by
  by_cases hexec : r.handler = .executing
  · simp [Server.retire, Request.holds_permit, hexec, Permits.release]
  · simp [Server.retire, Request.holds_permit, hexec]

/-- Each bucket gets back what the handler held of it. There is one bucket at most, so the others
are as before, and a handler that never had a permit gives nothing back. -/
theorem retire_buckets {s : Server} {i : ℕ} {r : Request} {buckets : List ℕ}
    (h : (s.retire i r).permits.partition_limiter = some buckets) :
    ∃ before, s.permits.partition_limiter = some before ∧ before.length = buckets.length
      ∧ ∀ b n, buckets[b]? = some n → ∃ m, before[b]? = some m ∧ n = m + unit (r.holds_bucket b) := by
  by_cases hexec : r.handler = .executing
  · simp only [Server.retire, hexec, if_true, Permits.release, Option.map_eq_some_iff] at h
    obtain ⟨before, hbefore, rfl⟩ := h
    refine ⟨before, hbefore, ?_, ?_⟩
    · split
      · rfl
      · exact (List.length_modify _ _ _).symm
    · intro b n hn
      cases hbucket : r.bucket with
      | none =>
          simp only [hbucket] at hn
          exact ⟨n, hn, by simp [Request.holds_bucket, hbucket]⟩
      | some b' =>
          simp only [hbucket, List.getElem?_modify, Option.map_eq_map,
            Option.map_eq_some_iff] at hn
          obtain ⟨m, hm, rfl⟩ := hn
          refine ⟨m, hm, ?_⟩
          by_cases hb : b' = b
          · simp [Request.holds_bucket, hexec, hbucket, hb]
          · simp [Request.holds_bucket, hbucket, hb]
  · simp only [Server.retire, hexec, if_false] at h
    refine ⟨buckets, h, rfl, ?_⟩
    intro b n hn
    exact ⟨n, hn, by simp [Request.holds_bucket, hexec]⟩

/-- The tenant of the guard counts one less. -/
theorem retire_quota {s : Server} {i : ℕ} {r : Request} {q' : TenantQuota}
    (h : (s.retire i r).quota = some q') :
    ∃ q, s.quota = some q ∧ q'.limits = q.limits
      ∧ ∀ t, q'.usage t = q.usage t - unit (r.guard = some t) := by
  cases hguard : r.guard with
  | none =>
      simp only [Server.retire, hguard] at h
      exact ⟨q', h, rfl, by simp⟩
  | some tenant =>
      simp only [Server.retire, hguard, Option.map_eq_some_iff] at h
      obtain ⟨q, hq, rfl⟩ := h
      obtain ⟨hlimits, hsame, hother⟩ := q.usage_release tenant
      refine ⟨q, hq, hlimits, ?_⟩
      intro t
      by_cases ht : t = tenant
      · rw [ht, hsame]
        simp
      · rw [hother t ht]
        simp [Ne.symm ht]

/-- A handler may end when its execution is neither queued nor running. Its guard and its permits
go back in one step: what the limiters gain is what the request no longer holds, so each equation
of the invariant keeps its sum, and no execution is left behind without a handler. -/
theorem retire_inv {s : Server} {i : ℕ} {r : Request} (h : Inv limits plans s)
    (hi : s.requests[i]? = some r) (hlive : r.handler ≠ .gone)
    (hdone : r.closure ≠ .queued ∧ r.closure ≠ .running) :
    Inv limits plans (s.retire i r) := by
  have hrequests : (s.retire i r).requests = s.requests.set i { r with handler := .gone } := rfl
  refine ⟨?_, ?_, ?_, ?_, ?_, ?_, ?_⟩
  -- the bulkhead: what the request held is what comes back
  · have hset := countP_set Request.holds_permit (b := { r with handler := .gone }) hi
    have hgone : unit (Request.holds_permit { r with handler := .gone }) = 0 := rfl
    have hglobal := h.global
    rw [retire_limiter, hrequests]
    omega
  -- each bucket
  · intro buckets hbuckets b n hn
    obtain ⟨before, hbefore, -, hshare⟩ := retire_buckets hbuckets
    obtain ⟨m, hm, hnm⟩ := hshare b n hn
    have hset := countP_set (Request.holds_bucket b) (b := { r with handler := .gone }) hi
    have hgone : unit (Request.holds_bucket b { r with handler := .gone }) = 0 := by
      simp [Request.holds_bucket]
    have hbucket := h.bucket before hbefore b m hm
    rw [hrequests]
    omega
  · intro j r' b hj hb
    have hold : ∃ r₀, s.requests[j]? = some r₀ ∧ r₀.bucket = some b := by
      rcases getElem?_set_cases hj with ⟨rfl, rfl⟩ | ⟨-, hj⟩
      · exact ⟨r, hi, hb⟩
      · exact ⟨r', hj, hb⟩
    obtain ⟨r₀, hr₀, hb₀⟩ := hold
    obtain ⟨buckets, hbuckets, hlt⟩ := h.bucket_lt j r₀ b hr₀ hb₀
    cases hafter : (s.retire i r).permits.partition_limiter with
    | none =>
        -- a limiter does not disappear
        by_cases hexec : r.handler = .executing
        · simp [Server.retire, hexec, Permits.release, hbuckets] at hafter
        · simp [Server.retire, hexec, hbuckets] at hafter
    | some after =>
        obtain ⟨before, hbefore, hlen, -⟩ := retire_buckets hafter
        rw [hbuckets, Option.some.injEq] at hbefore
        exact ⟨after, rfl, by rw [← hlen, ← hbefore]; exact hlt⟩
  · rw [← h.tables]
    cases hafter : (s.retire i r).quota with
    | none =>
        cases hguard : r.guard with
        | none =>
            simp only [Server.retire, hguard] at hafter
            rw [hafter]
        | some tenant =>
            simp only [Server.retire, hguard, Option.map_eq_none_iff] at hafter
            rw [hafter]
    | some q' =>
        obtain ⟨q, hq, hlimits, -⟩ := retire_quota hafter
        rw [hq, Option.map_some, Option.map_some, hlimits]
  -- the quota table counts the guards that are left
  · intro q' hq' t
    obtain ⟨q, hq, -, husage⟩ := retire_quota hq'
    have hset := countP_set (Request.holds_guard t) (b := { r with handler := .gone }) hi
    have hgone : unit (Request.holds_guard t { r with handler := .gone }) = 0 := rfl
    have hheld : unit (r.holds_guard t) = unit (r.guard = some t) := by
      simp [Request.holds_guard, hlive]
    rw [husage, h.usage q hq t, hrequests, ← hheld]
    omega
  -- a count that only went down
  · intro table htable j r' t hj hguard
    rcases getElem?_set_cases hj with ⟨rfl, rfl⟩ | ⟨-, hj⟩
    · simp [Request.holds_guard] at hguard
    · have hle := countP_take_set_le (Request.holds_guard t) (b := { r with handler := .gone }) hi
        (by simp [Request.holds_guard]) (j + 1)
      exact le_trans hle (h.order table htable j r' t hj hguard)
  · intro j r' hj hclosure
    rcases getElem?_set_cases hj with ⟨rfl, rfl⟩ | ⟨-, hj⟩
    · rcases hclosure with hq | hr
      · exact absurd hq hdone.1
      · exact absurd hr hdone.2
    · exact h.attached j r' hj hclosure

/-! ### A request arrives -/

/-- Appending a request whose execution does not exist yet. The only thing to
show is that the counters match with it. -/
theorem append_inv {s t : Server} {r : Request} (h : Inv limits plans s)
    (hrequests : t.requests = s.requests ++ [r]) (hpermits : t.permits = s.permits)
    (htables : t.quota.map TenantQuota.limits = plans)
    (hwaiting : r.handler = .waiting) (hbucket : r.bucket = none) (hclosure : r.closure = .unborn)
    (husage : ∀ q, t.quota = some q → ∀ tenant,
      q.usage tenant = s.requests.countP (Request.holds_guard tenant) + unit (r.guard = some tenant))
    (horder : ∀ table, plans = some table → ∀ tenant, r.guard = some tenant →
      s.requests.countP (Request.holds_guard tenant) < table.limit_for r.plan) :
    Inv limits plans t := by
  have hlast : ∀ (j : ℕ) (r' : Request), t.requests[j]? = some r' →
      s.requests[j]? = some r' ∨ (j = s.requests.length ∧ r' = r) := by
    intro j r' hj
    rw [hrequests, List.getElem?_append] at hj
    split at hj
    · exact Or.inl hj
    · rename_i hlen
      rw [List.getElem?_singleton] at hj
      split at hj
      · right
        exact ⟨by omega, (Option.some.inj hj).symm⟩
      · cases hj
  have hholds : ∀ tenant, unit (r.holds_guard tenant) = unit (r.guard = some tenant) := by
    intro tenant
    simp [Request.holds_guard, hwaiting]
  refine ⟨?_, ?_, ?_, htables, ?_, ?_, ?_⟩
  · rw [hrequests, hpermits, countP_append_singleton, ← h.global]
    simp [Request.holds_permit, hwaiting]
  · intro buckets hbuckets b n hn
    rw [hpermits] at hbuckets
    rw [hrequests, countP_append_singleton, ← h.bucket buckets hbuckets b n hn]
    simp [Request.holds_bucket, hwaiting]
  · intro j r' b hj hb
    rw [hpermits]
    rcases hlast j r' hj with hj | ⟨-, rfl⟩
    · exact h.bucket_lt j r' b hj hb
    · rw [hbucket] at hb
      cases hb
  · intro q hq tenant
    rw [husage q hq tenant, hrequests, countP_append_singleton, hholds]
  -- those before it keep their place in the order
  · intro table htable j r' tenant hj hguard
    rcases hlast j r' hj with hold | ⟨rfl, rfl⟩
    · have hlt : j < s.requests.length := List.getElem?_eq_some_iff.mp hold |>.1
      rw [hrequests, List.take_append_of_le_length (by omega)]
      exact h.order table htable j r' tenant hold hguard
    -- the newcomer counts everyone before it, and itself
    · have hr : r'.guard = some tenant := by
        simp only [Request.holds_guard, decide_eq_true_eq] at hguard
        exact hguard.2
      have hroom := horder table htable tenant hr
      rw [List.take_of_length_le (by rw [hrequests]; simp), hrequests, countP_append_singleton,
        hguard]
      simp only [unit_true]
      omega
  · intro j r' hj hr
    rcases hlast j r' hj with hj | ⟨-, rfl⟩
    · exact h.attached j r' hj hr
    · rw [hclosure] at hr
      rcases hr with hr | hr <;> cases hr

/-- A request that arrives holds nothing yet but its guard of the quota, which is counted when it
is taken. -/
theorem arrive_inv {s t : Server} {tenant plan partition : Option String}
    (h : Inv limits plans s) (hstep : arrive s tenant plan partition = some t) :
    Inv limits plans t := by
  unfold arrive at hstep
  split at hstep
  · rename_i q name hq
    cases hadmitted : q.admit_tenant name plan with
    | error detail =>
        -- over its limit: answered at once, and nothing was counted
        simp only [hadmitted, Option.some.injEq] at hstep
        exact hstep ▸ h
    | ok q' =>
        simp only [hadmitted, Option.some.injEq] at hstep
        obtain ⟨hlimits, hroom, hsame, hother⟩ := TenantQuota.admit_tenant_ok hadmitted
        have htable : plans = some q.limits := by rw [← h.tables, hq]; rfl
        subst hstep
        refine append_inv h rfl rfl ?_ rfl rfl rfl ?_ ?_
        · rw [htable, ← hlimits]
          rfl
        · rintro _ ⟨⟩ name'
          by_cases hname : name' = name
          · rw [hname, hsame, h.usage q hq name]
            simp
          · rw [hother name' hname, h.usage q hq name']
            simp [Ne.symm hname]
        · rintro table htable' _ ⟨⟩
          rw [htable, Option.some.injEq] at htable'
          rw [← h.usage q hq name, ← htable']
          exact hroom
  -- no quota, or no tenant to count under
  · simp only [Option.some.injEq] at hstep
    subst hstep
    refine append_inv h rfl rfl h.tables rfl rfl rfl ?_ ?_
    · intro q hq name
      rw [h.usage q hq name]
      simp
    · nofun

/-! ### The permits are taken -/

/-- What a grant takes: one permit of the bulkhead, and one of the named bucket. -/
structure Taken (permits permits' : Permits) (bucket : Option ℕ) : Prop where
  limiter : permits.limiter = permits'.limiter + 1
  share : ∀ buckets', permits'.partition_limiter = some buckets' →
    ∃ before, permits.partition_limiter = some before ∧ before.length = buckets'.length
      ∧ ∀ b n, buckets'[b]? = some n → ∃ m, before[b]? = some m ∧ m = n + unit (bucket = some b)
  bucket_lt : ∀ b, bucket = some b →
    ∃ buckets', permits'.partition_limiter = some buckets' ∧ b < buckets'.length
  enabled : permits'.partition_limiter.isSome = permits.partition_limiter.isSome

/-- What a grant takes: one permit of the limiter and, for a partition with buckets, one of the
bucket. -/
theorem acquire_permits_granted {hash : String → ℕ} {permits permits' : Permits}
    {partition : Option String} {bucket : Option ℕ}
    (h : acquire_permits hash permits partition = .granted bucket permits') :
    Taken permits permits' bucket := by
  unfold acquire_permits at h
  split at h
  · rename_i buckets id hbuckets
    cases hacquire : try_acquire hash buckets id with
    | none => simp [hacquire] at h
    | some taken =>
        obtain ⟨b₀, buckets'⟩ := taken
        cases hlimiter : permits.limiter with
        | zero => simp [hacquire, hlimiter] at h
        | succ n =>
            simp only [hacquire, hlimiter, Admission.granted.injEq] at h
            obtain ⟨rfl, rfl⟩ := h
            -- the bucket had a permit, and has one less
            obtain ⟨m, hm, hset⟩ : ∃ m, buckets[b₀]? = some (m + 1) ∧ buckets' = buckets.set b₀ m := by
              unfold try_acquire at hacquire
              split at hacquire
              · rename_i m hm
                simp only [Option.some.injEq, Prod.mk.injEq] at hacquire
                obtain ⟨rfl, rfl⟩ := hacquire
                exact ⟨m, hm, rfl⟩
              · cases hacquire
              · cases hacquire
            have hlt : b₀ < buckets.length := (List.getElem?_eq_some_iff.mp hm).1
            subst hset
            refine ⟨hlimiter, ?_, ?_, by rw [hbuckets]; rfl⟩
            · rintro _ ⟨⟩
              refine ⟨buckets, hbuckets, by simp, ?_⟩
              intro b k hk
              by_cases hb : b₀ = b
              · subst hb
                rw [List.getElem?_set_self hlt, Option.some.injEq] at hk
                exact ⟨m + 1, hm, by simp [hk]⟩
              · rw [List.getElem?_set_ne hb] at hk
                exact ⟨k, hk, by simp [hb]⟩
            · rintro b ⟨⟩
              exact ⟨_, rfl, by simpa using hlt⟩
  -- no partition limiter, or no partition: the bulkhead alone
  · cases hlimiter : permits.limiter with
    | zero => simp [hlimiter] at h
    | succ n =>
        simp only [hlimiter, Admission.granted.injEq] at h
        obtain ⟨rfl, rfl⟩ := h
        refine ⟨hlimiter, ?_, by nofun, rfl⟩
        intro buckets hbuckets
        exact ⟨buckets, hbuckets, rfl, fun b n hn => ⟨n, hn, by simp⟩⟩

/-- A waiting handler that was granted its permits. What was taken from the limiters is what the
request holds from now on, and its execution is queued behind them, so every equation keeps its
sum and no execution is there without a permit. -/
theorem grant_inv {s : Server} {i : ℕ} {r : Request} {bucket : Option ℕ} {permits : Permits}
    (h : Inv limits plans s) (hi : s.requests[i]? = some r) (hwaiting : r.handler = .waiting)
    (htaken : Taken s.permits permits bucket) :
    Inv limits plans { s with
      permits := permits
      requests := s.requests.set i
        { r with bucket, handler := .executing, closure := .queued } } := by
  have hguard : ∀ t, Request.holds_guard t
      { r with bucket, handler := .executing, closure := .queued } = r.holds_guard t := by
    intro t
    simp [Request.holds_guard, hwaiting]
  refine ⟨?_, ?_, ?_, h.tables, ?_, ?_, ?_⟩
  -- the bulkhead: one permit left it, one handler holds it
  · have hset := countP_set Request.holds_permit
      (b := { r with bucket, handler := .executing, closure := .queued }) hi
    have hold : unit r.holds_permit = 0 := by simp [Request.holds_permit, hwaiting]
    have hnew : unit (Request.holds_permit
        { r with bucket, handler := .executing, closure := .queued }) = 1 := rfl
    have hglobal := h.global
    have hlimiter := htaken.limiter
    show permits.limiter + (s.requests.set i _).countP Request.holds_permit = _
    omega
  -- each bucket, the one the permit came from and the others
  · intro buckets hbuckets b n hn
    obtain ⟨before, hbefore, -, hshare⟩ := htaken.share buckets hbuckets
    obtain ⟨m, hm, hmn⟩ := hshare b n hn
    have hset := countP_set (Request.holds_bucket b)
      (b := { r with bucket, handler := .executing, closure := .queued }) hi
    have hold : unit (r.holds_bucket b) = 0 := by simp [Request.holds_bucket, hwaiting]
    have hnew : unit (Request.holds_bucket b
        { r with bucket, handler := .executing, closure := .queued })
        = unit (bucket = some b) := by
      simp [Request.holds_bucket]
    have hbucket := h.bucket before hbefore b m hm
    show n + (s.requests.set i _).countP (Request.holds_bucket b) = _
    omega
  · intro j r' b hj hb
    rcases getElem?_set_cases hj with ⟨-, rfl⟩ | ⟨-, hj⟩
    · exact htaken.bucket_lt b hb
    · obtain ⟨before, hbefore, hlt⟩ := h.bucket_lt j r' b hj hb
      have hsome : permits.partition_limiter.isSome := by
        rw [htaken.enabled, hbefore]
        rfl
      obtain ⟨buckets, hbuckets⟩ := Option.isSome_iff_exists.mp hsome
      obtain ⟨before', hbefore', hlen, -⟩ := htaken.share buckets hbuckets
      rw [hbefore, Option.some.injEq] at hbefore'
      exact ⟨buckets, hbuckets, by rw [← hlen, ← hbefore']; exact hlt⟩
  · intro q hq t
    have hset := countP_set (Request.holds_guard t)
      (b := { r with bucket, handler := .executing, closure := .queued }) hi
    rw [hguard] at hset
    have husage := h.usage q hq t
    show q.usage t = (s.requests.set i _).countP (Request.holds_guard t)
    omega
  -- the guards are where they were
  · intro table htable j r' t hj hheld
    have hle := countP_take_set_le (Request.holds_guard t)
      (b := { r with bucket, handler := .executing, closure := .queued }) hi
      (by rw [hguard]; exact id) (j + 1)
    apply le_trans hle
    rcases getElem?_set_cases hj with ⟨rfl, rfl⟩ | ⟨-, hj⟩
    · rw [hguard] at hheld
      exact h.order table htable j r t hi hheld
    · exact h.order table htable j r' t hj hheld
  · intro j r' hj hclosure
    rcases getElem?_set_cases hj with ⟨-, rfl⟩ | ⟨-, hj⟩
    · rfl
    · exact h.attached j r' hj hclosure

/-- A handler that is granted its permits is one more holder of each of them; one that is shed
ends, and holds nothing. -/
theorem acquire_inv {s t : Server} {i : ℕ} (h : Inv limits plans s)
    (hstep : acquire limits.hash s i = some t) : Inv limits plans t := by
  unfold acquire at hstep
  cases hi : s.requests[i]? with
  | none => simp [hi] at hstep
  | some r =>
      simp only [hi] at hstep
      by_cases hwaiting : r.handler = .waiting
      · rw [if_pos hwaiting] at hstep
        -- a handler that is shed has no execution yet
        have hshed : Inv limits plans (s.retire i r) := by
          refine retire_inv h hi (by rw [hwaiting]; nofun) ⟨?_, ?_⟩
          · intro hq
            have := h.attached i r hi (Or.inl hq)
            rw [hwaiting] at this
            cases this
          · intro hr
            have := h.attached i r hi (Or.inr hr)
            rw [hwaiting] at this
            cases this
        cases hacquire : acquire_permits limits.hash s.permits r.partition with
        | partition_busy =>
            simp only [hacquire, Option.some.injEq] at hstep
            exact hstep ▸ hshed
        | global_busy =>
            simp only [hacquire, Option.some.injEq] at hstep
            exact hstep ▸ hshed
        | granted bucket permits =>
            simp only [hacquire, Option.some.injEq] at hstep
            subst hstep
            exact grant_inv h hi hwaiting (acquire_permits_granted hacquire)
      · rw [if_neg hwaiting] at hstep
        cases hstep

/-! ### The execution moves on -/

/-- A change of the execution alone moves no permit and no guard. The equations are about handlers
only; what is left to see is that an execution which is queued or running has its handler still
waiting for it. -/
theorem closure_inv {s : Server} {i : ℕ} {r : Request} {closure : Closure}
    (h : Inv limits plans s) (hi : s.requests[i]? = some r)
    (hattached : closure = .queued ∨ closure = .running → r.handler = .executing) :
    Inv limits plans { s with requests := s.requests.set i { r with closure } } := by
  -- the three counts read the handler, the guard and the bucket
  have hcount : ∀ p : Request → Bool, p { r with closure } = p r →
      (s.requests.set i { r with closure }).countP p = s.requests.countP p := by
    intro p hp
    have hset := countP_set p (b := { r with closure }) hi
    rw [hp] at hset
    omega
  refine ⟨?_, ?_, ?_, h.tables, ?_, ?_, ?_⟩
  · rw [← h.global, ← hcount Request.holds_permit rfl]
  · intro buckets hbuckets b n hn
    rw [← h.bucket buckets hbuckets b n hn, ← hcount (Request.holds_bucket b) rfl]
  · intro j r' b hj hb
    rcases getElem?_set_cases hj with ⟨rfl, rfl⟩ | ⟨-, hj⟩
    · exact h.bucket_lt j r b hi hb
    · exact h.bucket_lt j r' b hj hb
  · intro q hq t
    rw [h.usage q hq t, ← hcount (Request.holds_guard t) rfl]
  · intro table htable j r' t hj hheld
    have hle := countP_take_set_le (Request.holds_guard t) (b := { r with closure }) hi id (j + 1)
    apply le_trans hle
    rcases getElem?_set_cases hj with ⟨rfl, rfl⟩ | ⟨-, hj⟩
    · exact h.order table htable j r t hi hheld
    · exact h.order table htable j r' t hj hheld
  · intro j r' hj hclosure
    rcases getElem?_set_cases hj with ⟨-, rfl⟩ | ⟨-, hj⟩
    · exact hattached hclosure
    · exact h.attached j r' hj hclosure

/-- The closure begins. Its handler executes already, so nobody's holdings change, and one queued
execution has become a running one. -/
theorem start_inv {s t : Server} {i : ℕ} (h : Inv limits plans s)
    (hstep : start s i = some t) : Inv limits plans t := by
  unfold start at hstep
  cases hi : s.requests[i]? with
  | none => simp [hi] at hstep
  | some r =>
      simp only [hi, Option.ite_none_right_eq_some, Option.some.injEq] at hstep
      obtain ⟨hqueued, rfl⟩ := hstep
      exact closure_inv h hi fun _ => h.attached i r hi (Or.inl hqueued)

/-- The closure ends, and the handler still holds what it held: the permits are given back by the
handler, not by the closure. -/
theorem complete_inv {s t : Server} {i : ℕ} (h : Inv limits plans s)
    (hstep : complete s i = some t) : Inv limits plans t := by
  unfold complete at hstep
  cases hi : s.requests[i]? with
  | none => simp [hi] at hstep
  | some r =>
      simp only [hi, Option.ite_none_right_eq_some, Option.some.injEq] at hstep
      obtain ⟨hrunning, rfl⟩ := hstep
      exact closure_inv h hi fun _ => h.attached i r hi (Or.inr hrunning)

/-- A handler whose closure has ended retires, and gives back what it held. The closure is set to
ended first, so `retire_inv` applies to what is left. -/
theorem finish_inv {s t : Server} {i : ℕ} (h : Inv limits plans s)
    (hstep : finish s i = some t) : Inv limits plans t := by
  unfold finish at hstep
  cases hi : s.requests[i]? with
  | none => simp [hi] at hstep
  | some r =>
      simp only [hi, Option.ite_none_right_eq_some, Option.some.injEq] at hstep
      obtain ⟨⟨hexec, hdone⟩, rfl⟩ := hstep
      exact retire_inv h hi (by rw [hexec]; nofun) (by rw [hdone]; exact ⟨nofun, nofun⟩)

/-- The one step that needs the guard. A handler that is dropped gives its permits back at once;
only if nothing of its execution is queued or running does the invariant survive that. -/
theorem disconnect_inv {s t : Server} {i : ℕ} (h : Inv limits plans s)
    (hattached : AttachedDrop s (.disconnect i)) (hstep : disconnect s i = some t) :
    Inv limits plans t := by
  unfold disconnect at hstep
  cases hi : s.requests[i]? with
  | none => simp [hi] at hstep
  | some r =>
      simp only [hi, Option.ite_none_left_eq_some, Option.some.injEq] at hstep
      obtain ⟨hlive, rfl⟩ := hstep
      exact retire_inv h hi hlive (hattached r hi)

/-- Every event keeps the invariant, as long as no handler is dropped under a closure that is not
done. That one event is `AttachedDrop`'s to exclude: it gives the permits back while the execution
goes on. -/
theorem step_inv (s : Server) (e : Event) (t : Server) (h : Inv limits plans s)
    (hattached : AttachedDrop s e) (hstep : step limits s e = some t) : Inv limits plans t := by
  cases e with
  | arrive tenant plan partition => exact arrive_inv h hstep
  | acquire i => exact acquire_inv h hstep
  | start i => exact start_inv h hstep
  | complete i => exact complete_inv h hstep
  | finish i => exact finish_inv h hstep
  | disconnect i => exact disconnect_inv h hattached hstep

/-! ## Whole runs -/

/-- **The limits bound the executions**, in every run in which no handler is
dropped while its execution is queued or running. -/
theorem concurrency_bounded (limits : Limits) (plans : Option PlanLimits) (events : List Event)
    (s : Server) (hrun : run (step limits) (Server.new limits plans) events = some s)
    (hattached : Guarded (step limits) AttachedDrop (Server.new limits plans) events) :
    Bounded limits plans s := by
  have hinv : Inv limits plans s :=
    run_inv_of_guarded step_inv (inv_new limits plans) hattached hrun
  exact hinv.bounded

/-- One execution at a time: for the server, for the one bucket, and for a tenant
on the plan `free`. -/
def one_each : Limits where
  max_concurrent_executions := 1
  partition_buckets := 1
  max_concurrent_per_partition := 1
  hash := fun _ => 0

def free_plan : PlanLimits := AList.singleton "free" ⟨1⟩

/-- A tenant's second request, after the first one has run to its end. -/
def one_after_the_other : List Event :=
  [.arrive (some "acme") (some "free") (some "acme"), .acquire 0, .start 0, .complete 0, .finish 0,
    .arrive (some "acme") (some "free") (some "acme"), .acquire 1, .start 1]

/-- One execution at a time, and a second behind it that waits for its permit. -/
theorem concurrency_bounded_one_each :
    ∃ s, run (step one_each) (Server.new one_each (some free_plan)) one_after_the_other = some s
      ∧ s.requests.countP Request.is_running = 1 ∧ Bounded one_each (some free_plan) s := by
  have hcount : (run (step one_each) (Server.new one_each (some free_plan))
      one_after_the_other).map (fun s => s.requests.countP Request.is_running) = some 1 := by
    decide +kernel
  rw [Option.map_eq_some_iff] at hcount
  obtain ⟨s, hrun, hone⟩ := hcount
  refine ⟨s, hrun, hone, ?_⟩
  exact concurrency_bounded one_each (some free_plan) one_after_the_other s hrun
    (by decide +kernel)

/-- The same two requests, when the client of the first one disconnects while its
execution runs. -/
def one_dropped : List Event :=
  [.arrive (some "acme") (some "free") (some "acme"), .acquire 0, .start 0, .disconnect 0,
    .arrive (some "acme") (some "free") (some "acme"), .acquire 1, .start 1]

/-- **A dropped handler overcommits**: its permits and its quota are back while its
execution still runs, and all three limits of one are exceeded by two. -/
theorem dropped_handler_overcommits :
    ∃ s, run (step one_each) (Server.new one_each (some free_plan)) one_dropped = some s
      ∧ s.requests.countP Request.is_running = 2
      ∧ s.requests.countP (Request.runs_in 0) = 2
      ∧ s.requests.countP (Request.runs_for "acme") = 2
      ∧ free_plan.limit_for (some "free") = 1
      ∧ ¬ Bounded one_each (some free_plan) s := by
  have hcount : (run (step one_each) (Server.new one_each (some free_plan)) one_dropped).map
      (fun s => (s.requests.countP Request.is_running, s.requests.countP (Request.runs_in 0),
        s.requests.countP (Request.runs_for "acme"))) = some (2, 2, 2) := by
    decide +kernel
  rw [Option.map_eq_some_iff] at hcount
  obtain ⟨s, hrun, hcounts⟩ := hcount
  simp only [Prod.mk.injEq] at hcounts
  obtain ⟨hrunning, hbucket, htenant⟩ := hcounts
  refine ⟨s, hrun, hrunning, hbucket, htenant, by decide +kernel, ?_⟩
  intro hbounded
  have hglobal := hbounded.global
  rw [hrunning] at hglobal
  exact absurd hglobal (by decide)

end Runlet.Concurrency
