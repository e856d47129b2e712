/-
Two-level admission with its permits (`acquire_permits` in
`crates/runlet/src/handler.rs`, the partition limiter in
`crates/runlet-core/src/partition.rs`).

`Concurrency` has `acquire_permits` by its answer. Here it is the function on the
semaphores themselves: the bucket permit is taken first, and where the bulkhead then
refuses, it is dropped on the way out. That this gives every semaphore back as it was is
`acquire_permits_eq`, which is also the link to `Concurrency`.

Admissions and releases are atomic, in any order. `two_level_admission` is what the
semaphores say after any sequence of them.
-/
import Runlet.Concurrency

set_option autoImplicit false

namespace Runlet.Admission

open Machine Runlet.Concurrency

/-- `Admission`, with the bucket the partition permit is of. -/
inductive Outcome
  | granted (partition_permit : Option ℕ)
  | partition_busy
  | global_busy
  deriving DecidableEq, Repr

/-- `try_acquire_owned` on a semaphore with that many permits left. -/
def try_acquire_owned : ℕ → Option ℕ
  | 0 => none
  | n + 1 => some n

/-- `partition_permit` goes out of scope. -/
def drop_partition_permit (permits : Permits) (partition_permit : Option ℕ) : Permits where
  limiter := permits.limiter
  partition_limiter := permits.partition_limiter.map fun buckets =>
    match partition_permit with
    | none => buckets
    | some b => buckets.modify b (· + 1)

/-- The partition's permit, when there is a limiter and a key. -/
def take_partition_permit (hash : String → ℕ) (permits : Permits) (partition : Option String) :
    Option (Option ℕ × Permits) :=
  match permits.partition_limiter, partition with
  | some buckets, some id =>
    match try_acquire hash buckets id with
    | none => none
    | some (bucket, buckets') => some (some bucket, ⟨permits.limiter, some buckets'⟩)
  | _, _ => some (none, permits)

/-- `acquire_permits`, with the semaphores it leaves. -/
def acquire_permits (hash : String → ℕ) (permits : Permits) (partition : Option String) :
    Outcome × Permits :=
  match take_partition_permit hash permits partition with
  | none => (.partition_busy, permits)
  | some (partition_permit, held) =>
    match try_acquire_owned held.limiter with
    | some left => (.granted partition_permit, { held with limiter := left })
    | none => (.global_busy, drop_partition_permit held partition_permit)

/-! ## A shed request gives everything back -/

/-- The answer of `Concurrency.acquire_permits`, with the semaphores behind it. -/
def settle (permits : Permits) : Admission → Outcome × Permits
  | .granted bucket left => (.granted bucket, left)
  | .partition_busy => (.partition_busy, permits)
  | .global_busy => (.global_busy, permits)

/-- A permit of a bucket is the bucket's that the key hashes to, and that bucket has one less. -/
theorem try_acquire_some {hash : String → ℕ} {buckets buckets' : List ℕ} {id : String} {b : ℕ}
    (h : try_acquire hash buckets id = some (b, buckets')) :
    b = bucket_for hash buckets id ∧ ∃ n, buckets[b]? = some (n + 1) ∧ buckets' = buckets.set b n := by
  rw [try_acquire] at h
  split at h
  · rename_i n hn
    rw [Option.some.injEq, Prod.mk.injEq] at h
    obtain ⟨rfl, rfl⟩ := h
    exact ⟨rfl, n, hn, rfl⟩
  · cases h
  · cases h

/-- A key without a permit hashes to a bucket with none left. -/
theorem try_acquire_none {hash : String → ℕ} {buckets : List ℕ} {id : String}
    (h : try_acquire hash buckets id = none) (hlt : bucket_for hash buckets id < buckets.length) :
    buckets[bucket_for hash buckets id]? = some 0 := by
  rw [try_acquire] at h
  split at h
  · cases h
  · assumption
  · rename_i hnone
    rw [List.getElem?_eq_none_iff] at hnone
    omega

/-- Taking a permit of a bucket and dropping it is nothing. -/
theorem modify_set {buckets : List ℕ} {b n : ℕ} (h : buckets[b]? = some (n + 1)) :
    (buckets.set b n).modify b (· + 1) = buckets := by
  apply List.ext_getElem?
  intro i
  rw [List.getElem?_modify, List.getElem?_set]
  by_cases hi : b = i
  · subst hi
    obtain ⟨hlt, -⟩ := List.getElem?_eq_some_iff.mp h
    simp only [if_true, hlt, h]
    rfl
  · simp only [if_neg hi]
    exact Option.map_id'

/-- **Both levels, or nothing.** The semaphores after `acquire_permits` are those of its
answer; where it sheds the request, they are the ones it found. -/
theorem acquire_permits_eq (hash : String → ℕ) (permits : Permits) (partition : Option String) :
    acquire_permits hash permits partition
      = settle permits (Concurrency.acquire_permits hash permits partition) := by
  obtain ⟨limiter, partition_limiter⟩ := permits
  cases partition_limiter with
  | none =>
      cases limiter with
      | zero => rfl
      | succ n => rfl
  | some buckets =>
      cases partition with
      | none =>
          cases limiter with
          | zero => rfl
          | succ n => rfl
      | some id =>
          unfold acquire_permits take_partition_permit Concurrency.acquire_permits
          dsimp only
          cases htry : try_acquire hash buckets id with
          | none => rfl
          | some taken =>
              obtain ⟨b, buckets'⟩ := taken
              cases limiter with
              | succ n => rfl
              | zero =>
                  -- the bulkhead refuses: the bucket permit goes back where it came from
                  obtain ⟨-, n, hn, rfl⟩ := try_acquire_some htry
                  dsimp only [try_acquire_owned, drop_partition_permit, settle, Option.map_some]
                  rw [modify_set hn]

/-! ## Sequences of admissions and releases -/

/-- The semaphores, and the bucket of each live execution. Two executions of one bucket
hold the same permits, so they are not told apart. -/
structure Floor where
  permits : Permits
  live : List (Option ℕ)

/-- A server with nothing running. -/
def Floor.new (limits : Limits) : Floor where
  permits := ⟨limits.max_concurrent_executions,
    PartitionLimiter.new limits.partition_buckets limits.max_concurrent_per_partition⟩
  live := []

inductive Event
  | request (partition : Option String)
  /-- A live execution of that bucket ends, and its permits are dropped. -/
  | release (bucket : Option ℕ)

def step (limits : Limits) (s : Floor) : Event → Option Floor
  | .request partition =>
    match acquire_permits limits.hash s.permits partition with
    | (.granted bucket, permits) => some ⟨permits, bucket :: s.live⟩
    | (.partition_busy, permits) => some ⟨permits, s.live⟩
    | (.global_busy, permits) => some ⟨permits, s.live⟩
  | .release bucket =>
    if bucket ∈ s.live then some ⟨s.permits.release bucket, s.live.erase bucket⟩ else none

/-- What each semaphore counts. -/
structure Inv (limits : Limits) (s : Floor) : Prop where
  global : s.permits.limiter + s.live.length = limits.max_concurrent_executions
  enabled : s.permits.partition_limiter.map List.length
    = (PartitionLimiter.new limits.partition_buckets
        limits.max_concurrent_per_partition).map List.length
  bucket : ∀ buckets, s.permits.partition_limiter = some buckets → ∀ b n, buckets[b]? = some n →
    n + s.live.count (some b) = limits.max_concurrent_per_partition
  live : ∀ b, some b ∈ s.live →
    ∃ buckets, s.permits.partition_limiter = some buckets ∧ b < buckets.length

/-- What a granted admission took: one permit of the global limiter, and one of the bucket that
the partition hashes to, where there are buckets and a partition. Everything else is as it was. -/
theorem acquire_permits_granted {hash : String → ℕ} {permits left : Permits}
    {partition : Option String} {bucket : Option ℕ}
    (h : acquire_permits hash permits partition = (.granted bucket, left)) :
    permits.limiter = left.limiter + 1
      ∧ (bucket = none ∧ left.partition_limiter = permits.partition_limiter
          ∧ (permits.partition_limiter = none ∨ partition = none)
        ∨ ∃ buckets id n, permits.partition_limiter = some buckets ∧ partition = some id
          ∧ bucket = some (bucket_for hash buckets id)
          ∧ buckets[bucket_for hash buckets id]? = some (n + 1)
          ∧ left.partition_limiter = some (buckets.set (bucket_for hash buckets id) n)) := by
  rw [acquire_permits_eq] at h
  unfold Concurrency.acquire_permits at h
  split at h
  · rename_i buckets id hbuckets
    split at h
    · cases h
    · rename_i b buckets' htry
      obtain ⟨rfl, n, hn, rfl⟩ := try_acquire_some htry
      -- the bucket has let it in; the bulkhead is asked next
      split at h
      · cases h
      · rename_i m hm
        rw [settle, Prod.mk.injEq, Outcome.granted.injEq] at h
        obtain ⟨rfl, rfl⟩ := h
        exact ⟨hm, Or.inr ⟨buckets, id, n, hbuckets, rfl, rfl, hn, rfl⟩⟩
  · rename_i hnot
    split at h
    · cases h
    · rename_i m hm
      rw [settle, Prod.mk.injEq, Outcome.granted.injEq] at h
      obtain ⟨rfl, rfl⟩ := h
      refine ⟨hm, Or.inl ⟨rfl, rfl, ?_⟩⟩
      -- with a limiter and a key the other branch would have been taken
      by_contra hboth
      rw [not_or] at hboth
      obtain ⟨buckets, hbuckets⟩ := Option.ne_none_iff_exists'.mp hboth.1
      obtain ⟨id, hid⟩ := Option.ne_none_iff_exists'.mp hboth.2
      exact hnot buckets id hbuckets hid

section Steps

variable {limits : Limits} {s : Floor}

/-- An empty floor has all its permits: nothing is live, and the buckets are full. -/
theorem inv_new (limits : Limits) : Inv limits (Floor.new limits) := by
  refine ⟨rfl, rfl, ?_, ?_⟩
  · intro buckets hbuckets b n hb
    rw [Floor.new, PartitionLimiter.new] at hbuckets
    split at hbuckets
    · cases hbuckets
    · rw [Option.some.injEq] at hbuckets
      rw [← hbuckets, List.getElem?_replicate] at hb
      split at hb
      · rw [← Option.some.inj hb]
        rfl
      · cases hb
  · intro b hb
    cases hb

/-- One execution more. The global limiter has one permit less for it, and so has its bucket; the
other buckets and their executions are untouched. -/
theorem inv_grant (h : Inv limits s) {partition : Option String} {bucket : Option ℕ}
    {left : Permits}
    (hgrant : acquire_permits limits.hash s.permits partition = (.granted bucket, left)) :
    Inv limits ⟨left, bucket :: s.live⟩ := by
  obtain ⟨hlimiter, htaken⟩ := acquire_permits_granted hgrant
  have hglobal : left.limiter + (bucket :: s.live).length = limits.max_concurrent_executions := by
    have := h.global
    rw [List.length_cons]
    omega
  rcases htaken with ⟨rfl, hsame, -⟩ | ⟨buckets, id, n, hbuckets, -, rfl, hn, hleft⟩
  -- no permit of a bucket: the buckets are as before
  · refine ⟨hglobal, ?_, ?_, ?_⟩
    · rw [hsame]
      exact h.enabled
    · intro buckets hbuckets b n hb
      rw [List.count_cons_of_ne (by simp)]
      exact h.bucket buckets (hsame ▸ hbuckets) b n hb
    · intro b hb
      rw [hsame]
      exact h.live b (List.mem_of_ne_of_mem (by simp) hb)
  -- its bucket has one permit less and one execution more, the others are as before
  · obtain ⟨hlt, -⟩ := List.getElem?_eq_some_iff.mp hn
    refine ⟨hglobal, ?_, ?_, ?_⟩
    · rw [hleft, Option.map_some, List.length_set, ← h.enabled, hbuckets, Option.map_some]
    · intro buckets' hbuckets' b m hb
      rw [hleft, Option.some.injEq] at hbuckets'
      rw [← hbuckets', List.getElem?_set] at hb
      by_cases hown : bucket_for limits.hash buckets id = b
      · rw [if_pos hown, if_pos hlt, Option.some.injEq] at hb
        have hcount := h.bucket buckets hbuckets _ _ hn
        rw [← hb, ← hown, List.count_cons_self]
        omega
      · rw [if_neg hown] at hb
        rw [List.count_cons_of_ne (fun heq => hown (Option.some.inj heq))]
        exact h.bucket buckets hbuckets b m hb
    · intro b hb
      refine ⟨_, hleft, ?_⟩
      rw [List.length_set]
      rcases List.mem_cons.mp hb with hb | hb
      · rw [Option.some.inj hb]
        exact hlt
      · obtain ⟨buckets', hbuckets', hb'⟩ := h.live b hb
        rw [hbuckets, Option.some.injEq] at hbuckets'
        rw [hbuckets']
        exact hb'

/-- One execution less. It is one of the live ones, so its bucket is counted among them, and what
it gives back is what its count loses. -/
theorem inv_release (h : Inv limits s) {bucket : Option ℕ} (hmem : bucket ∈ s.live) :
    Inv limits ⟨s.permits.release bucket, s.live.erase bucket⟩ := by
  have hpos := List.length_pos_of_mem hmem
  have hglobal : (s.permits.release bucket).limiter + (s.live.erase bucket).length
      = limits.max_concurrent_executions := by
    have hlimiter : (s.permits.release bucket).limiter = s.permits.limiter + 1 := rfl
    have := h.global
    rw [hlimiter, List.length_erase_of_mem hmem]
    omega
  have hlive : ∀ b, some b ∈ s.live.erase bucket → some b ∈ s.live :=
    fun b hb => List.mem_of_mem_erase hb
  cases bucket with
  | none =>
      have hsame : (s.permits.release none).partition_limiter = s.permits.partition_limiter :=
        Option.map_id'
      refine ⟨hglobal, ?_, ?_, ?_⟩
      · rw [hsame]
        exact h.enabled
      · intro buckets hbuckets b n hb
        rw [List.count_erase_of_ne (by simp)]
        exact h.bucket buckets (hsame ▸ hbuckets) b n hb
      · intro b hb
        rw [hsame]
        exact h.live b (hlive b hb)
  | some c =>
      -- the bucket is there: the execution holds a permit of it
      obtain ⟨buckets, hbuckets, hlt⟩ := h.live c hmem
      have hleft : (s.permits.release (some c)).partition_limiter
          = some (buckets.modify c (· + 1)) := by
        rw [Permits.release, hbuckets]
        rfl
      refine ⟨hglobal, ?_, ?_, ?_⟩
      · rw [hleft, Option.map_some, List.length_modify, ← h.enabled, hbuckets, Option.map_some]
      · intro buckets' hbuckets' b m hb
        rw [hleft, Option.some.injEq] at hbuckets'
        rw [← hbuckets', List.getElem?_modify] at hb
        obtain ⟨n, hn, rfl⟩ := Option.map_eq_some_iff.mp hb
        have hcount := h.bucket buckets hbuckets b n hn
        by_cases hown : c = b
        · subst hown
          have hin : 0 < s.live.count (some c) := List.count_pos_iff.mpr hmem
          rw [if_pos rfl, List.count_erase_self]
          omega
        · rw [if_neg hown, List.count_erase_of_ne (fun heq => hown (Option.some.inj heq).symm)]
          exact hcount
      · intro b hb
        refine ⟨_, hleft, ?_⟩
        obtain ⟨buckets', hbuckets', hb'⟩ := h.live b (hlive b hb)
        rw [hbuckets, Option.some.injEq] at hbuckets'
        rw [List.length_modify, hbuckets']
        exact hb'

/-- A shed request leaves every semaphore as it found it. -/
theorem acquire_permits_shed {hash : String → ℕ} {permits left : Permits}
    {partition : Option String} {outcome : Outcome}
    (h : acquire_permits hash permits partition = (outcome, left))
    (hshed : ∀ bucket, outcome ≠ .granted bucket) : left = permits := by
  rw [acquire_permits_eq] at h
  cases hadmission : Concurrency.acquire_permits hash permits partition with
  | granted bucket permits' =>
      rw [hadmission, settle, Prod.mk.injEq] at h
      exact absurd h.1.symm (hshed bucket)
  | partition_busy =>
      rw [hadmission, settle, Prod.mk.injEq] at h
      exact h.2.symm
  | global_busy =>
      rw [hadmission, settle, Prod.mk.injEq] at h
      exact h.2.symm

/-- Every event of the floor keeps the count: an admission takes one permit on each level for the
one live execution it adds, and an end gives both back. -/
theorem inv_step (s : Floor) (e : Event) (t : Floor) (h : Inv limits s)
    (hstep : step limits s e = some t) : Inv limits t := by
  cases e with
  | request partition =>
      rw [step] at hstep
      split at hstep
      · rename_i bucket permits hgrant
        rw [← Option.some.inj hstep]
        exact inv_grant h hgrant
      · rename_i permits hbusy
        rw [← Option.some.inj hstep, acquire_permits_shed hbusy (by simp)]
        exact h
      · rename_i permits hbusy
        rw [← Option.some.inj hstep, acquire_permits_shed hbusy (by simp)]
        exact h
  | release bucket =>
      rw [step] at hstep
      by_cases hmem : bucket ∈ s.live
      · rw [if_pos hmem] at hstep
        rw [← Option.some.inj hstep]
        exact inv_release h hmem
      · rw [if_neg hmem] at hstep
        cases hstep

end Steps

/-- The bucket a key maps to, when the limiter is on. -/
def key_bucket (limits : Limits) (key : String) : ℕ := limits.hash key % limits.partition_buckets

/-- What two-level admission owes on a floor with these live executions. -/
structure TwoLevel (limits : Limits) (s : Floor) : Prop where
  bucket_bound : ∀ b, s.live.count (some b) ≤ limits.max_concurrent_per_partition
  global : s.permits.limiter + s.live.length = limits.max_concurrent_executions
  bucket : ∀ buckets, s.permits.partition_limiter = some buckets →
    buckets.length = limits.partition_buckets ∧ ∀ b n, buckets[b]? = some n →
      n + s.live.count (some b) = limits.max_concurrent_per_partition
  shed : ∀ partition outcome left,
    acquire_permits limits.hash s.permits partition = (outcome, left) →
    (∀ bucket, outcome ≠ .granted bucket) → left = s.permits
  global_busy : ∀ partition left,
    acquire_permits limits.hash s.permits partition = (.global_busy, left) → s.permits.limiter = 0
  partition_busy : ∀ partition left,
    acquire_permits limits.hash s.permits partition = (.partition_busy, left) →
    ∃ key buckets, partition = some key ∧ s.permits.partition_limiter = some buckets
      ∧ buckets[key_bucket limits key]? = some 0
      ∧ s.live.count (some (key_bucket limits key)) = limits.max_concurrent_per_partition
  /-- The permit of a key is of the key's bucket, in every state the same. -/
  own_bucket : ∀ key bucket left,
    acquire_permits limits.hash s.permits (some key) = (.granted bucket, left) →
    bucket = s.permits.partition_limiter.map fun _ => key_bucket limits key
  bucket_lt : ∀ key, s.permits.partition_limiter.isSome = true →
    key_bucket limits key < limits.partition_buckets

/-- While the limiter is on it has all its buckets, and there is at least one, so that every key
has a bucket to hash to. -/
theorem Inv.buckets {limits : Limits} {s : Floor} (h : Inv limits s) {buckets : List ℕ}
    (hbuckets : s.permits.partition_limiter = some buckets) :
    buckets.length = limits.partition_buckets ∧ 0 < limits.partition_buckets := by
  have henabled := h.enabled
  rw [hbuckets, Option.map_some, PartitionLimiter.new] at henabled
  split at henabled
  · cases henabled
  · rename_i hon
    rw [Option.map_some, Option.some.injEq, List.length_replicate] at henabled
    rw [not_or] at hon
    exact ⟨henabled, Nat.pos_of_ne_zero hon.2⟩

/-- The bucket of a key is the same in every state: the number of buckets does not change. -/
theorem Inv.bucket_for_eq {limits : Limits} {s : Floor} (h : Inv limits s) {buckets : List ℕ}
    (hbuckets : s.permits.partition_limiter = some buckets) (key : String) :
    Concurrency.bucket_for limits.hash buckets key = key_bucket limits key := by
  obtain ⟨hlen, hpos⟩ := h.buckets hbuckets
  rw [Concurrency.bucket_for, if_neg (by omega), hlen, key_bucket]

/-- What the two refusals mean. -/
theorem acquire_permits_busy {hash : String → ℕ} {permits left : Permits}
    {partition : Option String} :
    (acquire_permits hash permits partition = (.global_busy, left) → permits.limiter = 0)
      ∧ (acquire_permits hash permits partition = (.partition_busy, left) →
        ∃ key buckets, partition = some key ∧ permits.partition_limiter = some buckets
          ∧ try_acquire hash buckets key = none) := by
  rw [acquire_permits_eq]
  unfold Concurrency.acquire_permits
  split
  · rename_i buckets key hbuckets
    split
    · rename_i htry
      exact ⟨fun h => (by cases h), fun _ => ⟨key, buckets, rfl, hbuckets, htry⟩⟩
    · split
      · rename_i hzero
        exact ⟨fun _ => hzero, fun h => by cases h⟩
      · exact ⟨fun h => (by cases h), fun h => by cases h⟩
  · split
    · rename_i hzero
      exact ⟨fun _ => hzero, fun h => by cases h⟩
    · exact ⟨fun h => (by cases h), fun h => by cases h⟩

/-- What the two levels owe is read off the count: a level sheds exactly where its count is used
up, and a bound on the live executions is the permits it started with. -/
theorem Inv.two_level {limits : Limits} {s : Floor} (h : Inv limits s) : TwoLevel limits s := by
  constructor
  · intro b
    by_cases hmem : some b ∈ s.live
    · obtain ⟨buckets, hbuckets, hlt⟩ := h.live b hmem
      have hcount := h.bucket buckets hbuckets b _ (List.getElem?_eq_getElem hlt)
      omega
    -- a bucket without executions, or no bucket at all
    · rw [List.count_eq_zero.mpr hmem]
      exact Nat.zero_le _
  · exact h.global
  · intro buckets hbuckets
    exact ⟨(h.buckets hbuckets).1, h.bucket buckets hbuckets⟩
  · intro partition outcome left
    exact acquire_permits_shed
  · intro partition left
    exact acquire_permits_busy.1
  · intro partition left hbusy
    obtain ⟨key, buckets, hkey, hbuckets, htry⟩ := acquire_permits_busy.2 hbusy
    obtain ⟨hlen, hpos⟩ := h.buckets hbuckets
    have hlt : bucket_for limits.hash buckets key < buckets.length := by
      rw [h.bucket_for_eq hbuckets, hlen]
      exact Nat.mod_lt _ hpos
    -- no permit is left, so the executions hold them all
    have hfull := try_acquire_none htry hlt
    have hcount := h.bucket buckets hbuckets _ _ hfull
    rw [h.bucket_for_eq hbuckets] at hfull hcount
    refine ⟨key, buckets, hkey, hbuckets, hfull, ?_⟩
    omega
  · intro key bucket left hgrant
    obtain ⟨-, htaken⟩ := acquire_permits_granted hgrant
    rcases htaken with ⟨rfl, -, hoff⟩ | ⟨buckets, id, n, hbuckets, hid, rfl, -, -⟩
    · rcases hoff with hoff | hoff
      · rw [hoff]
        rfl
      · cases hoff
    · rw [hbuckets, Option.map_some, h.bucket_for_eq hbuckets, Option.some.inj hid]
  · intro key hon
    obtain ⟨buckets, hbuckets⟩ := Option.isSome_iff_exists.mp hon
    exact Nat.mod_lt _ (h.buckets hbuckets).2

/-- **Two-level admission.** After any sequence of admissions and releases every semaphore
has what its live executions leave of its capacity, and every refusal is for the reason it
gives and takes nothing. -/
theorem two_level_admission (limits : Limits) (events : List Event) (s : Floor)
    (hrun : run (step limits) (Floor.new limits) events = some s) : TwoLevel limits s := by
  have hinv : Inv limits s :=
    run_inv inv_step (inv_new limits) hrun
  exact hinv.two_level

/-- Two executions at once, one in each bucket. -/
def two_slots : Limits where
  max_concurrent_executions := 2
  partition_buckets := 2
  max_concurrent_per_partition := 1
  hash := String.length

/-- The second request of `a` is shed by its bucket, that of `bb` runs, and the one of
`cc` is shed there too; then a request without a key is shed by the bulkhead. -/
theorem two_level_admission_full :
    ∃ s, run (step two_slots) (Floor.new two_slots)
        [.request (some "a"), .request (some "a"), .request (some "bb"), .request (some "cc"), .request none]
        = some s
      ∧ s.live = [some 0, some 1] ∧ s.permits = ⟨0, some [0, 0]⟩ ∧ TwoLevel two_slots s := by
  have hrun : ∃ s, run (step two_slots) (Floor.new two_slots)
      [.request (some "a"), .request (some "a"), .request (some "bb"), .request (some "cc"), .request none]
      = some s ∧ s.live = [some 0, some 1] ∧ s.permits = ⟨0, some [0, 0]⟩ := ⟨_, rfl, rfl, rfl⟩
  obtain ⟨s, hrun, hlive, hpermits⟩ := hrun
  exact ⟨s, hrun, hlive, hpermits, two_level_admission two_slots _ s hrun⟩

end Runlet.Admission
