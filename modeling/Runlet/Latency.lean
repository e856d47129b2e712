/-
The latency histogram of `GET /metrics` (`crates/runlet-core/src/metrics.rs`).

`observe` raises the counter of the first bucket that holds the observation, `render_series` adds
the counters up. The counters are 64-bit and wrap; below `2 ^ 64` observations none does, and the
series is that of the counts over all observations (`render_series_observed`), whatever their order.
The sum wraps.
-/
import Runlet.Lib.Digits
import Runlet.Lib.Histogram
import Mathlib.Algebra.BigOperators.Group.List.Basic
import Mathlib.Algebra.Order.Ring.Nat

set_option autoImplicit false

namespace Runlet.Latency

/-! ## 1. The histogram -/

/-- Upper bounds of the buckets, inclusive, in microseconds. -/
def LATENCY_BUCKETS_US : List UInt64 :=
  [1000, 5000, 10000, 25000, 50000, 100000, 250000, 500000, 1000000, 2500000, 5000000, 10000000]

/-- The `le` labels, in seconds. -/
def LATENCY_BUCKET_LABELS : List String :=
  ["0.001", "0.005", "0.01", "0.025", "0.05", "0.1", "0.25", "0.5", "1", "2.5", "5", "10"]

/-- `u64::saturating_add`. -/
def saturating_add (a b : UInt64) : UInt64 :=
  if a.toNat + b.toNat < 2 ^ 64 then a + b else UInt64.ofNat (2 ^ 64 - 1)

structure LatencyHistogram where
  buckets : List UInt64
  sum_us : UInt64
  count : UInt64
  buckets_length : buckets.length = LATENCY_BUCKETS_US.length

/-- `LatencyHistogram::default`. -/
def fresh : LatencyHistogram where
  buckets := List.replicate LATENCY_BUCKETS_US.length 0
  sum_us := 0
  count := 0
  buckets_length := List.length_replicate

/-- The loop of `observe`; `fetch_add` wraps. -/
def bump (micros : UInt64) : List UInt64 → List UInt64 → List UInt64
  | bound :: bounds, counter :: counters =>
      if micros ≤ bound then (counter + 1) :: counters
      else counter :: bump micros bounds counters
  | _, counters => counters

/-- An observation adds no counter. -/
theorem bump_length (micros : UInt64) (bounds counters : List UInt64) :
    (bump micros bounds counters).length = counters.length := by
  induction bounds generalizing counters with
  | nil => rw [bump]; simp
  | cons bound bounds ih =>
      cases counters with
      | nil => rw [bump]; simp
      | cons counter counters =>
          rw [bump]
          split
          · rfl
          · rw [List.length_cons, List.length_cons, ih]

def LatencyHistogram.observe (self : LatencyHistogram) (micros : UInt64) : LatencyHistogram where
  buckets := bump micros LATENCY_BUCKETS_US self.buckets
  sum_us := self.sum_us + micros
  count := self.count + 1
  buckets_length := (bump_length _ _ _).trans self.buckets_length

/-- The label set of a bucket line. -/
def bucket_labels (extra le : String) : String :=
  if extra = "" then "\x7ble=\"" ++ le ++ "\"\x7d" else "\x7b" ++ extra ++ ",le=\"" ++ le ++ "\"\x7d"

/-- A line for a bucket. -/
def bucket_line (name extra le : String) (n : ℕ) : String :=
  name ++ "_bucket" ++ bucket_labels extra le ++ " " ++ toString n

/-- The loop of `render_series`. -/
def bucket_lines (name extra : String) (cumulative : UInt64) : List (String × UInt64) → List String
  | [] => []
  | (label, counter) :: rest =>
      let cumulative := saturating_add cumulative counter
      bucket_line name extra label cumulative.toNat :: bucket_lines name extra cumulative rest

/-- The labels of `_sum` and `_count`. -/
def suffix (extra : String) : String := if extra = "" then "" else "\x7b" ++ extra ++ "\x7d"

def LatencyHistogram.render_series (self : LatencyHistogram) (name extra : String) : String :=
  let total := self.count
  let lines := bucket_lines name extra 0 (LATENCY_BUCKET_LABELS.zip self.buckets)
    ++ [bucket_line name extra "+Inf" total.toNat]
  let whole := self.sum_us / 1000000
  let frac := self.sum_us % 1000000
  -- `{frac:06}`: six digits, zeros in front
  let lines := lines ++ [name ++ "_sum" ++ suffix extra ++ " " ++ toString whole.toNat ++ "."
    ++ String.ofList (Digits.padded frac.toNat 5)]
  let lines := lines ++ [name ++ "_count" ++ suffix extra ++ " " ++ toString total.toNat]
  "\n".intercalate lines

/-- The histogram after the observations. -/
def observed (obs : List UInt64) : LatencyHistogram := obs.foldl LatencyHistogram.observe fresh

/-! ## 2. The counters -/

/-- While no counter is full, the loop is that of unbounded counters. By induction on the bounds,
as the two loops stop at the same one. -/
theorem map_bump {micros : UInt64} {bounds counters : List UInt64}
    (h : ∀ c ∈ counters, c.toNat + 1 < 2 ^ 64) : (bump micros bounds counters).map UInt64.toNat
      = Histogram.bump micros.toNat (bounds.map UInt64.toNat) (counters.map UInt64.toNat) := by
  induction bounds generalizing counters with
  | nil =>
      rw [bump, List.map_nil, Histogram.bump]
      · simp
      · simp
  | cons bound bounds ih =>
      cases counters with
      | nil =>
          rw [bump, List.map_nil, Histogram.bump]
          · simp
          · simp
      | cons counter counters =>
          rw [bump, List.map_cons, List.map_cons, Histogram.bump]
          by_cases hle : micros ≤ bound
          · have hstep : (counter + 1).toNat = counter.toNat + 1 := by
              rw [UInt64.toNat_add]
              exact Nat.mod_eq_of_lt (h counter List.mem_cons_self)
            rw [if_pos hle, if_pos (UInt64.le_iff_toNat_le.mp hle), List.map_cons, hstep]
          · rw [if_neg hle, if_neg (mt UInt64.le_iff_toNat_le.mpr hle), List.map_cons,
              ih fun c hc => h c (List.mem_cons_of_mem _ hc)]

theorem observed_append (obs : List UInt64) (x : UInt64) :
    observed (obs ++ [x]) = (observed obs).observe x := by
  rw [observed, List.foldl_append]
  rfl

/-- What the histogram holds after the observations. -/
structure Holds (hist : LatencyHistogram) (obs : List UInt64) : Prop where
  buckets : hist.buckets.map UInt64.toNat
    = Histogram.observed (LATENCY_BUCKETS_US.map UInt64.toNat) (obs.map UInt64.toNat)
  sum_us : hist.sum_us.toNat = (obs.map UInt64.toNat).sum % 2 ^ 64
  count : hist.count.toNat = obs.length

/-- A histogram holds what was observed, as long as that was less than `2 ^ 64` times. By
induction from the last observation; no counter can be full before. -/
theorem holds_observed {obs : List UInt64} (h : obs.length < 2 ^ 64) : Holds (observed obs) obs := by
  induction obs using List.reverseRecOn with
  | nil =>
      constructor
      · exact List.map_replicate
      · rfl
      · rfl
  | append_singleton obs x ih =>
      rw [List.length_append, List.length_singleton] at h
      obtain ⟨hbuckets, hsum, hcount⟩ := ih (by omega)
      have hroom : ∀ c ∈ (observed obs).buckets, c.toNat + 1 < 2 ^ 64 := by
        intro c hc
        have hle := Histogram.observed_le (LATENCY_BUCKETS_US.map UInt64.toNat)
          (obs.map UInt64.toNat) c.toNat (hbuckets ▸ List.mem_map_of_mem hc)
        rw [List.length_map] at hle
        omega
      rw [observed_append]
      constructor
      · rw [List.map_append, List.map_singleton, Histogram.observed_append, ← hbuckets]
        exact map_bump hroom
      · show ((observed obs).sum_us + x).toNat = _
        rw [UInt64.toNat_add, hsum, List.map_append, List.sum_append, List.map_singleton,
          List.sum_singleton, Nat.mod_add_mod]
      · show ((observed obs).count + 1).toNat = _
        rw [UInt64.toNat_add, hcount, List.length_append, List.length_singleton]
        exact Nat.mod_eq_of_lt h

/-! ## 3. The series -/

/-- While the running sums fit, they are what the lines say. By induction on the buckets, with the
sum so far as the accumulator. -/
theorem bucket_lines_eq {name extra : String} {cumulative : UInt64} {labels : List String}
    {counters : List UInt64}
    (h : ∀ n ∈ Histogram.running cumulative.toNat (counters.map UInt64.toNat), n < 2 ^ 64) :
    bucket_lines name extra cumulative (labels.zip counters)
      = List.zipWith (bucket_line name extra) labels
        (Histogram.running cumulative.toNat (counters.map UInt64.toNat)) := by
  induction labels generalizing counters cumulative with
  | nil => rfl
  | cons label labels ih =>
      cases counters with
      | nil => rfl
      | cons counter counters =>
          rw [List.map_cons, Histogram.running] at h
          have hlt := h _ List.mem_cons_self
          have hadd : (saturating_add cumulative counter).toNat
              = cumulative.toNat + counter.toNat := by
            rw [saturating_add, if_pos hlt, UInt64.toNat_add]
            exact Nat.mod_eq_of_lt hlt
          rw [List.zip_cons_cons, bucket_lines, List.map_cons, Histogram.running,
            List.zipWith_cons_cons, ← hadd]
          rw [← hadd] at h
          rw [ih fun n hn => h n (List.mem_cons_of_mem _ hn)]

theorem buckets_sorted : (LATENCY_BUCKETS_US.map UInt64.toNat).Pairwise (· ≤ ·) := by
  decide

/-- How many observations are not above each bound. -/
def counts (obs : List UInt64) : List ℕ :=
  LATENCY_BUCKETS_US.map fun bound => obs.countP (· ≤ bound)

/-- The counts are taken of the numbers. -/
theorem counts_eq (obs : List UInt64) : counts obs
    = (LATENCY_BUCKETS_US.map UInt64.toNat).map
        fun bound => (obs.map UInt64.toNat).countP (· ≤ bound) := by
  rw [counts, List.map_map]
  refine List.map_congr_left fun bound _ => ?_
  rw [Function.comp_apply, List.countP_map]
  rfl

/-- A label is the bound in seconds. -/
def Denotes (label : String) (bound : UInt64) : Prop :=
  ∃ mantissa scale, Digits.read label = some (mantissa, scale)
    ∧ mantissa * 10 ^ 6 = (bound.toNat : ℤ) * 10 ^ scale

/-- The text of a series with these numbers. -/
def series (name extra : String) (counts : List ℕ) (total sum_us : ℕ) : String :=
  "\n".intercalate (List.zipWith (bucket_line name extra) LATENCY_BUCKET_LABELS counts
    ++ [bucket_line name extra "+Inf" total]
    ++ [name ++ "_sum" ++ suffix extra ++ " " ++ Digits.render sum_us 6]
    ++ [name ++ "_count" ++ suffix extra ++ " " ++ toString total])

/-- The text of a histogram is the series of its observations: the counts under each bound, their
number and their sum, modulo `2 ^ 64`. -/
theorem render_series_eq {obs : List UInt64} (h : obs.length < 2 ^ 64) (name extra : String) :
    (observed obs).render_series name extra
      = series name extra (counts obs) obs.length ((obs.map UInt64.toNat).sum % 2 ^ 64) := by
  obtain ⟨hbuckets, hsum, hcount⟩ := holds_observed h
  have hrunning : Histogram.running 0 ((observed obs).buckets.map UInt64.toNat) = counts obs := by
    rw [hbuckets, Histogram.running_observed buckets_sorted, counts_eq]
  have hfit : ∀ n ∈ counts obs, n < 2 ^ 64 := by
    intro n hn
    obtain ⟨bound, -, rfl⟩ := List.mem_map.mp hn
    exact Nat.lt_of_le_of_lt List.countP_le_length h
  have hlines := @bucket_lines_eq name extra 0 LATENCY_BUCKET_LABELS (observed obs).buckets
    (by rw [UInt64.toNat_zero, hrunning]; exact hfit)
  have hsum_text := Digits.render_split ((obs.map UInt64.toNat).sum % 2 ^ 64) 5
  have hwhole : ((observed obs).sum_us / 1000000).toNat
      = (obs.map UInt64.toNat).sum % 2 ^ 64 / 10 ^ (5 + 1) := by
    rw [UInt64.toNat_div, hsum]
    rfl
  have hfrac : ((observed obs).sum_us % 1000000).toNat
      = (obs.map UInt64.toNat).sum % 2 ^ 64 % 10 ^ (5 + 1) := by
    rw [UInt64.toNat_mod, hsum]
    rfl
  rw [LatencyHistogram.render_series, series, hlines, UInt64.toNat_zero, hrunning, hcount, hwhole,
    hfrac, hsum_text]
  simp only [String.append_assoc]

theorem labels_denote :
    List.Forall₂ Denotes LATENCY_BUCKET_LABELS LATENCY_BUCKETS_US := by
  repeat' constructor

theorem counts_perm {obs obs' : List UInt64} (h : obs.Perm obs') : counts obs = counts obs' :=
  List.map_congr_left fun _ _ => h.countP_eq _

/-- The series of the observations: under each label, which denotes its bound, the number of
observations not above it; these do not decrease and end in the number of all of them; the sum with
six digits behind the point, modulo `2 ^ 64` microseconds; and all of it the same in any order of
the observations. -/
theorem render_series_observed {obs : List UInt64} (h : obs.length < 2 ^ 64) (name extra : String) :
    (observed obs).render_series name extra
        = series name extra (counts obs) obs.length ((obs.map UInt64.toNat).sum % 2 ^ 64)
      ∧ List.Forall₂ Denotes LATENCY_BUCKET_LABELS LATENCY_BUCKETS_US
      ∧ (counts obs ++ [obs.length]).Pairwise (· ≤ ·)
      ∧ ∀ obs', obs.Perm obs' →
        (observed obs').render_series name extra = (observed obs).render_series name extra := by
  refine ⟨render_series_eq h name extra, labels_denote, ?_, ?_⟩
  · have hmono := Histogram.countP_pairwise buckets_sorted (obs.map UInt64.toNat)
    rwa [← counts_eq, List.length_map] at hmono
  · intro obs' hperm
    have h' : obs'.length < 2 ^ 64 := hperm.length_eq ▸ h
    rw [render_series_eq h', render_series_eq h, counts_perm hperm, hperm.length_eq,
      (hperm.map UInt64.toNat).sum_eq]

/-- On a bound, and above the last one. -/
theorem render_series_two : (observed [5000, 10000001]).render_series "x" ""
    = series "x" "" [0, 1, 1, 1, 1, 1, 1, 1, 1, 1, 1, 1] 2 10005001 :=
  (@render_series_observed [5000, 10000001] (by decide) "x" "").1

end Runlet.Latency
