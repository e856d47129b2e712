/-
Histograms with a counter for each bucket.

An observation raises one counter: that of the first bucket whose bound it does not exceed, and
none when it exceeds them all. The cumulative form is made when the histogram is read, as running
sums. Over ascending bounds the two together count: each running sum is the number of observations
not above the bound (`running_observed`).
-/
import Mathlib.Data.List.Induction
import Mathlib.Order.Defs.PartialOrder

set_option autoImplicit false

namespace Histogram

variable {α : Type*} [Preorder α] [DecidableLE α]

/-- The counters after one observation. -/
def bump (x : α) : List α → List ℕ → List ℕ
  | bound :: bounds, counter :: counters =>
      if x ≤ bound then (counter + 1) :: counters else counter :: bump x bounds counters
  | _, counters => counters

/-- The running sums of the counters, from `acc` on. -/
def running (acc : ℕ) : List ℕ → List ℕ
  | [] => []
  | counter :: counters => (acc + counter) :: running (acc + counter) counters

/-- The counters after the observations. -/
def observed (bounds : List α) (obs : List α) : List ℕ :=
  obs.foldl (fun counters x => bump x bounds counters) (List.replicate bounds.length 0)

/-! ## One observation -/

/-- An observation adds no counter. -/
theorem bump_length (x : α) (bounds : List α) (counters : List ℕ) :
    (bump x bounds counters).length = counters.length := by
  induction bounds generalizing counters with
  | nil => rw [bump]; simp
  | cons bound bounds ih =>
      cases counters with
      | nil => rw [bump]; simp
      | cons counter counters =>
          rw [bump]
          split
          · rfl
          · rw [List.length_cons, List.length_cons, ih]

/-- No counter is raised by more than one. By induction on the bounds: the loop stops at the first
that it raises. -/
theorem bump_le {x : α} {bounds : List α} {counters : List ℕ} {n : ℕ}
    (h : ∀ c ∈ counters, c ≤ n) : ∀ c ∈ bump x bounds counters, c ≤ n + 1 := by
  induction bounds generalizing counters with
  | nil =>
      intro c hc
      rw [bump] at hc
      · exact Nat.le_succ_of_le (h c hc)
      · simp
  | cons bound bounds ih =>
      cases counters with
      | nil =>
          intro c hc
          rw [bump] at hc
          · cases hc
          · simp
      | cons counter counters =>
          have hhead := h counter List.mem_cons_self
          have htail : ∀ c ∈ counters, c ≤ n := fun c hc => h c (List.mem_cons_of_mem _ hc)
          intro c hc
          rw [bump] at hc
          split at hc
          · rcases List.mem_cons.mp hc with rfl | hc
            · omega
            · exact Nat.le_succ_of_le (htail c hc)
          · rcases List.mem_cons.mp hc with rfl | hc
            · omega
            · exact ih htail c hc

theorem running_succ (acc : ℕ) (counters : List ℕ) :
    running (acc + 1) counters = (running acc counters).map (· + 1) := by
  induction counters generalizing acc with
  | nil => rfl
  | cons counter counters ih =>
      rw [running, running, List.map_cons, ← ih, Nat.add_right_comm]

/-- What an observation adds to the running sum under a bound. -/
def share (x bound : α) : ℕ := if x ≤ bound then 1 else 0

/-- Above every bound that an observation is below, the sums grow by one, since each of them
counts what is below its bound. -/
theorem zipWith_share {x : α} {bounds : List α} {sums : List ℕ} (h : ∀ b ∈ bounds, x ≤ b)
    (hlen : sums.length = bounds.length) :
    List.zipWith (fun bound n => n + share x bound) bounds sums = sums.map (· + 1) := by
  induction bounds generalizing sums with
  | nil =>
      rw [List.length_nil, List.length_eq_zero_iff] at hlen
      rw [hlen]
      rfl
  | cons bound bounds ih =>
      cases sums with
      | nil => rfl
      | cons n sums =>
          rw [List.zipWith_cons_cons, List.map_cons, share, if_pos (h bound List.mem_cons_self),
            ih (fun b hb => h b (List.mem_cons_of_mem _ hb)) (Nat.succ.inj hlen)]

theorem running_length (acc : ℕ) (counters : List ℕ) :
    (running acc counters).length = counters.length := by
  induction counters generalizing acc with
  | nil => rfl
  | cons counter counters ih => rw [running, List.length_cons, ih, List.length_cons]

/-- An observation raises the running sums under the bounds it does not exceed. The induction is on
the bounds: where the loop stops, every bound that is left is above the observation too. -/
theorem running_bump {x : α} {bounds : List α} (hsorted : bounds.Pairwise (· ≤ ·))
    {counters : List ℕ} (hlen : counters.length = bounds.length) (acc : ℕ) :
    running acc (bump x bounds counters)
      = List.zipWith (fun bound n => n + share x bound) bounds (running acc counters) := by
  induction bounds generalizing counters acc with
  | nil =>
      rw [List.length_nil, List.length_eq_zero_iff] at hlen
      rw [hlen]
      rfl
  | cons bound bounds ih =>
      cases counters with
      | nil => cases hlen
      | cons counter counters =>
          have hlen' := Nat.succ.inj hlen
          obtain ⟨habove, hsorted'⟩ := List.pairwise_cons.mp hsorted
          rw [bump, running, List.zipWith_cons_cons, share]
          split
          · rename_i hle
            rw [zipWith_share (fun b hb => le_trans hle (habove b hb))
              ((running_length _ _).trans hlen'), running, ← Nat.add_assoc, running_succ]
          · rw [running, ih hsorted' hlen', Nat.add_zero]

/-! ## All observations -/

theorem observed_append (bounds obs : List α) (x : α) :
    observed bounds (obs ++ [x]) = bump x bounds (observed bounds obs) := by
  rw [observed, List.foldl_append]
  rfl

theorem observed_length (bounds obs : List α) : (observed bounds obs).length = bounds.length := by
  induction obs using List.reverseRecOn with
  | nil => exact List.length_replicate
  | append_singleton obs x ih => rw [observed_append, bump_length, ih]

/-- No counter is more than the observations. -/
theorem observed_le (bounds obs : List α) : ∀ c ∈ observed bounds obs, c ≤ obs.length := by
  induction obs using List.reverseRecOn with
  | nil =>
      intro c hc
      exact Nat.le_of_eq (List.eq_of_mem_replicate hc)
  | append_singleton obs x ih =>
      rw [observed_append, List.length_append, List.length_singleton]
      exact bump_le ih

theorem running_replicate_zero (n acc : ℕ) :
    running acc (List.replicate n 0) = List.replicate n acc := by
  induction n with
  | zero => rfl
  | succ n ih => rw [List.replicate_succ, running, Nat.add_zero, ih, List.replicate_succ]

/-- The running sum under a bound counts the observations that do not exceed it. By induction from
the last observation, which raises the sums of its own bound and all above; that takes sorted
bounds. -/
theorem running_observed {bounds : List α} (hsorted : bounds.Pairwise (· ≤ ·)) (obs : List α) :
    running 0 (observed bounds obs) = bounds.map fun bound => obs.countP (· ≤ bound) := by
  induction obs using List.reverseRecOn with
  | nil =>
      rw [observed, List.foldl_nil, running_replicate_zero, ← List.map_const']
      rfl
  | append_singleton obs x ih =>
      rw [observed_append, running_bump hsorted (observed_length bounds obs), ih,
        List.zipWith_map_right, List.zipWith_self]
      refine List.map_congr_left fun bound _ => ?_
      rw [List.countP_append, List.countP_singleton, share]
      congr 1
      exact if_congr decide_eq_true_iff.symm rfl rfl

/-- A higher bound is exceeded by no more observations. -/
theorem countP_le_mono (obs : List α) {a b : α} (h : a ≤ b) :
    obs.countP (· ≤ a) ≤ obs.countP (· ≤ b) := by
  refine List.countP_mono_left fun x _ hx => ?_
  rw [decide_eq_true_eq] at hx ⊢
  exact le_trans hx h

/-- The counts under ascending bounds ascend, up to the number of all. -/
theorem countP_pairwise {bounds : List α} (hsorted : bounds.Pairwise (· ≤ ·)) (obs : List α) :
    ((bounds.map fun bound => obs.countP (· ≤ bound)) ++ [obs.length]).Pairwise (· ≤ ·) := by
  rw [List.pairwise_append]
  refine ⟨?_, List.pairwise_singleton _ _, ?_⟩
  · rw [List.pairwise_map]
    exact hsorted.imp fun h => countP_le_mono obs h
  · intro n hn total htotal
    obtain ⟨bound, -, rfl⟩ := List.mem_map.mp hn
    rw [List.mem_singleton.mp htotal]
    exact List.countP_le_length

end Histogram
