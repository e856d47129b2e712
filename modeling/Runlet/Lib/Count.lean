/-
How many entries of a list satisfy a test, while single entries change.

A component that hands out permits keeps one number per resource; what it means
is the number of holders among the parties. These lemmas move such an equation
through the two things a step does to a list of parties: change one of them, or
append one. The number itself is kept in a word, and a careful component stops it
at the largest one (`saturating_add`).
-/
import Mathlib.Algebra.Group.Nat.Defs
import Mathlib.Data.List.Basic

set_option autoImplicit false

namespace Count

/-- The sum of two numbers in a word of `w` bits, or the largest such word. -/
def saturating_add (w a b : ℕ) : ℕ := min (a + b) (2 ^ w - 1)

/-- A sum that fits is the sum. -/
theorem saturating_add_of_lt {w a b : ℕ} (h : a + b < 2 ^ w) : saturating_add w a b = a + b :=
  Nat.min_eq_left (Nat.le_sub_one_of_lt h)

variable {α : Type*} (p : α → Bool)

/-- One holder more or less, as a number. -/
def unit (b : Bool) : ℕ := if b then 1 else 0

@[simp] theorem unit_true : unit true = 1 := rfl

@[simp] theorem unit_false : unit false = 0 := rfl

/-- Changing entry `i` from `a` to `b` trades the one's share for the other's. By induction on the
list, down to the entry; written as sums, so that nothing is subtracted. -/
theorem countP_set {l : List α} {i : ℕ} {a b : α} (h : l[i]? = some a) :
    (l.set i b).countP p + unit (p a) = l.countP p + unit (p b) := by
  induction l generalizing i with
  | nil => simp at h
  | cons x l ih =>
      cases i with
      | zero =>
          rw [List.getElem?_cons_zero, Option.some.injEq] at h
          subst h
          rw [List.set_cons_zero, List.countP_cons, List.countP_cons]
          simp only [unit]
          omega
      | succ i =>
          rw [List.getElem?_cons_succ] at h
          rw [List.set_cons_succ, List.countP_cons, List.countP_cons]
          have := ih h
          omega

theorem countP_append_singleton (l : List α) (a : α) :
    (l ++ [a]).countP p = l.countP p + unit (p a) := by
  rw [List.countP_append, List.countP_singleton, unit]

/-- The last holder sees every other one before it. By induction on the list: the last is further
on if there is one further on, and here if not. -/
theorem countP_take_last {l : List α} (h : ∃ a ∈ l, p a = true) :
    ∃ i a, l[i]? = some a ∧ p a = true ∧ (l.take (i + 1)).countP p = l.countP p := by
  induction l with
  | nil => simp at h
  | cons x l ih =>
      by_cases hl : ∃ a ∈ l, p a = true
      · obtain ⟨i, a, hi, ha, hcount⟩ := ih hl
        refine ⟨i + 1, a, by rwa [List.getElem?_cons_succ], ha, ?_⟩
        rw [List.take_succ_cons, List.countP_cons, List.countP_cons, hcount]
      -- nobody after `x` holds, so `x` does
      · have hx : p x = true := by
          obtain ⟨a, ha, hpa⟩ := h
          rcases List.mem_cons.mp ha with rfl | ha
          · exact hpa
          · exact absurd ⟨a, ha, hpa⟩ hl
        have hzero : l.countP p = 0 := by
          rw [List.countP_eq_zero]
          intro a ha hpa
          exact hl ⟨a, ha, hpa⟩
        refine ⟨0, x, rfl, hx, ?_⟩
        rw [List.take_succ_cons, List.countP_cons, List.countP_cons, hzero, List.take_zero,
          List.countP_nil]

/-- A change that makes no new holder raises no count. -/
theorem countP_set_le {l : List α} {i : ℕ} {a b : α} (h : l[i]? = some a)
    (hab : p b = true → p a = true) : (l.set i b).countP p ≤ l.countP p := by
  have hset := countP_set p (b := b) h
  have hunit : unit (p b) ≤ unit (p a) := by
    by_cases hb : p b = true
    · rw [hab hb]
      exact Nat.le_of_eq (congrArg unit hb)
    · rw [Bool.not_eq_true] at hb
      rw [hb]
      exact Nat.zero_le _
  omega

/-- Neither does it in an initial segment. -/
theorem countP_take_set_le {l : List α} {i : ℕ} {a b : α} (h : l[i]? = some a)
    (hab : p b = true → p a = true) (n : ℕ) :
    ((l.set i b).take n).countP p ≤ (l.take n).countP p := by
  rw [List.take_set]
  by_cases hin : i < n
  · apply countP_set_le p (a := a) _ hab
    rw [List.getElem?_take, if_pos hin, h]
  · apply Nat.le_of_eq
    rw [List.set_eq_of_length_le]
    rw [List.length_take]
    omega

/-- Nor in a final one. -/
theorem countP_drop_set_le {l : List α} {i : ℕ} {a b : α} (h : l[i]? = some a)
    (hab : p b = true → p a = true) (n : ℕ) :
    ((l.set i b).drop n).countP p ≤ (l.drop n).countP p := by
  rw [List.drop_set]
  by_cases hout : i < n
  · exact Nat.le_of_eq (by rw [if_pos hout])
  · rw [if_neg hout]
    apply countP_set_le p (a := a) _ hab
    rw [List.getElem?_drop, Nat.add_sub_cancel' (Nat.not_lt.mp hout), h]

end Count
