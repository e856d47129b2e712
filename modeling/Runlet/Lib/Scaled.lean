/-
Decimals with a bounded mantissa and a bounded scale, and how numbers are rounded to them.

A number is a rational throughout and nothing is rounded before it is said so. `half_even`
and `half_away` are the two ways to a nearest integer; `nearest` is the nearest decimal, the
one of the largest scale at which the mantissa still fits.

`half_away_half_even` is about rounding twice: first to a fine grid, then to the integers. It
differs from rounding once exactly just below the midpoints.
-/
import Mathlib.Algebra.Order.Round
import Mathlib.Data.Rat.Floor
import Mathlib.Tactic.FieldSimp
import Mathlib.Tactic.Linarith
import Mathlib.Tactic.Positivity
import Mathlib.Tactic.Ring

set_option autoImplicit false

namespace Scaled

/-! ## Nearest integers -/

/-- The nearest integer, of two the even one. -/
def half_even (x : ℚ) : ℤ :=
  if x - ⌊x⌋ < 1 / 2 ∨ x - ⌊x⌋ = 1 / 2 ∧ ⌊x⌋ % 2 = 0 then ⌊x⌋ else ⌊x⌋ + 1

/-- The nearest integer, of two the one away from zero. -/
def half_away (x : ℚ) : ℤ := if 0 ≤ x then ⌊x + 1 / 2⌋ else -⌊-x + 1 / 2⌋

/-- Rounding half to even goes no further than a half. -/
theorem abs_half_even_sub_le (x : ℚ) : |(half_even x : ℚ) - x| ≤ 1 / 2 := by
  have hlow := Int.floor_le x
  have hhigh := Int.lt_floor_add_one x
  rw [half_even, abs_le]
  split
  · rename_i hdown
    have hrest : x - ⌊x⌋ ≤ 1 / 2 := hdown.elim le_of_lt fun h => le_of_eq h.1
    constructor <;> linarith
  · rename_i hup
    rw [not_or, not_lt] at hup
    push_cast
    constructor <;> linarith [hup.1]

@[simp] theorem half_even_intCast (n : ℤ) : half_even n = n := by
  rw [half_even, Int.floor_intCast, sub_self, if_pos (Or.inl (by norm_num))]

/-- An even integer is the nearest one of all numbers up to one half away: at both ends the tie
goes to it. -/
theorem half_even_eq_iff {x : ℚ} {n : ℤ} (hn : n % 2 = 0) :
    half_even x = n ↔ |x - n| ≤ 1 / 2 := by
  constructor
  · rintro rfl
    rw [abs_sub_comm]
    exact abs_half_even_sub_le x
  · intro h
    rw [abs_le] at h
    have hlow := Int.floor_le x
    have hhigh := Int.lt_floor_add_one x
    -- `x` lies in one of the two unit intervals that meet in `n`
    have hle : ⌊x⌋ ≤ n := by
      have hlt : (⌊x⌋ : ℚ) < (n + 1 : ℤ) := by push_cast; linarith
      have hlt' := Int.cast_lt.mp hlt
      omega
    have hge : n ≤ ⌊x⌋ + 1 := by
      have hlt : (n : ℚ) < (⌊x⌋ + 2 : ℤ) := by push_cast; linarith
      have hlt' := Int.cast_lt.mp hlt
      omega
    rw [half_even]
    rcases (show ⌊x⌋ = n ∨ ⌊x⌋ = n - 1 by omega) with hfloor | hfloor
    · have hrest : x - ⌊x⌋ ≤ 1 / 2 := by rw [hfloor]; linarith
      rcases lt_or_eq_of_le hrest with hlt | heq
      · rw [if_pos (Or.inl hlt), hfloor]
      · rw [if_pos (Or.inr ⟨heq, by omega⟩), hfloor]
    · have hrest : 1 / 2 ≤ x - ⌊x⌋ := by rw [hfloor]; push_cast; linarith
      rw [if_neg, hfloor, Int.sub_add_cancel]
      rintro (hlt | ⟨-, heven⟩)
      · linarith
      · omega

theorem half_even_nonneg {x : ℚ} (h : 0 ≤ x) : 0 ≤ half_even x := by
  have hfloor : 0 ≤ ⌊x⌋ := Int.floor_nonneg.mpr h
  rw [half_even]
  split <;> omega

/-- It does the same on both sides of zero. -/
theorem half_even_neg (x : ℚ) : half_even (-x) = -half_even x := by
  -- off the midpoints the nearest integer is the only one, and at a midpoint it is even
  have hdist := abs_half_even_sub_le x
  have hdist' := abs_half_even_sub_le (-x)
  by_cases heven : half_even x % 2 = 0
  · rw [half_even_eq_iff (by omega)]
    push_cast
    rw [show -x - -(half_even x : ℚ) = half_even x - x by ring]
    exact hdist
  by_cases heven' : half_even (-x) % 2 = 0
  · rw [← neg_eq_iff_eq_neg, eq_comm, half_even_eq_iff (by omega)]
    push_cast
    rw [show x - -(half_even (-x) : ℚ) = half_even (-x) - -x by ring]
    exact hdist'
  · rw [abs_le] at hdist hdist'
    have hlow : (-2 : ℚ) < (half_even (-x) + half_even x : ℤ) := by push_cast; linarith
    have hhigh : ((half_even (-x) + half_even x : ℤ) : ℚ) < 2 := by push_cast; linarith
    have hlow' : -2 < half_even (-x) + half_even x := by exact_mod_cast hlow
    have hhigh' : half_even (-x) + half_even x < 2 := by exact_mod_cast hhigh
    omega

/-- An integer is left as it is. -/
@[simp] theorem half_away_intCast (n : ℤ) : half_away n = n := by
  have hhalf : ∀ m : ℤ, ⌊(m : ℚ) + 1 / 2⌋ = m := by
    intro m
    rw [Int.floor_intCast_add, Int.floor_eq_zero_iff.mpr (by norm_num), Int.add_zero]
  rw [half_away]
  split
  · exact hhalf n
  · rw [← Int.cast_neg, hhalf, Int.neg_neg]

/-- It does the same on both sides of zero. -/
theorem half_away_neg (x : ℚ) : half_away (-x) = -half_away x := by
  rw [half_away, half_away, neg_neg]
  rcases lt_trichotomy x 0 with h | rfl | h
  · rw [if_pos (by linarith), if_neg (by linarith), Int.neg_neg]
  · norm_num
  · rw [if_neg (by linarith), if_pos (by linarith)]

/-- Rounding half away from zero goes no further than a half. -/
theorem abs_half_away_sub_le (x : ℚ) : |(half_away x : ℚ) - x| ≤ 1 / 2 := by
  have hlow := Int.floor_le (x + 1 / 2)
  have hhigh := Int.lt_floor_add_one (x + 1 / 2)
  have hlow' := Int.floor_le (-x + 1 / 2)
  have hhigh' := Int.lt_floor_add_one (-x + 1 / 2)
  rw [half_away, abs_le]
  split
  · constructor <;> linarith
  · push_cast
    constructor <;> linarith

/-- A nearest integer to a number that is short of the bound is so, too. -/
theorem natAbs_lt_of_near {x : ℚ} {n : ℤ} {bound : ℕ} (hnear : |(n : ℚ) - x| ≤ 1 / 2)
    (h : |x| + 1 / 2 < bound) : n.natAbs < bound := by
  have habs := abs_sub_abs_le_abs_sub (n : ℚ) x
  have hlt : (n.natAbs : ℚ) < bound := by
    rw [Nat.cast_natAbs, Int.cast_abs]
    linarith
  exact_mod_cast hlt

/-! ## Rounding twice -/

/-- What lies above an even integer is what is at most one half below it. -/
theorem le_half_even_iff {x : ℚ} {n : ℤ} (hn : n % 2 = 0) : n ≤ half_even x ↔ n - 1 / 2 ≤ x := by
  have hdist := abs_le.mp (abs_half_even_sub_le x)
  constructor
  · intro hle
    have hle' : (n : ℚ) ≤ half_even x := by exact_mod_cast hle
    linarith
  · intro hle
    by_contra hlt
    -- below `n` there is at most `n - 1`, whose numbers end at `n - 1 / 2`
    have hsucc : half_even x + 1 ≤ n := by omega
    have hsucc' : (half_even x : ℚ) + 1 ≤ n := by exact_mod_cast hsucc
    have hnear : half_even x = n := by
      rw [half_even_eq_iff hn, abs_le]
      constructor <;> linarith
    omega

/-- Which numbers round above `k`: those from `k` and a half on. -/
theorem lt_half_away_iff {x : ℚ} (hx : 0 ≤ x) (k : ℕ) : (k : ℤ) < half_away x ↔ k + 1 / 2 ≤ x := by
  rw [half_away, if_pos hx, ← Int.add_one_le_iff, Int.le_floor]
  push_cast
  constructor
  · intro h
    linarith
  · intro h
    linarith

theorem half_away_nonneg {x : ℚ} (hx : 0 ≤ x) : 0 ≤ half_away x := by
  rw [half_away, if_pos hx]
  exact Int.floor_nonneg.mpr (by linarith)

/-- Integers that are not negative are the same if the same numbers are below them. -/
theorem eq_iff_forall_lt {a b : ℤ} (ha : 0 ≤ a) (hb : 0 ≤ b) :
    a = b ↔ ∀ k : ℕ, ((k : ℤ) < a ↔ (k : ℤ) < b) := by
  constructor
  · rintro rfl k
    rfl
  · intro hall
    obtain ⟨m, rfl⟩ := Int.eq_ofNat_of_zero_le ha
    obtain ⟨n, rfl⟩ := Int.eq_ofNat_of_zero_le hb
    have hm := hall m
    have hn := hall n
    omega

/-- The grid of step `1 / c` reaches a midpoint from `1 / (2 * c)` below it on: the midpoint is
an even point of the grid. -/
theorem midpoint_le_iff {c : ℕ} (hc : 4 ∣ c) (hpos : 0 < c) (x : ℚ) (k : ℕ) :
    (k : ℚ) + 1 / 2 ≤ half_even (x * c) / c ↔ k + 1 / 2 - 1 / (2 * c) ≤ x := by
  obtain ⟨d, rfl⟩ := hc
  have hc' : (0 : ℚ) < (4 * d : ℕ) := Nat.cast_pos.mpr hpos
  have hmid : ((k : ℚ) + 1 / 2) * (4 * d : ℕ) = ((2 * (2 * k + 1) * d : ℤ) : ℚ) := by
    push_cast
    ring
  have hstep : ((k : ℚ) + 1 / 2 - 1 / (2 * (4 * d : ℕ))) * (4 * d : ℕ)
      = ((2 * (2 * k + 1) * d : ℤ) : ℚ) - 1 / 2 := by
    rw [← hmid, sub_mul]
    field_simp
  rw [le_div_iff₀ hc', hmid, Int.cast_le, le_half_even_iff (by rw [Int.mul_assoc]; omega), ← hstep,
    mul_le_mul_iff_left₀ hc']

/-- A number that is not negative, rounded to a grid of step `1 / c` and then to the integers,
goes where it goes at once unless the grid lifts it to a midpoint from below. -/
theorem half_away_half_even_of_nonneg {c : ℕ} (hc : 4 ∣ c) (hpos : 0 < c) {x : ℚ} (hx : 0 ≤ x) :
    half_away (half_even (x * c) / c) = half_away x
      ↔ ∀ k : ℕ, ¬ (k + 1 / 2 - 1 / (2 * c) ≤ x ∧ x < k + 1 / 2) := by
  have hc' : (0 : ℚ) < c := Nat.cast_pos.mpr hpos
  have hround : (0 : ℚ) ≤ half_even (x * c) / c :=
    div_nonneg (Int.cast_nonneg (half_even_nonneg (mul_nonneg hx hc'.le))) hc'.le
  have hless : (0 : ℚ) < 1 / (2 * c) := by positivity
  rw [eq_iff_forall_lt (half_away_nonneg hround) (half_away_nonneg hx)]
  refine forall_congr' fun k => ?_
  rw [lt_half_away_iff hround, lt_half_away_iff hx, midpoint_le_iff hc hpos]
  constructor
  · rintro hiff ⟨hlow, hhigh⟩
    linarith [hiff.mp hlow]
  · intro hnot
    constructor
    · intro hlow
      by_contra hhigh
      exact hnot ⟨hlow, not_le.mp hhigh⟩
    · intro hle
      linarith

/-- Rounding to a grid of step `1 / c` first makes a difference just below the midpoints. -/
theorem half_away_half_even {c : ℕ} (hc : 4 ∣ c) (hpos : 0 < c) (x : ℚ) :
    half_away (half_even (x * c) / c) = half_away x
      ↔ ∀ k : ℕ, ¬ (k + 1 / 2 - 1 / (2 * c) ≤ |x| ∧ |x| < k + 1 / 2) := by
  rcases le_total 0 x with hx | hx
  · rw [abs_of_nonneg hx]
    exact half_away_half_even_of_nonneg hc hpos hx
  · rw [abs_of_nonpos hx, ← half_away_half_even_of_nonneg hc hpos (neg_nonneg.mpr hx), neg_mul,
      half_even_neg, Int.cast_neg, neg_div, half_away_neg, half_away_neg, Int.neg_inj]

/-! ## Decimals -/

/-- The number of a mantissa and a scale. -/
def value (mantissa : ℤ) (scale : ℕ) : ℚ := mantissa / 10 ^ scale

/-- A number rounded to so many places, midpoints away from zero. -/
def round_places (x : ℚ) (places : ℕ) : ℚ := value (half_away (x * 10 ^ places)) places

section
variable (bound scale : ℕ)

/-- The number is a decimal with a mantissa below the bound and at most this scale. -/
def Representable (x : ℚ) : Prop :=
  ∃ (m : ℤ) (s : ℕ), m.natAbs < bound ∧ s ≤ scale ∧ x = value m s

end

/-- The nearest decimal of at most this scale: the largest scale is taken at which the rounded
mantissa fits, and there is none if it does not fit at any. -/
def nearest (bound : ℕ) : (scale : ℕ) → ℚ → Option (ℤ × ℕ)
  | 0, x => if (half_even x).natAbs < bound then some (half_even x, 0) else none
  | s + 1, x =>
    if (half_even (x * 10 ^ (s + 1))).natAbs < bound then some (half_even (x * 10 ^ (s + 1)), s + 1)
    else nearest bound s x

theorem ten_pow_pos (n : ℕ) : (0 : ℚ) < 10 ^ n := by positivity

/-- The number is a whole multiple of `10 ^ -n` iff it has at most `n` places. -/
theorem value_mul_pow {m : ℤ} {s n : ℕ} (h : s ≤ n) :
    value m s * 10 ^ n = ((m * 10 ^ (n - s) : ℤ) : ℚ) := by
  obtain ⟨k, rfl⟩ := Nat.exists_eq_add_of_le h
  have hne := (ten_pow_pos s).ne'
  rw [value, Nat.add_sub_cancel_left, pow_add]
  push_cast
  field_simp

/-- To fewer places, the mantissa loses a digit. -/
theorem abs_value_mul_pow_le {m : ℤ} {s n : ℕ} (h : n < s) :
    |value m s * 10 ^ n| ≤ m.natAbs / 10 := by
  obtain ⟨k, rfl⟩ := Nat.exists_eq_add_of_lt h
  have hn := ten_pow_pos n
  have hk : (1 : ℚ) ≤ 10 ^ k := one_le_pow₀ (by norm_num)
  have hvalue : value m (n + k + 1) * 10 ^ n = m / (10 ^ k * 10) := by
    rw [value, pow_succ, pow_add]
    field_simp
  rw [hvalue, abs_div, abs_of_pos (by positivity : (0 : ℚ) < 10 ^ k * 10), Nat.cast_natAbs,
    Int.cast_abs]
  exact div_le_div_of_nonneg_left (abs_nonneg _) (by norm_num) (by linarith)

@[simp] theorem value_zero_right (m : ℤ) : value m 0 = m := by
  rw [value, pow_zero, div_one]

/-- A number with no more than so many places is not rounded. -/
theorem round_places_of_eq {x : ℚ} {places : ℕ} {n : ℤ} (h : x * 10 ^ places = n) :
    round_places x places = x := by
  rw [round_places, h, half_away_intCast, value, ← h, mul_div_assoc,
    div_self (ten_pow_pos _).ne', mul_one]

/-- What is found fits: it is below the bound, with no more places than were asked for, and
rounded at the places it has. -/
theorem nearest_fits {bound scale : ℕ} {x : ℚ} {m : ℤ} {s : ℕ}
    (h : nearest bound scale x = some (m, s)) :
    m.natAbs < bound ∧ s ≤ scale ∧ m = half_even (x * 10 ^ s) := by
  induction scale with
  | zero =>
      rw [nearest] at h
      split at h
      · rename_i hfit
        rw [Option.some.injEq, Prod.mk.injEq] at h
        rw [← h.1, ← h.2, pow_zero, mul_one]
        exact ⟨hfit, Nat.le_refl _, rfl⟩
      · cases h
  | succ n ih =>
      rw [nearest] at h
      split at h
      · rename_i hfit
        rw [Option.some.injEq, Prod.mk.injEq] at h
        rw [← h.1, ← h.2]
        exact ⟨hfit, Nat.le_refl _, rfl⟩
      · obtain ⟨hfit, hle, hm⟩ := ih h
        exact ⟨hfit, Nat.le_succ_of_le hle, hm⟩

theorem representable_nearest {bound scale : ℕ} {x : ℚ} {m : ℤ} {s : ℕ}
    (h : nearest bound scale x = some (m, s)) : Representable bound scale (value m s) := by
  obtain ⟨hfit, hle, -⟩ := nearest_fits h
  exact ⟨m, s, hfit, hle, rfl⟩

/-- A decimal is its own nearest one. At the largest scale where its mantissa fits nothing is
rounded, and any larger scale is passed over. -/
theorem nearest_of_representable {bound scale : ℕ} {x : ℚ} (h : Representable bound scale x) :
    ∃ m s, nearest bound scale x = some (m, s) ∧ value m s = x := by
  obtain ⟨m, s, hfit, hle, rfl⟩ := h
  induction scale with
  | zero =>
      have hs : s = 0 := Nat.le_zero.mp hle
      subst hs
      refine ⟨m, 0, ?_, rfl⟩
      rw [nearest, value_zero_right, half_even_intCast, if_pos hfit]
  | succ n ih =>
      rw [nearest, value_mul_pow hle, half_even_intCast]
      by_cases hfit' : (m * 10 ^ (n + 1 - s)).natAbs < bound
      · rw [if_pos hfit']
        refine ⟨_, _, rfl, ?_⟩
        rw [value, ← value_mul_pow hle, mul_div_assoc, div_self (ten_pow_pos _).ne', mul_one]
      -- at its own scale the mantissa fits, so that one is below
      · rw [if_neg hfit']
        apply ih
        by_contra hgt
        have hs : n + 1 - s = 0 := by omega
        rw [hs, pow_zero, Int.mul_one] at hfit'
        exact hfit' hfit

/-- More places than the number has change nothing but the scale it is found at. By induction on
the scale: the mantissa is the old one with a zero behind it, exact where it fits. -/
theorem nearest_of_places {bound s n : ℕ} {x : ℚ} {k : ℤ} (hs : s ≤ n) (hx : x * 10 ^ s = k) :
    (nearest bound n x).map (fun r => value r.1 r.2)
      = (nearest bound s x).map fun r => value r.1 r.2 := by
  by_cases hfit : k.natAbs < bound
  -- the number is a decimal, and found from either scale
  · have hvalue : x = value k s := by
      rw [value, ← hx, mul_div_assoc, div_self (ten_pow_pos s).ne', mul_one]
    obtain ⟨m, t, hnearest, hm⟩ := nearest_of_representable ⟨k, s, hfit, hs, hvalue⟩
    obtain ⟨m', t', hnearest', hm'⟩ := nearest_of_representable ⟨k, s, hfit, Nat.le_refl s, hvalue⟩
    rw [hnearest, hnearest', Option.map_some, Option.map_some, hm, hm']
  -- a larger scale makes the mantissa longer still
  · congr 1
    induction n, hs using Nat.le_induction with
    | base => rfl
    | succ n hs ih =>
        have hmore : x * 10 ^ (n + 1) = ((k * 10 ^ (n + 1 - s) : ℤ) : ℚ) := by
          rw [← pow_sub_mul_pow (10 : ℚ) (show s ≤ n + 1 by omega), mul_comm (_ ^ (_ - _)),
            ← mul_assoc, hx]
          push_cast
          rfl
        have hlong : ¬ (k * 10 ^ (n + 1 - s)).natAbs < bound := by
          rw [Int.natAbs_mul, Int.natAbs_pow]
          have hpos : 0 < Int.natAbs 10 ^ (n + 1 - s) := Nat.pow_pos (by decide)
          have hle := Nat.le_mul_of_pos_right k.natAbs hpos
          omega
        rw [nearest, hmore, half_even_intCast, if_neg hlong, ih]

/-! ## Trailing zeros -/

/-- The same number without trailing zeros behind the point. -/
def strip : ℤ → ℕ → ℤ × ℕ
  | m, 0 => (m, 0)
  | m, s + 1 => if m % 10 = 0 then strip (m / 10) s else (m, s + 1)

/-- Zeros that are taken off leave the value: each is a place less and a factor of ten less. -/
theorem value_strip (m : ℤ) (s : ℕ) : value (strip m s).1 (strip m s).2 = value m s := by
  induction s generalizing m with
  | zero => rfl
  | succ s ih =>
      rw [strip]
      split
      · rename_i hzero
        have hm : m = m / 10 * 10 := by omega
        have hcast : (m : ℚ) = ((m / 10 : ℤ) : ℚ) * 10 := by exact_mod_cast hm
        have hne := (ten_pow_pos s).ne'
        rw [ih, value, value, hcast, pow_succ]
        field_simp
      · rfl

/-- They leave no more digits and no more places than there were. -/
theorem strip_le (m : ℤ) (s : ℕ) : (strip m s).1.natAbs ≤ m.natAbs ∧ (strip m s).2 ≤ s := by
  induction s generalizing m with
  | zero => exact ⟨Nat.le_refl _, Nat.le_refl _⟩
  | succ s ih =>
      rw [strip]
      split
      · obtain ⟨hm, hs⟩ := ih (m / 10)
        constructor <;> omega
      · exact ⟨Nat.le_refl _, Nat.le_refl _⟩

/-- They leave no place, or a last digit that is not zero. -/
theorem strip_last (m : ℤ) (s : ℕ) : (strip m s).2 = 0 ∨ ¬ (strip m s).1 % 10 = 0 := by
  induction s generalizing m with
  | zero => exact Or.inl rfl
  | succ s ih =>
      rw [strip]
      split
      · exact ih _
      · rename_i hlast
        exact Or.inr hlast

/-- No smaller scale holds the number. -/
theorem strip_scale_le {m n : ℤ} {s k : ℕ} (h : value m s * 10 ^ k = n) : (strip m s).2 ≤ k := by
  by_contra hlt
  rcases strip_last m s with hzero | hlast
  · omega
  · rw [← value_strip m s, value] at h
    obtain ⟨j, hj⟩ := Nat.exists_eq_add_of_lt (Nat.lt_of_not_ge hlt)
    rw [hj, pow_succ, pow_add] at h
    have hcast : ((strip m s).1 : ℚ) = ((n * 10 ^ j * 10 : ℤ) : ℚ) := by
      have hk := (ten_pow_pos k).ne'
      have hj' := (ten_pow_pos j).ne'
      push_cast
      rw [← h]
      field_simp
    have hmul : (strip m s).1 = n * 10 ^ j * 10 := by exact_mod_cast hcast
    rw [hmul] at hlast
    omega

end Scaled
