/-
Binary forms of numbers: big-endian integers and the IEEE-754 binary64 format.

A binary64 datum is its 64 bits. Every finite one is a whole multiple of the smallest
subnormal, `2 ^ -1074`, so its value is kept as that multiple (`units`) and everything below
is arithmetic of integers: the integer `z` is `z * 2 ^ 1074` units.

`eq_zero_of_units_eq` is about reading one form as the other: no word but zero is the same
number as a binary64 datum and as a two's complement integer.
-/
import Mathlib.Algebra.Group.Int.Defs
import Mathlib.Algebra.Order.Ring.Nat
import Mathlib.Data.List.Basic
import Mathlib.Tactic.IntervalCases

set_option autoImplicit false

namespace Binary

/-! ## Big-endian integers -/

/-- The `width` low bytes of a number, the highest first. -/
def be : (width n : ℕ) → List UInt8
  | 0, _ => []
  | width + 1, n => be width (n / 256) ++ [UInt8.ofNat n]

@[simp] theorem be_length (width n : ℕ) : (be width n).length = width := by
  induction width generalizing n with
  | zero => rfl
  | succ width ih => rw [be, List.length_append, ih, List.length_singleton]

/-- The bytes determine the number up to what fits in them. By induction on the width, the last
byte being the remainder by 256. -/
theorem be_inj {width m n : ℕ} : be width m = be width n ↔ m % 256 ^ width = n % 256 ^ width := by
  induction width generalizing m n with
  | zero => rw [Nat.pow_zero, Nat.mod_one, Nat.mod_one]; exact iff_of_true rfl rfl
  | succ width ih =>
      have hlow : UInt8.ofNat m = UInt8.ofNat n ↔ m % 256 = n % 256 := by
        rw [← UInt8.toNat_inj, UInt8.toNat_ofNat', UInt8.toNat_ofNat']
      have hpow : 256 ^ (width + 1) = 256 * 256 ^ width := by
        rw [Nat.pow_succ, Nat.mul_comm]
      rw [be, be, List.append_singleton_inj, ih, hlow, hpow, Nat.mod_mul, Nat.mod_mul]
      have hm := Nat.mod_lt m (show 0 < 256 by decide)
      have hn := Nat.mod_lt n (show 0 < 256 by decide)
      constructor
      · rintro ⟨hhigh, hlow⟩
        rw [hhigh, hlow]
      · intro h
        have hhigh : m / 256 % 256 ^ width = n / 256 % 256 ^ width := by omega
        exact ⟨hhigh, by omega⟩

/-- The two's complement form of an integer. -/
def int_be (width : ℕ) (z : ℤ) : List UInt8 := be width (z % 256 ^ width).toNat

@[simp] theorem int_be_length (width : ℕ) (z : ℤ) : (int_be width z).length = width := be_length _ _

/-! ## binary64 -/

/-- The exponent field. -/
def exponent (b : ℕ) : ℕ := b / 2 ^ 52 % 2048

/-- The fraction field. -/
def fraction (b : ℕ) : ℕ := b % 2 ^ 52

/-- The absolute value of a finite datum, in units. -/
def magnitude (b : ℕ) : ℕ :=
  if exponent b = 0 then fraction b else (2 ^ 52 + fraction b) * 2 ^ (exponent b - 1)

/-- The value in units of `2 ^ -1074`; none of an infinity or a NaN. -/
def units (b : ℕ) : Option ℤ :=
  if exponent b = 2047 then none
  else some (if 2 ^ 63 ≤ b then -(magnitude b : ℤ) else magnitude b)

/-- The smallest subnormal is `2 ^ -lowest`. -/
def lowest : ℕ := 1074

/-- `1`, in units. -/
def one : ℤ := ((2 ^ lowest : ℕ) : ℤ)

/-- The two's complement reading of 64 bits. -/
def signed (b : ℕ) : ℤ := if 2 ^ 63 ≤ b then (b : ℤ) - 2 ^ 64 else b

/-- The three fields of a datum: its sign, its exponent and its fraction. -/
theorem fields (b : ℕ) (h : b < 2 ^ 64) :
    fraction b < 2 ^ 52 ∧ exponent b < 2048
      ∧ b = (if 2 ^ 63 ≤ b then 2 ^ 63 else 0) + exponent b * 2 ^ 52 + fraction b := by
  have hfraction : fraction b < 2 ^ 52 := Nat.mod_lt _ (by decide)
  have hexponent : exponent b < 2048 := Nat.mod_lt _ (by decide)
  refine ⟨hfraction, hexponent, ?_⟩
  rw [exponent, fraction]
  split <;> omega

/-- A significand times a power of two that is a whole number between `2 ^ 52` and `2 ^ 63`:
the exponent lies in a dozen values. -/
theorem exponent_range {k e m w : ℕ} (hpos : 1 ≤ e) (hm : m < 2 ^ 52) (hlow : 2 ^ 52 ≤ w)
    (hhigh : w ≤ 2 ^ 63) (h : (2 ^ 52 + m) * 2 ^ (e - 1) = w * 2 ^ k) :
    ∃ j ≤ 11, e = k + 1 + j ∧ (2 ^ 52 + m) * 2 ^ j = w := by
  -- a smaller exponent leaves the number below `2 ^ 52`
  have hbig : k + 1 ≤ e := by
    by_contra hlt
    have hpow : 2 ^ (e - 1) * 2 ≤ 2 ^ k := by
      rw [← Nat.pow_succ]
      exact Nat.pow_le_pow_right (by decide) (by omega)
    have hless : (2 ^ 52 + m) * 2 ^ (e - 1) < 2 ^ 53 * 2 ^ (e - 1) :=
      Nat.mul_lt_mul_of_pos_right (by omega) (Nat.two_pow_pos _)
    have hmore : 2 ^ 52 * (2 ^ (e - 1) * 2) ≤ w * 2 ^ k := Nat.mul_le_mul hlow hpow
    omega
  obtain ⟨j, rfl⟩ := Nat.exists_eq_add_of_le hbig
  have hexact : (2 ^ 52 + m) * 2 ^ j = w := by
    have hsplit : 2 ^ (k + 1 + j - 1) = 2 ^ j * 2 ^ k := by
      rw [← Nat.pow_add]
      congr 1
      omega
    rw [hsplit, ← Nat.mul_assoc] at h
    exact Nat.eq_of_mul_eq_mul_right (Nat.two_pow_pos k) h
  refine ⟨j, ?_, rfl, hexact⟩
  -- a larger one takes it above `2 ^ 63`
  by_contra hgt
  have hpow : 2 ^ 12 ≤ 2 ^ j := Nat.pow_le_pow_right (by decide) (by omega)
  have hmore : 2 ^ 52 * 2 ^ 12 ≤ (2 ^ 52 + m) * 2 ^ j := Nat.mul_le_mul (by omega) hpow
  omega

/-- A subnormal is less than one. -/
theorem lt_mul_two_pow {k m w : ℕ} (hm : m < 2 ^ 52) (hw : 0 < w) (hk : 52 ≤ k) : m < w * 2 ^ k :=
  calc m < 2 ^ 52 := hm
    _ ≤ 2 ^ k := Nat.pow_le_pow_right (by decide) hk
    _ ≤ w * 2 ^ k := Nat.le_mul_of_pos_left _ hw

/-- No word but zero is one and the same number as a binary64 datum and as a two's
complement integer. -/
theorem eq_zero_of_units_eq {b : ℕ} (hb : b < 2 ^ 64) (h : units b = some (signed b * one)) :
    b = 0 := by
  obtain ⟨hm, he, hbits⟩ := fields b hb
  rw [units] at h
  by_cases hinf : exponent b = 2047
  · rw [if_pos hinf] at h
    cases h
  rw [if_neg hinf, Option.some.injEq, one, signed] at h
  by_cases hneg : 2 ^ 63 ≤ b
  -- negative: the magnitude is what is left to `2 ^ 64`
  · rw [if_pos hneg] at hbits
    rw [if_pos hneg, if_pos hneg, ← Int.neg_inj, Int.neg_neg, ← Int.neg_mul, Int.neg_sub] at h
    have hmag : magnitude b = (2 ^ 64 - b) * 2 ^ lowest := by
      have hcast : ((2 ^ 64 - b : ℕ) : ℤ) = 2 ^ 64 - (b : ℤ) := by omega
      rw [← hcast, ← Int.natCast_mul] at h
      exact Int.ofNat_inj.mp h
    rw [magnitude] at hmag
    exfalso
    by_cases hzero : exponent b = 0
    · rw [if_pos hzero] at hmag
      have hless := lt_mul_two_pow hm (show 0 < 2 ^ 64 - b by omega) (show 52 ≤ lowest by decide)
      exact Nat.ne_of_lt hless hmag
    · rw [if_neg hzero] at hmag
      obtain ⟨j, hj, hexp, hexact⟩ :=
        exponent_range (Nat.one_le_iff_ne_zero.mpr hzero) hm (by omega) (by omega) hmag
      -- neither the size nor, where the size fits, the divisors of the fraction agree
      rw [hexp, lowest] at hbits
      generalize fraction b = m at *
      interval_cases j <;> omega
  · rw [if_neg hneg] at hbits
    rw [if_neg hneg, if_neg hneg] at h
    have hmag : magnitude b = b * 2 ^ lowest := by
      rw [← Int.natCast_mul] at h
      exact Int.ofNat_inj.mp h
    rw [magnitude] at hmag
    by_cases hzero : exponent b = 0
    · rw [if_pos hzero] at hmag
      by_contra hne
      have hless := lt_mul_two_pow hm (Nat.pos_of_ne_zero hne) (show 52 ≤ lowest by decide)
      exact Nat.ne_of_lt hless hmag
    · exfalso
      rw [if_neg hzero] at hmag
      have hlow : 2 ^ 52 ≤ b := by
        have := Nat.pos_of_ne_zero hzero
        omega
      obtain ⟨j, hj, hexp, hexact⟩ :=
        exponent_range (Nat.one_le_iff_ne_zero.mpr hzero) hm hlow (by omega) hmag
      rw [hexp, lowest] at hbits
      generalize fraction b = m at *
      interval_cases j <;> omega

theorem one_pos : 0 < one := by
  rw [one]
  exact Int.natCast_pos.mpr (Nat.two_pow_pos _)

/-- Integers are told apart by their units. -/
theorem mul_one_inj {y z : ℤ} (h : y * one = z * one) : y = z :=
  Int.eq_of_mul_eq_mul_right (Int.ne_of_gt one_pos) h

/-- An odd integer that is a datum has at most 53 bits. Its last bit is that of the mantissa, so
no bit stands in front of the 53 that a mantissa has. -/
theorem lt_of_units_of_odd {b : ℕ} {z : ℤ} (hb : b < 2 ^ 64) (hodd : z.natAbs % 2 = 1)
    (h : units b = some (z * one)) : z.natAbs < 2 ^ 53 := by
  obtain ⟨hm, -, -⟩ := fields b hb
  have hmagnitude : magnitude b = z.natAbs * 2 ^ lowest := by
    rw [units] at h
    split at h
    · cases h
    · rw [Option.some.injEq, one] at h
      have habs := congrArg Int.natAbs h
      rw [Int.natAbs_mul, Int.natAbs_natCast] at habs
      split at habs
      · rwa [Int.natAbs_neg] at habs
      · exact habs
  by_contra hlarge
  have hlow : 2 ^ 52 * 2 ^ lowest < z.natAbs * 2 ^ lowest :=
    Nat.mul_lt_mul_of_pos_right (by omega) (Nat.two_pow_pos _)
  rw [magnitude] at hmagnitude
  split at hmagnitude
  -- a subnormal is less than one
  · have hone : 2 ^ 52 * 1 ≤ 2 ^ 52 * 2 ^ lowest := Nat.mul_le_mul_left _ (Nat.two_pow_pos _)
    omega
  · rcases Nat.lt_or_ge lowest (exponent b - 1) with hexp | hexp
    -- the exponent leaves a factor of two in the integer
    · obtain ⟨k, hk⟩ := Nat.exists_eq_add_of_lt hexp
      have hsplit : (2 ^ 52 + fraction b) * 2 ^ (exponent b - 1)
          = (2 ^ 52 + fraction b) * 2 ^ k * 2 * 2 ^ lowest := by
        have hswap : lowest + k + 1 = k + 1 + lowest := by omega
        rw [hk, hswap, Nat.pow_add, @Nat.pow_succ 2 k, ← Nat.mul_assoc, ← Nat.mul_assoc]
      rw [hsplit] at hmagnitude
      have heven := Nat.eq_of_mul_eq_mul_right (Nat.two_pow_pos _) hmagnitude
      omega
    -- or it is not enough to reach the integer
    · have hpow : 2 ^ (exponent b - 1) ≤ 2 ^ lowest := Nat.pow_le_pow_right (by decide) hexp
      have hless : (2 ^ 52 + fraction b) * 2 ^ (exponent b - 1) ≤ (2 ^ 52 + fraction b) * 2 ^ lowest :=
        Nat.mul_le_mul_left _ hpow
      have hmore : (2 ^ 52 + fraction b) * 2 ^ lowest < z.natAbs * 2 ^ lowest :=
        Nat.mul_lt_mul_of_pos_right (by omega) (Nat.two_pow_pos _)
      omega

/-- The two's complement form of a word's signed reading is the word. -/
theorem int_be_eq_be {z : ℤ} {b : ℕ} (hlow : -2 ^ 63 ≤ z) (hhigh : z < 2 ^ 63) (hb : b < 2 ^ 64)
    (h : int_be 8 z = be 8 b) : z = signed b := by
  rw [int_be, be_inj, signed] at *
  split <;> omega

/-! ## Rounding -/

/-- The binary64 datum nearest to a number, the even one of two: a carry out of the
significand runs into the exponent. -/
def round (n : ℕ) : ℕ :=
  if n = 0 then 0
  else
    let e := n.log2
    if e ≤ 52 then (1023 + e) * 2 ^ 52 + (n * 2 ^ (52 - e) - 2 ^ 52)
    else
      let q := n / 2 ^ (e - 52)
      let r := n % 2 ^ (e - 52)
      let half := 2 ^ (e - 53)
      let m := if half < r ∨ r = half ∧ q % 2 = 1 then q + 1 else q
      (1023 + e) * 2 ^ 52 + (m - 2 ^ 52)

/-- Above `2 ^ 63` the data are the multiples of 2048. -/
theorem round_high {n : ℕ} (hlow : 2 ^ 63 ≤ n) (hhigh : n < 2 ^ 64) :
    ∃ m, 2 ^ 52 ≤ m ∧ m ≤ 2 ^ 53 ∧ round n = 1086 * 2 ^ 52 + (m - 2 ^ 52)
      ∧ (m * 2048 = n ↔ 2048 ∣ n) := by
  have hlog : n.log2 = 63 := (Nat.log2_eq_iff (by omega)).mpr ⟨hlow, hhigh⟩
  refine ⟨if 1024 < n % 2048 ∨ n % 2048 = 1024 ∧ n / 2048 % 2 = 1 then n / 2048 + 1 else n / 2048,
    ?_, ?_, ?_, ?_⟩
  · split <;> omega
  · split <;> omega
  · rw [round, if_neg (by omega), hlog]
    rfl
  · split <;> omega

/-- The value of a positive normal datum. -/
theorem units_normal {e f : ℕ} (hpos : 1 ≤ e) (he : e < 2047) (hf : f < 2 ^ 52) :
    units (e * 2 ^ 52 + f) = some (((2 ^ 52 + f) * 2 ^ (e - 1) : ℕ) : ℤ) := by
  have hexponent : exponent (e * 2 ^ 52 + f) = e := by
    rw [exponent]
    omega
  have hfraction : fraction (e * 2 ^ 52 + f) = f := by
    rw [fraction]
    omega
  rw [units, hexponent, if_neg (by omega), if_neg (by omega), magnitude, hexponent, hfraction,
    if_neg (by omega)]

/-- A number above `2 ^ 63` is rounded to itself iff it is a multiple of 2048. -/
theorem units_round_high {n : ℕ} (hlow : 2 ^ 63 ≤ n) (hhigh : n < 2 ^ 64) :
    round n < 2 ^ 64 ∧ (units (round n) = some ((n : ℤ) * one) ↔ 2048 ∣ n) := by
  obtain ⟨m, hm, hm', hround, hexact⟩ := round_high hlow hhigh
  have hshift : ∀ k j, 2 ^ (k + j) = 2 ^ j * 2 ^ k := fun k j => by rw [Nat.pow_add, Nat.mul_comm]
  have hunits : units (round n) = some (((m * 2048 : ℕ) : ℤ) * one) := by
    rw [hround, one, ← Int.natCast_mul]
    by_cases hcarry : m = 2 ^ 53
    -- the carry makes it the next power of two
    · have hbits : 1086 * 2 ^ 52 + (m - 2 ^ 52) = 1087 * 2 ^ 52 + 0 := by omega
      have hexp : 1087 - 1 = lowest + 12 := rfl
      have hcarried : (2 ^ 52 + 0) * 2 ^ 12 = m * 2048 := by omega
      rw [hbits, units_normal (by decide) (by decide) (by decide), hexp, hshift, ← Nat.mul_assoc,
        hcarried]
    · have hexp : 1086 - 1 = lowest + 11 := rfl
      have hkept : (2 ^ 52 + (m - 2 ^ 52)) * 2 ^ 11 = m * 2048 := by omega
      rw [units_normal (by decide) (by decide) (by omega), hexp, hshift, ← Nat.mul_assoc, hkept]
  refine ⟨by omega, ?_⟩
  rw [hunits, Option.some.injEq, ← hexact]
  constructor
  · intro h
    exact Int.ofNat_inj.mp (mul_one_inj h)
  · intro h
    rw [h]

/-! ## binary32 -/

/-- The exponent field of a binary32 datum. -/
def exponent32 (b : ℕ) : ℕ := b / 2 ^ 23 % 256

/-- The binary64 datum of a binary32 one: the same number, infinity, or a NaN. -/
def widen (b : ℕ) : ℕ :=
  let e := exponent32 b
  let f := b % 2 ^ 23
  b / 2 ^ 31 % 2 * 2 ^ 63 +
    if e = 255 then 2047 * 2 ^ 52 + f * 2 ^ 29
    else if e ≠ 0 then (e + 896) * 2 ^ 52 + f * 2 ^ 29
    else if f = 0 then 0
    else (874 + f.log2) * 2 ^ 52 + (f * 2 ^ (52 - f.log2) - 2 ^ 52) -- a subnormal is normal here

/-- Widening keeps the finite data finite, and the others not: the largest exponent goes to the
largest, and no other does. -/
theorem exponent_widen (b : ℕ) : exponent (widen b) = 2047 ↔ exponent32 b = 255 := by
  have hfraction : b % 2 ^ 23 < 2 ^ 23 := Nat.mod_lt _ (by decide)
  have hexponent : exponent32 b < 256 := Nat.mod_lt _ (by decide)
  rw [widen, exponent]
  generalize exponent32 b = e at *
  generalize b % 2 ^ 23 = f at *
  split
  · rename_i he
    omega
  · rename_i hfinite
    split
    · omega
    · split
      · omega
      · rename_i hsubnormal
        have hlog : f.log2 < 23 := (Nat.log2_lt hsubnormal).mpr hfraction
        have htop : f * 2 ^ (52 - f.log2) < 2 ^ 53 := by
          have hless : f < 2 ^ (f.log2 + 1) := Nat.lt_log2_self
          calc f * 2 ^ (52 - f.log2) < 2 ^ (f.log2 + 1) * 2 ^ (52 - f.log2) :=
                Nat.mul_lt_mul_of_pos_right hless (Nat.two_pow_pos _)
            _ = 2 ^ 53 := by
                rw [← Nat.pow_add]
                congr 1
                omega
        omega

end Binary
