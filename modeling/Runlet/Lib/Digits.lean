/-
Decimal numbers as text: a sign, digits, and a point with so many digits behind it.

`render m s` writes `m * 10 ^ -s` with `s` digits behind the point and at least one before
it; `read` says which number a text denotes. `read_render` is the round trip.
-/
import Mathlib.Data.List.TakeDrop
import Mathlib.Data.List.TakeWhile
import Mathlib.Data.String.Basic

set_option autoImplicit false

namespace Digits

/-- The digits of a number, with zeros in front so that more than `scale` are there. -/
def padded (n scale : ℕ) : List Char :=
  List.replicate (scale + 1 - (Nat.toDigits 10 n).length) '0' ++ Nat.toDigits 10 n

/-- The text of `n * 10 ^ -scale`. -/
def render_abs (n scale : ℕ) : List Char :=
  let digits := padded n scale
  let whole := digits.take (digits.length - scale)
  if scale = 0 then whole else whole ++ '.' :: digits.drop (digits.length - scale)

/-- The text of `mantissa * 10 ^ -scale`. -/
def render (mantissa : ℤ) (scale : ℕ) : String :=
  String.ofList (if mantissa < 0 then '-' :: render_abs mantissa.natAbs scale
    else render_abs mantissa.natAbs scale)

/-- The number an unsigned text denotes, as its digits and how many of them are behind the
point. -/
def read_abs (cs : List Char) : Option (ℕ × ℕ) :=
  let whole := cs.takeWhile (· != '.')
  let behind := (cs.dropWhile (· != '.')).drop 1
  if whole ≠ [] ∧ whole.all Char.isDigit ∧ behind.all Char.isDigit then
    some (Nat.ofDigitChars 10 (whole ++ behind) 0, behind.length)
  else none

/-- The number a text denotes. -/
def read (text : String) : Option (ℤ × ℕ) :=
  match text.toList with
  | '-' :: cs => (read_abs cs).map fun r => (-(r.1 : ℤ), r.2)
  | cs => (read_abs cs).map fun r => ((r.1 : ℤ), r.2)

theorem padded_length (n scale : ℕ) : scale < (padded n scale).length := by
  have hpos : 0 < (Nat.toDigits 10 n).length := Nat.length_toDigits_pos
  rw [padded, List.length_append, List.length_replicate]
  omega

/-- All of them are digits. -/
theorem padded_isDigit {n scale : ℕ} {c : Char} (h : c ∈ padded n scale) : c.isDigit = true := by
  rcases List.mem_append.mp h with h | h
  · rw [List.eq_of_mem_replicate h]
    decide
  · exact Nat.isDigit_of_mem_toDigits (by decide) (by decide) h

/-- Zeros in front change nothing. -/
theorem ofDigitChars_padded (n scale : ℕ) : Nat.ofDigitChars 10 (padded n scale) 0 = n := by
  rw [padded, Nat.ofDigitChars_append, Nat.ofDigitChars_replicate_zero, Nat.mul_zero,
    Nat.ofDigitChars_ten_toDigits]

theorem ne_point {c : Char} (h : c.isDigit = true) : (c != '.') = true := by
  rw [bne_iff_ne]
  rintro rfl
  cases h

theorem ne_minus {c : Char} (h : c.isDigit = true) : c ≠ '-' := by
  rintro rfl
  cases h

/-- The round trip without a sign. The point stands where the scale says, and there are always
enough digits for one in front of it. -/
theorem read_abs_render_abs (n scale : ℕ) : read_abs (render_abs n scale) = some (n, scale) := by
  have hlen := padded_length n scale
  have hdigit : ∀ c ∈ padded n scale, c.isDigit = true := fun c hc => padded_isDigit hc
  rw [render_abs]
  generalize hd : padded n scale = digits at hlen hdigit
  -- all are digits, so the first point is the one that was put in
  have hwhole : ∀ c ∈ digits.take (digits.length - scale), c.isDigit = true :=
    fun c hc => hdigit c (List.mem_of_mem_take hc)
  have hbehind : ∀ c ∈ digits.drop (digits.length - scale), c.isDigit = true :=
    fun c hc => hdigit c (List.mem_of_mem_drop hc)
  have hnonempty : digits.take (digits.length - scale) ≠ [] := by
    apply List.ne_nil_of_length_pos
    rw [List.length_take]
    omega
  have hall : ∀ c ∈ digits.take (digits.length - scale), (c != '.') = true :=
    fun c hc => ne_point (hwhole c hc)
  have hvalue : Nat.ofDigitChars 10 digits 0 = n := by
    rw [← hd, ofDigitChars_padded]
  have hwhole' := List.all_eq_true.mpr hwhole
  have hbehind' := List.all_eq_true.mpr hbehind
  by_cases hscale : scale = 0
  -- no point: the whole text is read before it
  · subst hscale
    rw [Nat.sub_zero, List.take_length] at *
    rw [if_pos rfl, read_abs, List.takeWhile_eq_self_iff.mpr hall,
      List.dropWhile_eq_nil_iff.mpr hall, List.drop_nil, if_pos ⟨hnonempty, hwhole', rfl⟩,
      List.append_nil, hvalue, List.length_nil]
  · have hpoint : ('.' != '.') = false := rfl
    have hscale' : (digits.drop (digits.length - scale)).length = scale := by
      rw [List.length_drop]
      omega
    rw [if_neg hscale, read_abs, List.takeWhile_append_of_pos hall,
      List.dropWhile_append_of_pos hall, List.takeWhile_cons_of_neg (by rw [hpoint]; decide),
      List.dropWhile_cons_of_neg (by rw [hpoint]; decide), List.append_nil, List.drop_one,
      List.tail_cons, if_pos ⟨hnonempty, hwhole', hbehind'⟩, List.take_append_drop, hvalue, hscale']

/-- A number without a sign does not begin with one. -/
theorem render_abs_ne_minus (n scale : ℕ) (cs : List Char) : render_abs n scale ≠ '-' :: cs := by
  intro h
  have hlen := padded_length n scale
  have hhead : (padded n scale).take ((padded n scale).length - scale) ≠ [] := by
    apply List.ne_nil_of_length_pos
    rw [List.length_take]
    omega
  obtain ⟨c, whole, hwhole⟩ := List.exists_cons_of_ne_nil hhead
  have hdigit : c.isDigit = true :=
    padded_isDigit (List.mem_of_mem_take (hwhole ▸ List.mem_cons_self))
  rw [render_abs, hwhole] at h
  split at h
  · exact ne_minus hdigit (List.cons.inj h).1
  · exact ne_minus hdigit (List.cons.inj h).1

/-- The text of a number denotes it. -/
theorem read_render (mantissa : ℤ) (scale : ℕ) :
    read (render mantissa scale) = some (mantissa, scale) := by
  rw [read, render, String.toList_ofList]
  by_cases hneg : mantissa < 0
  · rw [if_pos hneg]
    show (read_abs (render_abs mantissa.natAbs scale)).map (fun r => (-(r.1 : ℤ), r.2)) = _
    rw [read_abs_render_abs, Option.map_some]
    have hvalue : -(mantissa.natAbs : ℤ) = mantissa := by omega
    rw [hvalue]
  · rw [if_neg hneg]
    split
    · rename_i cs h
      exact absurd h (render_abs_ne_minus _ _ _)
    · rw [read_abs_render_abs, Option.map_some]
      have hvalue : (mantissa.natAbs : ℤ) = mantissa := by omega
      rw [hvalue]

/-- A point is written iff there are digits behind it. -/
theorem point_mem_render (mantissa : ℤ) (scale : ℕ) :
    '.' ∈ (render mantissa scale).toList ↔ 0 < scale := by
  have hdigits : '.' ∉ padded mantissa.natAbs scale := by
    intro h
    cases padded_isDigit h
  have habs : '.' ∈ render_abs mantissa.natAbs scale ↔ 0 < scale := by
    rw [render_abs]
    split
    · rename_i hzero
      rw [hzero]
      exact iff_of_false (fun h => hdigits (hzero ▸ List.mem_of_mem_take h)) (by decide)
    · rename_i hpos
      exact iff_of_true (List.mem_append_right _ List.mem_cons_self) (by omega)
  rw [render, String.toList_ofList]
  split
  · rw [List.mem_cons, habs]
    exact or_iff_right (by decide)
  · exact habs

/-! ## A whole number and a fraction -/

theorem padded_of_lt {n : ℕ} (h : n < 10) : padded n 0 = [n.digitChar] := by
  rw [padded, Nat.toDigits_of_lt_base h]
  rfl

theorem padded_zero (n : ℕ) : padded n 0 = Nat.toDigits 10 n := by
  have hpos : 0 < (Nat.toDigits 10 n).length := Nat.length_toDigits_pos
  have hnone : 0 + 1 - (Nat.toDigits 10 n).length = 0 := by omega
  rw [padded, hnone, List.replicate_zero, List.nil_append]

/-- One more place is one more digit at the end. -/
theorem padded_succ (n scale : ℕ) :
    padded n (scale + 1) = padded (n / 10) scale ++ [(n % 10).digitChar] := by
  rw [padded, padded]
  by_cases hlt : n < 10
  · rw [Nat.toDigits_of_lt_base hlt, Nat.div_eq_of_lt hlt, Nat.mod_eq_of_lt hlt, Nat.toDigits_zero,
      List.length_singleton, List.length_singleton, Nat.add_sub_cancel, Nat.add_sub_cancel,
      ← List.replicate_succ']
  · rw [Nat.toDigits_of_base_le (by decide) (by omega), List.length_append, List.length_singleton,
      Nat.add_sub_add_right, List.append_assoc]

/-- The digits fall apart into those of the whole number and those of the fraction. By induction
on the scale, taking off the last digit. -/
theorem padded_split (n scale : ℕ) : padded n (scale + 1)
    = padded (n / 10 ^ (scale + 1)) 0 ++ padded (n % 10 ^ (scale + 1)) scale := by
  induction scale generalizing n with
  | zero =>
      rw [padded_succ, Nat.zero_add, Nat.pow_one, padded_of_lt (Nat.mod_lt n (by decide))]
  | succ scale ih =>
      have hten : 10 ^ (scale + 1 + 1) = 10 * 10 ^ (scale + 1) := Nat.pow_succ'
      have hlast : n % 10 ^ (scale + 1 + 1) % 10 = n % 10 := by
        rw [hten, Nat.mod_mul_right_mod]
      have hrest : n % 10 ^ (scale + 1 + 1) / 10 = n / 10 % 10 ^ (scale + 1) := by
        rw [hten, Nat.mod_mul_right_div_self]
      have hwhole : n / 10 ^ (scale + 1 + 1) = n / 10 / 10 ^ (scale + 1) := by
        rw [hten, Nat.div_div_eq_div_mul]
      rw [padded_succ, ih, padded_succ (n % 10 ^ (scale + 1 + 1)), hlast, hrest, hwhole,
        List.append_assoc]

/-- A fraction has as many digits as there are places behind the point. -/
theorem padded_fraction_length {n scale : ℕ} (h : n < 10 ^ (scale + 1)) :
    (padded n scale).length = scale + 1 := by
  have hle : (Nat.toDigits 10 n).length ≤ scale + 1 :=
    (Nat.length_toDigits_le_iff (by decide) (Nat.succ_pos scale)).mpr h
  rw [padded, List.length_append, List.length_replicate]
  omega

/-- The text of a number, written as its whole part, a point and its fraction. -/
theorem render_split (n scale : ℕ) : render n (scale + 1)
    = toString (n / 10 ^ (scale + 1)) ++ "."
      ++ String.ofList (padded (n % 10 ^ (scale + 1)) scale) := by
  have hnonneg : ¬ (n : ℤ) < 0 := by omega
  have hlen : (padded (n % 10 ^ (scale + 1)) scale).length = scale + 1 :=
    padded_fraction_length (Nat.mod_lt _ (Nat.pow_pos (by decide)))
  rw [render, if_neg hnonneg, Int.natAbs_natCast, render_abs, if_neg (Nat.succ_ne_zero scale),
    padded_split, List.length_append, hlen, Nat.add_sub_cancel, List.take_left, List.drop_left,
    padded_zero, String.ofList_append, Nat.toString_eq_ofList_toDigits, String.append_assoc]
  exact congrArg (String.ofList _ ++ ·) (@String.ofList_append ['.'] _)

/-! ### Whole numbers, and where they end -/

theorem toList_toString (n : ℕ) : (toString n).toList = Nat.toDigits 10 n := by
  rw [Nat.toString_eq_ofList_toDigits, String.toList_ofList]

theorem isDigit_of_mem_toString {n : ℕ} {c : Char} (h : c ∈ (toString n).toList) :
    c.isDigit = true := by
  rw [toList_toString] at h
  exact Nat.isDigit_of_mem_toDigits (by decide) (by decide) h

/-- The text of a number says which it is. -/
theorem toString_inj {m n : ℕ} : toString m = toString n ↔ m = n := by
  constructor
  · intro h
    rw [Nat.toString_eq_ofList_toDigits, Nat.toString_eq_ofList_toDigits, String.ofList_inj] at h
    rw [← @Nat.ofDigitChars_ten_toDigits m, h, Nat.ofDigitChars_ten_toDigits]
  · rintro rfl
    rfl

/-- A number ends where its digits do. -/
theorem span_toString (n : ℕ) {rest : List Char} (hrest : ∀ c ∈ rest.head?, c.isDigit = false) :
    ((toString n).toList ++ rest).span Char.isDigit = ((toString n).toList, rest) := by
  have hdigits : ∀ c ∈ (toString n).toList, c.isDigit = true := fun c => isDigit_of_mem_toString
  rw [List.span_eq_takeWhile_dropWhile, List.takeWhile_append_of_pos hdigits,
    List.dropWhile_append_of_pos hdigits]
  cases rest with
  | nil => rw [List.takeWhile_nil, List.dropWhile_nil, List.append_nil]
  | cons c rest =>
      have hc : c.isDigit = false := hrest c rfl
      rw [List.takeWhile_cons_of_neg (by simp [hc]), List.dropWhile_cons_of_neg (by simp [hc]),
        List.append_nil]

/-- Two numbers before a rest that begins with no digit. -/
theorem toString_append_inj {m n : ℕ} {s t : String}
    (hs : ∀ c ∈ s.toList.head?, c.isDigit = false) (ht : ∀ c ∈ t.toList.head?, c.isDigit = false) :
    toString m ++ s = toString n ++ t ↔ m = n ∧ s = t := by
  constructor
  · intro h
    have hspan := congrArg (fun text => text.toList.span Char.isDigit) h
    simp only [String.toList_append, span_toString m hs, span_toString n ht, Prod.mk.injEq] at hspan
    exact ⟨toString_inj.mp (String.toList_inj.mp hspan.1), String.toList_inj.mp hspan.2⟩
  · rintro ⟨rfl, rfl⟩
    rfl

end Digits
