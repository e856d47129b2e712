/-
What the `$` decimals of a script are worth (`crates/runlet-core/src/decimal.rs`): the
conversions between major and minor units, and when an operation is exact.

`rust_decimal` keeps a 96-bit mantissa and a scale of at most 28. A result that is no such
decimal is rounded to one, and only a magnitude that does not fit at all is an error
(`rounded`). So `parse`, `add`, `sub` and `mul` are exact iff their numbers are decimals
of that format (`dispatch_exact_iff`), while the amounts of `to_minor` always are
(`minor_round_trip`).

`from_minor` rounds to its places but does not fill them: a quotient has as many digits behind
the point as the division leaves it, and rounding adds none. A hundred cents are shown as `1`
(`from_minor_fixed_iff`).
-/
import Runlet.Decimal
import Runlet.Lib.Digits
import Runlet.Lib.Result
import Runlet.Lib.Scaled

set_option autoImplicit false

namespace Runlet.Money

open Text Net Scaled Runlet.Decimal

/-! ## 1. Numbers and texts -/

/-- The digits of an unsigned text and how many of them are behind the point; `_` may stand
behind a digit. -/
def written_abs (cs : List Char) : Option (ℕ × ℕ) :=
  let body := cs.filter (· != '_')
  let whole := body.takeWhile (· != '.')
  let behind := (body.dropWhile (· != '.')).drop 1
  if (cs.filter (· != '.')).head? ≠ some '_' ∧ whole ++ behind ≠ []
      ∧ (whole ++ behind).all Char.isDigit then
    some (Nat.ofDigitChars 10 (whole ++ behind) 0, behind.length)
  else none

/-- The digits a text writes, with their sign, and how many of them are behind the point. -/
def written_digits (text : String) : Option (ℤ × ℕ) :=
  match text.toList with
  | '-' :: cs => (written_abs cs).map fun r => (-(r.1 : ℤ), r.2)
  | '+' :: cs => (written_abs cs).map fun r => ((r.1 : ℤ), r.2)
  | cs => (written_abs cs).map fun r => ((r.1 : ℤ), r.2)

/-- The number a text writes. -/
def written (text : String) : Option ℚ := (written_digits text).map fun r => value r.1 r.2

/-- The text is an integer of units `10 ^ -places`, written with exactly that many digits
behind the point and without a point if there are none. -/
def Shows (text : String) (n : ℤ) (places : ℕ) : Prop :=
  Digits.read text = some (n, places) ∧ ('.' ∈ text.toList ↔ 0 < places)

/-- A text denotes a number. -/
def Denotes (text : String) (x : ℚ) : Prop :=
  ∃ (m : ℤ) (s : ℕ), Digits.read text = some (m, s) ∧ value m s = x

/-- A text denotes one number. -/
theorem denotes_unique {text : String} {x y : ℚ} (hx : Denotes text x) (hy : Denotes text y) :
    x = y := by
  obtain ⟨m, s, hread, rfl⟩ := hx
  obtain ⟨m', s', hread', rfl⟩ := hy
  rw [hread, Option.some.injEq, Prod.mk.injEq] at hread'
  rw [hread'.1, hread'.2]

/-- A text that reads as a number has digits in it, and a point. -/
theorem read_abs_chars {cs : List Char} {r : ℕ × ℕ} (h : Digits.read_abs cs = some r) :
    ∀ c ∈ cs, c.isDigit = true ∨ c = '.' := by
  rw [Digits.read_abs] at h
  split at h
  · rename_i hdigits
    obtain ⟨-, hwhole, hbehind⟩ := hdigits
    rw [List.all_eq_true] at hwhole hbehind
    intro c hc
    rw [← List.takeWhile_append_dropWhile (p := (· != '.')) (l := cs), List.mem_append] at hc
    rcases hc with hc | hc
    · exact Or.inl (hwhole c hc)
    · cases hrest : cs.dropWhile (· != '.') with
      | nil => rw [hrest] at hc; cases hc
      | cons d rest =>
          rw [hrest] at hc hbehind
          rcases List.mem_cons.mp hc with rfl | hc
          -- what stopped the whole part is the point
          · have hd := List.head?_dropWhile_not (· != '.') cs
            rw [hrest] at hd
            exact Or.inr (bne_eq_false_iff_eq.mp hd)
          · exact Or.inl (hbehind c hc)
  · cases h

/-- With a sign in front. -/
theorem read_chars {text : String} {r : ℤ × ℕ} (h : Digits.read text = some r) :
    ∀ c ∈ text.toList, c.isDigit = true ∨ c = '.' ∨ c = '-' := by
  rw [Digits.read] at h
  split at h
  · rename_i cs htext
    obtain ⟨r', hr', -⟩ := Option.map_eq_some_iff.mp h
    rw [htext]
    intro c hc
    rcases List.mem_cons.mp hc with rfl | hc
    · exact Or.inr (Or.inr rfl)
    · exact (read_abs_chars hr' c hc).imp_right Or.inl
  · obtain ⟨r', hr', -⟩ := Option.map_eq_some_iff.mp h
    intro c hc
    exact (read_abs_chars hr' c hc).imp_right Or.inl

/-- No digit is white space. -/
theorem is_whitespace_of_isDigit {c : Char} (h : c.isDigit = true) : is_whitespace c = false := by
  have hrange : 48 ≤ c.toNat ∧ c.toNat ≤ 57 := by
    rw [Char.isDigit, Bool.and_eq_true, decide_eq_true_eq, decide_eq_true_eq] at h
    exact ⟨h.1, h.2⟩
  rw [is_whitespace]
  simp only [Bool.or_eq_false_iff, Bool.and_eq_false_iff, decide_eq_false_iff_not,
    beq_eq_false_iff_ne]
  omega

/-- The text of a number has nothing to trim. -/
theorem trim_of_read {text : String} {r : ℤ × ℕ} (h : Digits.read text = some r) :
    trim text = text := by
  have hchars : ∀ c ∈ text.toList, is_whitespace c = false := by
    intro c hc
    rcases read_chars h c hc with hdigit | rfl | rfl
    · exact is_whitespace_of_isDigit hdigit
    · decide
    · decide
  rw [trim, trim_chars_of_forall hchars, String.ofList_toList]

/-- What reads as a plain number is read by the engine's own parser as the same digits. That
parser also takes an underscore behind a digit, and a plain number has none. -/
theorem written_abs_of_read_abs {cs : List Char} {r : ℕ × ℕ} (h : Digits.read_abs cs = some r) :
    written_abs cs = some r := by
  have hunder : '_' ∉ cs := by
    intro hc
    rcases read_abs_chars h '_' hc with hdigit | hpoint
    · cases hdigit
    · cases hpoint
  have hbody : cs.filter (· != '_') = cs := by
    rw [List.filter_eq_self]
    intro c hc
    rw [bne_iff_ne]
    rintro rfl
    exact hunder hc
  have hfirst : (cs.filter (· != '.')).head? ≠ some '_' := by
    intro hhead
    exact hunder (List.mem_filter.mp (List.mem_of_head? hhead)).1
  rw [Digits.read_abs] at h
  split at h
  · rename_i hdigits
    obtain ⟨hne, hwhole, hbehind⟩ := hdigits
    rw [written_abs, hbody, if_pos]
    · exact h
    · rw [List.all_append, hwhole, hbehind]
      exact ⟨hfirst, List.append_ne_nil_of_left_ne_nil hne _, rfl⟩
  · cases h

/-- With a sign in front. -/
theorem written_digits_of_read {text : String} {r : ℤ × ℕ} (h : Digits.read text = some r) :
    written_digits text = some r := by
  rw [Digits.read] at h
  rw [written_digits]
  split at h
  · rename_i cs htext
    obtain ⟨d, hd, heq⟩ := Option.map_eq_some_iff.mp h
    rw [htext]
    show (written_abs cs).map (fun r => (-(r.1 : ℤ), r.2)) = some r
    rw [written_abs_of_read_abs hd, Option.map_some, heq]
  · rename_i hminus
    obtain ⟨d, hd, heq⟩ := Option.map_eq_some_iff.mp h
    split
    · rename_i cs htext
      exact absurd htext (hminus cs)
    -- a sign in front is not read
    · rename_i cs htext
      rw [htext] at hd
      rcases read_abs_chars hd '+' List.mem_cons_self with hdigit | hpoint
      · cases hdigit
      · cases hpoint
    · rw [written_abs_of_read_abs hd, Option.map_some, heq]

theorem written_of_read {text : String} {m : ℤ} {s : ℕ} (h : Digits.read text = some (m, s)) :
    written text = some (value m s) := by
  rw [written, written_digits_of_read h, Option.map_some]

/-! ## 2. `rust_decimal` -/

/-- The mantissa and the scale of a decimal. -/
structure View (D : Type) where
  mantissa : D → ℤ
  scale : D → ℕ
  mantissa_lt : ∀ d, (mantissa d).natAbs < 2 ^ 96
  scale_le : ∀ d, scale d ≤ 28

section
variable {D : Type}

/-- The number a decimal is. -/
def View.value (view : View D) (d : D) : ℚ := Scaled.value (view.mantissa d) (view.scale d)

/-- The numbers that are decimals. -/
abbrev Exact : ℚ → Prop := Representable (2 ^ 96) 28

/-- The number of the nearest decimal; none where the magnitude overflows. -/
def rounded (x : ℚ) : Option ℚ := (nearest (2 ^ 96) 28 x).map fun r => Scaled.value r.1 r.2

/-- The text of a decimal has all its places. -/
structure Prints (lib : DecimalLib D) (view : View D) : Prop where
  to_string : ∀ d, Shows (lib.to_string d) (view.mantissa d) (view.scale d)

/-- A number that is a decimal is read as it is; how another one is rounded is left open. -/
structure Reads (lib : DecimalLib D) (view : View D) : Prop where
  from_str : ∀ text x, written text = some x → Exact x →
    ∃ d, lib.from_str text = .ok d ∧ view.value d = x

/-- A quotient is the nearest decimal, and `round_dp` goes from there to the nearest with so
many places. -/
structure Divides (lib : DecimalLib D) (view : View D) : Prop extends Prints lib view where
  from_u64 : ∀ n < 2 ^ 64, view.value (lib.from_u64 n) = n
  checked_div : ∀ a b, view.value b ≠ 0 →
    (lib.checked_div a b).map view.value = rounded (view.value a / view.value b)
  round_dp : ∀ d places, view.value (lib.round_dp d places) = round_places (view.value d) places
  round_dp_scale : ∀ d places, places ≤ view.scale d → view.scale (lib.round_dp d places) = places

/-- What `to_minor` and `from_minor` rely on. -/
structure Converts (lib : DecimalLib D) (view : View D) : Prop
    extends Divides lib view, Reads lib view where
  checked_mul : ∀ a b, (lib.checked_mul a b).map view.value = rounded (view.value a * view.value b)

/-- What `parse`, `add`, `sub` and `mul` rely on. -/
structure Computes (lib : DecimalLib D) (view : View D) : Prop
    extends Prints lib view, Reads lib view where
  checked_add : ∀ a b, (lib.checked_add a b).map view.value = rounded (view.value a + view.value b)
  checked_sub : ∀ a b, (lib.checked_sub a b).map view.value = rounded (view.value a - view.value b)
  checked_mul : ∀ a b, (lib.checked_mul a b).map view.value = rounded (view.value a * view.value b)

/-! ### The zeros of a quotient -/

/-- `places` zeros less, where there are as many. -/
def take_zeros (places : ℕ) (r : ℤ × ℕ) : ℤ × ℕ :=
  if places ≤ r.2 ∧ (10 ^ places : ℤ) ∣ r.1 then (r.1 / 10 ^ places, r.2 - places) else r

/-- Eight zeros less, as long as the low word of the mantissa is zero. -/
def take_eights : ℕ → ℤ × ℕ → ℤ × ℕ
  | 0, r => r
  | rounds + 1, r =>
    if (2 ^ 32 : ℤ) ∣ r.1 ∧ 8 ≤ r.2 ∧ (10 ^ 8 : ℤ) ∣ r.1 then
      take_eights rounds (r.1 / 10 ^ 8, r.2 - 8)
    else r

/-- What a division with a remainder does with the zeros at the end of its quotient: off come
eight at a time while the low word is zero, then four, then two, then one. -/
def unscale (r : ℤ × ℕ) : ℤ × ℕ := take_zeros 1 (take_zeros 2 (take_zeros 4 (take_eights 3 r)))

/-- Digits are computed nine at a time: where the first are enough that end at `least`. -/
def nines (scale least : ℕ) : ℕ := scale + 9 * ((least - scale + 8) / 9)

/-- The least number of places that hold the number. -/
def Least (x : ℚ) (places : ℕ) : Prop :=
  (∃ n : ℤ, x * 10 ^ places = n) ∧ ∀ (k : ℕ) (n : ℤ), x * 10 ^ k = n → places ≤ k

/-- How many places the quotient by `10 ^ places` has. Zero has none, and without a remainder
they are those of the dividend. Else the digits come by nines and `unscale` takes zeros off; of
nine that do not fit only some are computed, and no zero stays. -/
structure Quotients (lib : DecimalLib D) (view : View D) : Prop extends Divides lib view where
  round_dp_le : ∀ d places, view.scale (lib.round_dp d places) ≤ view.scale d
  div_zero : ∀ a c, ∀ p ≤ 18, lib.checked_div a (lib.from_u64 (10 ^ p)) = some c →
    view.mantissa a = 0 → view.scale c = 0
  div_whole : ∀ a c, ∀ p ≤ 18, lib.checked_div a (lib.from_u64 (10 ^ p)) = some c →
    view.mantissa a ≠ 0 → (10 ^ p : ℤ) ∣ view.mantissa a → view.scale c = view.scale a
  div_exact : ∀ a c, ∀ p ≤ 18, lib.checked_div a (lib.from_u64 (10 ^ p)) = some c →
    ¬ (10 ^ p : ℤ) ∣ view.mantissa a → view.value c = view.value a / 10 ^ p →
    ∀ (least : ℕ) (m : ℤ), Least (view.value c) least →
      view.value c * 10 ^ nines (view.scale a) least = m →
      view.scale c = if nines (view.scale a) least ≤ 28 ∧ m.natAbs < 2 ^ 96 then
        (unscale (m, nines (view.scale a) least)).2 else least
  div_rounded : ∀ a c, ∀ p ≤ 18, lib.checked_div a (lib.from_u64 (10 ^ p)) = some c →
    view.value c ≠ view.value a / 10 ^ p → ∀ m : ℤ, view.value c * 10 ^ 28 = m →
    view.scale c = (unscale (m, 28)).2

theorem View.exact (view : View D) (d : D) : Exact (view.value d) :=
  ⟨view.mantissa d, view.scale d, view.mantissa_lt d, view.scale_le d, rfl⟩

theorem rounded_of_exact {x : ℚ} (h : Exact x) : rounded x = some x := by
  obtain ⟨m, s, hnearest, hvalue⟩ := nearest_of_representable h
  rw [rounded, hnearest, Option.map_some, hvalue]

theorem exact_of_rounded {x y : ℚ} (h : rounded x = some y) : Exact y := by
  obtain ⟨⟨m, s⟩, hnearest, rfl⟩ := Option.map_eq_some_iff.mp h
  exact representable_nearest hnearest

/-- A result is the exact number iff that number is a decimal. -/
theorem rounded_eq_self_iff {x y : ℚ} (h : rounded x = some y) : y = x ↔ Exact x := by
  constructor
  · rintro rfl
    exact exact_of_rounded h
  · intro hexact
    rw [rounded_of_exact hexact, Option.some.injEq] at h
    exact h.symm

end

/-! ## 3. Taking zeros off -/

/-- A shift of the point that loses no digit leaves the value. -/
theorem value_div_pow {m : ℤ} {s n : ℕ} (hn : n ≤ s) (h : (10 ^ n : ℤ) ∣ m) :
    Scaled.value (m / 10 ^ n) (s - n) = Scaled.value m s := by
  obtain ⟨k, rfl⟩ := h
  obtain ⟨t, rfl⟩ := Nat.exists_eq_add_of_le hn
  have hn' := (ten_pow_pos n).ne'
  have ht := (ten_pow_pos t).ne'
  rw [Int.mul_ediv_cancel_left _ (by positivity), Nat.add_sub_cancel_left, Scaled.value,
    Scaled.value, pow_add]
  push_cast
  field_simp

/-- The same number, with no longer a mantissa and no larger a scale. -/
def Shortens (r r' : ℤ × ℕ) : Prop :=
  Scaled.value r'.1 r'.2 = Scaled.value r.1 r.2 ∧ r'.1.natAbs ≤ r.1.natAbs ∧ r'.2 ≤ r.2

theorem Shortens.refl (r : ℤ × ℕ) : Shortens r r := ⟨rfl, Nat.le_refl _, Nat.le_refl _⟩

theorem Shortens.trans {r r' r'' : ℤ × ℕ} (h : Shortens r r') (h' : Shortens r' r'') :
    Shortens r r'' :=
  ⟨h'.1.trans h.1, Nat.le_trans h'.2.1 h.2.1, Nat.le_trans h'.2.2 h.2.2⟩

/-- Zeros that are taken off at once are taken off. -/
theorem shortens_div {m : ℤ} {s n : ℕ} (hn : n ≤ s) (h : (10 ^ n : ℤ) ∣ m) :
    Shortens (m, s) (m / 10 ^ n, s - n) := by
  refine ⟨value_div_pow hn h, ?_, Nat.sub_le s n⟩
  show (m / 10 ^ n).natAbs ≤ m.natAbs
  rw [Int.natAbs_ediv_of_dvd h]
  exact Nat.div_le_self _ _

/-- So are those that are taken off if they are there. -/
theorem shortens_take_zeros (n : ℕ) (r : ℤ × ℕ) : Shortens r (take_zeros n r) := by
  rw [take_zeros]
  split
  · rename_i hzeros
    exact shortens_div hzeros.1 hzeros.2
  · exact Shortens.refl r

/-- Taking zeros off eight at a time leaves the value, however many times it is done. -/
theorem shortens_take_eights (rounds : ℕ) (r : ℤ × ℕ) : Shortens r (take_eights rounds r) := by
  induction rounds generalizing r with
  | zero => exact Shortens.refl r
  | succ rounds ih =>
      rw [take_eights]
      split
      · rename_i hzeros
        exact (shortens_div hzeros.2.1 hzeros.2.2).trans (ih _)
      · exact Shortens.refl r

theorem shortens_unscale (r : ℤ × ℕ) : Shortens r (unscale r) :=
  (((shortens_take_eights 3 r).trans (shortens_take_zeros 4 _)).trans
    (shortens_take_zeros 2 _)).trans (shortens_take_zeros 1 _)

theorem shortens_strip (m : ℤ) (s : ℕ) : Shortens (m, s) (strip m s) :=
  ⟨value_strip m s, (strip_le m s).1, (strip_le m s).2⟩

theorem mul_pow_ediv (u : ℤ) {n t : ℕ} (h : n ≤ t) : u * 10 ^ t / 10 ^ n = u * 10 ^ (t - n) := by
  obtain ⟨k, rfl⟩ := Nat.exists_eq_add_of_le h
  rw [Nat.add_sub_cancel_left, pow_add, mul_left_comm, Int.mul_ediv_cancel_left _ (by positivity)]

section Zeros
variable {u : ℤ} (hu : ¬ (10 : ℤ) ∣ u)
include hu

/-- How many zeros stand at the end, if the number before them has none. -/
theorem pow_dvd_iff {n t : ℕ} : (10 ^ n : ℤ) ∣ u * 10 ^ t ↔ n ≤ t := by
  constructor
  · intro h
    by_contra hlt
    obtain ⟨k, rfl⟩ := Nat.exists_eq_add_of_lt (Nat.lt_of_not_ge hlt)
    rw [pow_succ, pow_add, mul_comm u, mul_assoc] at h
    have h' := Int.dvd_of_mul_dvd_mul_left (by positivity) h
    exact hu (Dvd.dvd.trans (Dvd.intro_left _ rfl) h')
  · intro hle
    exact Dvd.dvd.mul_left (pow_dvd_pow _ hle) u

/-- They are there if the number ends with so many. -/
theorem take_zeros_pow {n t s : ℕ} (ht : t ≤ s) :
    take_zeros n (u * 10 ^ t, s)
      = if n ≤ t then (u * 10 ^ (t - n), s - n) else (u * 10 ^ t, s) := by
  rw [take_zeros]
  by_cases hn : n ≤ t
  · rw [if_pos ⟨le_trans hn ht, (pow_dvd_iff hu).mpr hn⟩, if_pos hn, mul_pow_ediv u hn]
  · rw [if_neg fun h => hn ((pow_dvd_iff hu).mp h.2), if_neg hn]

/-- Of at most seven zeros none stays: they are four, two and one, as far as there are any. Each
division is tried once, and the three together cover every number below eight. -/
theorem take_last_pow {t s : ℕ} (ht : t ≤ s) (hfew : t ≤ 7) :
    (take_zeros 1 (take_zeros 2 (take_zeros 4 (u * 10 ^ t, s)))).2 = s - t := by
  rw [take_zeros_pow hu ht]
  split
  · rw [take_zeros_pow hu (by omega)]
    split
    · rw [take_zeros_pow hu (by omega)]
      split
      · show s - 4 - 2 - 1 = s - t
        omega
      · show s - 4 - 2 = s - t
        omega
    · rw [take_zeros_pow hu (by omega)]
      split
      · show s - 4 - 1 = s - t
        omega
      · show s - 4 = s - t
        omega
  · rw [take_zeros_pow hu ht]
    split
    · rw [take_zeros_pow hu (by omega)]
      split
      · show s - 2 - 1 = s - t
        omega
      · show s - 2 = s - t
        omega
    · rw [take_zeros_pow hu ht]
      split
      · show s - 1 = s - t
        omega
      · show s = s - t
        omega

/-- One of eight zeros stays, unless the low word is zero. Eight are taken off at once only then;
four, two and one take off seven. -/
theorem unscale_pow {t s : ℕ} (ht : t ≤ s) (hfew : t ≤ 8) :
    (unscale (u * 10 ^ t, s)).2
      = s - t + if t = 8 ∧ ¬ (2 ^ 32 : ℤ) ∣ u * 10 ^ t then 1 else 0 := by
  have hstay : ∀ rounds n places, n < 8 →
      take_eights rounds (u * 10 ^ n, places) = (u * 10 ^ n, places) := by
    intro rounds n places hn
    cases rounds with
    | zero => rfl
    | succ rounds =>
        rw [take_eights, if_neg]
        rintro ⟨-, -, hdvd⟩
        exact absurd ((pow_dvd_iff hu).mp hdvd) (by omega)
  rw [unscale]
  by_cases height : t = 8
  · subst height
    by_cases hlow : (2 ^ 32 : ℤ) ∣ u * 10 ^ 8
    · rw [take_eights, if_pos ⟨hlow, ht, (pow_dvd_iff hu).mpr (Nat.le_refl 8)⟩,
        mul_pow_ediv u (Nat.le_refl 8), Nat.sub_self, hstay 2 0 _ (by decide),
        take_last_pow hu (Nat.zero_le _) (by decide), if_neg fun h => h.2 hlow]
      rfl
    · rw [take_eights, if_neg fun h => hlow h.1, take_zeros_pow hu ht, if_pos (by decide),
        take_zeros_pow hu (by omega), if_pos (by decide), take_zeros_pow hu (by omega),
        if_pos (by decide), if_pos ⟨rfl, hlow⟩]
      show s - 4 - 2 - 1 = s - 8 + 1
      omega
  · rw [hstay 3 t s (by omega), take_last_pow hu ht (by omega), if_neg fun h => height h.1]
    rfl

end Zeros

theorem least_unique {x : ℚ} {s t : ℕ} (hs : Least x s) (ht : Least x t) : s = t := by
  obtain ⟨n, hn⟩ := hs.1
  obtain ⟨m, hm⟩ := ht.1
  exact Nat.le_antisymm (hs.2 t m hm) (ht.2 s n hn)

theorem least_strip (m : ℤ) (s : ℕ) : Least (Scaled.value m s) (strip m s).2 := by
  refine ⟨⟨(strip m s).1, ?_⟩, fun k n h => strip_scale_le h⟩
  rw [← value_strip, value_mul_pow (Nat.le_refl _), Nat.sub_self, pow_zero, Int.mul_one]

/-! ## 4. Quotients by a power of ten -/

/-- The points of a unit that a quotient by `10 ^ places` can tell apart, at the largest
scale. -/
def grid (p : ℕ) : ℕ := 10 ^ (28 - p)

theorem grid_pos (p : ℕ) : 0 < grid p := Nat.pow_pos (by decide)

theorem four_dvd_grid {p : ℕ} (hp : p ≤ 18) : 4 ∣ grid p := by
  obtain ⟨k, hk⟩ := Nat.exists_eq_add_of_le (show 2 ≤ 28 - p by omega)
  rw [grid, hk, Nat.pow_add]
  exact Dvd.dvd.mul_right (by decide) _

/-- A tenth of a mantissa has room for rounding. -/
theorem short_of_bound {x : ℚ} {m : ℕ} (h : |x| ≤ m / 10) (hm : m < 2 ^ 96) :
    |x| + 1 / 2 < (2 ^ 96 : ℕ) := by
  have hm' : (m : ℚ) < (2 ^ 96 : ℕ) := Nat.cast_lt.mpr hm
  have hlarge : (1 : ℚ) < (2 ^ 96 : ℕ) := by norm_num
  generalize ((2 ^ 96 : ℕ) : ℚ) = bound at hm' hlarge ⊢
  linarith

theorem grid_mul_pow {p : ℕ} (hp : p ≤ 18) : (grid p : ℚ) * 10 ^ p = 10 ^ 28 := by
  rw [grid, Nat.cast_pow, Nat.cast_ofNat, ← pow_add, Nat.sub_add_cancel (by omega)]

theorem div_pow_mul_grid {p : ℕ} (hp : p ≤ 18) (x : ℚ) : x / 10 ^ p * 10 ^ 28 = x * grid p := by
  have hne := (ten_pow_pos p).ne'
  rw [← grid_mul_pow hp]
  field_simp

/-- A quotient with too many digits is rounded at the largest scale: the mantissa is shorter
there than that of the dividend. -/
theorem nearest_div {m : ℤ} {s p : ℕ} (hm : m.natAbs < 2 ^ 96) (hp : p ≤ 18) (hlong : 28 < s + p) :
    nearest (2 ^ 96) 28 (Scaled.value m s / 10 ^ p)
      = some (half_even (Scaled.value m s * grid p), 28) := by
  have hsmall : |Scaled.value m s * grid p| ≤ m.natAbs / 10 := by
    rw [grid, Nat.cast_pow, Nat.cast_ofNat]
    exact abs_value_mul_pow_le (by omega)
  have hfit := natAbs_lt_of_near (abs_half_even_sub_le (Scaled.value m s * grid p))
    (short_of_bound hsmall hm)
  rw [nearest, div_pow_mul_grid hp, if_pos hfit]

/-- Any other quotient is a decimal with the same mantissa. -/
theorem exact_div {m : ℤ} {s p : ℕ} (hm : m.natAbs < 2 ^ 96) (hshort : s + p ≤ 28) :
    Exact (Scaled.value m s / 10 ^ p) := by
  refine ⟨m, s + p, hm, hshort, ?_⟩
  rw [Scaled.value, Scaled.value, pow_add, div_div]

/-! ## 5. A library of that kind -/

structure Amount where
  mantissa : ℤ
  scale : ℕ
  mantissa_lt : mantissa.natAbs < 2 ^ 96
  scale_le : scale ≤ 28

def Amount.view : View Amount where
  mantissa := Amount.mantissa
  scale := Amount.scale
  mantissa_lt := Amount.mantissa_lt
  scale_le := Amount.scale_le

/-- The decimal of a mantissa and a scale, where there is one. -/
def amount (r : ℤ × ℕ) : Option Amount :=
  if h : r.1.natAbs < 2 ^ 96 ∧ r.2 ≤ 28 then some ⟨r.1, r.2, h.1, h.2⟩ else none

/-- The nearest decimal, written with so many places if they fit. -/
def nearest_amount (places : ℕ) (x : ℚ) : Option Amount :=
  (nearest (2 ^ 96) (min places 28) x).bind amount

def amount_from_str (text : String) : Except String Amount :=
  match (written_digits text).bind fun r => nearest_amount r.2 (Scaled.value r.1 r.2) with
  | some d => .ok d
  | none => .error "Invalid decimal"

/-- An exact quotient with a remainder on the way, given without zeros. -/
def exact_quotient (scale : ℕ) (least : ℤ × ℕ) : ℤ × ℕ :=
  let places := nines scale least.2
  let mantissa := least.1 * 10 ^ (places - least.2)
  if places ≤ 28 ∧ mantissa.natAbs < 2 ^ 96 then unscale (mantissa, places) else least

def divide (a b : Amount) : Option Amount :=
  let x := Amount.view.value a / Amount.view.value b
  if Amount.view.value b = 0 then none
  else if a.mantissa = 0 then amount (0, 0)
  else if b.scale = 0 ∧ b.mantissa ∣ a.mantissa then amount (a.mantissa / b.mantissa, a.scale)
  else
    (nearest (2 ^ 96) 28 x).bind fun r =>
      amount (if Scaled.value r.1 r.2 = x then exact_quotient a.scale (strip r.1 r.2)
        else unscale r)

/-- The operations on `Amount`, each the nearest decimal to the exact result. Sums and products
keep the places of their operands. -/
def amounts : DecimalLib Amount where
  from_str := amount_from_str
  to_string d := Digits.render d.mantissa d.scale
  zero := ⟨0, 0, by decide, by decide⟩
  from_u64 n := (amount (n, 0)).getD ⟨0, 0, by decide, by decide⟩
  abs d := ⟨d.mantissa.natAbs, d.scale, d.mantissa_lt, d.scale_le⟩
  checked_add a b :=
    nearest_amount (max a.scale b.scale) (Amount.view.value a + Amount.view.value b)
  checked_sub a b :=
    nearest_amount (max a.scale b.scale) (Amount.view.value a - Amount.view.value b)
  checked_mul a b := nearest_amount (a.scale + b.scale) (Amount.view.value a * Amount.view.value b)
  checked_div := divide
  round_dp d places :=
    if d.scale ≤ places then d
    else (amount (half_away (Amount.view.value d * 10 ^ places), places)).getD d
  cmp a b := Ord.compare (Amount.view.value a) (Amount.view.value b)

/-- An amount is the mantissa and the scale it is made of, where it can be made. -/
theorem amount_eq_some {r : ℤ × ℕ} {d : Amount} (h : amount r = some d) :
    d.mantissa = r.1 ∧ d.scale = r.2 := by
  rw [amount] at h
  split at h
  · rw [Option.some.injEq] at h
    rw [← h]
    exact ⟨rfl, rfl⟩
  · cases h

theorem amount_of_fits {r : ℤ × ℕ} (hm : r.1.natAbs < 2 ^ 96) (hs : r.2 ≤ 28) :
    ∃ d, amount r = some d ∧ d.mantissa = r.1 ∧ d.scale = r.2 :=
  ⟨_, dif_pos ⟨hm, hs⟩, rfl, rfl⟩

/-- An amount has the value it is made of. -/
theorem value_of_amount {r : ℤ × ℕ} {d : Amount} (h : amount r = some d) :
    Amount.view.value d = Scaled.value r.1 r.2 := by
  obtain ⟨hmantissa, hscale⟩ := amount_eq_some h
  show Scaled.value d.mantissa d.scale = _
  rw [hmantissa, hscale]

/-- A decimal is one with any shorter spelling. -/
theorem amount_of_shortens {r r' : ℤ × ℕ} (h : Shortens r r') (hm : r.1.natAbs < 2 ^ 96)
    (hs : r.2 ≤ 28) : (amount r').map Amount.view.value = some (Scaled.value r.1 r.2) := by
  obtain ⟨hvalue, hmantissa, hscale⟩ := h
  obtain ⟨d, hd, -⟩ := amount_of_fits (lt_of_le_of_lt hmantissa hm) (le_trans hscale hs)
  rw [hd, Option.map_some, value_of_amount hd, hvalue]

/-- The nearest amount to a number that needs no more places than it has is the rounded number. -/
theorem nearest_amount_value {places : ℕ} {x : ℚ}
    (h : places ≤ 28 → ∃ n : ℤ, x * 10 ^ places = n) :
    (nearest_amount places x).map Amount.view.value = rounded x := by
  have hsame : (nearest (2 ^ 96) 28 x).map (fun r => Scaled.value r.1 r.2)
      = (nearest (2 ^ 96) (min places 28) x).map fun r => Scaled.value r.1 r.2 := by
    rcases Nat.le_total places 28 with hle | hge
    · obtain ⟨n, hn⟩ := h hle
      rw [Nat.min_eq_left hle]
      exact nearest_of_places hle hn
    · rw [Nat.min_eq_right hge]
  rw [nearest_amount, rounded, hsame]
  cases hnearest : nearest (2 ^ 96) (min places 28) x with
  | none => rfl
  | some r =>
      obtain ⟨hm, hs, -⟩ := nearest_fits hnearest
      rw [Option.bind_some, Option.map_some]
      exact amount_of_shortens (Shortens.refl r) hm (le_trans hs (Nat.min_le_right _ _))

theorem whole_of_scale_le {d : Amount} {places : ℕ} (h : d.scale ≤ places) :
    ∃ n : ℤ, Amount.view.value d * 10 ^ places = n :=
  ⟨_, value_mul_pow h⟩

/-- A sum needs no more places than its operands have. -/
theorem whole_sum (a b : Amount) :
    ∃ n : ℤ, (Amount.view.value a + Amount.view.value b) * 10 ^ max a.scale b.scale = n := by
  obtain ⟨m, hm⟩ := whole_of_scale_le (Nat.le_max_left a.scale b.scale)
  obtain ⟨n, hn⟩ := whole_of_scale_le (Nat.le_max_right a.scale b.scale)
  refine ⟨m + n, ?_⟩
  rw [add_mul, hm, hn]
  push_cast
  rfl

/-- So does a difference. -/
theorem whole_difference (a b : Amount) :
    ∃ n : ℤ, (Amount.view.value a - Amount.view.value b) * 10 ^ max a.scale b.scale = n := by
  obtain ⟨m, hm⟩ := whole_of_scale_le (Nat.le_max_left a.scale b.scale)
  obtain ⟨n, hn⟩ := whole_of_scale_le (Nat.le_max_right a.scale b.scale)
  refine ⟨m - n, ?_⟩
  rw [sub_mul, hm, hn]
  push_cast
  rfl

/-- A product needs the places of both. -/
theorem whole_product (a b : Amount) :
    ∃ n : ℤ, Amount.view.value a * Amount.view.value b * 10 ^ (a.scale + b.scale) = n := by
  obtain ⟨m, hm⟩ := whole_of_scale_le (Nat.le_refl a.scale)
  obtain ⟨n, hn⟩ := whole_of_scale_le (Nat.le_refl b.scale)
  refine ⟨m * n, ?_⟩
  rw [pow_add, mul_mul_mul_comm, hm, hn]
  push_cast
  rfl

theorem nines_ge (scale least : ℕ) : least ≤ nines scale least := by
  rw [nines]
  omega

/-- However it is written, an exact quotient is the same number. -/
theorem exact_quotient_fits {scale : ℕ} {least : ℤ × ℕ} (hm : least.1.natAbs < 2 ^ 96)
    (hs : least.2 ≤ 28) :
    (amount (exact_quotient scale least)).map Amount.view.value
      = some (Scaled.value least.1 least.2) := by
  rw [exact_quotient]
  split
  · rename_i hfit
    rw [amount_of_shortens (shortens_unscale _) hfit.2 hfit.1, Option.some.injEq]
    rw [Scaled.value, ← value_mul_pow (nines_ge scale least.2), mul_div_assoc,
      div_self (ten_pow_pos _).ne', mul_one]
  · exact amount_of_shortens (Shortens.refl least) hm hs

/-- A quotient is the rounded quotient: the division takes more digits until nothing is left or no
more fit. -/
theorem divide_value {a b : Amount} (hb : Amount.view.value b ≠ 0) :
    (divide a b).map Amount.view.value = rounded (Amount.view.value a / Amount.view.value b) := by
  rw [divide, if_neg hb]
  split
  · rename_i hzero
    have hquotient : Amount.view.value a / Amount.view.value b = 0 := by
      show Scaled.value a.mantissa a.scale / _ = 0
      rw [hzero, Scaled.value, Int.cast_zero, zero_div, zero_div]
    have hexact : Exact 0 := ⟨0, 0, by decide, by decide, (value_zero_right 0).symm⟩
    have hnothing : Scaled.value 0 0 = 0 := value_zero_right 0
    rw [hquotient, rounded_of_exact hexact, ← hnothing]
    exact @amount_of_shortens (0, 0) (0, 0) (Shortens.refl _) (by decide) (by decide)
  split
  · rename_i hwhole
    obtain ⟨hscale, k, hk⟩ := hwhole
    have hb' : b.mantissa ≠ 0 := by
      intro hzero
      apply hb
      show Scaled.value b.mantissa b.scale = 0
      rw [hzero, Scaled.value, Int.cast_zero, zero_div]
    have hquotient : Amount.view.value a / Amount.view.value b = Scaled.value k a.scale := by
      show Scaled.value a.mantissa a.scale / Scaled.value b.mantissa b.scale = _
      have hcast : (b.mantissa : ℚ) ≠ 0 := Int.cast_ne_zero.mpr hb'
      have hten := (ten_pow_pos a.scale).ne'
      rw [hscale, value_zero_right, hk, Scaled.value, Scaled.value]
      push_cast
      field_simp
    have hle : k.natAbs ≤ a.mantissa.natAbs := by
      rw [hk, Int.natAbs_mul]
      exact Nat.le_mul_of_pos_left _ (Int.natAbs_pos.mpr hb')
    have hfit := lt_of_le_of_lt hle a.mantissa_lt
    rw [hquotient, rounded_of_exact ⟨k, a.scale, hfit, a.scale_le, rfl⟩, hk,
      Int.mul_ediv_cancel_left _ hb']
    exact amount_of_shortens (Shortens.refl (k, a.scale)) hfit a.scale_le
  · rw [rounded]
    cases hnearest : nearest (2 ^ 96) 28 (Amount.view.value a / Amount.view.value b) with
    | none => rfl
    | some r =>
        obtain ⟨hm, hs, -⟩ := nearest_fits hnearest
        rw [Option.bind_some, Option.map_some]
        split
        · obtain ⟨hvalue, hm', hs'⟩ := shortens_strip r.1 r.2
          rw [exact_quotient_fits (lt_of_le_of_lt hm' hm) (le_trans hs' hs), hvalue]
        · exact amount_of_shortens (shortens_unscale r) hm hs

/-- Rounding to fewer places makes the mantissa no longer. -/
theorem half_away_fits {d : Amount} {places : ℕ} (h : places < d.scale) :
    (half_away (Amount.view.value d * 10 ^ places)).natAbs < 2 ^ 96 :=
  natAbs_lt_of_near (abs_half_away_sub_le _)
    (short_of_bound (abs_value_mul_pow_le h) d.mantissa_lt)

/-- Rounding to fewer places rounds half away from zero, and leaves that many places. -/
theorem round_dp_amounts {d : Amount} {places : ℕ} (h : places < d.scale) :
    ∃ r, amounts.round_dp d places = r
      ∧ r.mantissa = half_away (Amount.view.value d * 10 ^ places) ∧ r.scale = places := by
  have hscale := d.scale_le
  obtain ⟨r, hr, hmantissa, hscale'⟩ :=
    amount_of_fits (r := (half_away (Amount.view.value d * 10 ^ places), places))
      (half_away_fits h) (by show places ≤ 28; omega)
  refine ⟨r, ?_, hmantissa, hscale'⟩
  show (if d.scale ≤ places then d else (amount _).getD d) = r
  rw [if_neg (by omega), hr, Option.getD_some]

theorem prints_amounts : Prints amounts Amount.view where
  to_string d := ⟨Digits.read_render d.mantissa d.scale, Digits.point_mem_render d.mantissa d.scale⟩

/-- The amounts read a text as the number it denotes. -/
theorem reads_amounts : Reads amounts Amount.view where
  from_str text x hwritten hexact := by
    obtain ⟨r, hr, rfl⟩ := Option.map_eq_some_iff.mp hwritten
    have hvalue := @nearest_amount_value r.2 (Scaled.value r.1 r.2)
      fun _ => ⟨_, value_mul_pow (Nat.le_refl r.2)⟩
    rw [rounded_of_exact hexact, Option.map_eq_some_iff] at hvalue
    obtain ⟨d, hd, hd'⟩ := hvalue
    refine ⟨d, ?_, hd'⟩
    show amount_from_str text = .ok d
    rw [amount_from_str, hr, Option.bind_some, hd]

/-- A natural number is an amount without places. -/
theorem from_u64_amounts {n : ℕ} (h : n < 2 ^ 64) :
    (amounts.from_u64 n).mantissa = n ∧ (amounts.from_u64 n).scale = 0 := by
  have hfit : (n : ℤ).natAbs < 2 ^ 96 := by
    rw [Int.natAbs_natCast]
    exact lt_trans h (by decide)
  obtain ⟨d, hd, hmantissa, hscale⟩ := @amount_of_fits (n, 0) hfit (Nat.zero_le 28)
  show ((amount (n, 0)).getD _).mantissa = n ∧ ((amount (n, 0)).getD _).scale = 0
  rw [hd, Option.getD_some]
  exact ⟨hmantissa, hscale⟩

theorem pow_lt_of_le {p : ℕ} (h : p ≤ 18) : 10 ^ p < 2 ^ 64 :=
  lt_of_le_of_lt (Nat.pow_le_pow_right (by decide) h) (by decide)

/-- The amounts add, subtract, multiply and divide as the library is documented to. -/
theorem divides_amounts : Divides amounts Amount.view where
  toPrints := prints_amounts
  from_u64 n hn := by
    obtain ⟨hmantissa, hscale⟩ := from_u64_amounts hn
    show Scaled.value (amounts.from_u64 n).mantissa (amounts.from_u64 n).scale = n
    rw [hmantissa, hscale, value_zero_right, Int.cast_natCast]
  checked_div a b hb := divide_value hb
  round_dp d places := by
    rcases Nat.lt_or_ge places d.scale with hlt | hge
    · obtain ⟨r, hr, hmantissa, hscale⟩ := round_dp_amounts hlt
      rw [hr, View.value, round_places, ← hmantissa, ← hscale]
      rfl
    · show Amount.view.value (if d.scale ≤ places then d else _) = _
      rw [if_pos hge]
      exact (round_places_of_eq (value_mul_pow hge)).symm
  round_dp_scale d places hle := by
    have hle' : places ≤ d.scale := hle
    show (amounts.round_dp d places).scale = places
    rcases Nat.lt_or_eq_of_le hle' with hlt | heq
    · obtain ⟨r, hr, -, hscale⟩ := round_dp_amounts hlt
      rw [hr, hscale]
    · show (if d.scale ≤ places then d else _).scale = places
      rw [if_pos (Nat.le_of_eq heq.symm), heq]

theorem converts_amounts : Converts amounts Amount.view where
  toDivides := divides_amounts
  toReads := reads_amounts
  checked_mul a b := nearest_amount_value fun _ => whole_product a b

/-- The amounts compute as the library is documented to. -/
theorem computes_amounts : Computes amounts Amount.view where
  toPrints := prints_amounts
  toReads := reads_amounts
  checked_add a b := nearest_amount_value fun _ => whole_sum a b
  checked_sub a b := nearest_amount_value fun _ => whole_difference a b
  checked_mul a b := nearest_amount_value fun _ => whole_product a b

/-- The divisors of `from_minor`. -/
theorem divisor_amounts {p : ℕ} (hp : p ≤ 18) :
    (amounts.from_u64 (10 ^ p)).mantissa = 10 ^ p ∧ (amounts.from_u64 (10 ^ p)).scale = 0
      ∧ Amount.view.value (amounts.from_u64 (10 ^ p)) = 10 ^ p := by
  obtain ⟨hmantissa, hscale⟩ := from_u64_amounts (pow_lt_of_le hp)
  have hvalue := divides_amounts.from_u64 _ (pow_lt_of_le hp)
  push_cast at hmantissa hvalue
  exact ⟨hmantissa, hscale, hvalue⟩

/-- A division that leaves a remainder. -/
theorem divide_of_not_dvd {a c : Amount} {p : ℕ} (hp : p ≤ 18)
    (hdiv : divide a (amounts.from_u64 (10 ^ p)) = some c) (hrest : ¬ (10 ^ p : ℤ) ∣ a.mantissa) :
    ∃ r, nearest (2 ^ 96) 28 (Amount.view.value a / 10 ^ p) = some r
      ∧ Amount.view.value c = Scaled.value r.1 r.2
      ∧ amount (if Scaled.value r.1 r.2 = Amount.view.value a / 10 ^ p then
          exact_quotient a.scale (strip r.1 r.2) else unscale r) = some c := by
  obtain ⟨hmantissa, hscale, hvalue⟩ := divisor_amounts hp
  have hne : a.mantissa ≠ 0 := by
    intro hzero
    rw [hzero] at hrest
    exact hrest (dvd_zero _)
  have hquotient := @divide_value a (amounts.from_u64 (10 ^ p))
    (by rw [hvalue]; exact (ten_pow_pos p).ne')
  rw [hdiv, hvalue, rounded] at hquotient
  rw [divide, hvalue, if_neg (ten_pow_pos p).ne', if_neg hne, if_neg] at hdiv
  · obtain ⟨r, hr, hc⟩ := Option.bind_eq_some_iff.mp hdiv
    rw [hr, Option.map_some, Option.map_some, Option.some.injEq] at hquotient
    exact ⟨r, hr, hquotient, hc⟩
  · rw [hmantissa]
    exact fun h => hrest h.2

/-- A quotient that is left without a remainder needs no more places than the limit. -/
theorem exact_of_dvd {a : Amount} {p : ℕ} (h : (10 ^ p : ℤ) ∣ a.mantissa) :
    Exact (Amount.view.value a / 10 ^ p) := by
  obtain ⟨k, hk⟩ := h
  refine ⟨k, a.scale, lt_of_le_of_lt ?_ a.mantissa_lt, a.scale_le, ?_⟩
  · rw [hk, Int.natAbs_mul]
    exact Nat.le_mul_of_pos_left _ (Int.natAbs_pos.mpr (by positivity))
  · show Scaled.value a.mantissa a.scale / 10 ^ p = Scaled.value k a.scale
    have hp := (ten_pow_pos p).ne'
    have hs := (ten_pow_pos a.scale).ne'
    rw [hk, Scaled.value, Scaled.value]
    push_cast
    field_simp

/-- What is divided without a remainder is not rounded. -/
theorem divide_of_dvd {a c : Amount} {p : ℕ} (hp : p ≤ 18)
    (hdiv : divide a (amounts.from_u64 (10 ^ p)) = some c) (hdvd : (10 ^ p : ℤ) ∣ a.mantissa) :
    Amount.view.value c = Amount.view.value a / 10 ^ p := by
  have hvalue := (divisor_amounts hp).2.2
  have hquotient := @divide_value a (amounts.from_u64 (10 ^ p))
    (by rw [hvalue]; exact (ten_pow_pos p).ne')
  rw [hdiv, hvalue, rounded_of_exact (exact_of_dvd hdvd), Option.map_some,
    Option.some.injEq] at hquotient
  exact hquotient

/-- The places of an exact quotient that left a remainder on the way. -/
theorem divide_exact_scale {a c : Amount} {p : ℕ} (hp : p ≤ 18)
    (hdiv : divide a (amounts.from_u64 (10 ^ p)) = some c) (hrest : ¬ (10 ^ p : ℤ) ∣ a.mantissa)
    (hexact : Amount.view.value c = Amount.view.value a / 10 ^ p) {least : ℕ} {m : ℤ}
    (hleast : Least (Amount.view.value c) least)
    (hm : Amount.view.value c * 10 ^ nines a.scale least = m) :
    c.scale = if nines a.scale least ≤ 28 ∧ m.natAbs < 2 ^ 96 then
      (unscale (m, nines a.scale least)).2 else least := by
  obtain ⟨r, hr, hvalue, hc⟩ := divide_of_not_dvd hp hdiv hrest
  rw [hvalue] at hexact hleast hm
  rw [if_pos hexact] at hc
  -- the fewest places are those that are left without zeros
  have hleast' : (strip r.1 r.2).2 = least := least_unique (least_strip r.1 r.2) hleast
  have hmantissa : (strip r.1 r.2).1 * 10 ^ (nines a.scale least - least) = m := by
    rw [← value_strip, hleast', value_mul_pow (nines_ge _ _)] at hm
    exact_mod_cast hm
  rw [(amount_eq_some hc).2, exact_quotient, hleast', hmantissa]
  by_cases hfit : nines a.scale least ≤ 28 ∧ m.natAbs < 2 ^ 96
  · rw [if_pos hfit, if_pos hfit]
  · rw [if_neg hfit, if_neg hfit, hleast']

/-- The places of a rounded quotient: it is one of scale 28, without the zeros that come off. -/
theorem divide_rounded_scale {a c : Amount} {p : ℕ} (hp : p ≤ 18)
    (hdiv : divide a (amounts.from_u64 (10 ^ p)) = some c)
    (hinexact : Amount.view.value c ≠ Amount.view.value a / 10 ^ p) {m : ℤ}
    (hm : Amount.view.value c * 10 ^ 28 = m) : c.scale = (unscale (m, 28)).2 := by
  have hdvd : ¬ (10 ^ p : ℤ) ∣ a.mantissa := fun hdvd => hinexact (divide_of_dvd hp hdiv hdvd)
  obtain ⟨r, hr, hvalue, hc⟩ := divide_of_not_dvd hp hdiv hdvd
  rw [hvalue] at hinexact hm
  rw [if_neg hinexact] at hc
  have hlong : 28 < a.scale + p := by
    by_contra hshort
    obtain ⟨m', s', hnearest, hsame⟩ := nearest_of_representable
      (@exact_div a.mantissa a.scale p a.mantissa_lt (by omega))
    have heq : nearest (2 ^ 96) 28 (Amount.view.value a / 10 ^ p) = some (m', s') := hnearest
    rw [hr, Option.some.injEq] at heq
    rw [heq] at hinexact
    exact hinexact hsame
  have hr' : r = (half_even (Amount.view.value a * grid p), 28) := by
    rw [← Option.some.injEq, ← hr]
    exact nearest_div a.mantissa_lt hp hlong
  have hm' : r.1 = m := by
    rw [hr', value_mul_pow (Nat.le_refl 28), Nat.sub_self, pow_zero, Int.mul_one] at hm
    rw [hr']
    exact_mod_cast hm
  rw [(amount_eq_some hc).2, ← hm', hr']

/-- Their quotients have the digits the library gives them: up to its limit, and without the zeros
that the division put behind them. -/
theorem quotients_amounts : Quotients amounts Amount.view where
  toDivides := divides_amounts
  round_dp_le d places := by
    show (amounts.round_dp d places).scale ≤ d.scale
    rcases Nat.lt_or_ge places d.scale with hlt | hge
    · obtain ⟨r, hr, -, hscale⟩ := round_dp_amounts hlt
      rw [hr, hscale]
      exact Nat.le_of_lt hlt
    · show (if d.scale ≤ places then d else _).scale ≤ d.scale
      rw [if_pos hge]
  div_zero a c p hp hdiv hzero := by
    have hdiv' : divide a (amounts.from_u64 (10 ^ p)) = some c := hdiv
    rw [divide] at hdiv'
    split at hdiv'
    · cases hdiv'
    · rw [if_pos (show a.mantissa = 0 from hzero)] at hdiv'
      exact (amount_eq_some hdiv').2
  div_whole a c p hp hdiv hne hdvd := by
    have hdiv' : divide a (amounts.from_u64 (10 ^ p)) = some c := hdiv
    obtain ⟨hmantissa, hscale, -⟩ := divisor_amounts hp
    rw [divide] at hdiv'
    split at hdiv'
    · cases hdiv'
    · rw [if_neg (show a.mantissa ≠ 0 from hne), if_pos] at hdiv'
      · exact (amount_eq_some hdiv').2
      · rw [hmantissa]
        exact ⟨hscale, hdvd⟩
  div_exact a c p hp hdiv hrest hexact least m hleast hm :=
    divide_exact_scale hp hdiv hrest hexact hleast hm
  div_rounded a c p hp hdiv hinexact m hm := divide_rounded_scale hp hdiv hinexact hm

section
variable {D : Type} {lib : DecimalLib D} {view : View D}

theorem denotes_to_string (h : Prints lib view) (d : D) :
    Denotes (lib.to_string d) (view.value d) :=
  ⟨_, _, (h.to_string d).1, rfl⟩

/-- A text that is printed denotes the value, and no other. -/
theorem denotes_to_string_iff (h : Prints lib view) {d : D} {x : ℚ} :
    Denotes (lib.to_string d) x ↔ view.value d = x := by
  constructor
  · intro hx
    exact denotes_unique (denotes_to_string h d) hx
  · rintro rfl
    exact denotes_to_string h d

/-- The text of a number that is a decimal is parsed to it. -/
theorem parse_decimal_of_denotes (h : Reads lib view) {text : String} {x : ℚ}
    (hx : Denotes text x) (hexact : Exact x) :
    ∃ d, parse_decimal lib text = .ok d ∧ view.value d = x := by
  obtain ⟨m, s, hread, hvalue⟩ := hx
  obtain ⟨d, hd, hdx⟩ := h.from_str text x (by rw [written_of_read hread, hvalue]) hexact
  refine ⟨d, ?_, hdx⟩
  rw [parse_decimal, trim_of_read hread, hd]
  rfl

/-! ## 6. Minor units -/

/-- A number of places that is accepted is at most 18. -/
theorem minor_places_le {places : String} {p : ℕ} (h : minor_places places = .ok p) : p ≤ 18 := by
  unfold minor_places at h
  simp only at h
  split at h
  · rw [← Except.ok.inj h]
    decide
  · split at h
    · cases h
    · split at h
      · cases h
      · rw [← Except.ok.inj h]
        omega

/-- The factor is `10 ^ places`. -/
theorem scale_factor_eq (h : Divides lib view) {p : ℕ} (hp : p ≤ 18) :
    scale_factor lib p = .ok (lib.from_u64 (10 ^ p))
      ∧ view.value (lib.from_u64 (10 ^ p)) = 10 ^ p := by
  constructor
  · rw [scale_factor, if_pos (pow_lt_of_le hp)]
  · rw [h.from_u64 _ (pow_lt_of_le hp)]
    push_cast
    rfl

/-- `to_minor`, by the numbers: the product is rounded to an integer. -/
theorem to_minor_spec (h : Converts lib view) {v : D} {places text : String} {p : ℕ}
    (hp : minor_places places = .ok p) (htext : to_minor lib v places = .ok text) :
    ∃ y, rounded (view.value v * 10 ^ p) = some y
      ∧ ∃ m : ℤ, Shows text m 0 ∧ (m : ℚ) = round_places y 0 := by
  obtain ⟨hfactor, hvalue⟩ := scale_factor_eq h.toDivides (minor_places_le hp)
  unfold to_minor at htext
  rw [hp, Result.ok_bind, hfactor, Result.ok_bind] at htext
  have hmul := h.checked_mul v (lib.from_u64 (10 ^ p))
  cases hscaled : lib.checked_mul v (lib.from_u64 (10 ^ p)) with
  | none => rw [hscaled] at htext; cases htext
  | some scaled =>
      rw [hscaled] at htext hmul
      rw [hvalue, Option.map_some] at hmul
      refine ⟨view.value scaled, hmul.symm, ?_⟩
      have hscale := h.round_dp_scale scaled 0 (Nat.zero_le _)
      have hround := h.round_dp scaled 0
      rw [View.value, hscale, value_zero_right] at hround
      have hshows := h.to_string (lib.round_dp scaled 0)
      rw [hscale, Except.ok.inj htext] at hshows
      exact ⟨_, hshows, hround⟩

/-- `from_minor`, by the numbers: the quotient is rounded to the places. -/
theorem from_minor_spec (h : Divides lib view) {v : D} {places text : String} {p : ℕ}
    (hp : minor_places places = .ok p) (htext : from_minor lib v places = .ok text) :
    ∃ c, lib.checked_div v (lib.from_u64 (10 ^ p)) = some c
      ∧ rounded (view.value v / 10 ^ p) = some (view.value c)
      ∧ text = lib.to_string (lib.round_dp c p) := by
  obtain ⟨hfactor, hvalue⟩ := scale_factor_eq h (minor_places_le hp)
  unfold from_minor at htext
  rw [hp, Result.ok_bind, hfactor, Result.ok_bind] at htext
  have hdiv := h.checked_div v (lib.from_u64 (10 ^ p)) (by rw [hvalue]; exact (ten_pow_pos p).ne')
  cases hmajor : lib.checked_div v (lib.from_u64 (10 ^ p)) with
  | none => rw [hmajor] at htext; cases htext
  | some c =>
      rw [hmajor] at htext hdiv
      rw [hvalue, Option.map_some] at hdiv
      exact ⟨c, rfl, hdiv.symm, (Except.ok.inj htext).symm⟩

/-- What is shown is the rounded quotient. -/
theorem denotes_from_minor (h : Divides lib view) {v : D} {places text : String} {p : ℕ} {y : ℚ}
    (hp : minor_places places = .ok p) (htext : from_minor lib v places = .ok text)
    (hy : rounded (view.value v / 10 ^ p) = some y) : Denotes text (round_places y p) := by
  obtain ⟨c, -, hc, rfl⟩ := from_minor_spec h hp htext
  rw [hy, Option.some.injEq] at hc
  rw [hc, ← h.round_dp]
  exact denotes_to_string h.toPrints _

/-- A quotient that is a decimal is no overflow. -/
theorem from_minor_isOk (h : Divides lib view) {v : D} {places : String} {p : ℕ}
    (hp : minor_places places = .ok p) (hexact : Exact (view.value v / 10 ^ p)) :
    ∃ text, from_minor lib v places = .ok text := by
  obtain ⟨hfactor, hvalue⟩ := scale_factor_eq h (minor_places_le hp)
  have hdiv := h.checked_div v (lib.from_u64 (10 ^ p)) (by rw [hvalue]; exact (ten_pow_pos p).ne')
  rw [hvalue, rounded_of_exact hexact, Option.map_eq_some_iff] at hdiv
  obtain ⟨major, hmajor, -⟩ := hdiv
  refine ⟨lib.to_string (lib.round_dp major p), ?_⟩
  unfold from_minor
  rw [hp, Result.ok_bind, hfactor, Result.ok_bind, hmajor]

/-- An integer is not rounded. -/
theorem rounded_intCast {n : ℤ} {y : ℚ} (h : rounded n = some y) : y = n := by
  obtain ⟨⟨m, s⟩, hnearest, rfl⟩ := Option.map_eq_some_iff.mp h
  obtain ⟨-, -, hm⟩ := nearest_fits hnearest
  have hwhole : (n : ℚ) * 10 ^ s = ((n * 10 ^ s : ℤ) : ℚ) := by push_cast; rfl
  rw [hwhole, half_even_intCast] at hm
  show Scaled.value m s = n
  rw [hm, Scaled.value, ← hwhole, mul_div_assoc, div_self (ten_pow_pos _).ne', mul_one]

/-- An integer that is a decimal is one divided by `10 ^ places`, too. -/
theorem exact_div_pow {n : ℤ} {p : ℕ} (hp : p ≤ 18) (hexact : Exact n) : Exact (n / 10 ^ p) := by
  obtain ⟨m, s, hm, -, hn⟩ := hexact
  have hle : n.natAbs ≤ m.natAbs := by
    have hm' : m = n * 10 ^ s := by
      have hcast : (n : ℚ) * 10 ^ s = m := by
        rw [hn, value_mul_pow (Nat.le_refl _), Nat.sub_self, pow_zero, Int.mul_one]
      exact_mod_cast hcast.symm
    rw [hm', Int.natAbs_mul]
    exact Nat.le_mul_of_pos_right _ (Int.natAbs_pos.mpr (by positivity))
  exact ⟨n, p, lt_of_le_of_lt hle hm, by omega, rfl⟩

/-- The operations by their names: to the minor unit, -/
theorem dispatch_to_cents {text places : String} {d : D} (hd : parse_decimal lib text = .ok d) :
    dispatch lib "to_cents" text places = to_minor lib d places := by
  unfold dispatch
  rw [hd, Result.ok_bind]
  rfl

/-- from it, -/
theorem dispatch_from_cents {text places : String} {d : D} (hd : parse_decimal lib text = .ok d) :
    dispatch lib "from_cents" text places = from_minor lib d places := by
  unfold dispatch
  rw [hd, Result.ok_bind]
  rfl

/-- A whole number of the minor unit is shown as it is. -/
theorem shows_to_minor (h : Converts lib view) {v : D} {places text : String} {p : ℕ} {n : ℤ}
    (hp : minor_places places = .ok p) (hv : view.value v * 10 ^ p = n)
    (htext : to_minor lib v places = .ok text) : Exact n ∧ Shows text n 0 := by
  obtain ⟨y, hy, m, hread, hm⟩ := to_minor_spec h hp htext
  rw [hv] at hy
  have hyn : y = n := rounded_intCast hy
  have hmn : m = n := by
    have hcast : (m : ℚ) = n := by
      rw [hm, hyn, round_places_of_eq (n := n) (by rw [pow_zero, mul_one])]
    exact_mod_cast hcast
  rw [hmn] at hread
  exact ⟨hyn ▸ exact_of_rounded hy, hread⟩

/-- Amounts survive the way to the minor unit and back, and the way from it and back: no step
rounds. -/
theorem minor_round_trip {D : Type} {lib : DecimalLib D} {view : View D} (h : Converts lib view)
    {places : String} {p : ℕ} (hp : minor_places places = .ok p) :
    (∀ (v : D) (n : ℤ) (text : String), view.value v * 10 ^ p = n →
        to_minor lib v places = .ok text →
        Shows text n 0
          ∧ ∃ back, dispatch lib "from_cents" text places = .ok back ∧ Denotes back (view.value v))
      ∧ ∀ (v : D) (n : ℤ) (major minor : String), view.value v = n →
        from_minor lib v places = .ok major → dispatch lib "to_cents" major places = .ok minor →
        Shows minor n 0 := by
  have hle := minor_places_le hp
  constructor
  · intro v n text hv htext
    obtain ⟨hexact, hread⟩ := shows_to_minor h hp hv htext
    refine ⟨hread, ?_⟩
    obtain ⟨d, hd, hdn⟩ :=
      parse_decimal_of_denotes h.toReads ⟨n, 0, hread.1, value_zero_right n⟩ hexact
    -- the quotient is the amount itself, which is a decimal
    have hquotient : view.value d / 10 ^ p = view.value v := by
      rw [hdn, ← hv, mul_div_assoc, div_self (ten_pow_pos p).ne', mul_one]
    obtain ⟨back, hback⟩ := from_minor_isOk h.toDivides hp (hquotient ▸ view.exact v)
    refine ⟨back, (dispatch_from_cents hd).trans hback, ?_⟩
    have hdenotes := denotes_from_minor h.toDivides hp hback
      (rounded_of_exact (hquotient ▸ view.exact v))
    rw [hquotient, round_places_of_eq hv] at hdenotes
    exact hdenotes
  · intro v n major minor hv hmajor hminor
    have hexact : Exact n := hv ▸ view.exact v
    have hexact' := exact_div_pow hle hexact
    have hwhole : (n : ℚ) / 10 ^ p * 10 ^ p = n := div_mul_cancel₀ _ (ten_pow_pos p).ne'
    have hdenotes := denotes_from_minor h.toDivides hp hmajor
      (rounded_of_exact (hv ▸ hexact'))
    rw [hv, round_places_of_eq hwhole] at hdenotes
    obtain ⟨d, hd, hdn⟩ := parse_decimal_of_denotes h.toReads hdenotes hexact'
    rw [dispatch_to_cents hd] at hminor
    rw [← hdn] at hwhole
    exact (shows_to_minor h hp hwhole hminor).2

/-- The amount in whole cents. -/
theorem minor_round_trip_cents :
    Shows "4242" 4242 0
      ∧ (∃ back, dispatch amounts "from_cents" "4242" "" = .ok back
        ∧ Denotes back (Scaled.value 4242 2))
      ∧ Shows "4242" 4242 0 := by
  have htrip := minor_round_trip converts_amounts (p := 2) (show minor_places "" = .ok 2 from rfl)
  have hout := htrip.1 ⟨4242, 2, by decide, by decide⟩ 4242 "4242" (value_mul_pow (Nat.le_refl 2))
    (by decide +kernel)
  have hback := htrip.2 ⟨4242, 0, by decide, by decide⟩ 4242 "42.42" "4242" (value_zero_right 4242)
    (by decide +kernel) (by decide +kernel)
  exact ⟨hout.1, hout.2, hback⟩

/-! ## 7. The places of `from_minor` -/

/-- The quotient is `v` rounded to the `28 - places` places that are left to it, whatever the
digits of `v`. -/
theorem rounded_div {p : ℕ} (hp : p ≤ 18) (v : D) :
    rounded (view.value v / 10 ^ p)
      = some ((half_even (view.value v * grid p) : ℚ) / grid p / 10 ^ p) := by
  have hpos : (0 : ℚ) < grid p := Nat.cast_pos.mpr (grid_pos p)
  rcases Nat.lt_or_ge 28 (view.scale v + p) with hlong | hshort
  · rw [rounded, View.value, nearest_div (view.mantissa_lt v) hp hlong, Option.map_some,
      Scaled.value, div_div, grid_mul_pow hp]
  -- a decimal is a whole number of the grid
  · have hwhole : view.value v * grid p
        = ((view.mantissa v * 10 ^ (28 - p - view.scale v) : ℤ) : ℚ) := by
      rw [grid, Nat.cast_pow, Nat.cast_ofNat, View.value, value_mul_pow (by omega)]
    rw [View.value, rounded_of_exact (exact_div (view.mantissa_lt v) hshort), ← View.value, hwhole,
      half_even_intCast, ← hwhole, mul_div_assoc, div_self hpos.ne', mul_one]

/-- The quotient of a decimal by `10 ^ places` is given at least that many digits behind the
point. One without a remainder has those of the dividend. An exact one has the digits it needs,
which are enough unless the dividend is a multiple of ten. Then one zero is wanted, and it is
there for a multiple of ten alone that needs the first of nine digits and leaves the low word
not zero. -/
def FillsPlaces (m : ℤ) (s p : ℕ) : Prop :=
  if (10 ^ p : ℤ) ∣ m then m ≠ 0 ∧ p ≤ s
  else if (10 ^ s : ℤ) ∣ m * grid p then
    (10 ^ (s + 1) : ℤ) ∣ m →
      let tens := m / 10 ^ (s + 1)
      ¬ (10 : ℤ) ∣ tens ∧ (p = s + 2 ∨ p = s + 11) ∧ (tens * 10 ^ 8).natAbs < 2 ^ 96
        ∧ ¬ (2 ^ 24 : ℤ) ∣ tens
  else p ≤ (unscale (half_even (Scaled.value m s * grid p), 28)).2

/-- A number of so many places is whole in a finer unit iff the mantissa says so. -/
theorem dvd_mantissa_iff {m k : ℤ} {s : ℕ} :
    (10 ^ s : ℤ) ∣ m * k ↔ ∃ n : ℤ, Scaled.value m s * k = n := by
  have hs := (ten_pow_pos s).ne'
  constructor
  · rintro ⟨n, hn⟩
    refine ⟨n, ?_⟩
    have hcast : (m : ℚ) * k = 10 ^ s * n := by exact_mod_cast hn
    rw [Scaled.value, div_mul_eq_mul_div, hcast, mul_div_cancel_left₀ _ hs]
  · rintro ⟨n, hn⟩
    refine ⟨n, ?_⟩
    rw [Scaled.value, div_mul_eq_mul_div, div_eq_iff hs, mul_comm (n : ℚ)] at hn
    exact_mod_cast hn

/-- An exact quotient that left a remainder needs more places than its dividend has, and its
digits, `u` without the zeros at their end, are those of the dividend. -/
theorem exact_quotient_digits {m : ℤ} {s p : ℕ} {y : ℚ} {r : ℤ × ℕ}
    (hr : Scaled.value r.1 r.2 = y) (hy : y = Scaled.value m s / 10 ^ p)
    (hrest : ¬ (10 ^ p : ℤ) ∣ m) : s < r.2 ∧ m * 10 ^ (r.2 - s) = r.1 * 10 ^ p := by
  have hp := (ten_pow_pos p).ne'
  have hs := (ten_pow_pos s).ne'
  have hr' := (ten_pow_pos r.2).ne'
  have hcross : m * 10 ^ r.2 = r.1 * 10 ^ p * 10 ^ s := by
    rw [hy, Scaled.value, Scaled.value, div_div, div_eq_div_iff hr' (by positivity)] at hr
    have hcast : (m : ℚ) * 10 ^ r.2 = r.1 * 10 ^ p * 10 ^ s := by
      rw [← hr, mul_assoc, mul_comm ((10 : ℚ) ^ p)]
    exact_mod_cast hcast
  rcases Nat.lt_or_ge s r.2 with hlt | hge
  · refine ⟨hlt, ?_⟩
    obtain ⟨k, hk⟩ := Nat.exists_eq_add_of_le (Nat.le_of_lt hlt)
    rw [hk, Nat.add_sub_cancel_left]
    rw [hk, pow_add, mul_comm ((10 : ℤ) ^ s), ← mul_assoc] at hcross
    exact Int.eq_of_mul_eq_mul_right (by positivity) hcross
  -- with no more places than the dividend has, nothing was left
  · obtain ⟨k, rfl⟩ := Nat.exists_eq_add_of_le hge
    rw [pow_add, mul_comm ((10 : ℤ) ^ r.2), ← mul_assoc] at hcross
    have hm : m = r.1 * 10 ^ p * 10 ^ k := Int.eq_of_mul_eq_mul_right (by positivity) hcross
    exact absurd ⟨r.1 * 10 ^ k, by rw [hm]; ring⟩ hrest

/-- Eight places more are eight factors of two. -/
theorem dvd_mul_pow_eight (u : ℤ) : (2 ^ 32 : ℤ) ∣ u * 10 ^ 8 ↔ (2 ^ 24 : ℤ) ∣ u := by
  constructor
  · intro h
    omega
  · intro h
    omega

/-- Where one of nine digits was enough. -/
theorem nines_sub_eq_eight {s least : ℕ} (hmore : s < least) (hle : least + 1 ≤ 18) :
    nines s least - least = 8 ↔ least + 1 = s + 2 ∨ least + 1 = s + 11 := by
  rw [nines]
  omega

/-- The digits of a quotient whose dividend is a multiple of ten: fewer than `p` are needed, and
those of the tens are followed by zeros, one less than the places that stay empty. -/
theorem quotient_of_tens {tens u : ℤ} {s k p : ℕ} (hu : ¬ (10 : ℤ) ∣ u)
    (h : 10 ^ (s + 1) * tens * 10 ^ k = u * 10 ^ p) :
    s + k < p ∧ tens = u * 10 ^ (p - 1 - (s + k)) := by
  have hlt : s + k < p := by
    by_contra hge
    obtain ⟨j, hj⟩ := Nat.exists_eq_add_of_le (Nat.le_of_not_lt hge)
    apply hu
    refine ⟨tens * 10 ^ j, ?_⟩
    have hpow : (10 : ℤ) ^ (s + 1) * 10 ^ k = 10 * 10 ^ j * 10 ^ p := by
      rw [← pow_succ', ← pow_add, ← pow_add]
      congr 1
      omega
    have hmul : u * 10 ^ p = 10 * (tens * 10 ^ j) * 10 ^ p := by
      rw [← h, mul_right_comm, hpow]
      ring
    exact Int.eq_of_mul_eq_mul_right (by positivity) hmul
  refine ⟨hlt, ?_⟩
  obtain ⟨j, hj⟩ := Nat.exists_eq_add_of_lt hlt
  have hpow : (10 : ℤ) ^ p = 10 ^ j * (10 ^ (s + 1) * 10 ^ k) := by
    rw [← pow_add, ← pow_add]
    congr 1
    omega
  have hmul : tens * (10 ^ (s + 1) * 10 ^ k)
      = u * 10 ^ (p - 1 - (s + k)) * (10 ^ (s + 1) * 10 ^ k) := by
    rw [show p - 1 - (s + k) = j by omega, mul_assoc u, ← hpow, ← h]
    ring
  exact Int.eq_of_mul_eq_mul_right (by positivity) hmul

/-- A quotient whose dividend is no multiple of ten needs all `p` places. -/
theorem quotient_of_not_tens {m u : ℤ} {s k p : ℕ} (hten : ¬ (10 ^ (s + 1) : ℤ) ∣ m)
    (h : m * 10 ^ k = u * 10 ^ p) : p ≤ s + k := by
  by_contra hlt
  apply hten
  obtain ⟨j, hj⟩ := Nat.exists_eq_add_of_lt (Nat.lt_of_not_le hlt)
  have hpow : (10 : ℤ) ^ p = 10 ^ (s + 1) * 10 ^ j * 10 ^ k := by
    rw [← pow_add, ← pow_add]
    congr 1
    omega
  refine ⟨u * 10 ^ j, ?_⟩
  rw [hpow, ← mul_assoc] at h
  rw [Int.eq_of_mul_eq_mul_right (by positivity) h]
  ring

/-- The places an exact quotient is given: those it needs, and a zero where only the first of
nine digits was needed, all nine fit, and the low word is not zero. -/
def given_places (u : ℤ) (s least : ℕ) : ℕ :=
  if nines s least ≤ 28 ∧ (u * 10 ^ (nines s least - least)).natAbs < 2 ^ 96 then
    least + if nines s least - least = 8 ∧ ¬ (2 ^ 32 : ℤ) ∣ u * 10 ^ (nines s least - least)
      then 1 else 0
  else least

theorem given_places_ge (u : ℤ) (s least : ℕ) : least ≤ given_places u s least := by
  rw [given_places]
  split
  · exact Nat.le_add_right _ _
  · exact Nat.le_refl _

theorem given_places_le (u : ℤ) (s least : ℕ) : given_places u s least ≤ least + 1 := by
  rw [given_places]
  split
  · split
    · exact Nat.le_refl _
    · exact Nat.le_succ _
  · exact Nat.le_succ _

/-- The zero is there. -/
theorem given_places_succ {u : ℤ} {s least : ℕ} (hmore : s < least) (hle : least + 1 ≤ 18) :
    least + 1 ≤ given_places u s least ↔ (least + 1 = s + 2 ∨ least + 1 = s + 11)
      ∧ (u * 10 ^ 8).natAbs < 2 ^ 96 ∧ ¬ (2 ^ 24 : ℤ) ∣ u := by
  rw [← nines_sub_eq_eight hmore hle, given_places]
  by_cases height : nines s least - least = 8
  · have hfit : nines s least ≤ 28 := by omega
    rw [height]
    by_cases hsmall : (u * 10 ^ 8).natAbs < 2 ^ 96
    · rw [if_pos ⟨hfit, hsmall⟩]
      by_cases hlow : (2 ^ 24 : ℤ) ∣ u
      · rw [if_neg fun hkept => hkept.2 ((dvd_mul_pow_eight u).mpr hlow)]
        exact iff_of_false (by omega) fun hall => hall.2.2 hlow
      · rw [if_pos ⟨rfl, fun hdvd => hlow ((dvd_mul_pow_eight u).mp hdvd)⟩]
        exact iff_of_true (Nat.le_refl _) ⟨rfl, hsmall, hlow⟩
    · rw [if_neg fun hfits => hsmall hfits.2]
      exact iff_of_false (by omega) fun hall => hsmall hall.2.1
  · simp [height]

/-- The places of an exact quotient that left a remainder. Its digits are those of the dividend;
if this is no multiple of ten they take all the places there should be, and else one zero is
wanted, which is kept in one case only. -/
theorem places_exact (h : Quotients lib view) {v c : D} {p : ℕ} (hp : p ≤ 18)
    (hdiv : lib.checked_div v (lib.from_u64 (10 ^ p)) = some c)
    (hrest : ¬ (10 ^ p : ℤ) ∣ view.mantissa v) (hvalue : view.value c = view.value v / 10 ^ p) :
    p ≤ view.scale c ↔ ((10 ^ (view.scale v + 1) : ℤ) ∣ view.mantissa v →
      ¬ (10 : ℤ) ∣ view.mantissa v / 10 ^ (view.scale v + 1)
        ∧ (p = view.scale v + 2 ∨ p = view.scale v + 11)
        ∧ (view.mantissa v / 10 ^ (view.scale v + 1) * 10 ^ 8).natAbs < 2 ^ 96
        ∧ ¬ (2 ^ 24 : ℤ) ∣ view.mantissa v / 10 ^ (view.scale v + 1)) := by
  have hr : Scaled.value (strip (view.mantissa c) (view.scale c)).1
      (strip (view.mantissa c) (view.scale c)).2 = view.value c := value_strip _ _
  have hleast : Least (view.value c) (strip (view.mantissa c) (view.scale c)).2 := least_strip _ _
  have hlast := strip_last (view.mantissa c) (view.scale c)
  generalize strip (view.mantissa c) (view.scale c) = r at hr hleast hlast
  obtain ⟨hmore, hdigits⟩ := exact_quotient_digits hr hvalue hrest
  generalize hs : view.scale v = s at *
  generalize hm : view.mantissa v = m at *
  have hu : ¬ (10 : ℤ) ∣ r.1 := by
    rcases hlast with hzero | hlast
    · omega
    · omega
  have hscale : view.scale c = given_places r.1 s r.2 := by
    have hgiven := h.div_exact v c p hp hdiv (by rw [hm]; exact hrest) hvalue r.2
      (r.1 * 10 ^ (nines s r.2 - r.2)) hleast
      (by rw [hs, ← hr, value_mul_pow (nines_ge s r.2)])
    rw [hs, unscale_pow hu (Nat.sub_le _ _) (by rw [nines]; omega),
      Nat.sub_sub_self (nines_ge s r.2)] at hgiven
    exact hgiven
  obtain ⟨k, hk⟩ := Nat.exists_eq_add_of_le (Nat.le_of_lt hmore)
  rw [hk, Nat.add_sub_cancel_left] at hdigits
  rw [hscale]
  by_cases hten : (10 ^ (s + 1) : ℤ) ∣ m
  · obtain ⟨tens, htens⟩ := hten
    have hquot : m / 10 ^ (s + 1) = tens := by
      rw [htens, Int.mul_ediv_cancel_left _ (by positivity)]
    rw [htens] at hdigits
    obtain ⟨hlt, htens'⟩ := quotient_of_tens hu hdigits
    rw [← hk] at hlt htens'
    rw [forall_prop_of_true (Dvd.intro _ htens.symm), hquot, htens']
    by_cases hnext : p = r.2 + 1
    · rw [hnext, Nat.add_sub_cancel, Nat.sub_self, pow_zero, mul_one,
        given_places_succ hmore (by omega)]
      exact (and_iff_right hu).symm
    -- more than one zero is wanted
    · have hmax := given_places_le r.1 s r.2
      have htens_dvd : (10 : ℤ) ∣ r.1 * 10 ^ (p - 1 - r.2) :=
        Dvd.dvd.mul_left (dvd_pow_self 10 (by omega)) _
      exact iff_of_false (by omega) fun hall => hall.1 htens_dvd
  -- no multiple of ten: the digits that are needed are enough
  · have hle := quotient_of_not_tens hten hdigits
    rw [← hk] at hle
    exact iff_of_true (hle.trans (given_places_ge r.1 s r.2)) fun hdvd => absurd hdvd hten

/-- The places of a rounded quotient, by how the division ends: at once, with no remainder; with
all digits there; or with the digits that fit, of which zeros are taken off. -/
theorem places_div (h : Quotients lib view) {v c : D} {p : ℕ} (hp : p ≤ 18)
    (hdiv : lib.checked_div v (lib.from_u64 (10 ^ p)) = some c)
    (hrounded : rounded (view.value v / 10 ^ p) = some (view.value c)) :
    p ≤ view.scale c ↔ p = 0 ∨ FillsPlaces (view.mantissa v) (view.scale v) p := by
  rcases Nat.eq_zero_or_pos p with rfl | hpos
  · exact iff_of_true (Nat.zero_le _) (Or.inl rfl)
  rw [or_iff_right (Nat.pos_iff_ne_zero.mp hpos), FillsPlaces]
  split
  · rename_i hdvd
    by_cases hzero : view.mantissa v = 0
    · rw [h.div_zero v c p hp hdiv hzero]
      exact iff_of_false (by omega) fun hboth => hboth.1 hzero
    · rw [h.div_whole v c p hp hdiv hzero hdvd]
      exact (and_iff_right hzero).symm
  rename_i hrest
  have hten := (ten_pow_pos p).ne'
  have hgrid : (grid p : ℚ) ≠ 0 := (Nat.cast_pos.mpr (grid_pos p)).ne'
  rw [rounded_div hp v, Option.some.injEq] at hrounded
  have hdvd_iff : (10 ^ view.scale v : ℤ) ∣ view.mantissa v * grid p
      ↔ ∃ n : ℤ, view.value v * grid p = n := by
    rw [dvd_mantissa_iff, Int.cast_natCast]
    rfl
  split
  · rename_i hwhole
    obtain ⟨n, hn⟩ := hdvd_iff.mp hwhole
    rw [hn, half_even_intCast, ← hn, mul_div_assoc, div_self hgrid, mul_one] at hrounded
    exact places_exact h hp hdiv hrest hrounded.symm
  · rename_i hinexact
    have hm : view.value c * 10 ^ 28 = (half_even (view.value v * grid p) : ℤ) := by
      rw [← hrounded, ← grid_mul_pow hp]
      field_simp
    have hne : view.value c ≠ view.value v / 10 ^ p := by
      intro heq
      rw [heq, div_pow_mul_grid hp] at hm
      exact hinexact (hdvd_iff.mpr ⟨_, hm⟩)
    rw [h.div_rounded v c p hp hdiv hne _ hm]
    rfl

/-- `from_minor` gives `v / 10 ^ places` correctly rounded with all its places iff the quotient
comes with as many and `v` is not so near below a midpoint that the quotient's last digit
cannot tell. -/
theorem from_minor_fixed_iff {D : Type} {lib : DecimalLib D} {view : View D}
    (h : Quotients lib view) {v : D} {places text : String} {p : ℕ}
    (hp : minor_places places = .ok p) (htext : from_minor lib v places = .ok text) :
    (∃ n : ℤ, Shows text n p ∧ Scaled.value n p = round_places (view.value v / 10 ^ p) p)
      ↔ (p = 0 ∨ FillsPlaces (view.mantissa v) (view.scale v) p)
        ∧ ∀ k : ℕ, ¬ (k + 1 / 2 - 1 / (2 * grid p) ≤ |view.value v|
          ∧ |view.value v| < k + 1 / 2) := by
  have hle := minor_places_le hp
  obtain ⟨c, hdiv, hrounded, htext'⟩ := from_minor_spec h.toDivides hp htext
  have hshows := h.to_string (lib.round_dp c p)
  have hvalue := h.round_dp c p
  rw [← htext'] at hshows
  rw [View.value] at hvalue
  rw [← places_div h hle hdiv hrounded]
  have hten := (ten_pow_pos p).ne'
  -- the number: both sides are integers of the last place
  have hnumber : round_places (view.value c) p = round_places (view.value v / 10 ^ p) p
      ↔ ∀ k : ℕ, ¬ (k + 1 / 2 - 1 / (2 * grid p) ≤ |view.value v|
          ∧ |view.value v| < k + 1 / 2) := by
    rw [rounded_div hle v, Option.some.injEq] at hrounded
    rw [← half_away_half_even (four_dvd_grid hle) (grid_pos p), round_places, round_places,
      ← hrounded, div_mul_cancel₀ _ hten, div_mul_cancel₀ _ hten, Scaled.value, Scaled.value,
      div_left_inj' hten, Int.cast_inj]
  rw [← hnumber]
  constructor
  · rintro ⟨n, hn, hsame⟩
    have hread := hn.1.symm.trans hshows.1
    rw [Option.some.injEq, Prod.mk.injEq] at hread
    refine ⟨hread.2.trans_le (h.round_dp_le c p), ?_⟩
    rw [← hvalue, ← hread.1, ← hread.2, hsame]
  · rintro ⟨henough, hsame⟩
    have hscale := h.round_dp_scale c p henough
    rw [hscale] at hshows hvalue
    exact ⟨_, hshows, hvalue.trans hsame⟩

/-- A whole number is not just below a midpoint. -/
theorem not_below_midpoint (n : ℤ) {c : ℕ} (hc : 2 ≤ c) (k : ℕ) :
    ¬ ((k : ℚ) + 1 / 2 - 1 / (2 * c) ≤ |(n : ℚ)| ∧ |(n : ℚ)| < k + 1 / 2) := by
  rintro ⟨hlow, hhigh⟩
  have hc' : (2 : ℚ) ≤ c := by exact_mod_cast hc
  have hstep : 1 / (2 * (c : ℚ)) ≤ 1 / 4 := by
    apply one_div_le_one_div_of_le (by norm_num)
    linarith
  have hlow' : (k : ℤ) ≤ |n| := by
    have hlt : ((k : ℤ) : ℚ) < ((|n| + 1 : ℤ) : ℚ) := by push_cast; linarith
    have hlt' := Int.cast_lt.mp hlt
    omega
  have hhigh' : |n| ≤ k := by
    have hlt : ((|n| : ℤ) : ℚ) < ((k + 1 : ℤ) : ℚ) := by push_cast; linarith
    have hlt' := Int.cast_lt.mp hlt
    omega
  have heq : |(n : ℚ)| = k := by
    have habs : |n| = (k : ℤ) := le_antisymm hhigh' hlow'
    exact_mod_cast congrArg (Int.cast (R := ℚ)) habs
  rw [heq] at hlow
  linarith

/-- A hundred and fifty cents are shown with both of their places. -/
theorem from_minor_fixed_cents :
    ∃ n : ℤ, Shows "1.50" n 2 ∧ Scaled.value n 2 = round_places (Scaled.value 150 0 / 10 ^ 2) 2 := by
  refine (from_minor_fixed_iff (v := ⟨150, 0, by decide, by decide⟩) quotients_amounts
    (show minor_places "" = .ok 2 from rfl) (by decide +kernel)).mpr ?_
  have hvalue : Amount.view.value ⟨150, 0, by decide, by decide⟩ = (150 : ℤ) := value_zero_right _
  rw [hvalue]
  refine ⟨Or.inr ?_, not_below_midpoint _ (by decide)⟩
  show FillsPlaces 150 0 2
  rw [FillsPlaces, if_neg (by decide), if_pos (by decide)]
  intro hten
  exact ⟨by decide, Or.inl rfl, by decide, by decide⟩

/-- A whole dollar comes back without cents. -/
theorem from_minor_not_fixed : ¬ ∀ (D : Type) (lib : DecimalLib D) (view : View D),
    Quotients lib view → ∀ (v : D) (places text : String) (p : ℕ), minor_places places = .ok p →
      from_minor lib v places = .ok text →
      ∃ n : ℤ, Shows text n p
        ∧ Scaled.value n p = round_places (view.value v / 10 ^ p) p := by
  intro hall
  obtain ⟨n, hshows, -⟩ := hall Amount amounts Amount.view quotients_amounts
    ⟨100, 0, by decide, by decide⟩ "" "1" 2 rfl (by decide +kernel)
  have hread : Digits.read "1" = some (1, 0) := by decide
  rw [Shows, hread, Option.some.injEq, Prod.mk.injEq] at hshows
  exact absurd hshows.1.2 (by decide)

/-! ## 8. Exactness -/

/-- The operation a name stands for. -/
def operation (op : String) : Option (ℚ → ℚ → ℚ) :=
  match op with
  | "add" => some (· + ·)
  | "sub" => some (· - ·)
  | "mul" => some (· * ·)
  | _ => none

/-- A text that is parsed is parsed to the number it writes iff that is a decimal. -/
theorem parse_decimal_exact (h : Reads lib view) {text : String} {d : D} {x : ℚ}
    (hd : parse_decimal lib text = .ok d) (hx : written (trim text) = some x) :
    view.value d = x ↔ Exact x := by
  rw [parse_decimal, Result.mapError_eq_ok] at hd
  constructor
  · rintro rfl
    exact view.exact d
  · intro hexact
    obtain ⟨d', hd', hvalue⟩ := h.from_str _ x hx hexact
    rw [hd, Except.ok.injEq] at hd'
    rw [hd', hvalue]

/-- and to a text. -/
theorem dispatch_parse {text rhs : String} {d : D} (hd : parse_decimal lib text = .ok d) :
    dispatch lib "parse" text rhs = .ok (lib.to_string d) := by
  unfold dispatch
  rw [hd, Result.ok_bind]
  rfl

/-- A checked result is printed if there is one. -/
theorem checked_text_eq_ok {out : Option D} {text : String} (h : checked_text lib out = .ok text) :
    ∃ d, out = some d ∧ text = lib.to_string d := by
  cases out with
  | none => cases h
  | some d => exact ⟨d, rfl, (Except.ok.inj h).symm⟩

/-- An operation that succeeds gives the nearest decimal to the result. -/
theorem dispatch_operation (h : Computes lib view) {op lhs rhs text : String} {f : ℚ → ℚ → ℚ}
    (hop : operation op = some f) (htext : dispatch lib op lhs rhs = .ok text) :
    ∃ a b c, parse_decimal lib lhs = .ok a ∧ parse_decimal lib rhs = .ok b
      ∧ text = lib.to_string c ∧ rounded (f (view.value a) (view.value b)) = some (view.value c) := by
  unfold dispatch at htext
  obtain ⟨a, ha, htext⟩ := Result.bind_eq_ok.mp htext
  -- each of the three names goes to `arithmetic`, and there to its own operation
  have hchecked : ∃ b, parse_decimal lib rhs = .ok b ∧ ∃ out, checked_text lib out = .ok text
      ∧ out.map view.value = rounded (f (view.value a) (view.value b)) := by
    unfold operation at hop
    split at hop
    · obtain ⟨b, hb, hout⟩ := Result.bind_eq_ok.mp htext
      cases hop
      exact ⟨b, hb, _, hout, h.checked_add a b⟩
    · obtain ⟨b, hb, hout⟩ := Result.bind_eq_ok.mp htext
      cases hop
      exact ⟨b, hb, _, hout, h.checked_sub a b⟩
    · obtain ⟨b, hb, hout⟩ := Result.bind_eq_ok.mp htext
      cases hop
      exact ⟨b, hb, _, hout, h.checked_mul a b⟩
    · cases hop
  obtain ⟨b, hb, out, hout, hrounded⟩ := hchecked
  obtain ⟨c, rfl, hc⟩ := checked_text_eq_ok hout
  exact ⟨a, b, c, ha, hb, hc, hrounded.symm⟩

/-- What is parsed, added, subtracted or multiplied is exact iff the numbers written and the
result are decimals: otherwise it is rounded, and nothing says so. -/
theorem dispatch_exact_iff {D : Type} {lib : DecimalLib D} {view : View D}
    (h : Computes lib view) :
    (∀ lhs rhs text, dispatch lib "parse" lhs rhs = .ok text →
        ((∃ x, written (trim lhs) = some x ∧ Denotes text x)
          ↔ ∃ x, written (trim lhs) = some x ∧ Exact x))
      ∧ ∀ op f lhs rhs text, operation op = some f → dispatch lib op lhs rhs = .ok text →
        ∃ left right, dispatch lib "parse" lhs "" = .ok left ∧ dispatch lib "parse" rhs "" = .ok right
          ∧ ((∃ x y, written (trim lhs) = some x ∧ written (trim rhs) = some y
              ∧ Denotes left x ∧ Denotes right y ∧ Denotes text (f x y))
            ↔ ∃ x y, written (trim lhs) = some x ∧ written (trim rhs) = some y
              ∧ Exact x ∧ Exact y ∧ Exact (f x y)) := by
  constructor
  · intro lhs rhs text htext
    obtain ⟨d, hd, -⟩ := Result.bind_eq_ok.mp htext
    rw [dispatch_parse hd, Except.ok.injEq] at htext
    refine exists_congr fun x => and_congr_right fun hx => ?_
    rw [← htext, denotes_to_string_iff h.toPrints, parse_decimal_exact h.toReads hd hx]
  · intro op f lhs rhs text hop htext
    obtain ⟨a, b, c, ha, hb, rfl, hrounded⟩ := dispatch_operation h hop htext
    refine ⟨_, _, dispatch_parse ha, dispatch_parse hb, ?_⟩
    refine exists_congr fun x => exists_congr fun y => and_congr_right fun hx =>
      and_congr_right fun hy => ?_
    have hexact := parse_decimal_exact h.toReads ha hx
    have hexact' := parse_decimal_exact h.toReads hb hy
    rw [denotes_to_string_iff h.toPrints, denotes_to_string_iff h.toPrints,
      denotes_to_string_iff h.toPrints, hexact, hexact']
    refine and_congr_right fun hxe => and_congr_right fun hye => ?_
    rw [← hexact.mpr hxe, ← hexact'.mpr hye]
    exact rounded_eq_self_iff hrounded

end

/-- A tenth and two tenths are three tenths. -/
theorem dispatch_exact_tenths : Denotes "0.3" (1 / 10 + 2 / 10) := by
  obtain ⟨left, right, -, -, hiff⟩ := (dispatch_exact_iff computes_amounts).2
    "add" _ "0.1" "0.2" "0.3" rfl (by decide +kernel)
  have hx : written (trim "0.1") = some (1 / 10) := by decide +kernel
  have hy : written (trim "0.2") = some (2 / 10) := by decide +kernel
  obtain ⟨x, y, hx', hy', -, -, htext⟩ := hiff.mpr ⟨1 / 10, 2 / 10, hx, hy,
    ⟨1, 1, by decide, by decide, by norm_num [Scaled.value]⟩,
    ⟨2, 1, by decide, by decide, by norm_num [Scaled.value]⟩,
    ⟨3, 1, by decide, by decide, by norm_num [Scaled.value]⟩⟩
  rw [hx, Option.some.injEq] at hx'
  rw [hy, Option.some.injEq] at hy'
  rw [hx', hy']
  exact htext

/-- A product too small for the scale is zero, with all its places, and no error. -/
theorem small_product_is_zero : ¬ ∀ (D : Type) (lib : DecimalLib D) (view : View D),
    Computes lib view → ∀ (op : String) (f : ℚ → ℚ → ℚ) (lhs rhs text : String) (x y : ℚ),
      operation op = some f → written (trim lhs) = some x → written (trim rhs) = some y →
      dispatch lib op lhs rhs = .ok text → Denotes text (f x y) := by
  intro hall
  have hdenotes := hall Amount amounts Amount.view computes_amounts "mul" (· * ·)
    "0.000000000000001" "0.000000000000001" "0.0000000000000000000000000000"
    (1 / 10 ^ 15) (1 / 10 ^ 15) rfl
    (by decide +kernel) (by decide +kernel) (by decide +kernel)
  have hzero : Denotes "0.0000000000000000000000000000" 0 :=
    ⟨0, 28, by decide +kernel, by norm_num [Scaled.value]⟩
  have heq := denotes_unique hzero hdenotes
  norm_num at heq

end Runlet.Money
