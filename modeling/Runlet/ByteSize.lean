/-
Byte sizes of the configuration (`crates/runlet-core/src/bytesize.rs`): `"8mb"`, `"256 kb"`,
`"4096"`.

`parse_byte_size` cuts a text in front of its first letter, trims both halves and leaves the
number to `str::parse`. What it accepts is the grammar `Size` (`parse_byte_size_eq_ok`), for every
text: a sign, digits, white space and a unit, with a number and a product that are a `usize`.

The tables of Unicode are a parameter.
-/
import Runlet.Lib.Net
import Runlet.Lib.Text

set_option autoImplicit false

namespace Runlet.ByteSize

open Text Net

/-! ## 1. The parser -/

/-- `char::is_alphabetic` and `str::to_lowercase`. -/
structure Unicode where
  is_alphabetic : Char → Bool
  to_lowercase : List Char → List Char

/-- What the parser relies on: the letters of ASCII are alphabetic, and of the other characters of
ASCII and white space none is; and lower case makes no white space of a character and none of
white space. -/
structure Unicode.Documented (u : Unicode) : Prop where
  ascii : ∀ c : Char, c.toNat < 0x80 → u.is_alphabetic c = c.isAlpha
  whitespace : ∀ c, is_whitespace c = true → u.is_alphabetic c = false
  trimmed : ∀ cs, trim_chars cs = cs → trim_chars (u.to_lowercase cs) = u.to_lowercase cs

/-- `usize::checked_mul`. -/
def checked_mul (a b : ℕ) : Option ℕ := if a * b < 2 ^ 64 then some (a * b) else none

/-- The multiplier of a unit. -/
def multiplier : List Char → Option ℕ
  | [] | ['b'] => some 1
  | ['k', 'b'] | ['k'] => some 1024
  | ['m', 'b'] | ['m'] => some (1024 * 1024)
  | ['g', 'b'] | ['g'] => some (1024 * 1024 * 1024)
  | _ => none

def decimal_message (input : String) : String :=
  "decimal values are not supported for byte sizes: \"" ++ input
    ++ "\" — use whole numbers (e.g. \"1536kb\" instead of \"1.5mb\")"

def parse_byte_size (u : Unicode) (input : String) : Except String ℕ :=
  let lower := u.to_lowercase (trim_chars input.toList)
  let num_str := lower.takeWhile (!u.is_alphabetic ·)
  let unit_str := lower.dropWhile (!u.is_alphabetic ·)
  match parse_unsigned 64 (trim_chars num_str) with
  | none =>
    if '.' ∈ num_str then .error (decimal_message input)
    else .error ("invalid number in byte size: \"" ++ input ++ "\"")
  | some number =>
    match multiplier (trim_chars unit_str) with
    | none =>
      .error ("unknown size unit '" ++ String.ofList (trim_chars unit_str) ++ "' in: " ++ input)
    | some multiplier =>
      match checked_mul number multiplier with
      | some size => .ok size
      | none => .error ("byte size overflow: " ++ input)

/-! ## 2. The grammar -/

/-- The units and what they stand for. -/
def units : List (List Char × ℕ) :=
  [([], 1), (['b'], 1), (['k'], 1024), (['k', 'b'], 1024), (['m'], 1024 ^ 2), (['m', 'b'], 1024 ^ 2),
    (['g'], 1024 ^ 3), (['g', 'b'], 1024 ^ 3)]

/-- The text denotes `n * m`: a sign, digits for `n`, white space and a unit for `m`. -/
def Size (text : List Char) (n m : ℕ) : Prop :=
  ∃ sign digits gap unit, text = sign ++ (digits ++ (gap ++ unit))
    ∧ (sign = [] ∨ sign = ['+'])
    ∧ digits ≠ [] ∧ (∀ c ∈ digits, c.isDigit = true) ∧ digits_value 10 digits = n
    ∧ (∀ c ∈ gap, is_whitespace c = true)
    ∧ (unit, m) ∈ units

/-- The units that are known, with what they stand for. -/
theorem multiplier_eq_some {unit : List Char} {m : ℕ} :
    multiplier unit = some m ↔ (unit, m) ∈ units := by
  unfold multiplier
  constructor
  · intro h
    split at h
    all_goals cases h
    all_goals decide
  · intro h
    simp only [units, List.mem_cons, Prod.mk.injEq, List.not_mem_nil, or_false] at h
    rcases h with ⟨rfl, rfl⟩ | ⟨rfl, rfl⟩ | ⟨rfl, rfl⟩ | ⟨rfl, rfl⟩ | ⟨rfl, rfl⟩ | ⟨rfl, rfl⟩
      | ⟨rfl, rfl⟩ | ⟨rfl, rfl⟩
    all_goals rfl

theorem digit_range {c : Char} (h : c.isDigit = true) : 48 ≤ c.toNat ∧ c.toNat ≤ 57 :=
  Char.isDigit_iff_toNat.mp h

/-- The printable characters of ASCII are not white space. -/
theorem not_whitespace_of_printable {c : Char} (hlow : 0x20 < c.toNat) (hhigh : c.toNat < 0x80) :
    is_whitespace c = false := by
  simp only [is_whitespace, Bool.or_eq_false_iff, Bool.and_eq_false_iff, beq_eq_false_iff_ne,
    decide_eq_false_iff_not]
  omega

theorem is_whitespace_digit {c : Char} (h : c.isDigit = true) : is_whitespace c = false := by
  have hrange := digit_range h
  exact not_whitespace_of_printable (by omega) (by omega)

/-- The range of the letters. -/
theorem alpha_range {c : Char} (h : c.isAlpha = true) : 65 ≤ c.toNat ∧ c.toNat ≤ 122 := by
  delta Char.isAlpha Char.isUpper Char.isLower at h
  simp only [Bool.or_eq_true, Bool.and_eq_true, decide_eq_true_eq, ge_iff_le,
    UInt32.le_iff_toNat_le] at h
  have hupper : 'A'.val.toNat = 65 ∧ 'Z'.val.toNat = 90 := ⟨rfl, rfl⟩
  have hlower : 'a'.val.toNat = 97 ∧ 'z'.val.toNat = 122 := ⟨rfl, rfl⟩
  have hval : c.val.toNat = c.toNat := rfl
  omega

/-- No digit is a letter. -/
theorem is_alpha_digit {c : Char} (h : c.isDigit = true) : c.isAlpha = false := by
  have hdigit := digit_range h
  rw [← Bool.not_eq_true]
  intro halpha
  have hrange := alpha_range halpha
  omega

/-- The number is trimmed and read: white space can only stand behind it, since what is in front
of it has been trimmed off already. -/
theorem parse_unsigned_trim {num : List Char} {n : ℕ}
    (hnum : ∀ c ∈ num.head?, is_whitespace c = false) :
    parse_unsigned 64 (trim_chars num) = some n
      ↔ ∃ sign digits gap, num = sign ++ (digits ++ gap) ∧ (sign = [] ∨ sign = ['+'])
        ∧ digits ≠ [] ∧ (∀ c ∈ digits, c.isDigit = true) ∧ digits_value 10 digits = n
        ∧ (∀ c ∈ gap, is_whitespace c = true) ∧ n < 2 ^ 64 := by
  rw [parse_unsigned_eq_some]
  constructor
  · rintro ⟨sign, digits, htrim, hsign, hne, hdigits, hvalue, hlt⟩
    obtain ⟨front, gap, hsplit, hfront, hgap⟩ := eq_append_trim_chars num
    have hempty : front = [] := by
      cases front with
      | nil => rfl
      | cons c cs =>
          have hhead := hnum c (by rw [hsplit]; rfl)
          rw [hfront c List.mem_cons_self] at hhead
          cases hhead
    rw [hempty, List.nil_append, htrim, List.append_assoc] at hsplit
    exact ⟨sign, digits, gap, hsplit, hsign, hne, hdigits, hvalue, hgap, hlt⟩
  · rintro ⟨sign, digits, gap, rfl, hsign, hne, hdigits, hvalue, hgap, hlt⟩
    refine ⟨sign, digits, ?_, hsign, hne, hdigits, hvalue, hlt⟩
    have hvisible : ∀ c ∈ sign ++ digits, is_whitespace c = false := by
      intro c hc
      rcases List.mem_append.mp hc with hc | hc
      · rcases hsign with rfl | rfl
        · cases hc
        · rw [List.mem_singleton.mp hc]
          decide
      · exact is_whitespace_digit (hdigits c hc)
    rw [← List.append_assoc]
    exact trim_chars_append (by simp [hne]) (trim_chars_of_forall hvisible) hgap

/-- What the parser goes through where it is not an error: the number up to the first letter, the
unit behind it, and a product that fits. -/
theorem parse_byte_size_steps {u : Unicode} {input : String} {lower : List Char}
    (hlower : u.to_lowercase (trim_chars input.toList) = lower) (size : ℕ) :
    parse_byte_size u input = .ok size
      ↔ ∃ n m, parse_unsigned 64 (trim_chars (lower.takeWhile (!u.is_alphabetic ·))) = some n
        ∧ multiplier (trim_chars (lower.dropWhile (!u.is_alphabetic ·))) = some m
        ∧ n * m < 2 ^ 64 ∧ size = n * m := by
  rw [parse_byte_size, hlower]
  constructor
  · intro h
    split at h
    · split at h
      · cases h
      · cases h
    · rename_i n hnum
      split at h
      · cases h
      · rename_i m hmultiplier
        rw [checked_mul] at h
        split at h
        · rename_i product hproduct
          obtain ⟨hfits, hsize⟩ := Option.ite_none_right_eq_some.mp hproduct
          refine ⟨n, m, hnum, hmultiplier, hfits, ?_⟩
          rw [← Except.ok.inj h, Option.some.inj hsize]
        · cases h
  · rintro ⟨n, m, hnum, hmultiplier, hfits, rfl⟩
    have hproduct : checked_mul n m = some (n * m) := if_pos hfits
    rw [hnum, hmultiplier]
    simp only [hproduct]

section
variable {u : Unicode} (hu : u.Documented)
include hu

theorem not_alphabetic_of_digit {c : Char} (h : c.isDigit = true) : u.is_alphabetic c = false := by
  have hrange := digit_range h
  rw [hu.ascii c (by omega), is_alpha_digit h]

/-- Nothing in front of a unit is a letter. -/
theorem not_alphabetic_front {sign digits gap : List Char} (hsign : sign = [] ∨ sign = ['+'])
    (hdigits : ∀ c ∈ digits, c.isDigit = true) (hgap : ∀ c ∈ gap, is_whitespace c = true) :
    ∀ c ∈ sign ++ (digits ++ gap), u.is_alphabetic c = false := by
  intro c hc
  rcases List.mem_append.mp hc with hc | hc
  · rcases hsign with rfl | rfl
    · cases hc
    · rw [List.mem_singleton.mp hc, hu.ascii '+' (by decide)]
      decide
  · rcases List.mem_append.mp hc with hc | hc
    · exact not_alphabetic_of_digit hu (hdigits c hc)
    · exact hu.whitespace c (hgap c hc)

/-- The number in front of a unit: the cut is where the unit starts. -/
theorem cut_eq {front unit : List Char} {m : ℕ} (hfront : ∀ c ∈ front, u.is_alphabetic c = false)
    (hunit : (unit, m) ∈ units) :
    (front ++ unit).takeWhile (!u.is_alphabetic ·) = front
      ∧ (front ++ unit).dropWhile (!u.is_alphabetic ·) = unit := by
  have hall : ∀ c ∈ front, (!u.is_alphabetic c) = true := by
    intro c hc
    rw [hfront c hc]
    rfl
  have hletter : unit.takeWhile (!u.is_alphabetic ·) = []
      ∧ unit.dropWhile (!u.is_alphabetic ·) = unit := by
    have hb := hu.ascii 'b' (by decide)
    have hk := hu.ascii 'k' (by decide)
    have hm := hu.ascii 'm' (by decide)
    have hg := hu.ascii 'g' (by decide)
    simp only [units, List.mem_cons, Prod.mk.injEq, List.not_mem_nil, or_false] at hunit
    rcases hunit with ⟨rfl, rfl⟩ | ⟨rfl, rfl⟩ | ⟨rfl, rfl⟩ | ⟨rfl, rfl⟩ | ⟨rfl, rfl⟩ | ⟨rfl, rfl⟩
      | ⟨rfl, rfl⟩ | ⟨rfl, rfl⟩
    all_goals simp [hb, hk, hm, hg]
  constructor
  · rw [List.takeWhile_append_of_pos hall, hletter.1, List.append_nil]
  · rw [List.dropWhile_append_of_pos hall, hletter.2]

/-- The two halves of a trimmed text: the number starts with no white space, and the unit has none
at its ends. -/
theorem halves_trimmed {lower : List Char} (h : trim_chars lower = lower) :
    (∀ c ∈ (lower.takeWhile (!u.is_alphabetic ·)).head?, is_whitespace c = false)
      ∧ trim_chars (lower.dropWhile (!u.is_alphabetic ·))
        = lower.dropWhile (!u.is_alphabetic ·) := by
  obtain ⟨hfirst, hlast⟩ := trim_chars_eq_self_iff.mp h
  have hcut := List.takeWhile_append_dropWhile (p := (!u.is_alphabetic ·)) (l := lower)
  constructor
  · intro c hc
    obtain ⟨rest, hcons⟩ := List.head?_eq_some_iff.mp hc
    rw [hcons] at hcut
    exact hfirst c (by rw [← hcut]; rfl)
  · rw [trim_chars_eq_self_iff]
    constructor
    · intro c hc
      have hhead := List.head?_dropWhile_not (!u.is_alphabetic ·) lower
      rw [Option.mem_def.mp hc] at hhead
      rw [← Bool.not_eq_true]
      intro hwhite
      have hletter : (!u.is_alphabetic c) = false := hhead
      rw [hu.whitespace c hwhite] at hletter
      cases hletter
    · intro c hc
      apply hlast c
      have hne : lower.dropWhile (!u.is_alphabetic ·) ≠ [] := by
        intro hnil
        rw [hnil] at hc
        cases hc
      rw [← hcut, List.getLast?_append_of_ne_nil _ hne]
      exact hc

/-- The parser accepts the grammar and nothing else, and a size is the exact product. The two
parts of the text are those of the grammar, because a number has no letter in it and a unit begins
with one. -/
theorem parse_byte_size_eq_ok (input : String) (size : ℕ) :
    parse_byte_size u input = .ok size
      ↔ ∃ n m, Size (u.to_lowercase (trim_chars input.toList)) n m ∧ n < 2 ^ 64 ∧ n * m < 2 ^ 64
        ∧ size = n * m := by
  have hlower := hu.trimmed _ (trim_chars_trim_chars input.toList)
  rw [parse_byte_size_steps rfl]
  set lower := u.to_lowercase (trim_chars input.toList)
  obtain ⟨hhead, hunit⟩ := halves_trimmed hu hlower
  have hcut := List.takeWhile_append_dropWhile (p := (!u.is_alphabetic ·)) (l := lower)
  rw [hunit]
  constructor
  · rintro ⟨n, m, hnum, hmultiplier, hfits, rfl⟩
    obtain ⟨sign, digits, gap, hsplit, hsign, hne, hdigits, hvalue, hgap, hlt⟩ :=
      (parse_unsigned_trim hhead).mp hnum
    refine ⟨n, m, ⟨sign, digits, gap, _, ?_, hsign, hne, hdigits, hvalue, hgap,
      multiplier_eq_some.mp hmultiplier⟩, hlt, hfits, rfl⟩
    rw [← List.append_assoc digits, ← List.append_assoc, ← hsplit, hcut]
  · rintro ⟨n, m, ⟨sign, digits, gap, unit, hform, hsign, hne, hdigits, hvalue, hgap, hmem⟩, hlt,
      hfits, rfl⟩
    have hjoin : lower = (sign ++ (digits ++ gap)) ++ unit := by
      rw [hform, List.append_assoc, List.append_assoc]
    obtain ⟨htake, hdrop⟩ := cut_eq hu (not_alphabetic_front hu hsign hdigits hgap) hmem
    rw [← hjoin] at htake hdrop
    rw [htake] at hhead
    rw [htake, hdrop]
    refine ⟨n, m, ?_, multiplier_eq_some.mpr hmem, hfits, rfl⟩
    exact (parse_unsigned_trim hhead).mpr
      ⟨sign, digits, gap, rfl, hsign, hne, hdigits, hvalue, hgap, hlt⟩

end

/-- The tables for the letters of ASCII. -/
def ascii : Unicode where
  is_alphabetic := Char.isAlpha
  to_lowercase := List.map Char.toLower

/-- White space has no case. -/
theorem is_whitespace_toLower (c : Char) : is_whitespace c.toLower = is_whitespace c := by
  delta Char.toLower
  split
  · rename_i h
    have hlow : 65 ≤ c.toNat := UInt32.le_iff_toNat_le.mp h.1
    have hhigh : c.toNat ≤ 90 := UInt32.le_iff_toNat_le.mp h.2
    have hsum : (c.val + ('a'.val - 'A'.val)).toNat = c.toNat + 32 := by
      rw [UInt32.toNat_add]
      show (c.toNat + 32) % 2 ^ 32 = _
      omega
    rw [@not_whitespace_of_printable c (by omega) (by omega)]
    apply not_whitespace_of_printable
    · show _ < (c.val + ('a'.val - 'A'.val)).toNat
      omega
    · show (c.val + ('a'.val - 'A'.val)).toNat < _
      omega
  · rfl

/-- Lower case as it is for ASCII. -/
theorem ascii_documented : ascii.Documented where
  ascii c _ := rfl
  whitespace c h := by
    rw [← Bool.not_eq_true]
    intro halpha
    have hrange := alpha_range halpha
    rw [not_whitespace_of_printable (by omega) (by omega)] at h
    cases h
  trimmed cs h := by
    have hdrop : ∀ ds : List Char, (ds.map Char.toLower).dropWhile is_whitespace
        = (ds.dropWhile is_whitespace).map Char.toLower := by
      intro ds
      have hsame : is_whitespace ∘ Char.toLower = is_whitespace := funext is_whitespace_toLower
      rw [List.dropWhile_map, hsame]
    show trim_chars (cs.map Char.toLower) = cs.map Char.toLower
    rw [trim_chars, hdrop, ← List.map_reverse, hdrop, ← List.map_reverse]
    exact congrArg _ h

/-- Space in front, and between the number and its unit. -/
theorem eight_megabytes : parse_byte_size ascii " 8 MB" = .ok 8388608 := by
  refine (parse_byte_size_eq_ok ascii_documented " 8 MB" 8388608).mpr
    ⟨8, 1024 ^ 2, ⟨[], ['8'], [' '], ['m', 'b'], ?_⟩, by decide, by decide, by decide⟩
  exact ⟨by decide, Or.inl rfl, by decide, List.forall_mem_singleton.mpr rfl, by decide,
    List.forall_mem_singleton.mpr rfl, by decide⟩

end Runlet.ByteSize
