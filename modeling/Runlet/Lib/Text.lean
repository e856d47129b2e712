/-
Text as the sources handle it: a Rust `str` is a list of `char`s, and its bytes
are the UTF-8 encoding of that list. The functions below are the `str` methods
the modelled code calls, under their Rust names, each with the lemma that says
what it returns.
-/
import Mathlib.Data.List.Basic
import Mathlib.Data.List.Induction

set_option autoImplicit false

namespace Text

/-! ## UTF-8 -/

/-- `str::as_bytes`: the UTF-8 encoding. -/
def utf8 (s : String) : List UInt8 := s.toList.flatMap String.utf8EncodeChar

/-- Different texts have different bytes. -/
theorem utf8_injective {s t : String} (h : utf8 s = utf8 t) : s = t := by
  have hbytes : s.toList.utf8Encode = t.toList.utf8Encode := by
    rw [List.utf8Encode, List.utf8Encode]
    exact congrArg List.toByteArray h
  apply String.toByteArray_inj.mp
  rw [← String.utf8Encode_toList, ← String.utf8Encode_toList, hbytes]

theorem utf8_inj {s t : String} : utf8 s = utf8 t ↔ s = t :=
  ⟨utf8_injective, fun h => congrArg utf8 h⟩

/-- Only the empty text has no bytes. -/
@[simp] theorem utf8_eq_nil {s : String} : utf8 s = [] ↔ s = "" := by
  constructor
  · intro h
    exact utf8_injective h
  · rintro rfl
    rfl

theorem utf8_append (s t : String) : utf8 (s ++ t) = utf8 s ++ utf8 t := by
  rw [utf8, String.toList_append, List.flatMap_append, utf8, utf8]

/-- `str::from_utf8`: the text with these bytes, if there is one. -/
def from_utf8 (bytes : List UInt8) : Option String := String.fromUTF8? bytes.toByteArray

/-- Bytes decode to a text exactly if they are its encoding. -/
theorem from_utf8_eq_some {bytes : List UInt8} {s : String} :
    from_utf8 bytes = some s ↔ utf8 s = bytes := by
  have hbytes : (utf8 s).toByteArray = s.toByteArray := by
    rw [← String.utf8Encode_toList]
    rfl
  have hinj : (utf8 s).toByteArray = bytes.toByteArray ↔ utf8 s = bytes := by
    constructor
    · intro h
      rw [← List.toList_data_toByteArray (l := utf8 s), h, List.toList_data_toByteArray]
    · intro h
      rw [h]
  rw [← hinj, hbytes, from_utf8, String.fromUTF8?]
  constructor
  · intro h
    split at h
    · rw [← Option.some.inj h]
      rfl
    · cases h
  · intro h
    have hvalid : bytes.toByteArray.IsValidUTF8 := h ▸ s.isValidUTF8
    rw [dif_pos hvalid, Option.some.injEq]
    exact String.toByteArray_inj.mp h.symm

/-- A byte below `0x80` is a character of its own. -/
theorem utf8EncodeChar_of_ascii {c : Char} {b : UInt8} (hb : b ∈ String.utf8EncodeChar c)
    (hascii : b.toNat < 0x80) : String.utf8EncodeChar c = [b] ∧ c.toNat = b.toNat := by
  have hval : c.toNat = c.val.toNat := rfl
  unfold String.utf8EncodeChar at hb ⊢
  simp only at hb ⊢
  by_cases hone : c.val.toNat ≤ 0x7f
  · rw [if_pos hone, List.mem_singleton] at hb
    rw [if_pos hone, hb, UInt8.toNat_ofNat', hval]
    exact ⟨rfl, by omega⟩
  -- in a longer encoding every byte has its high bit set
  · exfalso
    rw [if_neg hone] at hb
    split at hb
    · simp only [List.mem_cons, List.not_mem_nil, or_false] at hb
      rcases hb with rfl | rfl <;> rw [UInt8.toNat_ofNat'] at hascii <;> omega
    · split at hb
      · simp only [List.mem_cons, List.not_mem_nil, or_false] at hb
        rcases hb with rfl | rfl | rfl <;> rw [UInt8.toNat_ofNat'] at hascii <;> omega
      · simp only [List.mem_cons, List.not_mem_nil, or_false] at hb
        rcases hb with rfl | rfl | rfl | rfl <;> rw [UInt8.toNat_ofNat'] at hascii <;> omega

/-- An ASCII character is one byte. -/
theorem utf8EncodeChar_ascii {c : Char} (h : c.toNat < 0x80) :
    String.utf8EncodeChar c = [UInt8.ofNat c.toNat] := by
  have hval : c.val.toNat ≤ 0x7f := Nat.le_of_lt_succ h
  unfold String.utf8EncodeChar
  simp only
  rw [if_pos hval]
  rfl

/-- An ASCII character is in a text iff its byte is. -/
theorem mem_utf8_iff {c : Char} (hc : c.toNat < 0x80) {s : String} :
    UInt8.ofNat c.toNat ∈ utf8 s ↔ c ∈ s.toList := by
  have hbyte : (UInt8.ofNat c.toNat).toNat = c.toNat := by
    rw [UInt8.toNat_ofNat']
    omega
  rw [utf8, List.mem_flatMap]
  constructor
  · rintro ⟨d, hd, hmem⟩
    have hsame := (utf8EncodeChar_of_ascii hmem (by omega)).2
    rw [hbyte] at hsame
    rw [← Char.toNat_inj.mp hsame]
    exact hd
  · intro hmem
    refine ⟨c, hmem, ?_⟩
    rw [utf8EncodeChar_ascii hc]
    exact List.mem_cons_self

/-- Bytes that end in ASCII text decode to a text that ends in it. By induction from the end: the
last byte is below `0x80`, so it is no part of a longer character and is the last character of the
text. -/
theorem eq_append_of_ascii {ts es : List Char} {bytes : List UInt8}
    (hes : ∀ c ∈ es, c.toNat < 0x80)
    (h : ts.flatMap String.utf8EncodeChar = bytes ++ es.flatMap String.utf8EncodeChar) :
    ∃ cs, ts = cs ++ es ∧ cs.flatMap String.utf8EncodeChar = bytes := by
  induction es using List.reverseRecOn generalizing ts with
  | nil => exact ⟨ts, by simp, by simpa using h⟩
  | append_singleton es c ih =>
      have hc : c.toNat < 0x80 := hes c (by simp)
      rw [List.flatMap_append, List.flatMap_singleton, utf8EncodeChar_ascii hc,
        ← List.append_assoc] at h
      cases ts using List.reverseRecOn with
      | nil => simp at h
      | append_singleton ts d _ =>
          rw [List.flatMap_append, List.flatMap_singleton] at h
          obtain ⟨front, last, hd⟩ : ∃ front last, String.utf8EncodeChar d = front ++ [last] :=
            (List.eq_nil_or_concat' _).resolve_left String.utf8EncodeChar_ne_nil
          rw [hd, ← List.append_assoc] at h
          have hlast := List.append_inj_right' h rfl
          have hfront := List.append_inj_left' h rfl
          rw [List.singleton_inj] at hlast
          have hascii : last.toNat < 0x80 := by
            rw [hlast, UInt8.toNat_ofNat']
            omega
          obtain ⟨hsingle, hnat⟩ := utf8EncodeChar_of_ascii (c := d) (b := last) (by simp [hd]) hascii
          have hsame : d = c := by
            apply Char.toNat_inj.mp
            rw [hnat, hlast, UInt8.toNat_ofNat']
            omega
          rw [hd] at hsingle
          have hnil : front = [] := by simpa using hsingle
          rw [hnil, List.append_nil] at hfront
          obtain ⟨cs, hcs, hbytes⟩ := ih (fun x hx => hes x (by simp [hx])) hfront
          exact ⟨cs, by rw [hcs, hsame, List.append_assoc], hbytes⟩

/-- A name with an ASCII ending is text iff it is without the ending. -/
theorem from_utf8_append_ascii {bytes : List UInt8} {e t : String}
    (he : ∀ c ∈ e.toList, c.toNat < 0x80) :
    from_utf8 (bytes ++ utf8 e) = some t ↔ ∃ s, from_utf8 bytes = some s ∧ t = s ++ e := by
  simp only [from_utf8_eq_some]
  constructor
  · intro h
    obtain ⟨cs, hcs, hbytes⟩ := eq_append_of_ascii he h
    refine ⟨String.ofList cs, ?_, ?_⟩
    · rw [utf8, String.toList_ofList, hbytes]
    · rw [← String.ofList_toList (s := t), hcs, String.ofList_append, String.ofList_toList]
  · rintro ⟨s, rfl, rfl⟩
    exact utf8_append s e

/-! ## UTF-16 -/

/-- The UTF-16 code units of a character. -/
def utf16_char (c : Char) : List UInt16 :=
  if c.toNat < 0x10000 then [.ofNat c.toNat]
  else [.ofNat (0xd800 + (c.toNat - 0x10000) / 0x400),
    .ofNat (0xdc00 + (c.toNat - 0x10000) % 0x400)]

/-- A text as JavaScript holds it. -/
def utf16 (s : String) : List UInt16 := s.toList.flatMap utf16_char

/-- Only the empty text has no code units. -/
@[simp] theorem utf16_eq_nil {s : String} : utf16 s = [] ↔ s = "" := by
  have hne : ∀ c, utf16_char c ≠ [] := by
    intro c
    rw [utf16_char]
    split <;> simp
  rw [utf16, List.flatMap_eq_nil_iff, ← String.toList_eq_nil_iff]
  constructor
  · intro h
    cases hs : s.toList with
    | nil => rfl
    | cons c cs => exact absurd (h c (by simp [hs])) (hne c)
  · intro h
    simp [h]

/-- The characters code units stand for, or none where a surrogate has no partner. -/
def from_utf16 : List UInt16 → Option (List Char)
  | [] => some []
  | u :: us =>
      if u.toNat < 0xd800 ∨ 0xe000 ≤ u.toNat then
        (from_utf16 us).map (Char.ofNat u.toNat :: ·)
      else match us with
      | [] => none
      | v :: vs =>
          if u.toNat < 0xdc00 ∧ 0xdc00 ≤ v.toNat ∧ v.toNat < 0xe000 then
            (from_utf16 vs).map
              (Char.ofNat (0x10000 + (u.toNat - 0xd800) * 0x400 + (v.toNat - 0xdc00)) :: ·)
          else none

theorem toNat_ofNat {n : ℕ} (h : n.isValidChar) : (Char.ofNat n).toNat = n := by
  rw [Char.ofNat, dif_pos h]
  rfl

/-- A unit that is no surrogate is the encoding of its character. -/
theorem utf16_char_unit {u : UInt16} (h : u.toNat < 0xd800 ∨ 0xe000 ≤ u.toNat) :
    utf16_char (Char.ofNat u.toNat) = [u] := by
  have hu := u.toNat_lt
  have hvalid : u.toNat.isValidChar := by
    rcases h with h | h
    · exact Or.inl h
    · exact Or.inr ⟨by omega, by omega⟩
  rw [utf16_char, toNat_ofNat hvalid, if_pos hu, UInt16.ofNat_toNat]

/-- A pair of surrogates is the encoding of its character. -/
theorem utf16_char_pair {u v : UInt16} (hu : 0xd800 ≤ u.toNat ∧ u.toNat < 0xdc00)
    (hv : 0xdc00 ≤ v.toNat ∧ v.toNat < 0xe000) :
    utf16_char (Char.ofNat (0x10000 + (u.toNat - 0xd800) * 0x400 + (v.toNat - 0xdc00)))
      = [u, v] := by
  have hvalid : (0x10000 + (u.toNat - 0xd800) * 0x400 + (v.toNat - 0xdc00)).isValidChar :=
    Or.inr ⟨by omega, by omega⟩
  have hhigh : 0xd800 + (0x10000 + (u.toNat - 0xd800) * 0x400 + (v.toNat - 0xdc00) - 0x10000)
      / 0x400 = u.toNat := by omega
  have hlow : 0xdc00 + (0x10000 + (u.toNat - 0xd800) * 0x400 + (v.toNat - 0xdc00) - 0x10000)
      % 0x400 = v.toNat := by omega
  rw [utf16_char, toNat_ofNat hvalid, if_neg (by omega), hhigh, hlow, UInt16.ofNat_toNat,
    UInt16.ofNat_toNat]

/-- What is read is what the units were written from. The reader's own recursion gives the cases:
a unit outside the surrogates, a pair of them, and the units that are refused. -/
theorem utf16_of_from_utf16 {units : List UInt16} {cs : List Char}
    (h : from_utf16 units = some cs) : cs.flatMap utf16_char = units := by
  induction units using from_utf16.induct generalizing cs with
  | case1 =>
      cases h
      rfl
  | case2 u us hunit ih =>
      rw [from_utf16.eq_def] at h
      simp only [if_pos hunit] at h
      obtain ⟨rest, hrest, rfl⟩ := Option.map_eq_some_iff.mp h
      rw [List.flatMap_cons, utf16_char_unit hunit, ih hrest]
      rfl
  | case3 u hunit =>
      rw [from_utf16.eq_def] at h
      simp only [if_neg hunit] at h
      cases h
  | case4 u hunit v vs hpair ih =>
      rw [from_utf16.eq_def] at h
      simp only [if_neg hunit, if_pos hpair] at h
      obtain ⟨rest, hrest, rfl⟩ := Option.map_eq_some_iff.mp h
      rw [not_or, Nat.not_lt] at hunit
      rw [List.flatMap_cons, utf16_char_pair ⟨hunit.1, hpair.1⟩ hpair.2, ih hrest]
      rfl
  | case5 u hunit v vs hpair =>
      rw [from_utf16.eq_def] at h
      simp only [if_neg hunit, if_neg hpair] at h
      cases h

/-- Every text is read back. A character of the basic plane is one unit that is no surrogate, and
any other is a pair that gives its number again. -/
theorem from_utf16_flatMap (cs : List Char) : from_utf16 (cs.flatMap utf16_char) = some cs := by
  induction cs with
  | nil => rfl
  | cons c cs ih =>
      rw [List.flatMap_cons, utf16_char]
      split
      · rename_i hlow
        have hnat : (UInt16.ofNat c.toNat).toNat = c.toNat := UInt16.toNat_ofNat_of_lt' hlow
        have hunit : c.toNat < 0xd800 ∨ 0xe000 ≤ c.toNat := by
          rcases c.valid with h | h
          · exact Or.inl h
          · exact Or.inr h.1
        rw [List.singleton_append, from_utf16.eq_def]
        simp only [hnat, if_pos hunit, ih, Option.map_some, Char.ofNat_toNat]
      · rename_i hhigh
        have hvalid : c.toNat < 0x110000 := by
          rcases c.valid with h | h
          · exact Nat.lt_trans h (by decide)
          · exact h.2
        have hu : (UInt16.ofNat (0xd800 + (c.toNat - 0x10000) / 0x400)).toNat
            = 0xd800 + (c.toNat - 0x10000) / 0x400 := UInt16.toNat_ofNat_of_lt' (by
          show _ < 65536
          omega)
        have hv : (UInt16.ofNat (0xdc00 + (c.toNat - 0x10000) % 0x400)).toNat
            = 0xdc00 + (c.toNat - 0x10000) % 0x400 := UInt16.toNat_ofNat_of_lt' (by
          show _ < 65536
          omega)
        have hback : 0x10000 + (0xd800 + (c.toNat - 0x10000) / 0x400 - 0xd800) * 0x400
            + (0xdc00 + (c.toNat - 0x10000) % 0x400 - 0xdc00) = c.toNat := by omega
        rw [List.cons_append, List.singleton_append, from_utf16.eq_def]
        simp only [hu, hv]
        rw [if_neg (by omega), if_pos (by omega), hback, ih, Option.map_some, Char.ofNat_toNat]

/-- A text is its code units. -/
theorem utf16_injective {s t : String} (h : utf16 s = utf16 t) : s = t := by
  have hread := from_utf16_flatMap s.toList
  unfold utf16 at h
  rw [h, from_utf16_flatMap, Option.some.injEq] at hread
  exact (String.toList_inj.mp hread).symm

/-! ## White space -/

/-- `char::is_whitespace`: the Unicode property `White_Space`. -/
def is_whitespace (c : Char) : Bool :=
  let n := c.toNat
  (0x09 ≤ n && n ≤ 0x0d) || n == 0x20 || n == 0x85 || n == 0xa0 || n == 0x1680
    || (0x2000 ≤ n && n ≤ 0x200a) || n == 0x2028 || n == 0x2029 || n == 0x202f || n == 0x205f
    || n == 0x3000

/-- `str::trim`, on the characters of a text. -/
def trim_chars (cs : List Char) : List Char :=
  ((cs.dropWhile is_whitespace).reverse.dropWhile is_whitespace).reverse

/-- `str::trim`. -/
def trim (s : String) : String := String.ofList (trim_chars s.toList)

/-- Nothing is dropped if the first one already stays. -/
theorem dropWhile_eq_self_iff {p : Char → Bool} {cs : List Char} :
    cs.dropWhile p = cs ↔ ∀ c ∈ cs.head?, p c = false := by
  cases cs with
  | nil => simp
  | cons c cs =>
      simp only [List.head?_cons, Option.mem_def, Option.some.injEq, forall_eq']
      by_cases hp : p c = true
      · rw [List.dropWhile_cons_of_pos hp]
        refine iff_of_false ?_ (by simp [hp])
        intro heq
        have hle := (List.dropWhile_sublist p (l := cs)).length_le
        rw [heq, List.length_cons] at hle
        omega
      · rw [List.dropWhile_cons_of_neg hp]
        exact iff_of_true rfl (Bool.eq_false_iff.mpr hp)

/-- A text is trimmed iff neither of its ends is white space. -/
theorem trim_chars_eq_self_iff {cs : List Char} :
    trim_chars cs = cs
      ↔ (∀ c ∈ cs.head?, is_whitespace c = false) ∧ ∀ c ∈ cs.getLast?, is_whitespace c = false := by
  rw [trim_chars, List.reverse_eq_iff, ← List.head?_reverse, ← dropWhile_eq_self_iff,
    ← dropWhile_eq_self_iff]
  constructor
  · intro h
    -- neither of the two passes can drop anything
    have hlen : cs.length ≤ (cs.dropWhile is_whitespace).length := by
      have hle := (List.dropWhile_sublist is_whitespace
        (l := (cs.dropWhile is_whitespace).reverse)).length_le
      rwa [h, List.length_reverse, List.length_reverse] at hle
    have hfirst : cs.dropWhile is_whitespace = cs :=
      (List.dropWhile_sublist is_whitespace).eq_of_length_le hlen
    rw [hfirst] at h
    exact ⟨hfirst, h⟩
  · rintro ⟨hfirst, hlast⟩
    rw [hfirst, hlast]

/-- A text without white space is left as it is. -/
theorem trim_chars_of_forall {cs : List Char} (h : ∀ c ∈ cs, is_whitespace c = false) :
    trim_chars cs = cs := by
  rw [trim_chars_eq_self_iff]
  constructor
  · intro c hc
    exact h c (List.mem_of_mem_head? hc)
  · intro c hc
    exact h c (List.mem_of_mem_getLast? hc)

/-- Trimming twice is trimming once. -/
@[simp] theorem trim_chars_trim_chars (cs : List Char) :
    trim_chars (trim_chars cs) = trim_chars cs := by
  have hdrop : ∀ ds : List Char,
      ∀ c ∈ (ds.dropWhile is_whitespace).head?, is_whitespace c = false := by
    intro ds c hc
    have hhead := List.head?_dropWhile_not is_whitespace ds
    rw [Option.mem_def.mp hc] at hhead
    exact hhead
  rw [trim_chars_eq_self_iff]
  constructor
  · intro c hc
    -- what is left is in front of what the first pass left
    obtain ⟨rest, hcons⟩ := List.head?_eq_some_iff.mp hc
    apply hdrop cs c
    have hfront : cs.dropWhile is_whitespace
        = trim_chars cs ++ ((cs.dropWhile is_whitespace).reverse.takeWhile is_whitespace).reverse := by
      rw [trim_chars, ← List.reverse_append, List.takeWhile_append_dropWhile, List.reverse_reverse]
    rw [hfront, hcons]
    rfl
  · intro c hc
    rw [trim_chars, List.getLast?_reverse] at hc
    exact hdrop _ c hc

/-- White space behind a trimmed text is trimmed. -/
theorem trim_chars_append {cs ws : List Char} (hne : cs ≠ []) (h : trim_chars cs = cs)
    (hws : ∀ c ∈ ws, is_whitespace c = true) : trim_chars (cs ++ ws) = cs := by
  obtain ⟨hfirst, hlast⟩ := trim_chars_eq_self_iff.mp h
  have hfront : (cs ++ ws).dropWhile is_whitespace = cs ++ ws := by
    rw [dropWhile_eq_self_iff, List.head?_append_of_ne_nil cs hne]
    exact hfirst
  have hback : cs.reverse.dropWhile is_whitespace = cs.reverse := by
    rw [dropWhile_eq_self_iff, List.head?_reverse]
    exact hlast
  have hreverse : ∀ c ∈ ws.reverse, is_whitespace c = true :=
    fun c hc => hws c (List.mem_reverse.mp hc)
  rw [trim_chars, hfront, List.reverse_append, List.dropWhile_append_of_pos hreverse, hback,
    List.reverse_reverse]

/-- A text is its trimmed form between white space. -/
theorem eq_append_trim_chars (cs : List Char) :
    ∃ front back, cs = front ++ (trim_chars cs ++ back)
      ∧ (∀ c ∈ front, is_whitespace c = true) ∧ ∀ c ∈ back, is_whitespace c = true := by
  refine ⟨cs.takeWhile is_whitespace,
    (((cs.dropWhile is_whitespace).reverse).takeWhile is_whitespace).reverse, ?_, ?_, ?_⟩
  · rw [trim_chars, ← List.reverse_append, List.takeWhile_append_dropWhile, List.reverse_reverse,
      List.takeWhile_append_dropWhile]
  · exact List.all_eq_true.mp List.all_takeWhile
  · exact fun c hc => List.all_eq_true.mp List.all_takeWhile c (List.mem_reverse.mp hc)

/-- How many characters of a text are not white space. -/
def visible (cs : List Char) : ℕ := cs.countP fun c => !is_whitespace c

theorem visible_append (cs ds : List Char) : visible (cs ++ ds) = visible cs + visible ds :=
  List.countP_append

/-- White space in front is not visible. -/
theorem visible_dropWhile (cs : List Char) : visible (cs.dropWhile is_whitespace) = visible cs := by
  induction cs with
  | nil => rfl
  | cons c cs ih =>
      by_cases hc : is_whitespace c = true
      · rw [List.dropWhile_cons_of_pos hc, ih, visible, visible,
          List.countP_cons_of_neg (by simp [hc])]
      · rw [List.dropWhile_cons_of_neg hc]

/-- Trimming leaves what is visible. -/
theorem visible_trim_chars (cs : List Char) : visible (trim_chars cs) = visible cs := by
  have hreverse : ∀ ds : List Char, visible ds.reverse = visible ds :=
    fun ds => List.countP_reverse
  rw [trim_chars, hreverse, visible_dropWhile, hreverse, visible_dropWhile]

/-! ## Case -/

/-- `str::eq_ignore_ascii_case`. -/
def eq_ignore_ascii_case (a b : List Char) : Bool := a.map Char.toLower == b.map Char.toLower

/-! ## Splitting -/

/-- `str::split_once`: what stands before and after the first occurrence. -/
def split_once (pattern : List Char) : List Char → Option (List Char × List Char)
  | [] => if pattern.isEmpty then some ([], []) else none
  | c :: cs =>
    if pattern.isPrefixOf (c :: cs) then some ([], (c :: cs).drop pattern.length)
    else (split_once pattern cs).map fun parts => (c :: parts.1, parts.2)

/-- `str::split` at a pattern that is not empty; a text has no more occurrences of it
than characters. -/
def split (pattern cs : List Char) : List (List Char) := go cs.length cs
where
  go : ℕ → List Char → List (List Char)
    | 0, cs => [cs]
    | n + 1, cs =>
      match split_once pattern cs with
      | none => [cs]
      | some (before, after) => before :: go n after

/-- A text that is split is put together again from its two halves and what was between them. By
induction on the text, up to the first place where the pattern stands. -/
theorem eq_append_of_split_once {pattern cs before after : List Char}
    (h : split_once pattern cs = some (before, after)) : cs = before ++ (pattern ++ after) := by
  induction cs generalizing before with
  | nil =>
      rw [split_once] at h
      split at h
      · rename_i hempty
        cases h
        rw [List.isEmpty_iff.mp hempty]
        rfl
      · cases h
  | cons c cs ih =>
      rw [split_once] at h
      split at h
      · rename_i hprefix
        obtain ⟨rest, hrest⟩ := List.isPrefixOf_iff_prefix.mp hprefix
        cases h
        rw [← hrest, List.drop_left, List.nil_append]
      · obtain ⟨⟨before', after'⟩, hparts, heq⟩ := Option.map_eq_some_iff.mp h
        cases heq
        rw [List.cons_append, ← ih hparts]

/-- The fuel of `split` does not matter once it is enough: each turn takes a character or the
pattern off the text, so as much fuel as the text is long always suffices. -/
theorem split_go_eq {pattern : List Char} (hne : pattern ≠ []) {n m : ℕ} {cs : List Char}
    (hn : cs.length ≤ n) (hm : cs.length ≤ m) : split.go pattern n cs = split.go pattern m cs := by
  have hpos : 0 < pattern.length := List.length_pos_of_ne_nil hne
  -- after a split, what is left is shorter
  have hstep : ∀ (k : ℕ) (cs : List Char), cs.length ≤ k + 1 → split.go pattern (k + 1) cs
      = match split_once pattern cs with
        | none => [cs]
        | some (before, after) => before :: split.go pattern k after := fun _ _ _ => rfl
  have hempty : split_once pattern [] = none := by
    rw [split_once, if_neg (by rwa [List.isEmpty_iff])]
  induction n generalizing m cs with
  | zero =>
      have hcs : cs = [] := List.length_eq_zero_iff.mp (Nat.le_zero.mp hn)
      subst hcs
      cases m with
      | zero => rfl
      | succ m => rw [hstep m [] hm, hempty]; rfl
  | succ n ih =>
      cases m with
      | zero =>
          have hcs : cs = [] := List.length_eq_zero_iff.mp (Nat.le_zero.mp hm)
          subst hcs
          rw [hstep n [] hn, hempty]
          rfl
      | succ m =>
          rw [hstep n cs hn, hstep m cs hm]
          cases hsplit : split_once pattern cs with
          | none => rfl
          | some parts =>
              have hlen := congrArg List.length (eq_append_of_split_once hsplit)
              rw [List.length_append, List.length_append] at hlen
              show parts.1 :: split.go pattern n parts.2 = parts.1 :: split.go pattern m parts.2
              have hshort : parts.2.length ≤ n ∧ parts.2.length ≤ m := by omega
              rw [ih hshort.1 hshort.2]

/-- `split`, one split after the other. -/
theorem split_eq {pattern : List Char} (hne : pattern ≠ []) (cs : List Char) :
    split pattern cs = match split_once pattern cs with
      | none => [cs]
      | some (before, after) => before :: split pattern after := by
  have hpos : 0 < pattern.length := List.length_pos_of_ne_nil hne
  rw [split, split_go_eq hne (Nat.le_refl _) (Nat.le_succ cs.length)]
  show (match split_once pattern cs with
    | none => [cs]
    | some (before, after) => before :: split.go pattern cs.length after) = _
  cases hsplit : split_once pattern cs with
  | none => rfl
  | some parts =>
      have hlen := congrArg List.length (eq_append_of_split_once hsplit)
      rw [List.length_append, List.length_append] at hlen
      show parts.1 :: split.go pattern cs.length parts.2 = parts.1 :: split pattern parts.2
      rw [split, split_go_eq hne (by omega) (Nat.le_refl _)]

/-- A character in front that no occurrence starts with. -/
theorem split_cons_of_no_match {pattern : List Char} (hne : pattern ≠ []) {c : Char}
    {cs : List Char} (h : pattern.isPrefixOf (c :: cs) = false) :
    split pattern (c :: cs) = (split pattern cs).modifyHead (c :: ·) := by
  rw [split_eq hne, split_eq hne cs, split_once, if_neg (Bool.eq_false_iff.mp h)]
  cases split_once pattern cs with
  | none => rfl
  | some parts => rfl

/-- Text in front without the first character of the pattern belongs to the first piece. No match
can begin in it, so it is gone through character by character. -/
theorem split_append_of_not_mem {d : Char} {pattern cs : List Char} (h : d ∉ cs)
    (rest : List Char) :
    split (d :: pattern) (cs ++ rest) = (split (d :: pattern) rest).modifyHead (cs ++ ·) := by
  induction cs with
  | nil =>
      rw [List.nil_append]
      cases split (d :: pattern) rest with
      | nil => rfl
      | cons first rest => rfl
  | cons c cs ih =>
      rw [List.mem_cons, not_or] at h
      have hfirst : (d :: pattern).isPrefixOf (c :: (cs ++ rest)) = false := by
        rw [List.isPrefixOf, beq_false_of_ne h.1, Bool.false_and]
      rw [List.cons_append, split_cons_of_no_match (List.cons_ne_nil _ _) hfirst, ih h.2]
      cases split (d :: pattern) rest with
      | nil => rfl
      | cons first rest => rfl

/-- The pattern in front. -/
theorem split_append_self {pattern : List Char} (hne : pattern ≠ []) (rest : List Char) :
    split pattern (pattern ++ rest) = [] :: split pattern rest := by
  have hprefix : pattern.isPrefixOf (pattern ++ rest) = true :=
    List.isPrefixOf_iff_prefix.mpr (List.prefix_append _ _)
  rw [split_eq hne]
  obtain ⟨c, cs, rfl⟩ := List.exists_cons_of_ne_nil hne
  rw [List.cons_append] at hprefix ⊢
  rw [split_once, if_pos hprefix, ← List.cons_append, List.drop_left]

/-- A character of a joined text is the separator or one of a piece. -/
theorem not_mem_intercalate {d sep : Char} (hsep : d ≠ sep) {pieces : List (List Char)}
    (h : ∀ cs ∈ pieces, d ∉ cs) : d ∉ [sep].intercalate pieces := by
  induction pieces with
  | nil => exact List.not_mem_nil
  | cons cs rest ih =>
      have hhead := h cs List.mem_cons_self
      have htail := ih fun cs' hcs' => h cs' (List.mem_cons_of_mem _ hcs')
      cases rest with
      | nil => rwa [List.intercalate_singleton]
      | cons cs' rest =>
          rw [List.intercalate_cons_cons, List.mem_append, List.mem_append, not_or, not_or,
            List.mem_singleton]
          exact ⟨⟨hhead, hsep⟩, htail⟩

/-- Texts without the separator are known from what they are joined to. -/
theorem intercalate_inj {sep : Char} {xs ys : List String} (hxs : xs ≠ []) (hys : ys ≠ [])
    (hx : ∀ x ∈ xs, sep ∉ x.toList) (hy : ∀ y ∈ ys, sep ∉ y.toList)
    (h : (String.singleton sep).intercalate xs = (String.singleton sep).intercalate ys) :
    xs = ys := by
  have hlists := congrArg String.toList h
  rw [String.toList_intercalate, String.toList_intercalate, String.toList_singleton] at hlists
  have hsplit : ∀ {zs : List String}, zs ≠ [] → (∀ z ∈ zs, sep ∉ z.toList) →
      ([sep].intercalate (zs.map String.toList)).splitOn sep = zs.map String.toList := by
    intro zs hzs hz
    apply List.splitOn_intercalate
    · intro l hl
      obtain ⟨z, hmem, rfl⟩ := List.mem_map.mp hl
      exact hz z hmem
    · simpa using hzs
  have hmap : xs.map String.toList = ys.map String.toList := by
    rw [← hsplit hxs hx, hlists, hsplit hys hy]
  exact List.map_injective_iff.mpr (fun a b hab => String.toList_inj.mp hab) hmap

/-- `str::rsplit_once` at a character: before and after its last occurrence. -/
def rsplit_once (sep : Char) : List Char → Option (List Char × List Char)
  | [] => none
  | c :: cs =>
    match rsplit_once sep cs with
    | some (before, after) => some (c :: before, after)
    | none => if c = sep then some ([], cs) else none

/-- A text is not split at a character it has not. -/
theorem rsplit_once_eq_none {sep : Char} {cs : List Char} (h : sep ∉ cs) :
    rsplit_once sep cs = none := by
  induction cs with
  | nil => rfl
  | cons c cs ih =>
      rw [List.mem_cons, not_or] at h
      rw [rsplit_once, ih h.2]
      exact if_neg (Ne.symm h.1)

/-- A text is split at the last of its separators. -/
theorem rsplit_once_append {sep : Char} (before : List Char) {after : List Char} (h : sep ∉ after) :
    rsplit_once sep (before ++ sep :: after) = some (before, after) := by
  induction before with
  | nil =>
      rw [List.nil_append, rsplit_once, rsplit_once_eq_none h]
      exact if_pos rfl
  | cons c before ih => rw [List.cons_append, rsplit_once, ih]

/-- The same for the split from the right, at one character. -/
theorem eq_append_of_rsplit_once {sep : Char} {cs before after : List Char}
    (h : rsplit_once sep cs = some (before, after)) : cs = before ++ sep :: after := by
  induction cs generalizing before with
  | nil => cases h
  | cons c cs ih =>
      rw [rsplit_once] at h
      cases hrest : rsplit_once sep cs with
      | some parts =>
          simp only [hrest, Option.some.injEq, Prod.mk.injEq] at h
          obtain ⟨rfl, rfl⟩ := h
          rw [List.cons_append, ← ih hrest]
      | none =>
          simp only [hrest] at h
          by_cases hc : c = sep
          · rw [if_pos hc] at h
            cases h
            rw [hc, List.nil_append]
          · rw [if_neg hc] at h
            cases h

/-- `str::trim_start_matches` at a character. -/
def trim_start_matches (c : Char) (cs : List Char) : List Char := cs.dropWhile (· == c)

/-- `str::trim_end_matches` at a character. -/
def trim_end_matches (c : Char) (cs : List Char) : List Char :=
  (cs.reverse.dropWhile (· == c)).reverse

/-- A text that does not begin with the character is left as it is. -/
theorem trim_start_matches_of_head {c : Char} {cs : List Char} (h : cs.head? ≠ some c) :
    trim_start_matches c cs = cs := by
  cases cs with
  | nil => rfl
  | cons d cs =>
      have hne : d ≠ c := by simpa using h
      simp [trim_start_matches, hne]

/-- So is one without it. -/
theorem trim_end_matches_of_not_mem {c : Char} {cs : List Char} (h : c ∉ cs) :
    trim_end_matches c cs = cs := by
  have hhead : cs.reverse.head? ≠ some c := by
    intro hc
    exact h (List.mem_reverse.mp (List.mem_of_head? hc))
  rw [trim_end_matches, ← trim_start_matches, trim_start_matches_of_head hhead, List.reverse_reverse]

theorem trim_end_matches_concat {c : Char} {cs : List Char} (h : c ∉ cs) :
    trim_end_matches c (cs ++ [c]) = cs := by
  rw [trim_end_matches, List.reverse_append, List.reverse_singleton, List.singleton_append,
    List.dropWhile_cons_of_pos (by simp), ← trim_end_matches, trim_end_matches_of_not_mem h]

end Text
