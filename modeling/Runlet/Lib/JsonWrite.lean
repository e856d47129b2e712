/-
Writing JSON texts without spaces.

An array and an object are written from the texts of what is in them. Read back, they are the array
and the object of what these texts are (`parse_write_array`, `parse_write_object`), whoever wrote
them; and a text of this kind is on one line if its parts are (`oneLine_write_object`).
-/
import Runlet.Lib.Digits
import Runlet.Lib.JsonText
import Runlet.Lib.Lines

set_option autoImplicit false

namespace JsonText

open Text

/-! ## Containers -/

/-- Items with a comma between them. -/
def write_items : List String → String
  | [] => ""
  | [item] => item
  | item :: rest => item ++ "," ++ write_items rest

theorem write_items_cons (item item' : String) (rest : List String) :
    write_items (item :: item' :: rest) = item ++ "," ++ write_items (item' :: rest) := rfl

def write_array (items : List String) : String := "[" ++ write_items items ++ "]"

def write_member (member : String × String) : String := quote member.1 ++ ":" ++ member.2

def write_object (members : List (String × String)) : String :=
  "\x7b" ++ write_items (members.map write_member) ++ "\x7d"

theorem utf16_append (s t : String) : utf16 (s ++ t) = utf16 s ++ utf16 t := by
  rw [utf16, utf16, utf16, String.toList_append, List.flatMap_append]

/-! ## Reading them back -/

/-- A text that is a document begins where a value is due, also behind `[`. The two modes differ
in one thing only: behind `[` the array may end, and no document begins with `]`. -/
theorem run_first_item {text : List UInt16} {st : State} {base : List Frame}
    (h : run ⟨.value, base⟩ text = some st) (hvalue : st.mode.value?.isSome) :
    run ⟨.first_item, base⟩ text = some st := by
  induction text with
  | nil =>
      cases h
      cases hvalue
  | cons u us ih =>
      rw [run] at h ⊢
      have hopen : glyph u = ']' → open_value u = none := by
        intro hu
        unfold open_value
        rw [hu]
        rfl
      unfold State.step at h ⊢
      simp only at h ⊢
      by_cases hspace : is_space (glyph u) = true
      · rw [if_pos hspace, Option.bind_some] at h ⊢
        exact ih h
      · rw [if_neg hspace] at h ⊢
        by_cases hu : glyph u = ']'
        · rw [hopen hu] at h
          cases h
        · rw [if_neg hu]
          exact h

/-- A document, then a comma: the next item is due. -/
theorem run_item {text : List UInt16} {v : Tree} (h : parse text = some v) (items : List Tree)
    (rest : List Frame) :
    run ⟨.value, .array items :: rest⟩ (text ++ [0x2c])
      = some ⟨.value, .array (items ++ [v]) :: rest⟩ := by
  obtain ⟨mode, hrun, hvalue⟩ := run_value h (.array items :: rest)
  rw [run_append_of hrun, run, step_separator hvalue _ (Or.inl rfl)]
  rfl

/-- A document, then the end of the array. -/
theorem run_last_item {text : List UInt16} {v : Tree} (h : parse text = some v) (items : List Tree)
    (rest : List Frame) :
    run ⟨.value, .array items :: rest⟩ (text ++ [0x5d])
      = some ⟨.done (.array (items ++ [v])), rest⟩ := by
  obtain ⟨mode, hrun, hvalue⟩ := run_value h (.array items :: rest)
  rw [run_append_of hrun, run, step_separator hvalue _ (Or.inr (Or.inl rfl))]
  rfl

/-- The texts are these documents. -/
def Are (texts : List String) (vs : List Tree) : Prop :=
  List.Forall₂ (fun text v => parse (utf16 text) = some v) texts vs

/-- The items of an array are read in turn, up to the bracket that closes it. By induction on the
items, each read above the array that has the ones before it. -/
theorem run_items {texts : List String} {vs : List Tree} (h : Are texts vs) (hne : texts ≠ [])
    (items : List Tree) (rest : List Frame) :
    run ⟨.value, .array items :: rest⟩ (utf16 (write_items texts) ++ [0x5d])
      = some ⟨.done (.array (items ++ vs)), rest⟩ := by
  induction h generalizing items with
  | nil => exact absurd rfl hne
  | @cons text v texts vs hv hvs ih =>
      cases texts with
      | nil =>
          cases hvs
          exact run_last_item hv items rest
      | cons text' texts =>
          have hunits : utf16 (write_items (text :: text' :: texts)) ++ [0x5d]
              = (utf16 text ++ [0x2c]) ++ (utf16 (write_items (text' :: texts)) ++ [0x5d]) := by
            rw [write_items_cons, utf16_append, utf16_append, List.append_assoc]
            rfl
          rw [hunits, run_append_of (run_item hv items rest), ih (by simp), List.append_assoc]
          rfl

/-- **An array reads back.** -/
theorem parse_write_array {texts : List String} {vs : List Tree} (h : Are texts vs) :
    parse (utf16 (write_array texts)) = some (.array vs) := by
  have hopen : run init [0x5b] = some ⟨.first_item, [.array []]⟩ := rfl
  have hunits : utf16 (write_array texts)
      = [0x5b] ++ (utf16 (write_items texts) ++ [0x5d]) := by
    rw [write_array, utf16_append, utf16_append, List.append_assoc]
    rfl
  rw [hunits, parse, run_append_of hopen]
  cases h with
  | nil => rfl
  | cons hv hvs =>
      rw [run_first_item (run_items (List.Forall₂.cons hv hvs) (by simp) [] []) rfl]
      rfl

/-- The members are these. -/
def AreMembers (members : List (String × String)) (vs : List (List UInt16 × Tree)) : Prop :=
  List.Forall₂ (fun member v => utf16 member.1 = v.1 ∧ parse (utf16 member.2) = some v.2) members vs

/-- A name and its colon, from the quote on. -/
theorem run_name (name : String) {mode : Mode} (hmode : mode = .first_name ∨ mode = .name)
    (members : List (List UInt16 × Tree)) (rest : List Frame) :
    run ⟨mode, .object members :: rest⟩ (utf16 (quote name ++ ":"))
      = some ⟨.value, .member members (utf16 name) :: rest⟩ := by
  have hquote : utf16 (quote name ++ ":")
      = [0x22] ++ (units (escape name.toList) ++ [0x22, 0x3a]) := by
    rw [utf16_append, quote, utf16_ofList, units, List.flatMap_cons, List.flatMap_append,
      List.append_assoc, List.append_assoc]
    rfl
  have hopen : run ⟨mode, .object members :: rest⟩ [0x22]
      = some ⟨.string true [] .plain, .object members :: rest⟩ := by
    rcases hmode with rfl | rfl
    · rfl
    · rfl
  rw [hquote, run_append_of hopen, run_append_of (run_escape _ _ _ _), List.nil_append, utf16]
  rfl

/-- So are the members of an object, with their names. By induction on the members; the name of
each waits on the stack until its value is read. -/
theorem run_members {members : List (String × String)} {vs : List (List UInt16 × Tree)}
    (h : AreMembers members vs) (hne : members ≠ []) {mode : Mode}
    (hmode : mode = .first_name ∨ mode = .name) (before : List (List UInt16 × Tree))
    (rest : List Frame) :
    run ⟨mode, .object before :: rest⟩
        (utf16 (write_items (members.map write_member)) ++ [0x7d])
      = some ⟨.done (.object (before ++ vs)), rest⟩ := by
  induction h generalizing mode before with
  | nil => exact absurd rfl hne
  | @cons member v members vs hv hvs ih =>
      obtain ⟨hname, hvalue⟩ := hv
      have hv : v = (utf16 member.1, v.2) := by rw [hname]
      cases members with
      | nil =>
          cases hvs
          have hunits : utf16 (write_items (List.map write_member [member])) ++ [0x7d]
              = utf16 (quote member.1 ++ ":") ++ (utf16 member.2 ++ [0x7d]) := by
            rw [List.map_cons, List.map_nil, write_items, write_member, utf16_append,
              List.append_assoc]
          rw [hunits, run_append_of (run_name _ hmode _ _), run_last_member hvalue, ← hv]
      | cons member' members =>
          have hunits : utf16 (write_items ((member :: member' :: members).map write_member)) ++ [0x7d]
              = utf16 (quote member.1 ++ ":") ++ ((utf16 member.2 ++ [0x2c])
                ++ (utf16 (write_items ((member' :: members).map write_member)) ++ [0x7d])) := by
            rw [List.map_cons, List.map_cons, write_items_cons, utf16_append, utf16_append,
              write_member, utf16_append, List.append_assoc, List.append_assoc, List.append_assoc,
              List.append_assoc]
            rfl
          rw [hunits, run_append_of (run_name _ hmode _ _), run_append_of (run_member hvalue _ _ _),
            ih (by simp) (Or.inr rfl), ← hv, List.append_assoc]
          rfl

/-- **An object reads back**, with its members in order. -/
theorem parse_write_object {members : List (String × String)} {vs : List (List UInt16 × Tree)}
    (h : AreMembers members vs) : parse (utf16 (write_object members)) = some (.object vs) := by
  have hopen : run init [0x7b] = some ⟨.first_name, [.object []]⟩ := rfl
  have hunits : utf16 (write_object members)
      = [0x7b] ++ (utf16 (write_items (members.map write_member)) ++ [0x7d]) := by
    rw [write_object, utf16_append, utf16_append, List.append_assoc]
    rfl
  rw [hunits, parse, run_append_of hopen]
  cases h with
  | nil => rfl
  | cons hv hvs =>
      rw [run_members (List.Forall₂.cons hv hvs) (by simp) (Or.inl rfl)]
      rfl

/-! ## Numbers -/

/-- The units of the digits of a number. -/
theorem utf16_toString (n : ℕ) : utf16 (toString n) = units (Nat.toDigits 10 n) := by
  rw [utf16, Digits.toList_toString, units]

theorem digit_unit {d : ℕ} (hd : d < 10) :
    utf16_char (Nat.digitChar d) = [.ofNat (Nat.digitChar d).toNat]
      ∧ glyph (.ofNat (Nat.digitChar d).toNat) = Nat.digitChar d := by
  have hascii : (Nat.digitChar d).toNat < 0x80 := digitChar_ascii ⟨d, by omega⟩
  exact ⟨utf16_char_of_ascii hascii, glyph_of_ascii hascii⟩

theorem isDigit_digitChar : ∀ d : Fin 10, (Nat.digitChar d.val).isDigit = true := by decide

/-- A number without a zero in front, read to its end. By strong induction on the number: the
digits but for the last are those of its tenth. -/
theorem run_whole {start : State} {lexeme : List UInt16} {base : List Frame}
    (hstart : ∀ d, 0 < d → d < 10 → start.step (.ofNat (Nat.digitChar d).toNat)
      = some ⟨.number .whole (lexeme ++ [.ofNat (Nat.digitChar d).toNat]), base⟩)
    {n : ℕ} (hn : 0 < n) :
    run start (utf16 (toString n)) = some ⟨.number .whole (lexeme ++ utf16 (toString n)), base⟩ := by
  rw [utf16_toString]
  -- the digits in front, then the last
  induction n using Nat.strong_induction_on with
  | _ n ih =>
      by_cases hlt : n < 10
      · rw [Nat.toDigits_of_lt_base hlt, units, List.flatMap_singleton, (digit_unit hlt).1, run,
          hstart n hn hlt]
        rfl
      · have hdigits : Nat.toDigits 10 n = Nat.toDigits 10 (n / 10) ++ [Nat.digitChar (n % 10)] :=
          Nat.toDigits_of_base_le (by omega) (by omega)
        have hlast : n % 10 < 10 := Nat.mod_lt n (by omega)
        rw [hdigits, units_append, run_append_of (ih (n / 10) (by omega) (by omega))]
        have hunits : units [Nat.digitChar (n % 10)] = [.ofNat (Nat.digitChar (n % 10)).toNat] := by
          rw [units, List.flatMap_singleton, (digit_unit hlast).1]
        rw [hunits, run, State.step]
        have hnext : Num.whole.next (Nat.digitChar (n % 10)) = some .whole := by
          rw [Num.next, if_pos (isDigit_digitChar ⟨n % 10, hlast⟩)]
        simp only [(digit_unit hlast).2, hnext, Option.bind_some]
        rw [run, List.append_assoc]

theorem step_init_digit {d : ℕ} (hpos : 0 < d) (hd : d < 10) :
    State.step init (.ofNat (Nat.digitChar d).toNat)
      = some ⟨.number .whole [.ofNat (Nat.digitChar d).toNat], []⟩ := by
  obtain rfl | rfl | rfl | rfl | rfl | rfl | rfl | rfl | rfl : d = 1 ∨ d = 2 ∨ d = 3 ∨ d = 4
      ∨ d = 5 ∨ d = 6 ∨ d = 7 ∨ d = 8 ∨ d = 9 := by omega
  all_goals rfl

/-- **A number reads back** as what was written. -/
theorem parse_toString (n : ℕ) : parse (utf16 (toString n)) = some (.number (utf16 (toString n))) := by
  by_cases hn : n = 0
  · rw [hn]
    rfl
  · have hrun := @run_whole init [] [] (fun d => step_init_digit) n (by omega)
    rw [parse, hrun]
    rfl

theorem step_minus_digit {d : ℕ} (hpos : 0 < d) (hd : d < 10) :
    State.step ⟨.number .minus [0x2d], []⟩ (.ofNat (Nat.digitChar d).toNat)
      = some ⟨.number .whole ([0x2d] ++ [.ofNat (Nat.digitChar d).toNat]), []⟩ := by
  obtain rfl | rfl | rfl | rfl | rfl | rfl | rfl | rfl | rfl : d = 1 ∨ d = 2 ∨ d = 3 ∨ d = 4
      ∨ d = 5 ∨ d = 6 ∨ d = 7 ∨ d = 8 ∨ d = 9 := by omega
  all_goals rfl

theorem parse_negative {n : ℕ} (hn : 0 < n) :
    parse (utf16 ("-" ++ toString n)) = some (.number (utf16 ("-" ++ toString n))) := by
  have hopen : run init [0x2d] = some ⟨.number .minus [0x2d], []⟩ := rfl
  have hunits : utf16 ("-" ++ toString n) = [0x2d] ++ utf16 (toString n) := utf16_append _ _
  rw [hunits, parse, run_append_of hopen, run_whole (fun d => step_minus_digit) hn]
  rfl

/-! ## One line -/

open Lines

/-- No escaped character is a line break. -/
theorem newline_escape_char (c : Char) : '\n' ∉ escape_char c := by
  unfold escape_char
  split
  case h_8 hquote hslash hb hf hn hr ht =>
    by_cases hcontrol : c.toNat < 0x20
    · have hdigit : ∀ d : Fin 16, '\n' ≠ Nat.digitChar d.val := by decide
      have hhi := hdigit ⟨c.toNat / 16, by omega⟩
      have hlo := hdigit ⟨c.toNat % 16, by omega⟩
      rw [if_pos hcontrol, unicode_escape]
      simp only [List.mem_cons, List.not_mem_nil, or_false, hhi, hlo]
      decide
    · rw [if_neg hcontrol, List.mem_singleton]
      exact fun h => hn h.symm
  all_goals decide

/-- A quoted text is on one line. -/
theorem oneLine_quote (s : String) : OneLine (quote s) := by
  have hescape : '\n' ∉ escape s.toList := by
    intro hmem
    obtain ⟨c, -, hc⟩ := List.mem_flatMap.mp hmem
    exact newline_escape_char c hc
  rw [OneLine, quote, String.toList_ofList, List.mem_cons, List.mem_append, List.mem_singleton]
  rintro (h | h | h)
  · cases h
  · exact hescape h
  · cases h

theorem oneLine_toString (n : ℕ) : OneLine (toString n) := by
  intro hmem
  exact absurd (Digits.isDigit_of_mem_toString hmem) (by decide)

/-- Items are on one line if each of them is. -/
theorem oneLine_write_items {items : List String} (h : ∀ item ∈ items, OneLine item) :
    OneLine (write_items items) := by
  induction items with
  | nil => exact List.not_mem_nil
  | cons item rest ih =>
      have hrest := ih fun item' h' => h item' (List.mem_cons_of_mem _ h')
      cases rest with
      | nil => exact h item List.mem_cons_self
      | cons item' rest =>
          rw [write_items_cons, oneLine_append, oneLine_append]
          exact ⟨⟨h item List.mem_cons_self, by decide⟩, hrest⟩

theorem oneLine_write_array {items : List String} (h : ∀ item ∈ items, OneLine item) :
    OneLine (write_array items) := by
  rw [write_array, oneLine_append, oneLine_append]
  exact ⟨⟨by decide, oneLine_write_items h⟩, by decide⟩

/-- So is an object. -/
theorem oneLine_write_object {members : List (String × String)}
    (h : ∀ m ∈ members, OneLine m.2) : OneLine (write_object members) := by
  rw [write_object, oneLine_append, oneLine_append]
  refine ⟨⟨by decide, oneLine_write_items ?_⟩, by decide⟩
  intro item hitem
  obtain ⟨m, hm, rfl⟩ := List.mem_map.mp hitem
  rw [write_member, oneLine_append, oneLine_append]
  exact ⟨⟨oneLine_quote m.1, by decide⟩, h m hm⟩

end JsonText
