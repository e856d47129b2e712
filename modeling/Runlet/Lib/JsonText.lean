/-
JSON texts.

`parse` reads a text from left to right with a stack of the containers that are open, in UTF-16
code units, as `JSON.parse` is given it. It is total, and it composes: a text behind another starts
in the state the other leaves (`run_append`), and what is read above a stack does not depend on it
(`run_retained`). So a document that was cut into a larger one is read there as it is alone
(`run_value`).

`quote` writes a string; `parse_quote` is its round trip.
-/
import Runlet.Lib.Hex
import Runlet.Lib.Text

set_option autoImplicit false

namespace JsonText

open Hex Text

/-! ## Documents -/

/-- A document: numbers as they are written, strings by their code units, members in order. -/
inductive Tree
  | null
  | bool (b : Bool)
  | number (lexeme : List UInt16)
  | string (units : List UInt16)
  | array (items : List Tree)
  | object (members : List (List UInt16 × Tree))

/-- The character a unit is, as far as the grammar looks. One stands for all beyond ASCII. -/
def glyph (u : UInt16) : Char := if u.toNat < 0x80 then Char.ofNat u.toNat else Char.ofNat 0x80

def is_space (c : Char) : Bool := c == ' ' || c == '\t' || c == '\n' || c == '\r'

/-! ## Numbers -/

/-- How far a number has been read. -/
inductive Num
  | minus
  | zero
  | whole
  | point
  | fraction
  | exp
  | exp_sign
  | exponent
  deriving DecidableEq

namespace Num

def start (c : Char) : Option Num :=
  if c = '-' then some minus else if c = '0' then some zero
  else if c.isDigit then some whole else none

/-- Behind the digits in front of the point. -/
def after_whole (c : Char) : Option Num :=
  if c = '.' then some point else if c = 'e' ∨ c = 'E' then some exp else none

def next : Num → Char → Option Num
  | minus, c => if c = '0' then some zero else if c.isDigit then some whole else none
  | zero, c => after_whole c
  | whole, c => if c.isDigit then some whole else after_whole c
  | point, c => if c.isDigit then some fraction else none
  | fraction, c =>
      if c.isDigit then some fraction else if c = 'e' ∨ c = 'E' then some exp else none
  | exp, c =>
      if c = '+' ∨ c = '-' then some exp_sign else if c.isDigit then some exponent else none
  | exp_sign, c => if c.isDigit then some exponent else none
  | exponent, c => if c.isDigit then some exponent else none

/-- A number may end here. -/
def final : Num → Bool
  | zero | whole | fraction | exponent => true
  | minus | point | exp | exp_sign => false

end Num

/-! ## Strings -/

/-- Where in a string. -/
inductive Part
  | plain
  | escape
  | unicode (count value : ℕ)

inductive Read
  | more (units : List UInt16) (part : Part)
  | closed

/-- The unit a letter behind a backslash stands for. -/
def escaped : Char → Option UInt16
  | '"' => some 0x22
  | '\\' => some 0x5c
  | '/' => some 0x2f
  | 'b' => some 0x08
  | 'f' => some 0x0c
  | 'n' => some 0x0a
  | 'r' => some 0x0d
  | 't' => some 0x09
  | _ => none

/-- One unit of a string. -/
def read (units : List UInt16) (part : Part) (u : UInt16) : Option Read :=
  match part with
  | .plain =>
      if glyph u = '"' then some .closed
      else if glyph u = '\\' then some (.more units .escape)
      else if u.toNat < 0x20 then none
      else some (.more (units ++ [u]) .plain)
  | .escape =>
      if glyph u = 'u' then some (.more units (.unicode 0 0))
      else (escaped (glyph u)).map fun unit => .more (units ++ [unit]) .plain
  | .unicode count value =>
      (hex_value (glyph u)).map fun digit =>
        if count = 3 then .more (units ++ [.ofNat (16 * value + digit)]) .plain
        else .more units (.unicode (count + 1) (16 * value + digit))

/-! ## The reader -/

/-- A container that is open. -/
inductive Frame
  | array (items : List Tree)
  /-- A name is due. -/
  | object (members : List (List UInt16 × Tree))
  /-- The value of `name` is due. -/
  | member (members : List (List UInt16 × Tree)) (name : List UInt16)

inductive Mode
  | value
  /-- Behind `[`. -/
  | first_item
  /-- Behind `\x7b`. -/
  | first_name
  | name
  | colon
  | literal (rest : List Char) (v : Tree)
  | number (num : Num) (lexeme : List UInt16)
  | string (is_name : Bool) (units : List UInt16) (part : Part)
  | done (v : Tree)

structure State where
  mode : Mode
  stack : List Frame

def init : State := ⟨.value, []⟩

/-- The first unit of a value, with what it opens. -/
def open_value (u : UInt16) : Option (Mode × List Frame) :=
  match glyph u with
  | '\x7b' => some (.first_name, [.object []])
  | '[' => some (.first_item, [.array []])
  | '"' => some (.string false [] .plain, [])
  | 't' => some (.literal ['r', 'u', 'e'] (.bool true), [])
  | 'f' => some (.literal ['a', 'l', 's', 'e'] (.bool false), [])
  | 'n' => some (.literal ['u', 'l', 'l'] .null, [])
  | c => (Num.start c).map fun num => (.number num [u], [])

/-- Behind a value. -/
def close_value (v : Tree) (stack : List Frame) (c : Char) : Option State :=
  if is_space c then some ⟨.done v, stack⟩
  else match stack with
  | .array items :: rest =>
      if c = ',' then some ⟨.value, .array (items ++ [v]) :: rest⟩
      else if c = ']' then some ⟨.done (.array (items ++ [v])), rest⟩
      else none
  | .member members name :: rest =>
      if c = ',' then some ⟨.name, .object (members ++ [(name, v)]) :: rest⟩
      else if c = '\x7d' then some ⟨.done (.object (members ++ [(name, v)])), rest⟩
      else none
  | .object _ :: _ | [] => none

/-- Behind the quote that ends a string. -/
def close_string (is_name : Bool) (units : List UInt16) (stack : List Frame) : Option State :=
  if is_name then
    match stack with
    | .object members :: rest => some ⟨.colon, .member members units :: rest⟩
    | .array _ :: _ | .member _ _ :: _ | [] => none
  else some ⟨.done (.string units), stack⟩

/-- An empty container. -/
def close_empty (stack : List Frame) : Option State :=
  match stack with
  | .array items :: rest => some ⟨.done (.array items), rest⟩
  | .object members :: rest => some ⟨.done (.object members), rest⟩
  | .member _ _ :: _ | [] => none

def State.step (st : State) (u : UInt16) : Option State :=
  match st.mode with
  | .value =>
      if is_space (glyph u) then some st
      else (open_value u).map fun opened => ⟨opened.1, opened.2 ++ st.stack⟩
  | .first_item =>
      if is_space (glyph u) then some st
      else if glyph u = ']' then close_empty st.stack
      else (open_value u).map fun opened => ⟨opened.1, opened.2 ++ st.stack⟩
  | .first_name =>
      if is_space (glyph u) then some st
      else if glyph u = '\x7d' then close_empty st.stack
      else if glyph u = '"' then some ⟨.string true [] .plain, st.stack⟩
      else none
  | .name =>
      if is_space (glyph u) then some st
      else if glyph u = '"' then some ⟨.string true [] .plain, st.stack⟩
      else none
  | .colon =>
      if is_space (glyph u) then some st
      else if glyph u = ':' then some ⟨.value, st.stack⟩
      else none
  | .literal rest v =>
      match rest with
      | [] => none
      | [c] => if glyph u = c then some ⟨.done v, st.stack⟩ else none
      | c :: rest => if glyph u = c then some ⟨.literal rest v, st.stack⟩ else none
  | .number num lexeme =>
      match num.next (glyph u) with
      | some num => some ⟨.number num (lexeme ++ [u]), st.stack⟩
      | none => if num.final then close_value (.number lexeme) st.stack (glyph u) else none
  | .string is_name units part =>
      match read units part u with
      | none => none
      | some (.more units part) => some ⟨.string is_name units part, st.stack⟩
      | some .closed => close_string is_name units st.stack
  | .done v => close_value v st.stack (glyph u)

def run (st : State) : List UInt16 → Option State
  | [] => some st
  | u :: us => (st.step u).bind fun st => run st us

/-- The value that has been read, if the text may end here. -/
def Mode.value? : Mode → Option Tree
  | .done v => some v
  | .number num lexeme => if num.final then some (.number lexeme) else none
  | .value | .first_item | .first_name | .name | .colon | .literal _ _ | .string _ _ _ => none

def State.finish (st : State) : Option Tree :=
  match st.stack with
  | [] => st.mode.value?
  | _ :: _ => none

/-- The document a text is. -/
def parse (text : List UInt16) : Option Tree := (run init text).bind State.finish

/-! ## Composition -/

theorem run_append (st : State) (us vs : List UInt16) :
    run st (us ++ vs) = (run st us).bind fun st => run st vs := by
  induction us generalizing st with
  | nil => rfl
  | cons u us ih =>
      rw [List.cons_append, run, run, Option.bind_assoc]
      exact congrArg _ (funext fun st => ih st)

theorem run_append_of {st st' : State} {us : List UInt16} (h : run st us = some st')
    (vs : List UInt16) : run st (us ++ vs) = run st' vs := by
  rw [run_append, h, Option.bind_some]

/-- The same state above more containers. -/
def State.retain (st : State) (base : List Frame) : State := ⟨st.mode, st.stack ++ base⟩

section Retained

variable (base : List Frame)

/-- What one side leads to, the other leads to above `base`. -/
def Keeps (x y : Option State) : Prop := ∀ st, x = some st → y = some (st.retain base)

variable {base}

theorem keeps_none {y : Option State} : Keeps base none y := nofun

theorem keeps_some (mode : Mode) (stack : List Frame) :
    Keeps base (some ⟨mode, stack⟩) (some ⟨mode, stack ++ base⟩) := by
  intro st h
  cases h
  rfl

theorem keeps_ite {p : Prop} [Decidable p] {x x' y y' : Option State} (hpos : Keeps base x y)
    (hneg : Keeps base x' y') : Keeps base (if p then x else x') (if p then y else y') := by
  split
  · exact hpos
  · exact hneg

/-- Closing a value does not look below the container it stands in. -/
theorem keeps_close_value (v : Tree) (stack : List Frame) (c : Char) :
    Keeps base (close_value v stack c) (close_value v (stack ++ base) c) := by
  unfold close_value
  refine keeps_ite (keeps_some _ _) ?_
  cases stack with
  | nil => exact keeps_none
  | cons frame rest =>
      cases frame with
      | array items | member members name =>
          exact keeps_ite (keeps_some _ (_ :: rest)) (keeps_ite (keeps_some _ rest) keeps_none)
      | object members => exact keeps_none

/-- Nor does closing a string, whether it is a name or a value. -/
theorem keeps_close_string (is_name : Bool) (units : List UInt16) (stack : List Frame) :
    Keeps base (close_string is_name units stack) (close_string is_name units (stack ++ base)) := by
  unfold close_string
  refine keeps_ite ?_ (keeps_some _ _)
  cases stack with
  | nil => exact keeps_none
  | cons frame rest =>
      cases frame with
      | object members => exact keeps_some _ (_ :: rest)
      | array items | member members name => exact keeps_none

/-- Nor does closing an empty container. -/
theorem keeps_close_empty (stack : List Frame) :
    Keeps base (close_empty stack) (close_empty (stack ++ base)) := by
  cases stack with
  | nil => exact keeps_none
  | cons frame rest =>
      cases frame with
      | array items | object members => exact keeps_some _ rest
      | member members name => exact keeps_none

/-- Nor does opening a value. -/
theorem keeps_opened (u : UInt16) (stack : List Frame) :
    Keeps base ((open_value u).map fun opened => ⟨opened.1, opened.2 ++ stack⟩)
      ((open_value u).map fun opened => ⟨opened.1, opened.2 ++ (stack ++ base)⟩) := by
  cases open_value u with
  | none => exact keeps_none
  | some opened =>
      rw [Option.map_some, Option.map_some, ← List.append_assoc]
      exact keeps_some _ _

/-- A step looks no deeper than it reaches on the stack. Mode by mode: it closes the frame on top,
or opens one, or stays; what lies under that is handed on. -/
theorem keeps_step (st : State) (u : UInt16) :
    Keeps base (st.step u) ((st.retain base).step u) := by
  obtain ⟨mode, stack⟩ := st
  unfold State.step
  simp only [State.retain]
  cases mode with
  | value => exact keeps_ite (keeps_some _ _) (keeps_opened u stack)
  | first_item =>
      exact keeps_ite (keeps_some _ _)
        (keeps_ite (keeps_close_empty stack) (keeps_opened u stack))
  | first_name =>
      exact keeps_ite (keeps_some _ _)
        (keeps_ite (keeps_close_empty stack) (keeps_ite (keeps_some _ _) keeps_none))
  | name | colon =>
      exact keeps_ite (keeps_some _ _) (keeps_ite (keeps_some _ _) keeps_none)
  | literal rest v =>
      match rest with
      | [] => exact keeps_none
      | [c] => exact keeps_ite (keeps_some _ _) keeps_none
      | c :: c' :: rest => exact keeps_ite (keeps_some _ _) keeps_none
  | number num lexeme =>
      simp only
      split
      · exact keeps_some _ _
      · exact keeps_ite (keeps_close_value _ _ _) keeps_none
  | string is_name units part =>
      simp only
      split
      · exact keeps_none
      · exact keeps_some _ _
      · exact keeps_close_string _ _ _
  | done v => exact keeps_close_value v stack _

end Retained

/-- **What is read above a stack does not depend on it.** Unit by unit, from the lemma for one.
This is what lets a value be read on its own, wherever it stands. -/
theorem run_retained {st st' : State} {us : List UInt16} (h : run st us = some st')
    (base : List Frame) : run (st.retain base) us = some (st'.retain base) := by
  induction us generalizing st with
  | nil =>
      cases h
      rfl
  | cons u us ih =>
      rw [run] at h ⊢
      obtain ⟨next, hstep, hrest⟩ := Option.bind_eq_some_iff.mp h
      rw [keeps_step st u next hstep, Option.bind_some]
      exact ih hrest

/-- Where a value is due, a document is read as it is alone. -/
theorem run_value {text : List UInt16} {v : Tree} (h : parse text = some v) (base : List Frame) :
    ∃ mode : Mode, run ⟨.value, base⟩ text = some ⟨mode, base⟩ ∧ mode.value? = some v := by
  obtain ⟨st, hrun, hfinish⟩ := Option.bind_eq_some_iff.mp h
  obtain ⟨mode, stack⟩ := st
  cases stack with
  | nil => exact ⟨mode, run_retained hrun base, hfinish⟩
  | cons frame rest => cases hfinish

/-- A number does not go on with a separator. -/
theorem next_separator (num : Num) {c : Char} (h : c = ',' ∨ c = ']' ∨ c = '\x7d') :
    num.next c = none := by
  rcases h with rfl | rfl | rfl
  · cases num <;> rfl
  · cases num <;> rfl
  · cases num <;> rfl

/-- A separator behind a value closes it. -/
theorem step_separator {mode : Mode} {v : Tree} (h : mode.value? = some v) (stack : List Frame)
    {u : UInt16} (hu : glyph u = ',' ∨ glyph u = ']' ∨ glyph u = '\x7d') :
    State.step ⟨mode, stack⟩ u = close_value v stack (glyph u) := by
  cases mode with
  | done v' =>
      cases h
      rfl
  | number num lexeme =>
      rw [Mode.value?, Option.ite_none_right_eq_some] at h
      obtain ⟨hfinal, hv⟩ := h
      cases hv
      unfold State.step
      simp only [next_separator num hu, if_pos hfinal]
  | value | first_item | first_name | name | colon | literal rest v' | string is_name units part =>
      cases h

/-- A document, then a comma: the next name is due. -/
theorem run_member {text : List UInt16} {v : Tree} (h : parse text = some v)
    (members : List (List UInt16 × Tree)) (name : List UInt16) (rest : List Frame) :
    run ⟨.value, .member members name :: rest⟩ (text ++ [0x2c])
      = some ⟨.name, .object (members ++ [(name, v)]) :: rest⟩ := by
  obtain ⟨mode, hrun, hvalue⟩ := run_value h (.member members name :: rest)
  rw [run_append_of hrun, run, step_separator hvalue _ (Or.inl rfl)]
  rfl

/-- A document, then the end of the object. -/
theorem run_last_member {text : List UInt16} {v : Tree} (h : parse text = some v)
    (members : List (List UInt16 × Tree)) (name : List UInt16) (rest : List Frame) :
    run ⟨.value, .member members name :: rest⟩ (text ++ [0x7d])
      = some ⟨.done (.object (members ++ [(name, v)])), rest⟩ := by
  obtain ⟨mode, hrun, hvalue⟩ := run_value h (.member members name :: rest)
  rw [run_append_of hrun, run, step_separator hvalue _ (Or.inr (Or.inr rfl))]
  rfl

/-! ## Writing a string -/

/-- The long escape of a control character. -/
def unicode_escape (n : ℕ) : List Char :=
  ['\\', 'u', '0', '0', Nat.digitChar (n / 16), Nat.digitChar (n % 16)]

/-- One character: the short escapes, `\u00xx` for the other control characters. -/
def escape_char (c : Char) : List Char :=
  match c with
  | '"' => ['\\', '"']
  | '\\' => ['\\', '\\']
  | '\x08' => ['\\', 'b']
  | '\x0c' => ['\\', 'f']
  | '\n' => ['\\', 'n']
  | '\r' => ['\\', 'r']
  | '\t' => ['\\', 't']
  | c => if c.toNat < 0x20 then unicode_escape c.toNat else [c]

def escape (cs : List Char) : List Char := cs.flatMap escape_char

def quote (s : String) : String := String.ofList ('"' :: (escape s.toList ++ ['"']))

/-- The units of characters. -/
def units (cs : List Char) : List UInt16 := cs.flatMap utf16_char

theorem utf16_ofList (cs : List Char) : utf16 (String.ofList cs) = units cs := by
  rw [utf16, String.toList_ofList, units]

theorem units_append (cs ds : List Char) : units (cs ++ ds) = units cs ++ units ds :=
  List.flatMap_append

theorem utf16_char_of_ascii {c : Char} (h : c.toNat < 0x80) : utf16_char c = [.ofNat c.toNat] :=
  if_pos (by omega)

theorem glyph_of_ascii {c : Char} (h : c.toNat < 0x80) : glyph (.ofNat c.toNat) = c := by
  have hnat : (UInt16.ofNat c.toNat).toNat = c.toNat := UInt16.toNat_ofNat_of_lt' (by
    show c.toNat < 65536
    omega)
  rw [glyph, hnat, if_pos h, Char.ofNat_toNat]

/-- A character that is not escaped stands for itself, as one unit or as the two of a pair. None
of these is a quote, a backslash or a control character. -/
theorem run_plain {c : Char} (hquote : c ≠ '"') (hslash : c ≠ '\\') (hcontrol : 0x20 ≤ c.toNat)
    (is_name : Bool) (acc : List UInt16) (stack : List Frame) :
    run ⟨.string is_name acc .plain, stack⟩ (utf16_char c)
      = some ⟨.string is_name (acc ++ utf16_char c) .plain, stack⟩ := by
  have hunit : ∀ {u : UInt16} (acc : List UInt16), glyph u ≠ '"' → glyph u ≠ '\\' →
      ¬ u.toNat < 0x20 → State.step ⟨.string is_name acc .plain, stack⟩ u
        = some ⟨.string is_name (acc ++ [u]) .plain, stack⟩ := by
    intro u acc hq hs hc
    unfold State.step
    simp only [read, if_neg hq, if_neg hs, if_neg hc]
  have hbeyond : ∀ {n : ℕ}, 0x80 ≤ n → n < 0x10000 → glyph (.ofNat n) ≠ '"'
      ∧ glyph (.ofNat n) ≠ '\\' ∧ ¬ (UInt16.ofNat n).toNat < 0x20 := by
    intro n hlow hhigh
    have hnat : (UInt16.ofNat n).toNat = n := UInt16.toNat_ofNat_of_lt' hhigh
    rw [glyph, hnat, if_neg (by omega)]
    exact ⟨by decide, by decide, by omega⟩
  by_cases hascii : c.toNat < 0x80
  · rw [utf16_char_of_ascii hascii, run, hunit acc]
    · rfl
    · rwa [glyph_of_ascii hascii]
    · rwa [glyph_of_ascii hascii]
    · rw [UInt16.toNat_ofNat_of_lt' (by show c.toNat < 65536; omega)]
      omega
  · rw [utf16_char]
    split
    · obtain ⟨hq, hs, hc⟩ := @hbeyond c.toNat (by omega) ‹_›
      rw [run, hunit acc hq hs hc]
      rfl
    -- a pair of surrogates
    · have hvalid : c.toNat < 0x110000 := by
        rcases c.valid with h | h
        · exact Nat.lt_trans h (by decide)
        · exact h.2
      obtain ⟨hq, hs, hc⟩ := @hbeyond (0xd800 + (c.toNat - 0x10000) / 0x400) (by omega) (by omega)
      obtain ⟨hq', hs', hc'⟩ := @hbeyond (0xdc00 + (c.toNat - 0x10000) % 0x400) (by omega) (by omega)
      rw [run, hunit acc hq hs hc, Option.bind_some, run, hunit _ hq' hs' hc', Option.bind_some, run,
        List.append_assoc]
      rfl

theorem hex_value_digit : ∀ n : Fin 16,
    hex_value (glyph (.ofNat (Nat.digitChar n.val).toNat)) = some n.val := by
  decide

theorem digitChar_ascii : ∀ n : Fin 16, (Nat.digitChar n.val).toNat < 0x80 := by decide

theorem unicode_escape_ascii {n : ℕ} (hn : n < 0x20) : ∀ c ∈ unicode_escape n, c.toNat < 0x80 := by
  have hhi := digitChar_ascii ⟨n / 16, by omega⟩
  have hlo := digitChar_ascii ⟨n % 16, by omega⟩
  simp only [unicode_escape, List.forall_mem_cons]
  exact ⟨by decide, by decide, by decide, by decide, hhi, hlo, fun c hc => absurd hc List.not_mem_nil⟩

/-- Four digits of a unit: each is read as a digit, and the four make the number they were written
from. -/
theorem run_unicode {n : ℕ} (hn : n < 0x20) (is_name : Bool) (acc : List UInt16)
    (stack : List Frame) :
    run ⟨.string is_name acc .plain, stack⟩ (units (unicode_escape n))
      = some ⟨.string is_name (acc ++ [.ofNat n]) .plain, stack⟩ := by
  have hhi := hex_value_digit ⟨n / 16, by omega⟩
  have hlo := hex_value_digit ⟨n % 16, by omega⟩
  have hunits : units (unicode_escape n)
      = [0x5c, 0x75, 0x30, 0x30, .ofNat (Nat.digitChar (n / 16)).toNat,
        .ofNat (Nat.digitChar (n % 16)).toNat] := by
    rw [units, unicode_escape, List.flatMap_cons, List.flatMap_cons, List.flatMap_cons,
      List.flatMap_cons, List.flatMap_cons, List.flatMap_cons, List.flatMap_nil,
      utf16_char_of_ascii (digitChar_ascii ⟨n / 16, by omega⟩),
      utf16_char_of_ascii (digitChar_ascii ⟨n % 16, by omega⟩)]
    rfl
  have hstart : run ⟨.string is_name acc .plain, stack⟩ [0x5c, 0x75, 0x30, 0x30]
      = some ⟨.string is_name acc (.unicode 2 0), stack⟩ := rfl
  rw [hunits]
  refine (run_append_of hstart [_, _]).trans ?_
  rw [run, State.step]
  simp only [read, hhi, Option.map_some, Nat.reduceEqDiff, if_false, Option.bind_some]
  rw [run, State.step]
  simp only [read, hlo, Option.map_some, if_true, Option.bind_some]
  rw [run]
  congr 6
  omega

/-- A character that is escaped reads back as itself, inside a string. It has an escape of its
own, or four digits, or none at all. -/
theorem run_escape_char (c : Char) (is_name : Bool) (acc : List UInt16) (stack : List Frame) :
    run ⟨.string is_name acc .plain, stack⟩ (units (escape_char c))
      = some ⟨.string is_name (acc ++ utf16_char c) .plain, stack⟩ := by
  unfold escape_char
  split
  · rfl
  · rfl
  · rfl
  · rfl
  · rfl
  · rfl
  · rfl
  · rename_i hquote hslash _ _ _ _ _
    split
    · rename_i hcontrol
      rw [run_unicode hcontrol, utf16_char_of_ascii (by omega)]
    · rw [units, List.flatMap_singleton]
      exact run_plain hquote hslash (by omega) is_name acc stack

/-- So does a text. By induction on its characters, with what was read of the string as the
accumulator. -/
theorem run_escape (cs : List Char) (is_name : Bool) (acc : List UInt16) (stack : List Frame) :
    run ⟨.string is_name acc .plain, stack⟩ (units (escape cs))
      = some ⟨.string is_name (acc ++ units cs) .plain, stack⟩ := by
  induction cs generalizing acc with
  | nil =>
      show some _ = some (State.mk (.string is_name (acc ++ []) .plain) stack)
      rw [List.append_nil]
  | cons c cs ih =>
      rw [escape, List.flatMap_cons, units_append, run_append_of (run_escape_char c _ _ _)]
      refine (ih _).trans ?_
      rw [units, units, List.flatMap_cons, List.append_assoc]

/-- A string that is written reads back. -/
theorem parse_quote (s : String) : parse (utf16 (quote s)) = some (.string (utf16 s)) := by
  have hquote : units ('"' :: (escape s.toList ++ ['"']))
      = 0x22 :: (units (escape s.toList) ++ [0x22]) := by
    rw [units, List.flatMap_cons, List.flatMap_append]
    rfl
  have hopen : State.step init 0x22 = some ⟨.string false [] .plain, []⟩ := rfl
  rw [quote, utf16_ofList, hquote, parse, run, hopen, Option.bind_some,
    run_append_of (run_escape _ _ _ _)]
  rfl

/-- The characters with an escape of two characters. -/
def is_short (c : Char) : Bool :=
  c == '"' || c == '\\' || c == '\x08' || c == '\x0c' || c == '\n' || c == '\r' || c == '\t'

/-- The characters with an escape of six. -/
def is_control (c : Char) : Bool := !is_short c && c.toNat < 0x20

/-- How many bytes characters take. -/
def bytes (cs : List Char) : ℕ := (cs.flatMap String.utf8EncodeChar).length

theorem bytes_append (cs ds : List Char) : bytes (cs ++ ds) = bytes cs + bytes ds := by
  rw [bytes, List.flatMap_append, List.length_append, bytes, bytes]

theorem bytes_of_ascii {cs : List Char} (h : ∀ c ∈ cs, c.toNat < 0x80) : bytes cs = cs.length := by
  induction cs with
  | nil => rfl
  | cons c cs ih =>
      have hrest := ih fun d hd => h d (List.mem_cons_of_mem _ hd)
      rw [bytes, List.flatMap_cons, utf8EncodeChar_ascii (h c List.mem_cons_self), List.length_append,
        ← bytes, hrest, List.length_singleton, List.length_cons, Nat.add_comm]

/-- What an escape adds: one byte to the short ones, five to the control characters. All of these
are one byte by themselves. -/
theorem bytes_escape_char (c : Char) : bytes (escape_char c)
    = bytes [c] + ((if is_short c then 1 else 0) + 5 * (if is_control c then 1 else 0)) := by
  unfold escape_char
  split
  · rfl
  · rfl
  · rfl
  · rfl
  · rfl
  · rfl
  · rfl
  · rename_i hquote hslash hb hf hn hr ht
    have hshort : is_short c = false := by
      rw [is_short, beq_false_of_ne hquote, beq_false_of_ne hslash, beq_false_of_ne hb,
        beq_false_of_ne hf, beq_false_of_ne hn, beq_false_of_ne hr, beq_false_of_ne ht]
      rfl
    have hcontrol : is_control c = decide (c.toNat < 0x20) := by
      rw [is_control, hshort]
      rfl
    rw [hshort, hcontrol]
    split
    · rename_i hlt
      have hself : ∀ d ∈ [c], d.toNat < 0x80 := by
        intro d hd
        rw [List.mem_singleton.mp hd]
        omega
      rw [bytes_of_ascii (unicode_escape_ascii hlt), bytes_of_ascii hself, decide_eq_true hlt]
      rfl
    · rename_i hlt
      rw [decide_eq_false hlt]
      rfl

/-- What escaping adds, by induction on the text: as much as its characters add. -/
theorem bytes_escape (cs : List Char) :
    bytes (escape cs) = bytes cs + (cs.countP is_short + 5 * cs.countP is_control) := by
  induction cs with
  | nil => rfl
  | cons c cs ih =>
      have hhead := bytes_escape_char c
      rw [escape, List.flatMap_cons, bytes_append, hhead, ← escape, ih,
        show c :: cs = [c] ++ cs from rfl, bytes_append, List.countP_append, List.countP_append,
        List.countP_singleton, List.countP_singleton]
      omega

end JsonText
