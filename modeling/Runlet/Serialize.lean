/-
`serde_json::to_string` of a `Value`: compact, members in order.

How a float is written is a parameter; what is used of it is `FloatText`. `parse_write` says which
document the text of a value is, and `oneLine_write` that it is on one line.
-/
import Runlet.Json
import Runlet.Lib.JsonWrite

set_option autoImplicit false

namespace Runlet.Json

open Text Lines

/-- The writer of floats, by their bits. -/
structure FloatText (float_text : UInt64 → String) : Prop where
  number : ∀ bits, JsonText.parse (utf16 (float_text bits))
    = some (.number (utf16 (float_text bits)))
  oneLine : ∀ bits, OneLine (float_text bits)

section Writer

variable (float_text : UInt64 → String)

def Number.write : Number → String
  | .pos_int n => toString n.toNat
  | .neg_int n =>
    if n.toInt < 0 then "-" ++ toString n.toInt.natAbs else toString n.toInt.natAbs
  | .float bits => float_text bits

def bool_text (b : Bool) : String := if b then "true" else "false"

mutual

def Value.write : Value → String
  | .null => "null"
  | .bool b => bool_text b
  | .number n => n.write float_text
  | .string s => JsonText.quote s
  | .array items => JsonText.write_array (Value.write_items items)
  | .object fields => JsonText.write_object (Value.write_fields fields)

def Value.write_items : List Value → List String
  | [] => []
  | v :: vs => v.write :: Value.write_items vs

def Value.write_fields : List (String × Value) → List (String × String)
  | [] => []
  | (name, v) :: rest => (name, v.write) :: Value.write_fields rest

end

mutual

/-- The document a value is. -/
def Value.tree : Value → JsonText.Tree
  | .null => .null
  | .bool b => .bool b
  | .number n => .number (utf16 (n.write float_text))
  | .string s => .string (utf16 s)
  | .array items => .array (Value.tree_items items)
  | .object fields => .object (Value.tree_fields fields)

def Value.tree_items : List Value → List JsonText.Tree
  | [] => []
  | v :: vs => v.tree :: Value.tree_items vs

def Value.tree_fields : List (String × Value) → List (List UInt16 × JsonText.Tree)
  | [] => []
  | (name, v) :: rest => (utf16 name, v.tree) :: Value.tree_fields rest

end

theorem parse_bool_text (b : Bool) : JsonText.parse (utf16 (bool_text b)) = some (.bool b) := by
  cases b with
  | true => rfl
  | false => rfl

theorem oneLine_null : OneLine "null" := by decide

theorem oneLine_bool_text (b : Bool) : OneLine (bool_text b) := by
  cases b with
  | true => decide
  | false => decide

variable {float_text}

theorem parse_null : JsonText.parse (utf16 "null") = some .null := rfl

/-- A number is read as the number that was written. -/
theorem parse_write_number (hfloat : FloatText float_text) (n : Number) :
    JsonText.parse (utf16 (n.write float_text)) = some (.number (utf16 (n.write float_text))) := by
  cases n with
  | pos_int n => exact JsonText.parse_toString n.toNat
  | neg_int n =>
      rw [Number.write]
      by_cases hneg : n.toInt < 0
      · rw [if_pos hneg]
        apply JsonText.parse_negative
        omega
      · rw [if_neg hneg]
        exact JsonText.parse_toString _
  | float bits => exact hfloat.number bits

/-- A number is on one line. -/
theorem oneLine_write_number (hfloat : FloatText float_text) (n : Number) :
    OneLine (n.write float_text) := by
  cases n with
  | pos_int n => exact JsonText.oneLine_toString n.toNat
  | neg_int n =>
      rw [Number.write]
      by_cases hneg : n.toInt < 0
      · rw [if_pos hneg, oneLine_append]
        exact ⟨by decide, JsonText.oneLine_toString _⟩
      · rw [if_neg hneg]
        exact JsonText.oneLine_toString _
  | float bits => exact hfloat.oneLine bits

mutual

/-- The text of a value is the document it is. -/
theorem parse_write (hfloat : FloatText float_text) : ∀ v : Value,
    JsonText.parse (utf16 (v.write float_text)) = some (v.tree float_text)
  | .null => parse_null
  | .bool b => parse_bool_text b
  | .number n => parse_write_number hfloat n
  | .string s => JsonText.parse_quote s
  | .array items => JsonText.parse_write_array (are_write_items hfloat items)
  | .object fields => JsonText.parse_write_object (are_write_fields hfloat fields)

theorem are_write_items (hfloat : FloatText float_text) : ∀ vs : List Value,
    JsonText.Are (Value.write_items float_text vs) (Value.tree_items float_text vs)
  | [] => .nil
  | v :: vs => .cons (parse_write hfloat v) (are_write_items hfloat vs)

theorem are_write_fields (hfloat : FloatText float_text) : ∀ fields : List (String × Value),
    JsonText.AreMembers (Value.write_fields float_text fields) (Value.tree_fields float_text fields)
  | [] => .nil
  | (_, v) :: rest => .cons ⟨rfl, parse_write hfloat v⟩ (are_write_fields hfloat rest)

end

mutual

/-- A value is written on one line. -/
theorem oneLine_write (hfloat : FloatText float_text) : ∀ v : Value, OneLine (v.write float_text)
  | .null => oneLine_null
  | .bool b => oneLine_bool_text b
  | .number n => oneLine_write_number hfloat n
  | .string s => JsonText.oneLine_quote s
  | .array items => JsonText.oneLine_write_array (oneLine_write_items hfloat items)
  | .object fields => JsonText.oneLine_write_object (oneLine_write_fields hfloat fields)

theorem oneLine_write_items (hfloat : FloatText float_text) : ∀ vs : List Value,
    ∀ text ∈ Value.write_items float_text vs, OneLine text
  | [] => nofun
  | v :: vs => List.forall_mem_cons.mpr ⟨oneLine_write hfloat v, oneLine_write_items hfloat vs⟩

theorem oneLine_write_fields (hfloat : FloatText float_text) : ∀ fields : List (String × Value),
    ∀ field ∈ Value.write_fields float_text fields, OneLine field.2
  | [] => nofun
  | (_, v) :: rest => List.forall_mem_cons.mpr ⟨oneLine_write hfloat v, oneLine_write_fields hfloat rest⟩

end

end Writer

/-- A writer for values that have no float in them. -/
def no_floats : UInt64 → String := fun _ => "0.0"

theorem no_floats_text : FloatText no_floats := by
  have hnumber : JsonText.parse (utf16 "0.0") = some (.number (utf16 "0.0")) := rfl
  have hline : OneLine "0.0" := by decide
  exact ⟨fun _ => hnumber, fun _ => hline⟩

end Runlet.Json
