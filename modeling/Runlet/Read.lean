/-
`read(arg)`, the script's side of the read hook (`inject_read` in
`crates/runlet-core/src/engine.rs`).

`__read` answers with one text for both results of the hook: `{"value":…}` around the hook's own
JSON, or `{"__readError":…}` around its message. The wrapper parses it and throws where the second
property is truthy. So an empty message is lost, and a text that is not JSON is thrown as a
`SyntaxError` of `JSON.parse`, or becomes JSON by what is put around it. `read_faithful_iff` is the
exact condition under which the script sees what the hook returned.
-/
import Runlet.Determinism
import Runlet.Io
import Runlet.Lib.JsonText

set_option autoImplicit false

namespace Runlet.Read

open Text Runlet.Json Runlet.Io Runlet.Determinism

/-! ## 1. `JSON.parse` -/

/-- `CreateDataProperty`: a name that is there keeps its place. -/
def create_data_property (props : List (List UInt16 × JsValue)) (prop : List UInt16 × JsValue) :
    List (List UInt16 × JsValue) :=
  if props.any (·.1 == prop.1) then props.map fun old => if old.1 == prop.1 then prop else old
  else props ++ [prop]

/-- What the wrapper uses of the engine: the number a numeral denotes, `ToString` of what is not a
string, and the message of the `SyntaxError` for a text. -/
structure JsEnv where
  number : List UInt16 → UInt64
  text_of : JsValue → List UInt16
  syntax_message : String → List UInt16

section
variable (env : JsEnv)

mutual

/-- The value a document denotes. -/
def denote : JsonText.Tree → JsValue
  | .null => .null
  | .bool b => .bool b
  | .number lexeme => .number (env.number lexeme)
  | .string units => .string units
  | .array items => .array (denote_items items)
  | .object members => .object ((denote_members members).foldl create_data_property [])

def denote_items : List JsonText.Tree → List JsValue
  | [] => []
  | item :: items => denote item :: denote_items items

def denote_members : List (List UInt16 × JsonText.Tree) → List (List UInt16 × JsValue)
  | [] => []
  | (name, v) :: members => (name, denote v) :: denote_members members

end

/-- `JSON.parse`; `none` is a `SyntaxError`. -/
def json_parse (text : String) : Option JsValue :=
  (JsonText.parse (utf16 text)).map (denote env)

/-! ## 2. The wrapper -/

/-- How a call ends: a value (`none` is `undefined`), `throw new Error(arg)`, or the `SyntaxError`
of `JSON.parse` for a text. -/
inductive Outcome
  | returned (v : Option JsValue)
  | threw (arg : JsValue)
  | syntax_error (res : String)

/-- `new Error(arg).message`. -/
def message : JsValue → List UInt16
  | .string units => units
  | v => env.text_of v

/-- The message of the `Error` a call throws; a `SyntaxError` is one. -/
def Outcome.message? : Outcome → Option (List UInt16)
  | .returned _ => none
  | .threw arg => some (message env arg)
  | .syntax_error res => some (env.syntax_message res)

/-- The wrapper, from what `__read` returned. -/
def unwrap (res : String) : Outcome :=
  match json_parse env res with
  | none => .syntax_error res
  | some parsed =>
      match parsed.get_property "__readError" with
      | some marker =>
          -- `if (parsed && parsed.__readError)`
          if parsed.truthy && marker.truthy then .threw marker
          else .returned (parsed.get_property "value")
      | none => .returned (parsed.get_property "value")

/-- `read(arg)`, with the argument stringified. -/
def read (to_string : Value → Except String String) (hook : String → Except String String)
    (arg : String) : Outcome :=
  unwrap env (native_read to_string (hook arg))

/-! ## 3. Faithfulness -/

/-- The call throws an `Error` with this message. -/
def Outcome.Throws (outcome : Outcome) (text : List UInt16) : Prop :=
  outcome.message? env = some text

/-- The script sees what the hook returned: an `Error` is thrown with a message iff the hook
returned that message as an error, and something is returned iff it is the value of the JSON the
hook returned. -/
structure Faithful (answer : Except String String) (outcome : Outcome) : Prop where
  throws : ∀ text, outcome.Throws env text ↔ ∃ m, answer = .error m ∧ utf16 m = text
  returns : ∀ v, outcome = .returned v
    ↔ ∃ j value, answer = .ok j ∧ json_parse env j = some value ∧ v = some value

/-- The writer writes a string as JSON of that string. -/
def WritesStrings (to_string : Value → Except String String) : Prop :=
  ∀ m, ∃ text, to_string (.string m) = .ok text
    ∧ JsonText.parse (utf16 text) = some (.string (utf16 m))

end

/-- The text is JSON. -/
def IsJson (text : String) : Prop := (JsonText.parse (utf16 text)).isSome

/-- The answers that get through: errors with a message, and JSON. -/
def GetsThrough : Except String String → Prop
  | .error m => m ≠ ""
  | .ok j => IsJson j

section
variable {env : JsEnv}

/-- An object with one property around a document. -/
theorem parse_wrapped {front j : String} {name : List UInt16} {v : JsonText.Tree}
    (hfront : JsonText.run JsonText.init (utf16 front) = some ⟨.value, [.member [] name]⟩)
    (h : JsonText.parse (utf16 j) = some v) :
    JsonText.parse (utf16 (front ++ j ++ "\x7d")) = some (.object [(name, v)]) := by
  have hunits : utf16 (front ++ j ++ "\x7d") = utf16 front ++ (utf16 j ++ [0x7d]) := by
    simp only [utf16, String.toList_append, List.flatMap_append, List.append_assoc]
    rfl
  rw [hunits, JsonText.parse, JsonText.run_append_of hfront, JsonText.run_last_member h]
  rfl

/-- JSON in an answer comes out as its value, whatever it is. -/
theorem unwrap_value {j : String} {v : JsonText.Tree} (h : JsonText.parse (utf16 j) = some v) :
    unwrap env ("\x7b\"value\":" ++ j ++ "\x7d") = .returned (some (denote env v)) := by
  have hfront : JsonText.run JsonText.init (utf16 "\x7b\"value\":")
      = some ⟨.value, [.member [] (utf16 "value")]⟩ := rfl
  rw [unwrap, json_parse, parse_wrapped hfront h, Option.map_some, denote, denote_members,
    denote_members]
  rfl

/-- A message comes out as an error, unless it is empty. -/
theorem unwrap_error {m text : String} (h : JsonText.parse (utf16 text) = some (.string (utf16 m))) :
    unwrap env ("\x7b\"__readError\":" ++ text ++ "\x7d")
      = if m = "" then .returned none else .threw (.string (utf16 m)) := by
  have hfront : JsonText.run JsonText.init (utf16 "\x7b\"__readError\":")
      = some ⟨.value, [.member [] (utf16 "__readError")]⟩ := rfl
  rw [unwrap, json_parse, parse_wrapped hfront h, Option.map_some, denote, denote_members,
    denote_members, denote]
  by_cases hm : m = ""
  · rw [if_pos hm, hm]
    rfl
  · have htruthy : (JsValue.string (utf16 m)).truthy = true := by
      rw [JsValue.truthy, decide_eq_true_eq]
      exact mt utf16_eq_nil.mp hm
    rw [if_neg hm]
    show (if (JsValue.truthy _ && (JsValue.string (utf16 m)).truthy) = true then _ else _) = _
    rw [htruthy]
    rfl

/-- What a script gets for a hook that failed: the error with its message, or nothing at all if
the message is empty. -/
theorem read_error {to_string : Value → Except String String} (hwrites : WritesStrings to_string)
    {hook : String → Except String String} {arg m : String} (h : hook arg = .error m) :
    read env to_string hook arg
      = if m = "" then .returned none else .threw (.string (utf16 m)) := by
  obtain ⟨text, htext, hparse⟩ := hwrites m
  have hescaped : ((to_string (.string m)).toOption).getD "\"read hook error\"" = text := by
    rw [htext]
    rfl
  have hres : native_read to_string (.error m) = "\x7b\"__readError\":" ++ text ++ "\x7d" :=
    congrArg (fun text => "\x7b\"__readError\":" ++ text ++ "\x7d") hescaped
  rw [read, h, hres]
  exact unwrap_error hparse

/-- What a script gets for a hook that returned. -/
theorem read_ok {to_string : Value → Except String String} {hook : String → Except String String}
    {arg j : String} (h : hook arg = .ok j) :
    read env to_string hook arg = unwrap env ("\x7b\"value\":" ++ j ++ "\x7d") := by
  rw [read, h]
  rfl

/-- An error is passed on faithfully exactly if it is thrown with its message. -/
theorem faithful_error {m : String} {outcome : Outcome} :
    Faithful env (.error m) outcome ↔ outcome.Throws env (utf16 m) := by
  constructor
  · intro h
    exact (h.throws (utf16 m)).mpr ⟨m, rfl, rfl⟩
  · intro hthrows
    have hmessage : outcome.message? env = some (utf16 m) := hthrows
    constructor
    · intro text
      rw [Outcome.Throws, hmessage, Option.some.injEq]
      constructor
      · rintro rfl
        exact ⟨m, rfl, rfl⟩
      · rintro ⟨m', heq, rfl⟩
        rw [Except.error.inj heq]
    · intro v
      refine iff_of_false ?_ fun ⟨_, _, heq, _⟩ => nomatch heq
      rintro rfl
      cases hmessage

/-- With a text that is to be returned nothing is thrown, and something is returned iff it is the
value of the text. -/
theorem faithful_ok {j : String} {outcome : Outcome} :
    Faithful env (.ok j) outcome
      ↔ ∃ value, json_parse env j = some value ∧ outcome = .returned (some value) := by
  constructor
  · rintro ⟨hthrows, hreturns⟩
    have hsilent : outcome.message? env = none := by
      rw [Option.eq_none_iff_forall_ne_some]
      intro text hmessage
      obtain ⟨m, hm, -⟩ := (hthrows text).mp hmessage
      cases hm
    cases outcome with
    | threw arg => cases hsilent
    | syntax_error res => cases hsilent
    | returned v =>
        obtain ⟨j', value, heq, hvalue, rfl⟩ := (hreturns v).mp rfl
        rw [← Except.ok.inj heq] at hvalue
        exact ⟨value, hvalue, rfl⟩
  · rintro ⟨value, hvalue, rfl⟩
    constructor
    · intro text
      exact iff_of_false (fun h => nomatch h) fun ⟨_, heq, _⟩ => nomatch heq
    · intro v
      rw [Outcome.returned.injEq]
      constructor
      · rintro rfl
        exact ⟨j, value, rfl, hvalue, rfl⟩
      · rintro ⟨j', value', heq, hvalue', rfl⟩
        rw [← Except.ok.inj heq, hvalue, Option.some.injEq] at hvalue'
        rw [hvalue']

/-- The script sees what the hook returned iff that gets through: a message that is not empty, or
a text that is JSON. -/
theorem read_faithful_iff {to_string : Value → Except String String}
    (hwrites : WritesStrings to_string) (hook : String → Except String String) (arg : String) :
    Faithful env (hook arg) (read env to_string hook arg) ↔ GetsThrough (hook arg) := by
  cases h : hook arg with
  | error m =>
      rw [read_error hwrites h, faithful_error, GetsThrough]
      by_cases hm : m = ""
      · rw [if_pos hm]
        exact iff_of_false (fun heq => nomatch heq) (fun hne => hne hm)
      · rw [if_neg hm]
        exact iff_of_true rfl hm
  | ok j =>
      rw [read_ok h, faithful_ok, GetsThrough, IsJson, json_parse]
      cases hparse : JsonText.parse (utf16 j) with
      | some v => exact iff_of_true ⟨denote env v, rfl, unwrap_value hparse⟩ rfl
      | none => exact iff_of_false (fun ⟨_, heq, _⟩ => nomatch heq) (fun hsome => nomatch hsome)

end

/-! ## 4. Runs -/

/-- A writer of strings. -/
def quoting : Value → Except String String
  | .string m => .ok (JsonText.quote m)
  | .null | .bool _ | .number _ | .array _ | .object _ => .error "not a string"

theorem quoting_writes : WritesStrings quoting := fun m => ⟨_, rfl, JsonText.parse_quote m⟩

/-- An engine that knows no number. -/
def no_numbers : JsEnv := ⟨fun _ => 0, fun _ => [], fun _ => utf16 "unexpected token"⟩

/-- An error with a message is thrown with it. -/
theorem read_gone : Faithful no_numbers (.error "gone")
    (read no_numbers quoting (fun _ => .error "gone") "null") :=
  (read_faithful_iff quoting_writes (fun _ => .error "gone") "null").mpr
    (show "gone" ≠ "" by decide)

/-- An error without a message is not thrown. -/
theorem read_no_message : ¬ ∀ (env : JsEnv) (to_string : Value → Except String String),
    WritesStrings to_string → ∀ (hook : String → Except String String) (arg : String),
    Faithful env (hook arg) (read env to_string hook arg) := by
  intro hall
  have hread : read no_numbers quoting (fun _ => .error "") "null" = .returned none :=
    (@read_error no_numbers quoting quoting_writes (fun _ => .error "") "null" "" rfl).trans
      (if_pos rfl)
  have hfaithful := hall no_numbers quoting quoting_writes (fun _ => .error "") "null"
  have hthrows := faithful_error.mp hfaithful
  rw [hread] at hthrows
  cases hthrows

end Runlet.Read
