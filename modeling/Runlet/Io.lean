/-
`io.call`, the script's side of the egress seam: `inject_egress`
(`crates/runlet-core/src/engine.rs`), the wrapper `js/io.js`, and the tag an
`EgressError` is rendered to (`crates/fabric-wire/src/egress.rs`, `errors.rs`).

The native `__io` returns one string for both ends of `Egress::call`: the JSON of
a success verbatim, or the tag of an error. The wrapper parses it and tells the
two apart by the truthiness of a property called `error`.

A JavaScript value is what `JSON.parse` can produce: a number is an IEEE-754 bit
pattern and a string its UTF-16 code units, so that every parsed document has a
value here. A property read finds own properties only: the built-in prototypes
have none called `error`. `JSON.parse` and the JSON writer are a `JsonLib`; what
is assumed of the pair, and of which documents, is `JsonLib.LawfulOn`.

`call_faithful_iff` is the exact condition under which a call shows the script
what the egress answered.
-/
import Runlet.Lib.Text
import Runlet.Mongo

set_option autoImplicit false

namespace Runlet.Io

open Text Runlet.Json Runlet.Wire Runlet.Mongo

/-! ## JavaScript values -/

/-- The values `JSON.parse` returns. -/
inductive JsValue
  | null
  | bool (b : Bool)
  | number (bits : UInt64)
  | string (units : List UInt16)
  | array (items : List JsValue)
  | object (props : List (List UInt16 × JsValue))

namespace JsValue

/-- `ToBoolean`: the falsy numbers are the two zeros and the NaNs. -/
def truthy : JsValue → Bool
  | null => false
  | bool b => b
  | number bits =>
    let magnitude := bits &&& 0x7fffffffffffffff
    magnitude != 0 && magnitude ≤ 0x7ff0000000000000
  | string units => units ≠ []
  | array _ => true
  | object _ => true

/-- `value.key`; `none` is `undefined`. -/
def get_property (key : String) : JsValue → Option JsValue
  | object props => (props.find? fun prop => prop.1 == utf16 key).map Prod.snd
  | null | bool _ | number _ | string _ | array _ => none

/-- `res && res.error`, as a condition. -/
def has_error (res : JsValue) : Bool :=
  res.truthy && (res.get_property "error").any truthy

end JsValue

/-! ## The JSON libraries -/

/-- `serde_json`'s writer and the engine's `JSON.parse`. -/
structure JsonLib where
  to_string : Value → Except String String
  parse : String → Option JsValue

namespace JsonLib

variable (lib : JsonLib)

/-- The JavaScript value a JSON value denotes: what its text parses to. -/
def denotes (v : Value) : Option JsValue :=
  match lib.to_string v with
  | .ok text => lib.parse text
  | .error _ => none

/-- The `Display` text of a JSON value. -/
def display (v : Value) : String := (lib.to_string v).toOption.getD ""

/-- The properties the seam is about. -/
def tag_keys : List String := ["error", "code", "retryable", "owner", "source", "details"]

/-- On the values of `domain`, the writer does not fail, and the parser reads
literals and strings back, and of an object the properties of a tag. -/
structure LawfulOn (domain : Value → Prop) : Prop where
  to_string_ok : ∀ v, domain v → ∃ text, lib.to_string v = .ok text
  denotes_bool : ∀ b, domain (.bool b) → lib.denotes (.bool b) = some (.bool b)
  denotes_string : ∀ s, domain (.string s) → lib.denotes (.string s) = some (.string (utf16 s))
  denotes_object : ∀ fields : List (String × Value), domain (.object fields) →
    (fields.map Prod.fst).Nodup → ∃ props, lib.denotes (.object fields) = some (.object props)
      ∧ ∀ key ∈ tag_keys, (JsValue.object props).get_property key
          = (Json.get fields key).bind lib.denotes

end JsonLib

/-! ## The tag of an error -/

/-- The object `DynamicFault` serializes to; absent details are left out. -/
def dynamic_fault (error code : String) (retryable : Bool) (owner : ErrorOwner) (source : String)
    (details : Option Value) : List (String × Value) :=
  [("error", Value.string error), ("code", Value.string code), ("retryable", Value.bool retryable),
    ("owner", Value.string owner.as_str), ("source", Value.string source)]
    ++ (details.map fun d => ("details", d)).toList

def FALLBACK_DYNAMIC_FAULT_JSON : String :=
  "\x7b\"error\":\"internal error\",\"code\":\"INTERNAL\",\"retryable\":true,"
    ++ "\"owner\":\"operator\",\"source\":\"engine\"\x7d"

/-- `dynamic_fault_json`. -/
def dynamic_fault_json (lib : JsonLib) (fields : List (String × Value)) : String :=
  match lib.to_string (.object fields) with
  | .ok text => text
  | .error _ => FALLBACK_DYNAMIC_FAULT_JSON

/-- The fields of `EgressError::to_tag_json`. -/
def tag_fields (err : EgressError) : List (String × Value) :=
  dynamic_fault err.message err.code err.retryable err.owner err.source err.details

/-- `EgressError::to_tag_json`. -/
def to_tag_json (lib : JsonLib) (err : EgressError) : String := dynamic_fault_json lib (tag_fields err)

/-! ## The call -/

/-- `Egress::call`: name, action, payload. -/
abbrev Egress := String → String → String → Except EgressError String

/-- The one string both ends of an egress call are handed back as. -/
def raw_answer (lib : JsonLib) : Except EgressError String → String
  | .ok json => json
  | .error err => to_tag_json lib err

/-- The native `__io`, with the operation counter it shares with the other calls
of the execution. -/
def native_io (lib : JsonLib) (egress : Egress) (max_ops used : ℕ) (name action payload : String) :
    String × ℕ :=
  if max_ops ≤ used then
    -- refused before the egress is asked, and not counted
    (dynamic_fault_json lib
      (dynamic_fault ("too many operations: limit is " ++ toString max_ops ++ " per execution")
        "IO_OP_LIMIT" false .developer "engine" none), used)
  else (raw_answer lib (egress name action payload), used + 1)

/-- How a call ends in the script: a value, the tagged error, or the syntax error
of `JSON.parse`. -/
inductive Outcome
  | returned (res : JsValue)
  | threw (runlet : JsValue)
  | syntax_error

/-- The wrapper of `io.js`, from what `__io` returned. -/
def unwrap (lib : JsonLib) (raw : String) : Outcome :=
  match lib.parse raw with
  | none => .syntax_error
  -- `if (res && res.error) throw`: nothing else tells a failure from a value
  | some res => if res.has_error then .threw res else .returned res

/-- `io.call(name, action, payload)`, with the payload stringified. -/
def call (lib : JsonLib) (egress : Egress) (max_ops used : ℕ) (name action payload : String) :
    Outcome × ℕ :=
  let (raw, used) := native_io lib egress max_ops used name action payload
  (unwrap lib raw, used)

/-! ## Faithfulness -/

/-- The tag carries everything the error says. -/
structure Carries (lib : JsonLib) (tag : JsValue) (err : EgressError) : Prop where
  message : tag.get_property "error" = some (.string (utf16 err.message))
  code : tag.get_property "code" = some (.string (utf16 err.code))
  source : tag.get_property "source" = some (.string (utf16 err.source))
  retryable : tag.get_property "retryable" = some (.bool err.retryable)
  owner : tag.get_property "owner" = some (.string (utf16 err.owner.as_str))
  details : tag.get_property "details" = err.details.bind lib.denotes

/-- The script sees what the egress answered: the value a successful answer
denotes, returned; or the tag of the error, thrown. -/
def Shows (lib : JsonLib) : Except EgressError String → Outcome → Prop
  | .ok json, outcome => ∃ v, lib.parse json = some v ∧ outcome = .returned v
  | .error err, outcome => ∃ tag, outcome = .threw tag ∧ Carries lib tag err

/-- The answers that get through: JSON without a truthy `error` property, and
errors with a message. -/
def GetsThrough (lib : JsonLib) : Except EgressError String → Prop
  | .ok json => ∃ v, lib.parse json = some v ∧ v.has_error = false
  | .error err => err.message ≠ ""

/-- The documents an error's tag is made of. -/
def TagIn (domain : Value → Prop) (err : EgressError) : Prop :=
  domain (.object (tag_fields err)) ∧ ∀ field ∈ tag_fields err, domain field.2

/-- No field of a tag comes twice. -/
theorem tag_fields_nodup (err : EgressError) : ((tag_fields err).map Prod.fst).Nodup := by
  cases hd : err.details with
  | none =>
      simp only [tag_fields, dynamic_fault, hd, Option.map_none, Option.toList_none,
        List.append_nil, List.map_cons, List.map_nil]
      decide
  | some d =>
      simp only [tag_fields, dynamic_fault, hd, Option.map_some, Option.toList_some,
        List.cons_append, List.nil_append, List.map_cons, List.map_nil]
      decide

/-- A tag is taken for an error exactly when its message is not empty. -/
theorem has_error_of_carries {lib : JsonLib} {props : List (List UInt16 × JsValue)}
    {err : EgressError} (h : Carries lib (.object props) err) :
    (JsValue.object props).has_error = true ↔ err.message ≠ "" := by
  rw [JsValue.has_error, h.message]
  simp [JsValue.truthy]

section Faithful

variable {lib : JsonLib} {domain : Value → Prop} (hlib : lib.LawfulOn domain)

include hlib

/-- The tag of an error parses to an object that carries it: the text of the tag is that object's,
and its fields are read back as they were written. -/
theorem parse_to_tag_json {err : EgressError} (htag : TagIn domain err) :
    ∃ props, lib.parse (to_tag_json lib err) = some (.object props)
      ∧ Carries lib (.object props) err := by
  obtain ⟨hobject, hfields⟩ := htag
  obtain ⟨props, hprops, hget⟩ := hlib.denotes_object _ hobject (tag_fields_nodup err)
  refine ⟨props, ?_, ?_⟩
  · obtain ⟨text, htext⟩ := hlib.to_string_ok _ hobject
    rw [← hprops, to_tag_json, dynamic_fault_json, JsonLib.denotes, htext]
  · constructor
    · rw [hget "error" (by decide)]
      exact hlib.denotes_string err.message (hfields ("error", _) (by simp [tag_fields, dynamic_fault]))
    · rw [hget "code" (by decide)]
      exact hlib.denotes_string err.code (hfields ("code", _) (by simp [tag_fields, dynamic_fault]))
    · rw [hget "source" (by decide)]
      exact hlib.denotes_string err.source
        (hfields ("source", _) (by simp [tag_fields, dynamic_fault]))
    · rw [hget "retryable" (by decide)]
      exact hlib.denotes_bool err.retryable
        (hfields ("retryable", _) (by simp [tag_fields, dynamic_fault]))
    · rw [hget "owner" (by decide)]
      exact hlib.denotes_string err.owner.as_str
        (hfields ("owner", _) (by simp [tag_fields, dynamic_fault]))
    · rw [hget "details" (by decide)]
      cases hd : err.details with
      | none => simp [tag_fields, dynamic_fault, Json.get, hd]
      | some d => simp [tag_fields, dynamic_fault, Json.get, hd]

/-- What the wrapper makes of either answer. An error has a tag, which is read back; an answer has
none, unless it is an object that looks like one. -/
theorem shows_iff (answer : Except EgressError String)
    (htag : ∀ err, answer = .error err → TagIn domain err) :
    Shows lib answer (unwrap lib (raw_answer lib answer)) ↔ GetsThrough lib answer := by
  cases answer with
  | ok json =>
      simp only [Shows, GetsThrough, raw_answer, unwrap]
      cases hparse : lib.parse json with
      | none => simp
      | some v =>
          by_cases hv : v.has_error = true
          · simp [hv]
          · simp [hv]
  | error err =>
      simp only [Shows, GetsThrough, raw_answer, unwrap]
      obtain ⟨props, hparse, hcarries⟩ := parse_to_tag_json hlib (htag err rfl)
      rw [hparse]
      by_cases hmsg : err.message = ""
      -- the tag goes to the script as a value
      · have hfalse : ¬ (JsValue.object props).has_error = true := by
          rw [has_error_of_carries hcarries]
          exact not_not_intro hmsg
        simp [hfalse, hmsg]
      · have htrue := (has_error_of_carries hcarries).mpr hmsg
        simp only [htrue, if_true, ne_eq, hmsg, not_false_eq_true, iff_true]
        exact ⟨_, rfl, hcarries⟩

end Faithful

/-- A document with an `error` field that JavaScript takes for true. -/
def ErrorField (lib : JsonLib) (text : BsonText) (doc : Document) : Prop :=
  ∃ v js, Json.get (insert_fields text doc []) "error" = some v ∧ lib.denotes v = some js
    ∧ js.truthy = true

/-- A found document gets through exactly when it has no such field. -/
theorem getsThrough_document {lib : JsonLib} {domain : Value → Prop} (hlib : lib.LawfulOn domain)
    {text : BsonText} {doc : Document} (hdoc : domain (document_to_json text doc)) :
    GetsThrough lib (.ok (lib.display (document_to_json text doc)))
      ↔ ¬ ErrorField lib text doc := by
  have hparse : lib.parse (lib.display (document_to_json text doc))
      = lib.denotes (document_to_json text doc) := by
    obtain ⟨json, hjson⟩ := hlib.to_string_ok _ hdoc
    rw [JsonLib.display, JsonLib.denotes, hjson]
    rfl
  obtain ⟨props, hprops, hget⟩ :=
    hlib.denotes_object _ hdoc (nodup_document text doc)
  rw [GetsThrough, hparse, document_to_json, hprops]
  simp only [Option.some.injEq, exists_eq_left', JsValue.has_error, JsValue.truthy, Bool.true_and,
    hget "error" (by decide)]
  rw [ErrorField]
  cases hfield : Json.get (insert_fields text doc []) "error" with
  | none => simp
  | some v =>
      cases hjs : lib.denotes v with
      | none => simp [hjs]
      | some js => simp [hjs]

/-- **Faithfulness of `io.call`.** Within the operation limit, the script sees
what the egress answered if and only if the answer is JSON without a truthy
`error` property, or an error with a message; for a document of `find_one`, if
and only if it has no `error` field that JavaScript takes for true. -/
theorem call_faithful_iff {lib : JsonLib} {domain : Value → Prop} (hlib : lib.LawfulOn domain)
    (egress : Egress) (max_ops used : ℕ) (hused : used < max_ops) (name action payload : String)
    (htag : ∀ err, egress name action payload = .error err → TagIn domain err) :
    (Shows lib (egress name action payload)
        (call lib egress max_ops used name action payload).1
      ↔ GetsThrough lib (egress name action payload))
    ∧ ∀ (text : BsonText) (doc : Document) (filter : Except MongoError Document)
        (find_one : Document → Except MongoError (Option Document)) (outcome : MongoOutcome),
      domain (document_to_json text doc) →
      do_find_one text lib.display filter find_one = .ok outcome →
      (∃ f, filter = .ok f ∧ find_one f = .ok (some doc)) →
      egress name action payload = .ok outcome.json →
      (Shows lib (egress name action payload)
          (call lib egress max_ops used name action payload).1
        ↔ ¬ ErrorField lib text doc) := by
  have hcall : Shows lib (egress name action payload)
      (call lib egress max_ops used name action payload).1
        ↔ GetsThrough lib (egress name action payload) := by
    rw [← shows_iff hlib _ htag, call, native_io, if_neg (not_le.mpr hused)]
  refine ⟨hcall, ?_⟩
  rintro text doc filter find_one outcome hdoc hout ⟨f, hfilter, hfound⟩ hanswer
  have hjson : outcome.json = lib.display (document_to_json text doc) := by
    rw [do_find_one, hfilter] at hout
    simp only [bind, Except.bind, hfound, pure, Except.pure, Except.ok.injEq] at hout
    rw [← hout]
  rw [hcall, hanswer, hjson, getsThrough_document hlib hdoc]

/-! ## Three answers -/

/-- An error with a message. -/
def db_timeout : EgressError :=
  { EgressError.new "db" "DB_TIMEOUT" "query timed out" with retryable := true }

/-- An error whose driver had nothing to say. -/
def silent_error : EgressError := EgressError.new "redis" "REDIS_ERROR" ""

/-- A user's document with a field called `error`. -/
def log_entry : Document := [("error", .string "disk full")]

/-- A JavaScript object with these properties. -/
def js_object (props : List (String × JsValue)) : JsValue :=
  .object (props.map fun prop => (utf16 prop.1, prop.2))

def js_string (s : String) : JsValue := .string (utf16 s)

/-- The values of the three answers, with their texts and what these parse to. -/
def answer_table : List (Value × String × JsValue) :=
  [(.object (tag_fields db_timeout),
      "\x7b\"error\":\"query timed out\",\"code\":\"DB_TIMEOUT\",\"retryable\":true,"
        ++ "\"owner\":\"operator\",\"source\":\"db\"\x7d",
      js_object [("error", js_string "query timed out"), ("code", js_string "DB_TIMEOUT"),
        ("retryable", .bool true), ("owner", js_string "operator"), ("source", js_string "db")]),
    (.object (tag_fields silent_error),
      "\x7b\"error\":\"\",\"code\":\"REDIS_ERROR\",\"retryable\":false,"
        ++ "\"owner\":\"operator\",\"source\":\"redis\"\x7d",
      js_object [("error", js_string ""), ("code", js_string "REDIS_ERROR"),
        ("retryable", .bool false), ("owner", js_string "operator"),
        ("source", js_string "redis")]),
    (.object [("error", .string "disk full")], "\x7b\"error\":\"disk full\"\x7d",
      js_object [("error", js_string "disk full")]),
    (.string "query timed out", "\"query timed out\"", js_string "query timed out"),
    (.string "DB_TIMEOUT", "\"DB_TIMEOUT\"", js_string "DB_TIMEOUT"),
    (.bool true, "true", .bool true), (.string "operator", "\"operator\"", js_string "operator"),
    (.string "db", "\"db\"", js_string "db"), (.string "", "\"\"", js_string ""),
    (.string "REDIS_ERROR", "\"REDIS_ERROR\"", js_string "REDIS_ERROR"),
    (.bool false, "false", .bool false), (.string "redis", "\"redis\"", js_string "redis"),
    (.string "disk full", "\"disk full\"", js_string "disk full")]

/-- The two libraries on these values. -/
def answer_lib : JsonLib where
  to_string v :=
    match answer_table.find? fun entry => entry.1 = v with
    | some entry => .ok entry.2.1
    | none => .error "unknown value"
  parse text := (answer_table.find? fun entry => entry.2.1 = text).map fun entry => entry.2.2

/-- The values above. -/
def Answered (v : Value) : Prop := v ∈ answer_table.map Prod.fst

/-- This library is lawful on the values of this example: each of the laws is about a text or a
value that the example has. -/
theorem answer_lib_lawful : answer_lib.LawfulOn Answered := by
  constructor
  · have hall : ∀ v ∈ answer_table.map Prod.fst, (answer_lib.to_string v).isOk = true := by
      decide +kernel
    intro v hv
    have hok := hall v hv
    cases htext : answer_lib.to_string v with
    | error err => simp [htext, Except.isOk, Except.toBool] at hok
    | ok text => exact ⟨text, rfl⟩
  · intro b hb
    cases b with
    | false => rfl
    | true => rfl
  · intro s hs
    have hmem : s ∈ ["query timed out", "DB_TIMEOUT", "operator", "db", "", "REDIS_ERROR", "redis",
        "disk full"] := by
      simpa [Answered, answer_table] using hs
    simp only [List.mem_cons, List.not_mem_nil, or_false] at hmem
    rcases hmem with rfl | rfl | rfl | rfl | rfl | rfl | rfl | rfl <;> rfl
  · intro fields hfields _
    have hmem : fields = tag_fields db_timeout ∨ fields = tag_fields silent_error
        ∨ fields = [("error", .string "disk full")] := by
      simpa [Answered, answer_table] using hfields
    rcases hmem with rfl | rfl | rfl
    · refine ⟨_, rfl, ?_⟩
      simp only [JsonLib.tag_keys, List.forall_mem_cons]
      refine ⟨rfl, rfl, rfl, rfl, rfl, rfl, by nofun⟩
    · refine ⟨_, rfl, ?_⟩
      simp only [JsonLib.tag_keys, List.forall_mem_cons]
      refine ⟨rfl, rfl, rfl, rfl, rfl, rfl, by nofun⟩
    · refine ⟨_, rfl, ?_⟩
      simp only [JsonLib.tag_keys, List.forall_mem_cons]
      refine ⟨rfl, rfl, rfl, rfl, rfl, rfl, by nofun⟩

/-- An egress that answers every call alike. -/
def answering (answer : Except EgressError String) : Egress := fun _ _ _ => answer

/-- A timed-out query is thrown, with everything the error says. -/
theorem call_faithful_db_timeout :
    Shows answer_lib (.error db_timeout)
      (call answer_lib (answering (.error db_timeout)) 1 0 "db" "query" "[]").1 := by
  have hmessage : db_timeout.message ≠ "" := by decide
  refine (call_faithful_iff answer_lib_lawful (answering (.error db_timeout)) 1 0 (by decide)
    "db" "query" "[]" ?_).1.mpr hmessage
  rintro err ⟨⟩
  refine ⟨?_, ?_⟩
  · show _ ∈ _
    decide +kernel
  · show ∀ field ∈ tag_fields db_timeout, field.2 ∈ _
    decide +kernel

/-- The texts of BSON types that do not occur below. -/
def no_text : BsonText := ⟨fun _ => "", fun _ => none, fun _ => ""⟩

/-- The document is thrown although it was found, and the error without a message
is returned although the call failed. -/
theorem answers_change_sides :
    (∃ outcome res,
      do_find_one no_text answer_lib.display (.ok []) (fun _ => .ok (some log_entry)) = .ok outcome
      ∧ (call answer_lib (answering (.ok outcome.json)) 1 0 "mongo" "find_one" "[]").1 = .threw res
      ∧ ¬ Shows answer_lib (.ok outcome.json)
          (call answer_lib (answering (.ok outcome.json)) 1 0 "mongo" "find_one" "[]").1)
    ∧ ∃ res,
      (call answer_lib (answering (.error silent_error)) 1 0 "redis" "get" "[]").1 = .returned res
      ∧ ¬ Shows answer_lib (.error silent_error)
          (call answer_lib (answering (.error silent_error)) 1 0 "redis" "get" "[]").1 := by
  refine ⟨⟨_, _, rfl, rfl, ?_⟩, ⟨_, rfl, ?_⟩⟩
  · rintro ⟨v, -, hout⟩
    exact Outcome.noConfusion hout
  · rintro ⟨tag, hout, -⟩
    exact Outcome.noConfusion hout

end Runlet.Io
