/-
From a throw to a response: how the engine classifies what a handler threw (`invoke_handler`,
`classify_throw` and `read_capability_tag` in `crates/runlet-core/src/engine.rs`), and what of it a
response shows.

An egress error crosses two languages on its way out. It is written as a tag, parsed and thrown by
`js/io.js`, stringified again by the engine and read into a `CapabilityTag`. `uncaught_response` is
the whole way: which response an egress error comes to that no script catches.

The text of a driver is in the tag and in the message of the thrown error, and only `error_debug`
may show it. `redacted_iff` says what a response without debug does show of an engine error, and
`gated_data_stays_inside` that two requests which differ in the rest run and answer alike.
-/
import Runlet.Envelope
import Runlet.Io
import Runlet.Lib.Digits

set_option autoImplicit false

namespace Runlet.Throw

open Effects Text Runlet.Json Runlet.Wire Runlet.Errors Runlet.Io Runlet.Handler

/-! ## 1. The tag -/

/-- The `__runlet` tag as it is read back. -/
structure CapabilityTag where
  error : Option String
  code : String
  retryable : Bool
  source : String
  owner : Option String
  details : Option Value

/-- The fields of `CapabilityTag`, in the order of their declaration. -/
def TAG_FIELDS : List String := ["error", "code", "retryable", "source", "owner", "details"]

/-- Where a derived struct finds a field: in an object by its name, in an array by its place. -/
def fields_of (names : List String) : Value → Option (String → Option Value)
  | .object members => some (Json.get members)
  | .array items =>
    if items.length ≤ names.length then some fun name => items[names.idxOf name]? else none
  | .null | .bool _ | .number _ | .string _ => none

/-- A `String`; it has no default. -/
def string_value : Option Value → Option String
  | some (.string s) => some s
  | _ => none

/-- `Option<String>` with a default. -/
def optional_string : Option Value → Option (Option String)
  | none | some .null => some none
  | some (.string s) => some (some s)
  | some (.bool _) | some (.number _) | some (.array _) | some (.object _) => none

/-- `bool` with a default. -/
def bool_or_default : Option Value → Option Bool
  | none => some false
  | some (.bool b) => some b
  | some _ => none

/-- `Option<Value>` with a default: `null` is none. -/
def optional_value : Option Value → Option Value
  | none | some .null => none
  | some v => some v

/-- The derived `Deserialize`. -/
def CapabilityTag.from_value (value : Value) : Option CapabilityTag := do
  let field ← fields_of TAG_FIELDS value
  let error ← optional_string (field "error")
  let code ← string_value (field "code")
  let retryable ← bool_or_default (field "retryable")
  let source ← string_value (field "source")
  let owner ← optional_string (field "owner")
  return { error, code, retryable, source, owner, details := optional_value (field "details") }

/-! ## 2. The throw -/

/-- What a script threw, as far as it is looked at. A property that is no string, or whose getter
throws, is `none`; of the property `__runlet` it is what `JSON.stringify` makes of it, `none` if it
is absent, `undefined` or `null`. -/
inductive Thrown
  | string (units : List UInt16)
  | primitive
  | object (message stack : Option (List UInt16))
      (runlet : Option (Except String (Option (List UInt16))))

/-- `read_str_prop`: a string that is a text, and not empty. -/
def read_str_prop (prop : Option (List UInt16)) : Option String :=
  (prop.bind fun units => (to_rust_string units).toOption).filter (· ≠ "")

section Classify

-- `serde_json::from_str` into a `Value`
variable (from_str : String → Option Value)

def read_capability_tag (runlet : Option (Except String (Option (List UInt16))))
    (stack : Option String) : Option CapabilityErr := do
  let stringified ← runlet
  let units ← stringified.toOption.join
  let json ← (to_rust_string units).toOption
  let tag ← (from_str json).bind CapabilityTag.from_value
  let source ← ErrorSource.parse tag.source
  return {
    source
    code := tag.code
    retryable := tag.retryable
    owner := (tag.owner.bind ErrorOwner.parse).getD .operator
    raw := tag.error
    stack
    details := tag.details }

/-- `classify_throw`: the deadline first, then the tag. -/
def classify_throw (timed_out : Bool) (limit_ms : ℕ) (thrown : Thrown) : EngineError :=
  if timed_out then .timeout limit_ms
  else
    match thrown with
    | .string units => .script ((to_rust_string units).toOption.getD "script error") none
    | .primitive => .script "script error" none
    | .object message stack runlet =>
      let stack := read_str_prop stack
      match read_capability_tag from_str runlet stack with
      | some cap => .capability cap
      | none => .script ((read_str_prop message).getD "") stack

/-- What the call of a handler came to. -/
inductive Called
  | returned (ret : Returned)
  | threw (thrown : Thrown)

/-- `invoke_handler`; a context that does not parse never gets to the call. -/
def invoke_handler (timed_out : Bool) (limit_ms : ℕ) (called : Option Called) : ExecOutcome :=
  match called with
  | none => .error .memory_limit
  | some (.returned ret) =>
    match extract_json_string ret with
    | .ok json => .success json
    | .error err => .error (.internal err)
  | some (.threw thrown) => .error (classify_throw from_str timed_out limit_ms thrown)

end Classify

def enforce_output_cap (outcome : ExecOutcome) (max_output_size : ℕ) : ExecOutcome :=
  if max_output_size = 0 then outcome
  else
    match outcome with
    | .success json =>
      if max_output_size < (utf8 json).length then
        .error (.output_too_large (utf8 json).length max_output_size)
      else outcome
    | .error _ => outcome

/-! ## 3. The tag through JavaScript -/

/-- The engine's `JSON.stringify` and `String(…)`, and `serde_json`'s reader, beside the two ends of
`io.call`. -/
structure JsLib extends JsonLib where
  stringify : JsValue → Except String (Option (List UInt16))
  to_text : JsValue → List UInt16
  from_str : String → Option Value

/-- On the values of `domain`, an object that was parsed is written back with its members, each as
JavaScript holds it: strings and literals as they were, numbers as far as a double goes. -/
structure JsLib.ReadsBackOn (js : JsLib) (domain : Value → Prop) (through : Value → Value) :
    Prop where
  lawful : js.LawfulOn domain
  text_string : ∀ units, js.to_text (.string units) = units
  object : ∀ fields v, domain (.object fields) → js.denotes (.object fields) = some v →
    ∃ text, js.stringify v = .ok (some (utf16 text))
      ∧ js.from_str text = some (.object (fields.map fun field => (field.1, through field.2)))
  through_null : through .null = .null
  through_bool : ∀ b, through (.bool b) = .bool b
  through_string : ∀ s, through (.string s) = .string s

/-- The error `io.js` throws: `new Error(res.error)`, with `res` as its tag. -/
def thrown_error (js : JsLib) (tag : JsValue) (stack : Option (List UInt16)) : Thrown :=
  .object ((tag.get_property "error").map js.to_text) stack (some (js.stringify tag))

/-- The class of an egress error that no script catches. One whose source is not known to the engine
is the script's own. -/
def classified (through : Value → Value) (err : EgressError) (stack : Option String) : EngineError :=
  match ErrorSource.parse err.source with
  | some source =>
    .capability {
      source
      code := err.code
      retryable := err.retryable
      owner := err.owner
      raw := some err.message
      stack
      details := optional_value (err.details.map through) }
  | none => .script err.message stack

section Classified

variable {js : JsLib} {domain : Value → Prop} {through : Value → Value}

theorem to_rust_string_utf16 (s : String) : to_rust_string (utf16 s) = .ok s :=
  to_rust_string_eq_ok.mpr rfl

theorem read_str_prop_utf16 {s : String} (h : s ≠ "") : read_str_prop (some (utf16 s)) = some s := by
  rw [read_str_prop, Option.bind_some, to_rust_string_utf16]
  exact Option.filter_eq_some_iff.mpr ⟨rfl, by simpa using h⟩

/-- What is read back of the tag of an error. -/
theorem from_value_tag (hjs : js.ReadsBackOn domain through) (err : EgressError) :
    CapabilityTag.from_value
        (.object ((tag_fields err).map fun field => (field.1, through field.2)))
      = some { error := some err.message, code := err.code, retryable := err.retryable
               source := err.source, owner := some err.owner.as_str
               details := optional_value (err.details.map through) } := by
  have hdetails : ∀ d : Option Value, Json.get ((d.map fun d => ("details", d)).toList.map
      fun field => (field.1, through field.2)) "details" = d.map through := by
    intro d
    cases d with
    | none => rfl
    | some d => rfl
  simp only [tag_fields, dynamic_fault, List.map_append, List.map_cons, List.map_nil,
    hjs.through_string, hjs.through_bool]
  have hget : ∀ key fields rest, Json.get (fields ++ rest) key
      = ((Json.get fields key).or (Json.get rest key)) := by
    intro key fields rest
    simp only [Json.get, List.find?_append, Option.map_or]
  unfold CapabilityTag.from_value fields_of
  simp only [Option.bind_eq_bind, Option.bind_some, hget, hdetails]
  rfl

theorem thrown_error_of_carries (hjs : js.ReadsBackOn domain through) {err : EgressError}
    {tag : JsValue} (hcarries : Carries js.toJsonLib tag err) (stack : Option (List UInt16)) :
    thrown_error js tag stack = .object (some (utf16 err.message)) stack (some (js.stringify tag)) := by
  rw [thrown_error, hcarries.message, Option.map_some, hjs.text_string]

/-- How the error `io.js` throws for an egress error is classified. Its tag reads back as the
object it was, and the deadline goes before everything else. -/
theorem classify_thrown_error (hjs : js.ReadsBackOn domain through) {err : EgressError}
    (htag : TagIn domain err) (hmessage : err.message ≠ "") {tag : JsValue}
    (hdenotes : js.denotes (.object (tag_fields err)) = some tag)
    (hcarries : Carries js.toJsonLib tag err) (timed_out : Bool) (limit_ms : ℕ)
    (stack : Option (List UInt16)) :
    classify_throw js.from_str timed_out limit_ms (thrown_error js tag stack)
      = if timed_out then .timeout limit_ms else classified through err (read_str_prop stack) := by
  rw [thrown_error_of_carries hjs hcarries, classify_throw]
  by_cases htime : timed_out = true
  · rw [if_pos htime, if_pos htime]
  · obtain ⟨text, hstringify, hread⟩ := hjs.object _ _ htag.1 hdenotes
    rw [if_neg htime, if_neg htime]
    have hcap : read_capability_tag js.from_str (some (js.stringify tag)) (read_str_prop stack)
        = (ErrorSource.parse err.source).map fun source =>
          { source, code := err.code, retryable := err.retryable, owner := err.owner
            raw := some err.message, stack := read_str_prop stack
            details := optional_value (err.details.map through) } := by
      unfold read_capability_tag
      rw [hstringify]
      simp only [Option.bind_eq_bind, Option.bind_some, Except.toOption, Option.join_some,
        to_rust_string_utf16, hread, from_value_tag hjs, ErrorOwner.parse_as_str, Option.getD_some]
      cases ErrorSource.parse err.source with
      | none => rfl
      | some source => rfl
    simp only [hcap, classified]
    cases ErrorSource.parse err.source with
    | none => rw [Option.map_none, read_str_prop_utf16 hmessage, Option.getD_some]
    | some source => rfl

end Classified

/-! ## 4. An egress error that no script catches -/

/-- What a client is told of an egress error that no script catches. -/
def uncaught_envelope (through : Value → Value) (err : EgressError) (stack : Option String)
    (error_debug : Bool) : ErrorEnvelope :=
  match ErrorSource.parse err.source with
  | some source =>
    { category := .capability
      source
      code := err.code
      message := some (capability_message source)
      retryable := err.retryable
      owner := err.owner
      details := optional_value (err.details.map through)
      debug := if error_debug then some ⟨stack, some err.message⟩ else none }
  -- the text of the driver is the message of a script error
  | none =>
    { category := .script
      source := .handler
      code := "SCRIPT_ERROR"
      message := some err.message
      retryable := false
      owner := .developer
      debug := if error_debug then stack.map fun stack => ⟨some stack, none⟩ else none }

/-- The envelope of an error that was not caught is the one that the seam had. -/
theorem into_envelope_classified (through : Value → Value) (err : EgressError)
    (stack : Option String) (error_debug : Bool) :
    (classified through err stack).into_envelope error_debug
      = uncaught_envelope through err stack error_debug := by
  unfold classified uncaught_envelope
  cases ErrorSource.parse err.source with
  | some source => cases error_debug <;> cases stack <;> rfl
  | none => cases error_debug <;> cases stack <;> rfl

/-- An error of a capability is answered `200`. -/
theorem http_status_classified (through : Value → Value) (err : EgressError)
    (stack : Option String) : (classified through err stack).http_status = 200 := by
  unfold classified
  cases ErrorSource.parse err.source with
  | some source => rfl
  | none => rfl

/-- An engine's error is answered with its own response. -/
theorem result_respond_engine_error (state : AppState) (identity : Option Identity.TrustedIdentity)
    (info : Meta) (err : EngineError) :
    (respond_engine_error state identity info err).result
      = .ok (engine_error_response err info state.error_debug) := by
  unfold respond_engine_error emit_executed
  by_cases hevents : state.events = true
  · rw [if_pos hevents]
    rfl
  · rw [if_neg hevents]
    rfl

/-- An engine error of a run that came to an end. -/
theorem result_build_response_error (w : World) (state : AppState)
    (identity : Option Identity.TrustedIdentity) (err : EngineError) (metrics : ExecMetrics)
    (backend : BackendMetrics) (base_meta : Meta) :
    (build_response w state identity (.ok (.ok ⟨.error err, metrics⟩, backend)) base_meta).result
      = .ok (engine_error_response err (base_meta.with_metrics metrics backend)
          state.error_debug) := by
  unfold build_response
  rw [result_bind (result_perform), result_bind (a := ()) rfl]
  exact result_respond_engine_error state identity _ err

/-- **An egress error, from the egress to the client.** Within the operation limit it is thrown, if
it has a message. If no script catches it, and the deadline has not passed, the response has status
200, and tells the client what the egress said of it; the message of the driver is shown under
`error_debug`, and of an error whose source the engine does not know always. -/
theorem uncaught_response {js : JsLib} {domain : Value → Prop} {through : Value → Value}
    (hjs : js.ReadsBackOn domain through) (egress : Egress) {max_ops used : ℕ}
    (hused : used < max_ops) (name action payload : String) {err : EgressError}
    (hanswer : egress name action payload = .error err) (htag : TagIn domain err) :
    ((∃ tag, (call js.toJsonLib egress max_ops used name action payload).1 = .threw tag)
        ↔ err.message ≠ "")
    ∧ ∀ tag, (call js.toJsonLib egress max_ops used name action payload).1 = .threw tag →
      ∀ (stack : Option (List UInt16)) (timed_out : Bool) (limit_ms cap : ℕ) (w : World)
        (state : AppState) (identity : Option Identity.TrustedIdentity) (metrics : ExecMetrics)
        (backend : BackendMetrics) (base_meta : Meta),
        let thrown := Called.threw (thrown_error js tag stack)
        let outcome := enforce_output_cap
          (invoke_handler js.from_str timed_out limit_ms (some thrown)) cap
        (build_response w state identity (.ok (.ok ⟨outcome, metrics⟩, backend)) base_meta).result
          = .ok (if timed_out then
              engine_error_response (.timeout limit_ms) (base_meta.with_metrics metrics backend)
                state.error_debug
            else .system_error 200
              (uncaught_envelope through err (read_str_prop stack) state.error_debug)
              (base_meta.with_metrics metrics backend)) := by
  obtain ⟨props, hparse, hcarries⟩ := parse_to_tag_json hjs.lawful htag
  have hcall : (call js.toJsonLib egress max_ops used name action payload).1
      = if (JsValue.object props).has_error then .threw (.object props)
        else .returned (.object props) := by
    simp only [call, native_io, if_neg (not_le.mpr hused), hanswer, raw_answer, unwrap, hparse]
  have hdenotes : js.denotes (.object (tag_fields err)) = some (.object props) := by
    obtain ⟨text, htext⟩ := hjs.lawful.to_string_ok _ htag.1
    rw [to_tag_json, dynamic_fault_json, htext] at hparse
    rw [JsonLib.denotes, htext]
    exact hparse
  rw [hcall]
  by_cases hmessage : err.message = ""
  -- the tag is returned to the script as a value
  · have hvalue : ¬ (JsValue.object props).has_error = true := by
      rw [has_error_of_carries hcarries]
      exact not_not_intro hmessage
    rw [if_neg hvalue]
    exact ⟨iff_of_false (by simp) (not_not_intro hmessage), by simp⟩
  · rw [if_pos ((has_error_of_carries hcarries).mpr hmessage)]
    refine ⟨iff_of_true ⟨_, rfl⟩ hmessage, ?_⟩
    intro tag htag' stack timed_out limit_ms cap w state identity metrics backend base_meta
    obtain rfl := Outcome.threw.inj htag'
    have houtcome : enforce_output_cap (invoke_handler js.from_str timed_out limit_ms
          (some (.threw (thrown_error js (.object props) stack)))) cap
        = .error (if timed_out then .timeout limit_ms
            else classified through err (read_str_prop stack)) := by
      rw [invoke_handler, classify_thrown_error hjs htag hmessage hdenotes hcarries,
        enforce_output_cap, ite_self]
    simp only [houtcome, result_build_response_error]
    by_cases htime : timed_out = true
    · rw [if_pos htime, if_pos htime]
    · rw [if_neg htime, if_neg htime, engine_error_response, http_status_classified,
        into_envelope_classified]
      rfl

/-- The values of one of the answers of `answer_table`. -/
def Told (v : Value) : Prop :=
  Answered v ∧ ∀ fields, v = .object fields → fields = tag_fields db_timeout

/-- The engine on these. -/
def told_lib : JsLib :=
  { answer_lib with
    stringify := fun _ => answer_lib.to_string (.object (tag_fields db_timeout)) |>.map
      fun text => some (utf16 text)
    to_text := fun v =>
      match v with
      | .string units => units
      | _ => []
    from_str := fun text => (answer_table.find? fun entry => entry.2.1 = text).map Prod.fst }

/-- This library reads back what it wrote, on the values of this example. -/
theorem told_lib_reads_back : told_lib.ReadsBackOn Told id where
  lawful :=
    { to_string_ok := fun v hv => answer_lib_lawful.to_string_ok v hv.1
      denotes_bool := fun b hb => answer_lib_lawful.denotes_bool b hb.1
      denotes_string := fun s hs => answer_lib_lawful.denotes_string s hs.1
      denotes_object := fun fields hfields => answer_lib_lawful.denotes_object fields hfields.1 }
  text_string := fun _ => rfl
  object := by
    rintro fields v ⟨-, hfields⟩ -
    obtain rfl := hfields fields rfl
    exact ⟨_, rfl, rfl⟩
  through_null := rfl
  through_bool := fun _ => rfl
  through_string := fun _ => rfl

/-- The error of this example is among them. -/
theorem told_db_timeout : TagIn Told db_timeout := by
  constructor
  · refine ⟨by simp [Answered, answer_table], ?_⟩
    rintro fields ⟨⟩
    rfl
  · simp only [tag_fields, dynamic_fault, db_timeout, EgressError.new, Option.map_none,
      Option.toList_none, List.append_nil, List.forall_mem_cons]
    refine ⟨?_, ?_, ?_, ?_, ?_, by simp⟩ <;>
      refine ⟨by simp [Answered, answer_table, ErrorOwner.as_str], ?_⟩ <;>
      rintro fields ⟨⟩

/-- A database that does not answer in time, from the call to the response. -/
theorem db_timeout_response :
    ∃ tag, (call told_lib.toJsonLib (answering (.error db_timeout)) 1 0 "db" "query" "[]").1
        = .threw tag
      ∧ (build_response calm_world acme_state none
          (.ok (.ok ⟨enforce_output_cap (invoke_handler told_lib.from_str false 5000
            (some (.threw (thrown_error told_lib tag none)))) 0, {}⟩, {}))
          (.new "t" 0 2 1)).result
        = .ok (.system_error 200
            { category := .capability, source := .db, code := "DB_TIMEOUT"
              message := some "database request failed", retryable := true, owner := .operator }
            ((Meta.new "t" 0 2 1).with_metrics {} {})) := by
  obtain ⟨hthrows, hresponse⟩ := uncaught_response told_lib_reads_back
    (answering (.error db_timeout)) Nat.zero_lt_one "db" "query" "[]" rfl told_db_timeout
  obtain ⟨tag, htag⟩ := hthrows.mpr (by decide)
  exact ⟨tag, htag, hresponse tag htag none false 5000 0 calm_world acme_state none {} {} _⟩

/-! ## 5. What a response shows without debug -/

/-- An engine error without what `error_debug` gates. -/
def without_debug : EngineError → EngineError
  | .script message _ => .script message none
  | .capability err => .capability { err with raw := none, stack := none }
  | .internal _ => .internal ""
  | .syntax_error message => .syntax_error message
  | .script_not_found message => .script_not_found message
  | .module_not_found message => .module_not_found message
  | .handler_not_defined => .handler_not_defined
  | .timeout limit_ms => .timeout limit_ms
  | .memory_limit => .memory_limit
  | .malformed message => .malformed message
  | .output_too_large size limit => .output_too_large size limit
  | .shutting_down => .shutting_down

@[simp] theorem engine_error_outcome_without_debug (err : EngineError) :
    engine_error_outcome (without_debug err) = engine_error_outcome err := by
  cases err <;> rfl

@[simp] theorem engine_error_counter_without_debug (err : EngineError) :
    engine_error_counter (without_debug err) = engine_error_counter err := by
  cases err <;> rfl

@[simp] theorem http_status_without_debug (err : EngineError) :
    (without_debug err).http_status = err.http_status := by
  cases err <;> rfl

@[simp] theorem into_envelope_without_debug (err : EngineError) :
    (without_debug err).into_envelope false = err.into_envelope false := by
  cases err <;> rfl

theorem engine_error_response_without_debug (err : EngineError) (info : Meta) :
    engine_error_response (without_debug err) info false = engine_error_response err info false := by
  rw [engine_error_response, engine_error_response, into_envelope_without_debug,
    http_status_without_debug]

/-- The message of an output over the cap has both numbers in it. -/
theorem output_message_inj {size limit size' limit' : ℕ} :
    "handler output too large: " ++ toString size ++ " bytes (max " ++ toString limit ++ ")"
        = "handler output too large: " ++ toString size' ++ " bytes (max " ++ toString limit' ++ ")"
      ↔ size = size' ∧ limit = limit' := by
  have hspace : ∀ rest : String, ∀ c ∈ (" bytes (max " ++ rest).toList.head?, c.isDigit = false := by
    intro rest c hc
    rw [String.toList_append] at hc
    obtain rfl := Option.some.inj hc
    rfl
  simp only [String.append_assoc, String.append_right_inj]
  rw [Digits.toString_append_inj (hspace _) (hspace _), String.append_right_inj,
    String.append_left_inj, Digits.toString_inj]

/-- The category and the code of an engine error. -/
def heading : EngineError → ErrorCategory × String
  | .syntax_error _ => (.runtime, "SYNTAX_ERROR")
  | .script_not_found _ => (.request, "SCRIPT_NOT_FOUND")
  | .module_not_found _ => (.runtime, "MODULE_NOT_FOUND")
  | .handler_not_defined => (.runtime, "HANDLER_NOT_DEFINED")
  | .timeout _ => (.runtime, "TIMEOUT")
  | .memory_limit => (.runtime, "MEMORY_LIMIT")
  | .malformed _ => (.runtime, "MALFORMED_RESPONSE")
  | .output_too_large _ _ => (.runtime, "OUTPUT_TOO_LARGE")
  | .internal _ => (.runtime, "INTERNAL")
  | .shutting_down => (.runtime, "SHUTTING_DOWN")
  | .script _ _ => (.script, "SCRIPT_ERROR")
  | .capability err => (.capability, err.code)

theorem heading_eq (err : EngineError) :
    heading err = ((err.into_envelope false).category, (err.into_envelope false).code) := by
  cases err <;> rfl

/-- **What a response shows without debug.** Two engine errors have one response if and only if they
differ in what `error_debug` gates alone: nothing of that is in the response, and all the rest is. -/
theorem redacted_iff (err err' : EngineError) (info : Meta) :
    engine_error_response err info false = engine_error_response err' info false
      ↔ without_debug err = without_debug err' := by
  constructor
  · intro h
    have henvelope : err.into_envelope false = err'.into_envelope false :=
      (Response.system_error.inj h).2.1
    have hheading : heading err = heading err' := by rw [heading_eq, heading_eq, henvelope]
    have hmessage := congrArg ErrorEnvelope.message henvelope
    -- the two are of one kind
    cases err <;> cases err' <;> try (simp [heading] at hheading; done)
    case timeout.timeout limit_ms limit_ms' =>
      have htext := Option.some.inj hmessage
      rw [String.append_left_inj, String.append_right_inj, Digits.toString_inj] at htext
      rw [htext]
    case output_too_large.output_too_large size limit size' limit' =>
      obtain ⟨rfl, rfl⟩ := output_message_inj.mp (Option.some.inj hmessage)
      rfl
    case capability.capability cap cap' =>
      obtain ⟨-, hsource, hcode, -, hretryable, howner, hdetails, -⟩ :=
        ErrorEnvelope.mk.inj henvelope
      have hcap : (⟨cap.source, cap.code, cap.retryable, cap.owner, none, none, cap.details⟩
          : CapabilityErr)
            = ⟨cap'.source, cap'.code, cap'.retryable, cap'.owner, none, none, cap'.details⟩ :=
        CapabilityErr.mk.injEq .. ▸ ⟨hsource, hcode, hretryable, howner, rfl, rfl, hdetails⟩
      exact congrArg EngineError.capability hcap
    case script.script message stack message' stack' =>
      rw [without_debug, without_debug, Option.some.inj hmessage]
    case syntax_error.syntax_error =>
      exact congrArg EngineError.syntax_error (Option.some.inj hmessage)
    case script_not_found.script_not_found =>
      exact congrArg EngineError.script_not_found (Option.some.inj hmessage)
    case module_not_found.module_not_found =>
      exact congrArg EngineError.module_not_found (Option.some.inj hmessage)
    case malformed.malformed =>
      exact congrArg EngineError.malformed (Option.some.inj hmessage)
    all_goals rfl
  · intro h
    rw [← engine_error_response_without_debug, h, engine_error_response_without_debug]

/-! ## 6. Two requests that differ in gated data -/

/-- What a run came to, without what `error_debug` gates. The metrics of an execution that did not
start are not read, and of a panic only the gated text says that it was one. -/
def joined_without_debug : JoinResult → JoinResult
  | .ok (.ok ⟨.error err, metrics⟩, backend) =>
    .ok (.ok ⟨.error (without_debug err), metrics⟩, backend)
  | .ok (.ok ⟨.success json, metrics⟩, backend) => .ok (.ok ⟨.success json, metrics⟩, backend)
  | .ok (.error err, _) => .ok (.error (without_debug err), {})
  | .error _ => .ok (.error (.internal ""), {})

/-- Without the debug flag an error is answered without its detail. -/
theorem respond_engine_error_without_debug {state : AppState} (hdebug : state.error_debug = false)
    (identity : Option Identity.TrustedIdentity) (info : Meta) (err : EngineError) :
    respond_engine_error state identity info (without_debug err)
      = respond_engine_error state identity info err := by
  unfold respond_engine_error
  rw [engine_error_outcome_without_debug, engine_error_counter_without_debug, hdebug,
    engine_error_response_without_debug]

/-- A response does not depend on gated data, nor does any effect on the way to it. -/
theorem build_response_without_debug {state : AppState} (hdebug : state.error_debug = false)
    (w : World) (identity : Option Identity.TrustedIdentity) (result : JoinResult)
    (base_meta : Meta) :
    build_response w state identity (joined_without_debug result) base_meta
      = build_response w state identity result base_meta := by
  unfold build_response
  match result with
  | .ok (.ok ⟨.success json, metrics⟩, backend) => rfl
  | .ok (.ok ⟨.error err, metrics⟩, backend) =>
    simp only [joined_without_debug, respond_engine_error_without_debug hdebug]
  | .ok (.error err, backend) =>
    simp only [joined_without_debug, respond_engine_error_without_debug hdebug]
  | .error join_err =>
    simp only [joined_without_debug]
    rw [← respond_engine_error_without_debug hdebug identity base_meta
      (.internal ("task panicked: " ++ join_err))]
    rfl

/-- Why a body was rejected is not told. -/
theorem check_request_without_debug {state : AppState} (hdebug : state.error_debug = false)
    (w : World) (headers : Identity.HeaderMap) {payload payload' : Except String ExecRequest}
    (hpayload : payload.toOption = payload'.toOption) :
    check_request w state headers payload = check_request w state headers payload' := by
  have hmalformed : ∀ rejection rejection', malformed_request_response w state rejection
      = malformed_request_response w state rejection' := by
    intro rejection rejection'
    simp only [malformed_request_response, hdebug, Bool.false_eq_true, if_false]
  cases payload with
  | ok req =>
      cases payload' with
      | ok req' => rw [Option.some.inj hpayload]
      | error rejection' => cases hpayload
  | error rejection =>
      cases payload' with
      | ok req' => cases hpayload
      | error rejection' =>
          unfold check_request
          simp only [handle, lift, hmalformed rejection rejection']

/-- **Gated data stays inside.** With debug off, two runs of a request whose executions differ in
script stacks, driver texts and internal causes alone, or whose bodies are rejected for different
reasons, have the same effects, events and counters among them, and the same response. -/
theorem gated_data_stays_inside (w : World) (run' : Invocation → JoinResult) (state : AppState)
    (hdebug : state.error_debug = false)
    (hrun : ∀ inv, joined_without_debug (w.run inv) = joined_without_debug (run' inv))
    (headers : Identity.HeaderMap) {payload payload' : Except String ExecRequest}
    (hpayload : payload.toOption = payload'.toOption) :
    run_execute { w with run := run' } state headers payload'
      = run_execute w state headers payload := by
  have hbuild : ∀ identity inv base_meta,
      build_response { w with run := run' } state identity (run' inv) base_meta
        = build_response w state identity (w.run inv) base_meta := by
    intro identity inv base_meta
    rw [← build_response_without_debug hdebug w, hrun, build_response_without_debug hdebug]
    rfl
  unfold run_execute
  simp only [hbuild, check_request_without_debug hdebug w headers hpayload]
  rfl

/-- A panic, and an internal error with another text. -/
theorem panic_stays_inside :
    run_execute { calm_world with run := fun _ => .error "index out of bounds" } acme_state
        acme_headers (.ok orders_request)
      = run_execute { calm_world with run := fun _ => .ok (.error (.internal "no runtime"), {}) }
        acme_state acme_headers (.ok orders_request) :=
  gated_data_stays_inside
    { calm_world with run := fun _ => .ok (.error (.internal "no runtime"), {}) }
    (fun _ => .error "index out of bounds") acme_state rfl (fun _ => rfl) acme_headers rfl

end Runlet.Throw
