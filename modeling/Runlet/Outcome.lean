/-
The outcome of an execution, told four times: the usage event, the span, the
counter, and the response itself.

The first three are written from the result of the execution before the response
is built, and building the response parses what the handler returned. A string
that does not parse is answered as a malformed response, and stays on record as a
success (`outcome_matches_iff`).
-/
import Runlet.Trusted

set_option autoImplicit false

namespace Runlet.Handler

open Effects Text Runlet.Json Runlet.Wire Runlet.Errors Runlet.Identity Runlet.Capabilities
open Runlet.Quota Runlet.Concurrency

variable {w : World} {state : AppState} {headers : HeaderMap}
  {payload : Except String ExecRequest}

/-! ## The four tellings -/

/-- The name of a counter in the exposition. -/
def Counter.label : Counter → String
  | success => "success"
  | script_error => "script_error"
  | capability_error => "capability_error"
  | timeout => "timeout"
  | memory_limit => "memory_limit"
  | malformed_response => "malformed_response"
  | internal_error => "internal_error"
  | rejections => "rejections"
  | overload_global => "global"
  | overload_partition => "partition"

def Effect.counter_label : Effect → Option String
  | .count counter => some counter.label
  | .observe _ _ | .record _ | .span _ _ | .ask_quota _ _ | .dial | .open_session _ | .ask_permits _
  | .execute _ => none

def Effect.usage_outcome : Effect → Option String
  | .record event =>
    match event.body with
    | .usage body => some body.outcome
    | .audit _ => none
  | .count _ | .observe _ _ | .span _ _ | .ask_quota _ _ | .dial | .open_session _ | .ask_permits _
  | .execute _ => none

def Effect.span_outcome : Effect → Option String
  | .span field value => if field = "outcome" then some value else none
  | .count _ | .observe _ _ | .record _ | .ask_quota _ _ | .dial | .open_session _ | .ask_permits _
  | .execute _ => none

/-- The outcome a structured error shows, by its category and, within the runtime's
own errors, its code. -/
def shown_error (error : ErrorEnvelope) : Option String :=
  match error.category with
  | .script => some "script_error"
  | .capability => some "capability_error"
  | .request => if error.code = "SCRIPT_NOT_FOUND" then some "script_error" else none
  | .runtime =>
    if error.code = "MALFORMED_RESPONSE" ∨ error.code = "OUTPUT_TOO_LARGE" then
      some "malformed_response"
    else if error.code = "TIMEOUT" then some "timeout"
    else if error.code = "MEMORY_LIMIT" then some "memory_limit"
    else if error.code = "INTERNAL" ∨ error.code = "SHUTTING_DOWN" then some "internal_error"
    else if error.code = "SYNTAX_ERROR" ∨ error.code = "MODULE_NOT_FOUND"
        ∨ error.code = "HANDLER_NOT_DEFINED" then some "script_error"
    else none

/-- The outcome a response shows. -/
def Response.shown_outcome : Response → Option String
  | handler _ _ _ => some "success"
  | system_error _ error _ => shown_error error

/-- The four agree. Without a sink there is no usage event. -/
def OutcomeMatches (state : AppState) (effects : List Effect) (response : Response) : Prop :=
  ∃ outcome, effects.filterMap Effect.usage_outcome = (if state.events then [outcome] else [])
    ∧ effects.filterMap Effect.span_outcome = [outcome]
    ∧ effects.filterMap Effect.counter_label = [outcome]
    ∧ response.shown_outcome = some outcome

/-- The handler returned a string that is no `{data, error}` envelope. -/
def Unparsed (w : World) (result : JoinResult) : Prop :=
  ∃ js_json metrics backend err, result = .ok (.ok ⟨.success js_json, metrics⟩, backend)
    ∧ w.parse_envelope js_json = .error err

/-! ## Before the execution -/

/-- What a request does on its way to an execution: it annotates the span with its
identity, asks, and connects. -/
def Effect.is_preparation : Effect → Bool
  | .span field _ => field ≠ "outcome"
  | .ask_quota _ _ | .dial | .open_session _ | .ask_permits _ => true
  | .count _ | .observe _ _ | .record _ | .execute _ => false

/-! The steps of the first half do nothing when they let a request pass, but for the
span attributes. -/

/-- A gate that lets a request through leaves no effect: the first, -/
theorem enforce_auth_eq (h : (enforce_auth w state headers).result = .ok ()) :
    enforce_auth w state headers = pure () := by
  unfold enforce_auth at h ⊢
  split at h
  · rfl
  · split at h
    · rename_i hmatched
      rw [if_pos hmatched]
    · exact absurd h (by simp)

/-- the second, which has the identity for its answer, -/
theorem resolve_identity_eq_pure {trace_id : String} {identity : Option TrustedIdentity}
    (h : (resolve_identity state headers trace_id).result = .ok identity) :
    resolve_identity state headers trace_id = pure identity := by
  have hrefuse : ∀ id code message, (refuse_identity state id trace_id code message
      : Eff Effect Response (Option TrustedIdentity)).result ≠ .ok identity := by simp
  unfold resolve_identity at h ⊢
  split at h
  · rw [ok_pure.mp h]
  dsimp only at h ⊢
  split at h
  · exact absurd h (hrefuse _ _ _)
  split at h
  · exact absurd h (hrefuse _ _ _)
  split at h
  · exact absurd h (hrefuse _ _ _)
  split at h
  · exact absurd h (hrefuse _ _ _)
  · rename_i hanonymous hsuspended htenant hscope
    rw [if_neg hanonymous, if_neg hsuspended, if_neg htenant, if_neg hscope, ok_pure.mp h]

/-- and the third. -/
theorem enforce_member_authz_eq {identity : Option TrustedIdentity} {config : RequestConfig}
    {trace_id : String} (h : (enforce_member_authz state identity config trace_id).result = .ok ()) :
    enforce_member_authz state identity config trace_id = pure () := by
  unfold enforce_member_authz at h ⊢
  split at h
  · split at h
    · rfl
    · exact absurd h (by simp)
  · rfl

/-- What is recorded of an identity is preparation. -/
theorem preparation_record_identity_attrs (identity : Option TrustedIdentity) :
    All (·.is_preparation = true) (record_identity_attrs identity) := by
  unfold record_identity_attrs
  split
  · exact all_pure ()
  · intro e he
    simp only [List.mem_append, List.mem_map] at he
    rcases he with (⟨value, -, rfl⟩ | ⟨value, -, rfl⟩) | ⟨value, -, rfl⟩ <;> rfl

/-- So are the checks of a request that passes them, -/
theorem preparation_check_request {c : Cleared} (h : Checked w state headers payload c) :
    All (·.is_preparation = true) (check_request w state headers payload) := by
  have hattrs : (record_identity_attrs c.identity).result = .ok () := by
    unfold record_identity_attrs
    split <;> rfl
  refine all_bind_ok h.auth (enforce_auth_eq h.auth ▸ all_pure ()) ?_
  refine all_bind_ok (ok_handle.mpr (Or.inl h.identity))
    (all_handle_ok h.identity (resolve_identity_eq_pure h.identity ▸ all_pure _)) ?_
  refine all_bind_ok hattrs (preparation_record_identity_attrs _) ?_
  refine all_bind_ok (ok_handle.mpr (Or.inl h.request)) (all_handle_ok h.request (all_lift _)) ?_
  refine all_bind_ok (ok_handle.mpr (Or.inl h.authz))
    (all_handle_ok h.authz (enforce_member_authz_eq h.authz ▸ all_pure ())) ?_
  refine all_bind_ok (ok_handle.mpr (Or.inl h.script)) (all_handle_ok h.script (all_lift _)) ?_
  exact all_bind_ok (ok_handle.mpr (Or.inl h.sizes)) (all_handle_ok h.sizes (all_lift _))
    (all_pure _)

/-- its guard of the quota, -/
theorem preparation_enforce_quota {identity : Option TrustedIdentity} {trace_id : String}
    {info : Meta} {guard : Option String}
    (h : (enforce_quota w state identity trace_id info).result = .ok guard) :
    All (·.is_preparation = true) (enforce_quota w state identity trace_id info) := by
  unfold enforce_quota at h ⊢
  split at h
  · split at h
    · refine all_bind_ok result_perform (all_perform rfl) ?_
      rw [result_bind result_perform] at h
      split at h
      · exact all_pure _
      · exact absurd h (by simp)
    · exact all_pure none
  · exact all_pure none

/-- its session, -/
theorem preparation_egress_session {c : Cleared} {session : Option WireInit}
    (h : (egress_session w state c).result = .ok session) :
    All (·.is_preparation = true) (egress_session w state c) := by
  unfold egress_session at h ⊢
  split at h
  · simp only [ok_bind, ok_handle, deny_ok, and_false, exists_false, or_false] at h
    obtain ⟨conn, hconn, -⟩ := h
    rename_i hany
    rw [if_pos hany]
    exact all_bind_ok (ok_handle.mpr (Or.inl hconn))
      (all_handle_ok hconn (all_connect_session rfl fun _ => rfl)) (all_pure _)
  · rename_i hany
    rw [if_neg hany]
    exact all_pure none

/-- and its permits. -/
theorem preparation_admit_execution {partition : Option String} {info : Meta}
    (h : (admit_execution w state partition info).result = .ok ()) :
    All (·.is_preparation = true) (admit_execution w state partition info) := by
  unfold admit_execution at h ⊢
  rw [result_bind result_perform] at h
  refine all_bind_ok result_perform (all_perform rfl) ?_
  split at h
  · exact all_pure ()
  · exact absurd h (by simp)
  · exact absurd h (by simp)

/-- The base of the `Meta` an execution is answered with. -/
def Cleared.base_meta (c : Cleared) (w : World) : Meta :=
  ((Meta.new w.trace_id c.script_bytes c.context_bytes w.exec_time_us).with_key
    c.req.key).with_partition c.partition

/-- The reading looks at counts, events and the outcome of the span only. -/
structure ReadsRecords {κ : Type} (r : Effect → Option κ) : Prop where
  prepare : ∀ e : Effect, e.is_preparation = true → r e = none
  execute : ∀ inv, r (.execute inv) = none
  observe : ∀ histogram micros, r (.observe histogram micros) = none

/-- Such a reading finds in a run that executed what it finds in the answer. -/
theorem reading_started {κ : Type} {r : Effect → Option κ} (hr : ReadsRecords r) {c : Cleared}
    {session : Option WireInit} (h : Started w state headers payload c session) :
    (run_execute w state headers payload).effects.filterMap r
      = reading r (build_response w state c.identity (w.run (c.invocation session))
          (c.base_meta w)) := by
  have hnil : ∀ {α : Type} {m : Eff Effect Response α}, All (·.is_preparation = true) m →
      m.effects.filterMap r = [] := by
    intro α m hm
    exact reading_eq_nil fun e he => hr.prepare e (hm e he)
  obtain ⟨guard, hguard⟩ := h.quota
  rw [h.effects, List.filterMap_append, List.filterMap_append, List.filterMap_append,
    List.filterMap_append, hnil (preparation_check_request h.checked),
    hnil (preparation_enforce_quota hguard), hnil (preparation_egress_session h.connected),
    hnil (preparation_admit_execution h.permits), List.filterMap_cons_none (hr.execute _)]
  rfl

/-! ## The answer -/

/-- What `build_response` writes down, whoever asks. -/
def recorded_outcome : JoinResult → String
  | .ok (.ok ⟨.success _, _⟩, _) => "success"
  | .ok (.ok ⟨.error engine_err, _⟩, _) => engine_error_outcome engine_err
  | .ok (.error engine_err, _) => engine_error_outcome engine_err
  | .error join_err => engine_error_outcome (.internal ("task panicked: " ++ join_err))

/-- Span and metric agree on every engine error. -/
theorem label_engine_error_counter (err : EngineError) :
    (engine_error_counter err).label = engine_error_outcome err := by
  cases err <;> rfl

/-- An engine error is shown under the name it is recorded with. -/
theorem shown_engine_error_response (err : EngineError) (info : Meta) (error_debug : Bool) :
    (engine_error_response err info error_debug).shown_outcome
      = some (engine_error_outcome err) := by
  have hattach : ∀ envelope stack raw,
      shown_error (attach_debug envelope stack raw error_debug) = shown_error envelope := by
    intro envelope stack raw
    rw [attach_debug]
    split <;> rfl
  rw [engine_error_response, system_error_response, Response.shown_outcome]
  cases err with
  -- the three errors that carry a stack or raw text for the debug mode
  | internal raw => exact hattach _ _ _
  | script message stack => exact hattach _ _ _
  | capability cap => exact hattach _ _ _
  | syntax_error message => rfl
  | script_not_found message => rfl
  | module_not_found message => rfl
  | handler_not_defined => rfl
  | timeout limit_ms => rfl
  | memory_limit => rfl
  | malformed message => rfl
  | output_too_large size limit => rfl
  | shutting_down => rfl

/-- The three records of an answer, as a reading finds them: the events, the counter and the span
all have the name of one outcome. -/
theorem reading_build_response {κ : Type} {r : Effect → Option κ} (hr : ReadsRecords r)
    (identity : Option TrustedIdentity) (result : JoinResult) (base_meta : Meta) :
    ∃ counter info, counter.label = recorded_outcome result
      ∧ reading r (build_response w state identity result base_meta)
        = reading r (emit_executed state identity info (recorded_outcome result)
            : Eff Effect Response Unit)
          ++ ((r (.count counter)).toList
            ++ (r (.span "outcome" (recorded_outcome result))).toList) := by
  have herror : ∀ info err, reading r (respond_engine_error state identity info err)
      = reading r (emit_executed state identity info (engine_error_outcome err)
          : Eff Effect Response Unit)
        ++ ((r (.count (engine_error_counter err))).toList
          ++ (r (.span "outcome" (engine_error_outcome err))).toList) := by
    intro info err
    rw [respond_engine_error, reading_bind (result_emit_executed _ _ _), reading_bind result_perform,
      reading_bind result_perform, reading_perform, reading_perform, reading_pure, List.append_nil]
  have hlatencies : ∀ exec backend, reading r (record_capability_latencies exec backend) = [] :=
    reading_record_capability_latencies fun histogram micros _ => hr.observe histogram micros
  unfold build_response
  rw [reading_bind result_perform, reading_perform, hr.observe, Option.toList_none, List.nil_append]
  -- a panicked task, a refused start, a handler that returned, a handler that failed
  obtain join_err | ⟨engine_err | ⟨js_json | engine_err, metrics⟩, backend⟩ := result
  · exact ⟨_, base_meta, label_engine_error_counter _, herror _ _⟩
  · exact ⟨_, base_meta, label_engine_error_counter _, herror _ _⟩
  · refine ⟨.success, base_meta.with_metrics metrics backend, rfl, ?_⟩
    dsimp only
    rw [reading_bind rfl, hlatencies, reading_bind (result_emit_executed _ _ _),
      reading_bind result_perform, reading_bind result_perform, reading_perform, reading_perform,
      reading_pure, List.append_nil, List.nil_append]
    rfl
  · refine ⟨_, base_meta.with_metrics metrics backend, label_engine_error_counter engine_err, ?_⟩
    dsimp only
    rw [reading_bind rfl, hlatencies, List.nil_append]
    exact herror _ _

/-- What a started execution leaves in any account of records is the record of its outcome, once.
-/
theorem reading_executed {κ : Type} {r : Effect → Option κ} (hr : ReadsRecords r) {c : Cleared}
    {session : Option WireInit} (h : Started w state headers payload c session) :
    ∃ counter info, counter.label = recorded_outcome (w.run (c.invocation session))
      ∧ (run_execute w state headers payload).effects.filterMap r
        = reading r (emit_executed state c.identity info
            (recorded_outcome (w.run (c.invocation session))) : Eff Effect Response Unit)
          ++ ((r (.count counter)).toList
            ++ (r (.span "outcome" (recorded_outcome (w.run (c.invocation session))))).toList) := by
  rw [reading_started hr h]
  exact reading_build_response hr _ _ _

theorem readsRecords_usage_outcome : ReadsRecords Effect.usage_outcome where
  prepare e he := by cases e <;> simp_all [Effect.is_preparation, Effect.usage_outcome]
  execute _ := rfl
  observe _ _ := rfl

theorem readsRecords_span_outcome : ReadsRecords Effect.span_outcome where
  prepare e he := by cases e <;> simp_all [Effect.is_preparation, Effect.span_outcome]
  execute _ := rfl
  observe _ _ := rfl

theorem readsRecords_counter_label : ReadsRecords Effect.counter_label where
  prepare e he := by cases e <;> simp_all [Effect.is_preparation, Effect.counter_label]
  execute _ := rfl
  observe _ _ := rfl

/-- The response shows what is recorded, unless the handler's string does not parse. Then the
execution is recorded as a success, and the response is an error. -/
theorem shown_build_response {identity : Option TrustedIdentity} {result : JoinResult}
    {base_meta : Meta} {response : Response}
    (h : (build_response w state identity result base_meta).result = .ok response) :
    response.shown_outcome = some (recorded_outcome result) ↔ ¬ Unparsed w result := by
  have herror : ∀ info err, (respond_engine_error state identity info err).result = .ok response →
      response.shown_outcome = some (engine_error_outcome err) := by
    intro info err hresponse
    rw [respond_engine_error, result_bind (result_emit_executed _ _ _), result_bind result_perform,
      result_bind result_perform] at hresponse
    rw [← ok_pure.mp hresponse]
    exact shown_engine_error_response _ _ _
  have hparsed : ∀ {result : JoinResult},
      (∀ js_json metrics backend, result ≠ .ok (.ok ⟨.success js_json, metrics⟩, backend)) →
      ¬ Unparsed w result := by
    rintro result hnot ⟨js_json, metrics, backend, err, hresult, -⟩
    exact hnot js_json metrics backend hresult
  unfold build_response at h
  rw [result_bind result_perform] at h
  obtain join_err | ⟨engine_err | ⟨js_json | engine_err, metrics⟩, backend⟩ := result
  · exact iff_of_true (herror _ _ h) (hparsed (by simp))
  · exact iff_of_true (herror _ _ h) (hparsed (by simp))
  -- the one branch in which the response is not built from what was recorded
  · dsimp only at h
    rw [result_bind rfl, result_bind (result_emit_executed _ _ _), result_bind result_perform,
      result_bind result_perform] at h
    obtain rfl := ok_pure.mp h
    rw [success_response]
    cases hparse : w.parse_envelope js_json with
    | ok envelope =>
        refine iff_of_true rfl ?_
        rintro ⟨js_json', metrics', backend', err, hresult, hfailed⟩
        simp only [Except.ok.injEq, Prod.mk.injEq, Outcome.mk.injEq,
          ExecOutcome.success.injEq] at hresult
        rw [← hresult.1.1, hparse] at hfailed
        exact absurd hfailed (by simp)
    | error err =>
        refine iff_of_false ?_ (not_not_intro ⟨js_json, metrics, backend, err, rfl, hparse⟩)
        rw [shown_engine_error_response, engine_error_outcome, recorded_outcome]
        decide
  · dsimp only at h
    rw [result_bind rfl] at h
    exact iff_of_true (herror _ _ h) (hparsed (by simp))

/-! ## The result -/

/-- **The outcome.** For every executed request, the usage event, the span, the
counter and the response name one outcome, exactly when the handler did not return a
string that is no envelope. -/
theorem outcome_matches_iff (w : World) (state : AppState) (headers : HeaderMap)
    (payload : Except String ExecRequest) (inv : Invocation)
    (hexecuted : .execute inv ∈ (run_execute w state headers payload).effects)
    (response : Response)
    (hresponse : (run_execute w state headers payload).result = .ok response) :
    OutcomeMatches state (run_execute w state headers payload).effects response
      ↔ ¬ Unparsed w (w.run inv) := by
  obtain ⟨c, session, hstarted, rfl⟩ := started_of_execute hexecuted
  have hbuilt : (build_response w state c.identity (w.run (c.invocation session))
      (c.base_meta w)).result = .ok response := by
    obtain ⟨guard, hguard⟩ := hstarted.quota
    rw [run_execute, result_bind (check_request_ok.mpr hstarted.checked),
      result_bind (ok_handle.mpr (Or.inl hguard)), result_bind hstarted.connected,
      result_bind (ok_handle.mpr (Or.inl hstarted.permits)), result_bind result_perform]
      at hresponse
    exact hresponse
  rw [← shown_build_response hbuilt]
  -- the three records name `recorded_outcome`, whatever the response is
  have husage : (run_execute w state headers payload).effects.filterMap Effect.usage_outcome
      = if state.events then [recorded_outcome (w.run (c.invocation session))] else [] := by
    obtain ⟨counter, info, -, hreading⟩ := reading_executed readsRecords_usage_outcome hstarted
    rw [hreading, emit_executed]
    split <;> rfl
  have hspan : (run_execute w state headers payload).effects.filterMap Effect.span_outcome
      = [recorded_outcome (w.run (c.invocation session))] := by
    obtain ⟨counter, info, -, hreading⟩ := reading_executed readsRecords_span_outcome hstarted
    rw [hreading, emit_executed]
    split <;> rfl
  have hcounter : (run_execute w state headers payload).effects.filterMap Effect.counter_label
      = [recorded_outcome (w.run (c.invocation session))] := by
    obtain ⟨counter, info, hlabel, hreading⟩ :=
      reading_executed readsRecords_counter_label hstarted
    rw [hreading, emit_executed, ← hlabel]
    split <;> rfl
  constructor
  · rintro ⟨outcome, -, houtcome, -, hshown⟩
    rw [hspan, List.cons.injEq] at houtcome
    rw [houtcome.1]
    exact hshown
  · intro hshown
    exact ⟨_, husage, hspan, hcounter, hshown⟩

/-- A handler that returns an empty envelope. -/
theorem outcome_matches_empty_envelope :
    OutcomeMatches acme_state
      (run_execute calm_world acme_state acme_headers (.ok orders_request)).effects
      (.handler "null" "null"
        (((Meta.new calm_world.trace_id 7 2 10).with_key none).with_partition
          (some "ws_acme"))) := by
  refine (outcome_matches_iff calm_world acme_state acme_headers (.ok orders_request)
    orders_invocation (by decide +kernel) _ (by decide +kernel)).mpr ?_
  rintro ⟨js_json, metrics, backend, err, -, hfailed⟩
  exact absurd hfailed (by simp [calm_world])

/-- The script is `handler = () => "hello"`: a returned string goes out as it is, and
is no JSON. -/
def hello_world : World :=
  { calm_world with
    run := fun _ => .ok (.ok ⟨.success "hello", {}⟩, {})
    parse_envelope := fun json =>
      if json = "hello" then .error "expected value at line 1 column 1" else .ok ("null", "null") }

/-- It is answered as a malformed response, and counted, billed and traced as a
success. -/
theorem hello_is_recorded_as_success :
    ∃ response,
      (run_execute hello_world acme_state acme_headers (.ok orders_request)).result = .ok response
      ∧ response.error_code = some "MALFORMED_RESPONSE"
      ∧ (run_execute hello_world acme_state acme_headers
          (.ok orders_request)).effects.filterMap Effect.counter_label = ["success"]
      ∧ ¬ OutcomeMatches acme_state
        (run_execute hello_world acme_state acme_headers (.ok orders_request)).effects
        response := by
  have hresult : ∃ response,
      (run_execute hello_world acme_state acme_headers (.ok orders_request)).result = .ok response
      ∧ response.error_code = some "MALFORMED_RESPONSE"
      ∧ response.shown_outcome = some "malformed_response" := ⟨_, rfl, rfl, rfl⟩
  have hcounter : (run_execute hello_world acme_state acme_headers
      (.ok orders_request)).effects.filterMap Effect.counter_label = ["success"] := by
    decide +kernel
  obtain ⟨response, hresponse, hcode, hshown⟩ := hresult
  refine ⟨response, hresponse, hcode, hcounter, ?_⟩
  rintro ⟨outcome, -, -, hcounted, houtcome⟩
  rw [hcounter, List.cons.injEq] at hcounted
  rw [hshown, ← hcounted.1] at houtcome
  exact absurd houtcome (by decide)

end Runlet.Handler
