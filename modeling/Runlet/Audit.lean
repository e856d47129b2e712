/-
The audit trail: what the denied event of a request says, next to what the
caller was told.

Reason, code and trace id are produced at about a dozen exits, each by
expressions of its own. `audit_matches_iff` says at which of them the event and
the response disagree, as a condition on what the request brings and meets.
-/
import Runlet.Trusted

set_option autoImplicit false

namespace Runlet.Handler

open Effects Text Runlet.Json Runlet.Wire Runlet.Errors Runlet.Identity Runlet.Capabilities
open Runlet.Quota Runlet.Concurrency

variable {w : World} {state : AppState} {headers : HeaderMap}
  {payload : Except String ExecRequest} {trusted : TrustedRuntime}

/-! ## Denials -/

def Event.is_denial (event : Event) : Bool :=
  match event.body with
  | .audit body => body.decision = .denied
  | .usage _ => false

/-- The reason of an audit event. -/
def Event.reason (event : Event) : Option String :=
  match event.body with
  | .audit body => body.reason
  | .usage _ => none

def Effect.denial : Effect → Option Event
  | .record event => if event.is_denial then some event else none
  | .count _ | .observe _ _ | .span _ _ | .ask_quota _ _ | .dial | .open_session _ | .ask_permits _
  | .execute _ => none

/-- The denied events of a trace. -/
def denials (effects : List Effect) : List Event := effects.filterMap Effect.denial

/-- There is one denied event; its reason is the response's `error.code`, and its
trace id the response's. -/
def AuditMatches (effects : List Effect) (response : Response) : Prop :=
  ∃ event code, denials effects = [event] ∧ event.reason = some code
    ∧ response.error_code = some code ∧ event.trace_id = response.meta.trace_id

/-! ## When they disagree -/

/-- The box gets the `Init` frame to the daemon. -/
def LinkUp (w : World) : SidecarTransport → Prop
  | .none => False
  | .uds => w.dial = .ok () ∧ w.write_init = .ok ()
  | .quic => (∃ token, w.auth_token = .ok token) ∧ w.dial = .ok () ∧ w.write_init = .ok ()

def DaemonAcks (w : World) (transport : SidecarTransport) : Prop :=
  LinkUp w transport ∧ w.read_init = .ok (some .ack)

/-- The daemon answers `Init`, with an error of its own or a frame that is no
answer to it. -/
def DaemonRefuses (w : World) (transport : SidecarTransport) : Prop :=
  LinkUp w transport ∧ ∃ response, w.read_init = .ok (some response) ∧ response ≠ .ack
    ∧ ∀ message, response ≠ .init_error "EGRESS_UNAVAILABLE" message

def SizesFit (state : AppState) (req : ExecRequest) (source : ScriptSource) : Prop :=
  (utf8 source.as_str).length ≤ state.engine_cfg.max_script_size
    ∧ (utf8 req.context).length ≤ state.engine_cfg.max_context_size

/-- The requests whose denied event does not say what the caller is told. The
identity is accepted, and then: the body is malformed (and the fresh id is not
the trace id by chance); or not exactly one of `script` and `key` is given; or the input is too large; or the daemon refuses the
session; or the tenant's bucket has no permit left. -/
def Misreported (w : World) (state : AppState) (trusted : TrustedRuntime) (headers : HeaderMap)
    (payload : Except String ExecRequest) : Prop :=
  let id := TrustedIdentity.from_headers headers trusted.headers
  ∃ tenant, Accepted id tenant ∧
    match payload with
    | .error _ => w.fresh_id ≠ w.trace_id
    | .ok req =>
      HoldsAll trusted.capability_entitlements (requested_capabilities req.config) id
      ∧ match resolve_script req.script req.key state.registry with
        | .error _ => req.script.isSome = req.key.isSome
        | .ok source =>
          ¬ SizesFit state req source
          ∨ QuotaAdmits w trusted tenant id.plan
            ∧ (req.config.io.any = true ∧ DaemonRefuses w state.transport
              ∨ (req.config.io.any = true → DaemonAcks w state.transport)
                ∧ acquire_permits state.partition_hash w.permits (some tenant) = .partition_busy)

/-! ## Passing and leaving -/

section Rules

variable {α β δ : Type}

/-- The computation went on without a denial. -/
structure Silent {ρ : Type} (m : Eff Effect ρ α) (a : α) : Prop where
  result : m.result = .ok a
  quiet : denials m.effects = []

/-- The computation left with `response`, after one denied event. -/
structure Exit (m : Eff Effect Response α) (reason trace_id : String) (response : Response) :
    Prop where
  result : m.result = .error response
  denial : ∃ event, denials m.effects = [event] ∧ event.reason = some reason
    ∧ event.trace_id = trace_id

/-- The computation left, and the trail matches what it left with. -/
def Matches (m : Eff Effect Response α) : Prop :=
  ∃ response, m.result = .error response ∧ AuditMatches m.effects response

theorem denials_eq_nil {ρ : Type} {m : Eff Effect ρ α} (h : All (·.denial = none) m) :
    denials m.effects = [] := by
  rw [denials, List.filterMap_eq_nil_iff]
  exact h

theorem silent_pure {ρ : Type} (a : α) : Silent (pure a : Eff Effect ρ α) a := ⟨rfl, rfl⟩

theorem silent_lift {a : α} {x : Except δ α} (h : x = .ok a) :
    Silent (lift x : Eff Effect δ α) a := ⟨h, rfl⟩

theorem Silent.handle {m : Eff Effect δ α} {a : α} (h : Silent m a)
    (recover : δ → Eff Effect Response α) : Silent (handle m recover) a := by
  refine ⟨ok_handle.mpr (Or.inl h.result), ?_⟩
  rw [effects_handle h.result, h.quiet]

/-- Past a silent step the trail is that of the rest. -/
theorem matches_bind {m : Eff Effect Response α} {f : α → Eff Effect Response β} {a : α}
    (h : Silent m a) : Matches (m >>= f) ↔ Matches (f a) := by
  simp only [Matches, AuditMatches, result_bind h.result, effects_bind h.result, denials,
    List.filterMap_append]
  have hquiet : m.effects.filterMap Effect.denial = [] := h.quiet
  simp only [hquiet, List.nil_append]

/-- After a step that left, the trail is that of the step. -/
theorem matches_bind_error {m : Eff Effect Response α} {f : α → Eff Effect Response β}
    {response : Response} (h : m.result = .error response) : Matches (m >>= f) ↔ Matches m := by
  simp only [Matches, bind_error h, h, Except.error.injEq]

/-- Silent steps one after the other are silent. -/
theorem silent_bind {ρ : Type} {m : Eff Effect ρ α} {f : α → Eff Effect ρ β} {a : α} {b : β}
    (hm : Silent m a) (hf : Silent (f a) b) : Silent (m >>= f) b := by
  refine ⟨(result_bind hm.result).trans hf.result, ?_⟩
  rw [effects_bind hm.result, denials, List.filterMap_append]
  have hquiet : m.effects.filterMap Effect.denial = [] := hm.quiet
  rw [hquiet, List.nil_append]
  exact hf.quiet

/-- A sequence leaves where its first step left. -/
theorem Exit.bind {m : Eff Effect Response α} {reason trace_id : String} {response : Response}
    (h : Exit m reason trace_id response) (f : α → Eff Effect Response β) :
    Exit (m >>= f) reason trace_id response := by
  rw [bind_error h.result]
  exact ⟨rfl, h.denial⟩

/-- Whether the log matches such an exit is a question about its response alone: the one audit
event is known. -/
theorem Exit.matches_iff {m : Eff Effect Response α} {reason trace_id : String}
    {response : Response} (h : Exit m reason trace_id response) :
    Matches m ↔ response.error_code = some reason ∧ response.meta.trace_id = trace_id := by
  obtain ⟨event, hdenials, hreason, htrace⟩ := h.denial
  constructor
  · rintro ⟨response', hresult, event', code, hdenials', hreason', hcode, htrace'⟩
    rw [h.result, Except.error.injEq] at hresult
    rw [hdenials, List.cons.injEq] at hdenials'
    obtain ⟨rfl, -⟩ := hdenials'
    rw [← hresult] at hcode htrace'
    exact ⟨hcode.trans (hreason'.symm.trans hreason), htrace'.symm.trans htrace⟩
  · rintro ⟨hcode, htrace'⟩
    exact ⟨response, h.result, event, reason, hdenials, hreason, hcode, htrace.trans htrace'.symm⟩

/-- The usual exit: the denial is recorded, and the response goes out. -/
theorem exit_of_denied (hevents : state.events = true) {identity : Option TrustedIdentity}
    {trace_id reason : String} {detail : Option Value} {response : Response} :
    Exit (do emit_denied state identity trace_id reason detail; leave response
      : Eff Effect Response α) reason trace_id response := by
  refine ⟨?_, ?_⟩
  · rw [result_bind result_emit_denied]
    rfl
  · rw [effects_bind result_emit_denied, emit_denied, if_pos hevents]
    exact ⟨_, rfl, rfl, rfl⟩

/-- A denial is an exit with its own reason. -/
theorem exit_deny (hevents : state.events = true) {identity : Option TrustedIdentity}
    {trace_id reason : String} {response : Response} :
    Exit (deny state identity trace_id reason response : Eff Effect Response α) reason trace_id
      response := by
  have hexit : Exit (do emit_denied state identity trace_id reason none; leave response
      : Eff Effect Response α) reason trace_id response := exit_of_denied hevents
  exact ⟨hexit.result, hexit.denial⟩

/-- A refused step whose refusal is on record. -/
theorem Exit.reject {m : Eff Effect Response α} {reason trace_id : String} {response : Response}
    (h : Exit m reason trace_id response) :
    Exit (Effects.handle m Handler.reject) reason trace_id response := by
  refine ⟨?_, ?_⟩
  · rw [result_handle h.result]
    rfl
  · have hcount : denials (Handler.reject response : Eff Effect Response α).effects = [] := rfl
    rw [effects_handle_error h.result, denials, List.filterMap_append]
    rw [denials] at hcount
    rw [hcount, List.append_nil]
    exact h.denial

/-- A failed step without a denial, answered by one. -/
theorem exit_handle {m : Eff Effect δ α} {recover : δ → Eff Effect Response α} {d : δ}
    {reason trace_id : String} {response : Response} (hresult : m.result = .error d)
    (hquiet : denials m.effects = []) (h : Exit (recover d) reason trace_id response) :
    Exit (handle m recover) reason trace_id response := by
  refine ⟨?_, ?_⟩
  · rw [result_handle hresult, h.result]
  · rw [effects_handle_error hresult, denials, List.filterMap_append]
    rw [denials] at hquiet
    rw [hquiet, List.nil_append]
    exact h.denial

/-- A failed step without a denial, answered by `deny`: the trail matches when the
answer has the literals on record. -/
theorem matches_deny (hevents : state.events = true) {m : Eff Effect δ α} {d : δ}
    (hresult : m.result = .error d) (hquiet : denials m.effects = [])
    {identity : Option TrustedIdentity} {trace_id reason : String} {answer : δ → Response}
    {f : α → Eff Effect Response β} :
    Matches (handle m (fun d => deny state identity trace_id reason (answer d)) >>= f)
      ↔ (answer d).error_code = some reason ∧ (answer d).meta.trace_id = trace_id :=
  ((exit_handle hresult hquiet (exit_deny hevents)).bind f).matches_iff

end Rules

/-! ## The gates -/

/-- A caller with the right bearer token passes without a word in the log. -/
theorem silent_enforce_auth (h : BearerMatched state headers) :
    Silent (enforce_auth w state headers) () := by
  refine ⟨enforce_auth_ok.mpr h, ?_⟩
  unfold enforce_auth
  cases htoken : state.access_token with
  | none => rfl
  | some expected =>
      simp only [h expected htoken, if_true]
      rfl

/-- So does one whose identity is accepted, and it is the identity that the headers give. -/
theorem silent_resolve_identity (htrusted : state.trusted = some trusted) {tenant : String}
    (haccepted : Accepted (TrustedIdentity.from_headers headers trusted.headers) tenant)
    (trace_id : String) :
    Silent (resolve_identity state headers trace_id)
      (some (TrustedIdentity.from_headers headers trusted.headers)) := by
  have heq : resolve_identity state headers trace_id
      = pure (some (TrustedIdentity.from_headers headers trusted.headers)) := by
    simp [resolve_identity, htrusted, haccepted.not_anonymous, haccepted.not_suspended,
      haccepted.tenant_eq, haccepted.scope_acting]
  rw [heq]
  exact silent_pure _

/-- Every refusal of the identity is recorded under the code it is answered with. The checks come
in an order, and the first that fails gives the code to the response and to the record. -/
theorem exit_resolve_identity (hevents : state.events = true)
    (htrusted : state.trusted = some trusted)
    (hrefused : ¬ ∃ tenant, Accepted (TrustedIdentity.from_headers headers trusted.headers) tenant)
    (trace_id : String) :
    ∃ code response, Exit (resolve_identity state headers trace_id) code trace_id response
      ∧ response.error_code = some code ∧ response.meta.trace_id = trace_id := by
  have hrefuse : ∀ code message, ∃ c response,
      Exit (refuse_identity state (TrustedIdentity.from_headers headers trusted.headers) trace_id
        code message : Eff Effect Response (Option TrustedIdentity)) c trace_id response
      ∧ response.error_code = some c ∧ response.meta.trace_id = trace_id :=
    fun code message => ⟨code, _, exit_of_denied hevents, rfl, rfl⟩
  simp only [resolve_identity, htrusted]
  split
  · exact hrefuse _ _
  split
  · exact hrefuse _ _
  split
  · exact hrefuse _ _
  split
  · exact hrefuse _ _
  -- none of the four: the identity is acceptable
  · rename_i hanonymous hsuspended htenant hscope
    refine absurd ?_ hrefused
    obtain ⟨tenant, htenant⟩ := Option.ne_none_iff_exists'.mp (by simpa using htenant)
    exact ⟨tenant, by simpa using hanonymous, by simpa using hsuspended, htenant,
      by simpa using hscope⟩

/-- What is recorded of an identity is no line of the log. -/
theorem silent_record_identity_attrs (identity : Option TrustedIdentity) :
    Silent (record_identity_attrs identity) () := by
  refine ⟨?_, denials_eq_nil (all_record_identity_attrs fun _ _ => rfl)⟩
  unfold record_identity_attrs
  split <;> rfl

section Trusted

variable {id : TrustedIdentity} {trace_id : String}

/-- A member that holds all it asks for passes without a word in the log. -/
theorem silent_enforce_member_authz (htrusted : state.trusted = some trusted)
    {config : RequestConfig}
    (h : HoldsAll trusted.capability_entitlements (requested_capabilities config) id) :
    Silent (enforce_member_authz state (some id) config trace_id) () := by
  simp only [enforce_member_authz, htrusted, authorize_capabilities_ok.mpr h]
  exact silent_pure ()

/-- A member without an entitlement it asks for is refused with its reason in the log. -/
theorem exit_enforce_member_authz (hevents : state.events = true)
    (htrusted : state.trusted = some trusted) {config : RequestConfig}
    (h : ¬ HoldsAll trusted.capability_entitlements (requested_capabilities config) id)
    (trace_id : String) :
    ∃ response, Exit (enforce_member_authz state (some id) config trace_id) "ENTITLEMENT_REQUIRED"
        trace_id response
      ∧ response.error_code = some "ENTITLEMENT_REQUIRED"
      ∧ response.meta.trace_id = trace_id := by
  simp only [enforce_member_authz, htrusted]
  cases hdenied : authorize_capabilities trusted.capability_entitlements
      (requested_capabilities config) id with
  | ok u => exact absurd (authorize_capabilities_ok.mp hdenied) h
  | error denied => exact ⟨_, exit_of_denied hevents, rfl, rfl⟩

/-- A tenant with room in its quota gets its guard without a word in the log. -/
theorem silent_enforce_quota (htrusted : state.trusted = some trusted) {tenant : String}
    (htenant : id.tenant = some tenant) {info : Meta}
    (h : QuotaAdmits w trusted tenant id.plan) :
    ∃ guard, Silent (enforce_quota w state (some id) trace_id info) guard := by
  simp only [enforce_quota, htrusted, htenant]
  cases hquota : trusted.quota with
  | none => exact ⟨none, silent_pure none⟩
  | some limits =>
      obtain ⟨q, hq⟩ := h limits hquota
      simp only [hq]
      exact ⟨some tenant, rfl, rfl⟩

/-- One without room is refused with its reason in the log, and with the trace id of the request.
-/
theorem exit_enforce_quota (hevents : state.events = true)
    (htrusted : state.trusted = some trusted) {tenant : String}
    (htenant : id.tenant = some tenant) {info : Meta} (hinfo : info.trace_id = trace_id)
    (h : ¬ QuotaAdmits w trusted tenant id.plan) :
    ∃ response, Exit (enforce_quota w state (some id) trace_id info) "QUOTA_EXCEEDED" trace_id
        response
      ∧ response.error_code = some "QUOTA_EXCEEDED" ∧ response.meta.trace_id = trace_id := by
  simp only [enforce_quota, htrusted, htenant]
  cases hquota : trusted.quota with
  | none =>
      refine absurd ?_ h
      intro limits hlimits
      rw [hquota] at hlimits
      cases hlimits
  | some limits =>
      cases hq : TenantQuota.admit_tenant ⟨limits, w.inflight⟩ tenant id.plan with
      | ok q =>
          refine absurd ?_ h
          intro limits' hlimits'
          rw [hquota, Option.some.injEq] at hlimits'
          exact ⟨q, hlimits' ▸ hq⟩
      | error exceeded =>
          simp only [hq]
          refine ⟨quota_exceeded_response exceeded info, ?_, rfl, hinfo⟩
          have hexit : Exit (do
              emit_denied state (some id) trace_id "QUOTA_EXCEEDED"
                (some (.object [("limit", .number (.pos_int (.ofNat exceeded.limit))),
                  ("plan", .string exceeded.plan),
                  ("usage", .number (.pos_int (.ofNat exceeded.usage)))]))
              leave (quota_exceeded_response exceeded info)
              : Eff Effect Response (Option String)) "QUOTA_EXCEEDED" trace_id
              (quota_exceeded_response exceeded info) := exit_of_denied hevents
          exact ⟨hexit.result, hexit.denial⟩

end Trusted

/-! ## The session -/

/-- The code a refused session is answered with. -/
def session_code : SessionError → String
  | .resolve code _ => code
  | .unavailable _ => "EGRESS_UNAVAILABLE"
  | .protocol _ => "EGRESS_PROTOCOL"

theorem error_code_session_error_response (err : SessionError) (info : Meta) :
    (session_error_response err info).error_code = some (session_code err)
      ∧ (session_error_response err info).meta = info := by
  cases err <;> exact ⟨rfl, rfl⟩

theorem denials_connect_session (transport : SidecarTransport) (init : WireInit) :
    denials (connect_session w transport init).effects = [] :=
  denials_eq_nil (all_connect_session rfl fun _ => rfl)

/-- A link that is down is reported as such: without an answer from the daemon, on either
transport, the session is unavailable and nothing is said of the request. -/
theorem connect_session_down {transport : SidecarTransport} (init : WireInit)
    (h : ¬ LinkUp w transport) :
    ∃ message, (connect_session w transport init).result = .error (.unavailable message) := by
  -- the write comes last; before it, dialling, and before that the token
  have hwrite : ∀ init, w.write_init ≠ .ok () →
      ∃ message, (handshake w init).result = .error (.unavailable message) := by
    intro init hne
    cases hw : w.write_init with
    | ok u => exact absurd hw hne
    | error err =>
        refine ⟨"fabricd write failed: " ++ err, ?_⟩
        rw [handshake, result_bind result_perform, hw]
        exact result_bind_error rfl
  have hdial : ∀ init, ¬ (w.dial = .ok () ∧ w.write_init = .ok ()) →
      ∃ message, (do
        perform .dial
        lift (w.dial.mapError fun err => .unavailable ("fabricd unreachable: " ++ err))
        handshake w init : Eff Effect SessionError WireInit).result
        = .error (.unavailable message) := by
    intro init hne
    rw [result_bind result_perform]
    cases hd : w.dial with
    | ok u =>
        obtain ⟨message, hmessage⟩ := hwrite init fun hw => hne ⟨hd, hw⟩
        refine ⟨message, ?_⟩
        rw [result_bind rfl]
        exact hmessage
    | error err => exact ⟨_, result_bind_error rfl⟩
  cases transport with
  | none => exact ⟨_, rfl⟩
  | uds => exact hdial init h
  | quic =>
      -- the token is read first
      rw [connect_session]
      cases ht : w.auth_token with
      | ok token =>
          rw [result_bind rfl]
          exact hdial _ fun hup => h ⟨⟨token, ht⟩, hup⟩
      | error err => exact ⟨_, result_bind_error rfl⟩

/-- Over a link that is up, the daemon's answer decides. -/
theorem connect_session_up {transport : SidecarTransport} (init : WireInit)
    (h : LinkUp w transport) :
    ∃ conn, (connect_session w transport init).result = interpret_answer conn w.read_init := by
  have hshake : ∀ init, w.dial = .ok () → w.write_init = .ok () →
      (do
        perform .dial
        lift (w.dial.mapError fun err => .unavailable ("fabricd unreachable: " ++ err))
        handshake w init : Eff Effect SessionError WireInit).result
      = interpret_answer init w.read_init := by
    intro init hdial hwrite
    rw [result_bind result_perform, hdial, result_bind rfl, handshake, result_bind result_perform,
      hwrite, result_bind rfl]
    rfl
  cases transport with
  | none => exact absurd h id
  | uds => exact ⟨init, hshake init h.1 h.2⟩
  | quic =>
      obtain ⟨⟨token, htoken⟩, hdial, hwrite⟩ := h
      refine ⟨{ init with token }, ?_⟩
      rw [connect_session, htoken, result_bind rfl]
      exact hshake _ hdial hwrite

/-- A session that opened was acknowledged. -/
theorem daemonAcks_of_ok {transport : SidecarTransport} {init conn : WireInit}
    (h : (connect_session w transport init).result = .ok conn) : DaemonAcks w transport := by
  by_cases hup : LinkUp w transport
  · refine ⟨hup, ?_⟩
    obtain ⟨conn', hconn'⟩ := connect_session_up init hup
    rw [hconn', interpret_answer.eq_def] at h
    split at h
    · assumption
    all_goals cases h
  · obtain ⟨message, hmessage⟩ := connect_session_down init hup
    rw [hmessage] at h
    cases h

/-- A session that did not open is answered as unavailable, unless the daemon
refused it. -/
theorem session_code_iff {transport : SidecarTransport} {init : WireInit} {err : SessionError}
    (h : (connect_session w transport init).result = .error err) :
    ¬ DaemonAcks w transport
      ∧ (session_code err = "EGRESS_UNAVAILABLE" ↔ ¬ DaemonRefuses w transport) := by
  by_cases hup : LinkUp w transport
  · obtain ⟨conn, hconn⟩ := connect_session_up init hup
    rw [hconn, interpret_answer.eq_def] at h
    simp only [DaemonAcks, DaemonRefuses, hup, true_and]
    split at h
    · cases h
    · rename_i code message hread
      cases h
      simp [hread, session_code]
    · rename_i hread
      cases h
      simp [hread, session_code]
    · rename_i hread
      cases h
      simp [hread, session_code]
    · rename_i hread
      cases h
      simp [hread, session_code]
    · rename_i hread
      cases h
      simp [hread, session_code]
    · rename_i hread
      cases h
      simp [hread, session_code]
  · obtain ⟨message, hmessage⟩ := connect_session_down init hup
    rw [hmessage, Except.error.injEq] at h
    simp [DaemonAcks, DaemonRefuses, hup, ← h, session_code]

/-! ## The first half -/

/-- A script that is not found has the code of its reason exactly when one of the two fields was
given; with both or with none the code is another one. -/
theorem resolve_script_error {script key : Option String} {registry : String → Option String}
    {rejection : ℕ × ErrorEnvelope} (h : resolve_script script key registry = .error rejection) :
    rejection.2.code = "SCRIPT_NOT_FOUND" ↔ ¬ script.isSome = key.isSome := by
  unfold resolve_script at h
  split at h
  · cases h
  · split at h
    · cases h
    · cases h
      simp
  · cases h
    simp
  · cases h
    simp

/-- The size check passes what fits; its codes are not the one on record. -/
theorem validate_input_sizes_ok {state : AppState} {req : ExecRequest} {source : ScriptSource} :
    validate_input_sizes (utf8 source.as_str).length (utf8 req.context).length
      state.engine_cfg.max_script_size state.engine_cfg.max_context_size = .ok ()
      ↔ SizesFit state req source := by
  unfold validate_input_sizes SizesFit
  split
  · simp
    omega
  · split
    · simp
      omega
    · simp
      omega

/-- The codes of the size checks are not the reason that is logged for them. -/
theorem validate_input_sizes_code {s c ms mc : ℕ} {rejection : String × String}
    (h : validate_input_sizes s c ms mc = .error rejection) : rejection.1 ≠ "INPUT_TOO_LARGE" := by
  unfold validate_input_sizes at h
  split at h
  · cases h
    simp
  · split at h
    · cases h
      simp
    · cases h

/-- With the tenant known, the condition is about the rest of the request. A tenant is read off
the headers in one way only, so the one that `Misreported` speaks of is this one. -/
theorem misreported_iff {tenant : String}
    (haccepted : Accepted (TrustedIdentity.from_headers headers trusted.headers) tenant)
    {req : ExecRequest} (hreq : payload = .ok req) :
    Misreported w state trusted headers payload
      ↔ HoldsAll trusted.capability_entitlements (requested_capabilities req.config)
          (TrustedIdentity.from_headers headers trusted.headers)
        ∧ match resolve_script req.script req.key state.registry with
          | .error _ => req.script.isSome = req.key.isSome
          | .ok source =>
            ¬ SizesFit state req source
            ∨ QuotaAdmits w trusted tenant
                (TrustedIdentity.from_headers headers trusted.headers).plan
              ∧ (req.config.io.any = true ∧ DaemonRefuses w state.transport
                ∨ (req.config.io.any = true → DaemonAcks w state.transport)
                  ∧ acquire_permits state.partition_hash w.permits (some tenant)
                    = .partition_busy) := by
  subst hreq
  constructor
  · rintro ⟨tenant', haccepted', h⟩
    have hsame : tenant' = tenant :=
      Option.some.inj (haccepted'.tenant_eq.symm.trans haccepted.tenant_eq)
    rw [hsame] at h
    exact h
  · intro h
    exact ⟨tenant, haccepted, h⟩

/-- The trail of a request that the first half refuses. Gate by gate: each refusal records a code
and a trace id, and the response has both, but for the cases that `Misreported` names. -/
theorem matches_check_request (htrusted : state.trusted = some trusted)
    (hevents : state.events = true) (hbearer : BearerMatched state headers)
    (hrefused : ∀ c, (check_request w state headers payload).result ≠ .ok c) :
    Matches (check_request w state headers payload)
      ↔ ¬ Misreported w state trusted headers payload := by
  by_cases haccepted :
      ∃ tenant, Accepted (TrustedIdentity.from_headers headers trusted.headers) tenant
  case neg =>
    -- the identity is refused: nothing behind that gate is looked at
    obtain ⟨code, response, hexit, hcode, htrace⟩ :=
      exit_resolve_identity hevents htrusted haccepted w.trace_id
    rw [check_request, matches_bind (silent_enforce_auth hbearer),
      (hexit.reject.bind _).matches_iff]
    refine iff_of_true ⟨hcode, htrace⟩ ?_
    rintro ⟨tenant, h, -⟩
    exact haccepted ⟨tenant, h⟩
  obtain ⟨tenant, haccepted⟩ := haccepted
  have hidentity := silent_resolve_identity htrusted haccepted w.trace_id
  rw [check_request, matches_bind (silent_enforce_auth hbearer), matches_bind (hidentity.handle _),
    matches_bind (silent_record_identity_attrs _)]
  cases hpayload : payload with
  | error rejection =>
      have hbad : (lift (.error rejection) : Eff Effect String ExecRequest).result
          = .error rejection := rfl
      rw [matches_deny hevents hbad rfl]
      -- the code is the recorded one, but the response has a trace id of its own
      have hcode : (malformed_request_response w state rejection).error_code
          = some "MALFORMED_REQUEST" := by
        unfold malformed_request_response
        split <;> rfl
      have htrace : (malformed_request_response w state rejection).meta.trace_id = w.fresh_id := rfl
      rw [hcode, htrace, eq_self_iff_true, true_and]
      constructor
      · rintro hfresh ⟨tenant', -, h⟩
        exact h hfresh
      · intro h
        exact not_ne_iff.mp fun hne => h ⟨tenant, haccepted, hne⟩
  | ok req =>
      rw [matches_bind ((silent_lift rfl).handle _), misreported_iff haccepted rfl]
      by_cases hentitled : HoldsAll trusted.capability_entitlements
          (requested_capabilities req.config)
          (TrustedIdentity.from_headers headers trusted.headers)
      case neg =>
        obtain ⟨response, hexit, hcode, htrace⟩ :=
          exit_enforce_member_authz hevents htrusted hentitled w.trace_id
        rw [(hexit.reject.bind _).matches_iff]
        exact iff_of_true ⟨hcode, htrace⟩ fun h => hentitled h.1
      rw [matches_bind ((silent_enforce_member_authz htrusted hentitled).handle _)]
      simp only [hentitled, true_and]
      cases hscript : resolve_script req.script req.key state.registry with
      | error rejection =>
          have hbad : (lift (.error rejection) : Eff Effect _ ScriptSource).result
              = .error rejection := rfl
          -- one literal for both errors of `resolve_script`
          rw [matches_deny hevents hbad rfl]
          simp only [error_code_system_error_response, meta_system_error_response, Option.some.injEq,
            Meta.with_partition_trace_id, Meta.with_key_trace_id, Meta.new_trace_id, and_true]
          exact resolve_script_error hscript
      | ok source =>
          rw [matches_bind ((silent_lift rfl).handle _)]
          -- every gate passed but the last, so that is the one that refused
          have hmisfit : ¬ SizesFit state req source := by
            intro hfit
            have hchecked : Checked w state headers payload ⟨_, req, source, _⟩ :=
              ⟨enforce_auth_ok.mpr hbearer, hidentity.result, hpayload,
                (enforce_member_authz_ok htrusted).mpr hentitled, hscript,
                validate_input_sizes_ok.mpr hfit, rfl⟩
            exact hrefused _ (check_request_ok.mpr hchecked)
          cases hsizes : validate_input_sizes (utf8 source.as_str).length (utf8 req.context).length
              state.engine_cfg.max_script_size state.engine_cfg.max_context_size with
          | ok u => exact absurd (validate_input_sizes_ok.mp hsizes) hmisfit
          | error rejection =>
              have hbad : (lift (validate_input_sizes (utf8 source.as_str).length
                  (utf8 req.context).length state.engine_cfg.max_script_size
                  state.engine_cfg.max_context_size) : Eff Effect _ Unit).result
                  = .error rejection := hsizes
              refine (matches_deny hevents hbad rfl).trans (iff_of_false ?_ ?_)
              · rintro ⟨hcode, -⟩
                exact validate_input_sizes_code hsizes (Option.some.inj hcode)
              · exact not_not_intro (Or.inl hmisfit)

/-- A request that passes every check has left nothing in the log yet. -/
theorem silent_check_request (htrusted : state.trusted = some trusted) {c : Cleared}
    (h : Checked w state headers payload c) :
    Silent (check_request w state headers payload) c := by
  obtain ⟨identity, req, source, partition⟩ := c
  obtain ⟨hauth, hidentity, hrequest, hauthz, hscript, hsizes, hpartition⟩ := h
  obtain ⟨rfl, tenant, haccepted⟩ := (resolve_identity_ok htrusted).mp hidentity
  dsimp only at hpartition
  subst hpartition
  have hentitled := (enforce_member_authz_ok htrusted).mp hauthz
  refine silent_bind (silent_enforce_auth (enforce_auth_ok.mp hauth)) ?_
  refine silent_bind ((silent_resolve_identity htrusted haccepted _).handle _) ?_
  refine silent_bind (silent_record_identity_attrs _) ?_
  refine silent_bind ((silent_lift hrequest).handle _) ?_
  refine silent_bind ((silent_enforce_member_authz htrusted hentitled).handle _) ?_
  refine silent_bind ((silent_lift hscript).handle _) ?_
  refine silent_bind ((silent_lift hsizes).handle _) ?_
  exact silent_pure _

/-! ## The second half -/

/-- What answers an execution is no denial. -/
theorem ok_build_response (identity : Option TrustedIdentity) (result : JoinResult)
    (base_meta : Meta) :
    ∃ response, (build_response w state identity result base_meta).result = .ok response := by
  have herror : ∀ info err, ∃ response,
      (respond_engine_error state identity info err).result = .ok response := by
    intro info err
    rw [respond_engine_error, result_bind (result_emit_executed _ _ _)]
    exact ⟨_, rfl⟩
  unfold build_response
  rw [result_bind result_perform]
  obtain join_err | ⟨engine_err | ⟨js_json | engine_err, metrics⟩, backend⟩ := result
  · exact herror _ _
  · exact herror _ _
  · dsimp only
    rw [result_bind rfl, result_bind (result_emit_executed _ _ _)]
    exact ⟨_, rfl⟩
  · dsimp only
    rw [result_bind rfl]
    exact herror _ _

/-- A request that reaches outside opens its session here, or is refused with the one reason of
this exit. -/
theorem egress_session_eq {c : Cleared} (hany : c.req.config.io.any = true) :
    egress_session w state c
      = handle (connect_session w state.transport (c.wire_init state)) (fun err =>
          deny state c.identity w.trace_id "EGRESS_UNAVAILABLE"
            (session_error_response err (c.error_meta w.trace_id)))
        >>= fun conn => pure (some conn) := by
  rw [egress_session, if_pos hany]
  rfl

/-- The session is not asked for, or the daemon acknowledged it. -/
theorem silent_egress_session {c : Cleared} {session : Option WireInit}
    (h : (egress_session w state c).result = .ok session) :
    Silent (egress_session w state c) session
      ∧ (c.req.config.io.any = true → DaemonAcks w state.transport) := by
  by_cases hany : c.req.config.io.any = true
  · rw [egress_session_eq hany] at h ⊢
    simp only [ok_bind, ok_handle, deny_ok, and_false, exists_false, or_false, ok_pure] at h
    obtain ⟨conn, hconn, rfl⟩ := h
    refine ⟨?_, fun _ => daemonAcks_of_ok hconn⟩
    exact silent_bind (Silent.handle ⟨hconn, denials_connect_session _ _⟩ _) (silent_pure _)
  · rw [egress_session, if_neg hany] at h ⊢
    obtain rfl := ok_pure.mp h
    exact ⟨silent_pure _, fun h => absurd h hany⟩

/-- A session that did not open is on record as unavailable, whatever the caller is
told. -/
theorem exit_egress_session (hevents : state.events = true) {c : Cleared} {response : Response}
    (h : (egress_session w state c).result = .error response) :
    c.req.config.io.any = true
      ∧ ∃ err, (connect_session w state.transport (c.wire_init state)).result = .error err
        ∧ Exit (egress_session w state c) "EGRESS_UNAVAILABLE" w.trace_id
          (session_error_response err (c.error_meta w.trace_id)) := by
  by_cases hany : c.req.config.io.any = true
  · refine ⟨hany, ?_⟩
    rw [egress_session_eq hany] at h ⊢
    cases hconnect : (connect_session w state.transport (c.wire_init state)).result with
    | ok conn =>
        rw [result_bind (ok_handle.mpr (Or.inl hconnect))] at h
        cases h
    | error err =>
        refine ⟨err, rfl, ?_⟩
        have hquiet := denials_connect_session (w := w) state.transport (c.wire_init state)
        exact (exit_handle hconnect hquiet (exit_deny hevents)).bind _
  · rw [egress_session, if_neg hany] at h
    cases h

/-- The answer to a request that gets no permits. -/
def shed_response (info : Meta) : Admission → Option Response
  | .granted _ _ => none
  | .partition_busy => some (partition_overloaded_response info)
  | .global_busy => some (overloaded_response info)

/-- What the admission answers is what the permits answer. -/
theorem result_admit_execution (w : World) (state : AppState) (partition : Option String)
    (info : Meta) :
    (admit_execution w state partition info).result
      = match shed_response info (acquire_permits state.partition_hash w.permits partition) with
        | none => .ok ()
        | some response => .error response := by
  rw [admit_execution, result_bind result_perform]
  cases acquire_permits state.partition_hash w.permits partition with
  | granted bucket permits => rfl
  | partition_busy => rfl
  | global_busy => rfl

/-- The admission leaves the denial to its caller. -/
theorem denials_admit_execution {partition : Option String} {busy_meta : Meta} :
    denials (admit_execution w state partition busy_meta).effects = [] := by
  refine denials_eq_nil (all_admit_execution ?_ ?_ busy_meta)
  · intro counter
    rfl
  · rfl

/-- Both sheds are on record under the name of one. -/
theorem shed_response_code {info : Meta} {admission : Admission} {response : Response}
    (h : shed_response info admission = some response) :
    (response.error_code = some "OVERLOADED" ↔ ¬ admission = .partition_busy)
      ∧ response.meta = info := by
  cases admission with
  | granted bucket permits => cases h
  | partition_busy =>
      cases h
      simp [partition_overloaded_response, ErrorEnvelope.new]
  | global_busy =>
      cases h
      simp [overloaded_response, ErrorEnvelope.new]

/-- The exit of the admission matches: the reason in the log and the code of the response are the
same word, for either level. -/
theorem matches_admission (hevents : state.events = true) {identity : Option TrustedIdentity}
    {partition : Option String} {info : Meta} (hinfo : info.trace_id = w.trace_id) {β : Type}
    {f : Unit → Eff Effect Response β} (hf : ∃ b, (f ()).result = .ok b) {response : Response}
    (hdenied : (handle (admit_execution w state partition info) (fun shed => do
        emit_denied state identity w.trace_id "OVERLOADED" none
        leave shed) >>= f).result = .error response) :
    Matches (handle (admit_execution w state partition info) (fun shed => do
        emit_denied state identity w.trace_id "OVERLOADED" none
        leave shed) >>= f)
      ↔ ¬ acquire_permits state.partition_hash w.permits partition = .partition_busy := by
  have hresult := result_admit_execution w state partition info
  cases hshed : shed_response info (acquire_permits state.partition_hash w.permits partition) with
  | none =>
      -- the permits are granted, and the request is not denied any more
      obtain ⟨b, hb⟩ := hf
      rw [hshed] at hresult
      rw [result_bind (ok_handle.mpr (Or.inl hresult)), hb] at hdenied
      cases hdenied
  | some response' =>
      obtain ⟨hcode, hmeta⟩ := shed_response_code hshed
      rw [hshed] at hresult
      have hexit : Exit (handle (admit_execution w state partition info) (fun shed => do
          emit_denied state identity w.trace_id "OVERLOADED" none
          leave shed)) "OVERLOADED" w.trace_id response' :=
        exit_handle hresult denials_admit_execution (exit_of_denied hevents)
      rw [(hexit.bind f).matches_iff, hcode, hmeta]
      exact and_iff_left hinfo

/-- The trail of a request that passes the first half, and is refused after it: by the quota, by
the session to the daemon, or by the permits. Each has its record and its response put together in
one place. -/
theorem matches_late (htrusted : state.trusted = some trusted) (hevents : state.events = true)
    {c : Cleared} (hchecked : Checked w state headers payload c) {response : Response}
    (hdenied : (run_execute w state headers payload).result = .error response) :
    Matches (run_execute w state headers payload)
      ↔ ¬ Misreported w state trusted headers payload := by
  obtain ⟨hidentity, tenant, haccepted⟩ := (resolve_identity_ok htrusted).mp hchecked.identity
  have hauthz := hchecked.authz
  rw [hidentity] at hauthz
  have hentitled := (enforce_member_authz_ok htrusted).mp hauthz
  have hfit := validate_input_sizes_ok.mp hchecked.sizes
  have hpartition : c.partition = some tenant := by
    rw [hchecked.partition_eq, hidentity]
    exact haccepted.tenant_eq
  have hmeta : (c.error_meta w.trace_id).trace_id = w.trace_id := rfl
  have hpast := silent_check_request htrusted hchecked
  -- what the first half established decides the first half of the condition
  rw [misreported_iff haccepted hchecked.request, hchecked.script]
  rw [run_execute] at hdenied ⊢
  rw [result_bind hpast.result] at hdenied
  rw [matches_bind hpast]
  simp only [hentitled, hfit, not_true_eq_false, false_or, true_and]
  rw [hidentity] at hdenied ⊢
  by_cases hquota : QuotaAdmits w trusted tenant
      (TrustedIdentity.from_headers headers trusted.headers).plan
  case neg =>
    obtain ⟨response', hexit, hcode, htrace⟩ :=
      exit_enforce_quota hevents htrusted haccepted.tenant_eq hmeta hquota
    rw [(hexit.reject.bind _).matches_iff]
    exact iff_of_true ⟨hcode, htrace⟩ fun h => hquota h.1
  obtain ⟨guard, hguard⟩ := silent_enforce_quota htrusted haccepted.tenant_eq hquota
  rw [result_bind (hguard.handle _).result] at hdenied
  rw [matches_bind (hguard.handle _)]
  simp only [hquota, true_and]
  cases hsession : (egress_session w state c).result with
  | error response' =>
      -- the daemon's own code goes to the caller, and is not recorded
      obtain ⟨hany, err, hconnect, hexit⟩ := exit_egress_session hevents hsession
      obtain ⟨hnot, hiff⟩ := session_code_iff hconnect
      obtain ⟨hcode, hinfo⟩ := error_code_session_error_response err (c.error_meta w.trace_id)
      rw [(hexit.bind _).matches_iff, hcode, hinfo, Option.some.injEq, hiff]
      simp only [hmeta, hany, hnot, and_true, true_and, true_imp_iff, false_and, or_false]
  | ok session =>
      obtain ⟨hsilent, hacks⟩ := silent_egress_session hsession
      rw [result_bind hsession] at hdenied
      rw [matches_bind hsilent]
      -- a daemon that acknowledged did not refuse, so the permits decide
      have hrefuses : ¬ (c.req.config.io.any = true ∧ DaemonRefuses w state.transport) := by
        rintro ⟨hany, -, answer, hanswer, hne, -⟩
        rw [(hacks hany).2, Except.ok.injEq, Option.some.injEq] at hanswer
        exact hne hanswer.symm
      rw [or_iff_right hrefuses, and_iff_right hacks]
      rw [hpartition] at hdenied ⊢
      refine matches_admission hevents hmeta ?_ hdenied
      rw [result_bind result_perform]
      exact ok_build_response _ _ _

/-! ## The result -/

/-- **The audit trail.** A trusted-mode request that passes the bearer gate and is
denied later has one denied event with the code and the trace id the caller gets,
exactly when it is none of the misreported ones. -/
theorem audit_matches_iff (w : World) (state : AppState) (headers : HeaderMap)
    (payload : Except String ExecRequest) (trusted : TrustedRuntime)
    (htrusted : state.trusted = some trusted) (hevents : state.events = true)
    (hbearer : BearerMatched state headers) (response : Response)
    (hdenied : (run_execute w state headers payload).result = .error response) :
    AuditMatches (run_execute w state headers payload).effects response
      ↔ ¬ Misreported w state trusted headers payload := by
  have hmatches : AuditMatches (run_execute w state headers payload).effects response
      ↔ Matches (run_execute w state headers payload) := by
    constructor
    · exact fun h => ⟨response, hdenied, h⟩
    · rintro ⟨response', hresponse', h⟩
      rw [hdenied, Except.error.injEq] at hresponse'
      exact hresponse' ▸ h
  rw [hmatches]
  cases hcheck : (check_request w state headers payload).result with
  | ok c => exact matches_late htrusted hevents (check_request_ok.mp hcheck) hdenied
  | error response' =>
      have hrefused : ∀ c, (check_request w state headers payload).result ≠ .ok c := by
        intro c hc
        rw [hcheck] at hc
        cases hc
      rw [← matches_check_request htrusted hevents hbearer hrefused, run_execute]
      exact matches_bind_error hcheck

/-- A request for a script nobody registered: the trail says what the caller is
told. -/
def unknown_key_request : ExecRequest where
  key := some "nope"

/-- The key of no script: the reason and the code agree. -/
theorem audit_matches_unknown_key :
    AuditMatches (run_execute calm_world acme_state acme_headers (.ok unknown_key_request)).effects
      (system_error_response
        (request_error "SCRIPT_NOT_FOUND" "no registered script for key `nope`") 404
        (base_error_meta calm_world.trace_id 0 2 (some "nope") (some "ws_acme"))) := by
  refine (audit_matches_iff calm_world acme_state acme_headers (.ok unknown_key_request) acme_runtime
    rfl rfl ?_ _ ?_).mpr ?_
  · rintro expected hexpected
    cases hexpected
    decide +kernel
  · decide +kernel
  · rintro ⟨tenant, -, -, h⟩
    cases h

/-- A request with neither a script nor a key is on record as one whose script was
not found. -/
theorem empty_request_is_misreported :
    ∃ response, (run_execute calm_world acme_state acme_headers (.ok {})).result = .error response
      ∧ ¬ AuditMatches (run_execute calm_world acme_state acme_headers (.ok {})).effects
        response := by
  refine ⟨system_error_response (request_error "SCRIPT_XOR_KEY"
    "request must include exactly one of `script` or `key`") 400
    (base_error_meta calm_world.trace_id 0 2 none (some "ws_acme")), by decide +kernel, ?_⟩
  rintro ⟨event, code, hdenials, hreason, hcode, -⟩
  have hrecorded : (denials (run_execute calm_world acme_state acme_headers (.ok {})).effects).map
      Event.reason = [some "SCRIPT_NOT_FOUND"] := by decide +kernel
  rw [hdenials, List.map_singleton, hreason] at hrecorded
  cases hcode
  exact absurd hrecorded (by decide)

end Runlet.Handler
