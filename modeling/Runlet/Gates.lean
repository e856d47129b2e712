/-
What the gates of the pipeline mean when they let a request pass, one lemma for
each, and what a run that got past them has in hand (`check_request_ok`).
-/
import Runlet.Handler

set_option autoImplicit false

namespace Runlet.Handler

open Effects Text Runlet.Json Runlet.Wire Runlet.Errors Runlet.Identity Runlet.Capabilities
open Runlet.Quota Runlet.Concurrency

variable {w : World} {state : AppState} {headers : HeaderMap}
  {payload : Except String ExecRequest}

/-! ## Leaving -/

/-- Recording a denial goes on. -/
@[simp] theorem result_emit_denied {ρ : Type} {identity : Option TrustedIdentity}
    {trace_id reason : String} {detail : Option Value} :
    (emit_denied state identity trace_id reason detail : Eff Effect ρ Unit).result = .ok () := by
  rw [emit_denied]
  split <;> rfl

@[simp] theorem reject_ok {α : Type} {response : Response} {a : α} :
    (reject response : Eff Effect Response α).result = .ok a ↔ False := by
  simp [reject]

/-- A denial has no answer but its response. -/
@[simp] theorem deny_ok {α : Type} {identity : Option TrustedIdentity} {trace_id reason : String}
    {response : Response} {a : α} :
    (deny state identity trace_id reason response : Eff Effect Response α).result = .ok a
      ↔ False := by
  simp [deny]

/-- Nor has a refused identity. -/
@[simp] theorem refuse_identity_ok {α : Type} {identity : TrustedIdentity}
    {trace_id code message : String} {a : α} :
    (refuse_identity state identity trace_id code message : Eff Effect Response α).result = .ok a
      ↔ False := by
  simp [refuse_identity]

/-! ## Passing -/

/-- The configured bearer, if any, was presented. -/
def BearerMatched (state : AppState) (headers : HeaderMap) : Prop :=
  ∀ expected, state.access_token = some expected → request_authorized headers expected = true

/-- The first gate lets a request through exactly if its bearer token is the configured one. -/
theorem enforce_auth_ok {u : Unit} :
    (enforce_auth w state headers).result = .ok u ↔ BearerMatched state headers := by
  unfold enforce_auth BearerMatched
  cases state.access_token with
  | none => simp
  | some expected =>
      by_cases hmatch : request_authorized headers expected = true
      · simp [hmatch]
      · simp [hmatch]

/-- The identity the gate accepts. -/
structure Accepted (identity : TrustedIdentity) (tenant : String) : Prop where
  not_anonymous : identity.anonymous = false
  not_suspended : identity.suspended = false
  tenant_eq : identity.tenant = some tenant
  scope_acting : identity.scope = some "acting"

/-- In trusted mode the gate passes the identity of the trusted headers, when it
is acceptable, and nothing else. -/
theorem resolve_identity_ok {trusted : TrustedRuntime} (htrusted : state.trusted = some trusted)
    {trace_id : String} {identity : Option TrustedIdentity} :
    (resolve_identity state headers trace_id).result = .ok identity
      ↔ identity = some (TrustedIdentity.from_headers headers trusted.headers)
        ∧ ∃ tenant, Accepted (TrustedIdentity.from_headers headers trusted.headers) tenant := by
  simp only [resolve_identity, htrusted]
  generalize TrustedIdentity.from_headers headers trusted.headers = id
  -- the four refusals, in the order of the source
  by_cases hanonymous : id.anonymous = true
  · rw [if_pos hanonymous]
    simp only [refuse_identity_ok, false_iff, not_and, not_exists]
    intro _ tenant h
    exact absurd hanonymous (by simp [h.not_anonymous])
  rw [if_neg hanonymous]
  by_cases hsuspended : id.suspended = true
  · rw [if_pos hsuspended]
    simp only [refuse_identity_ok, false_iff, not_and, not_exists]
    intro _ tenant h
    exact absurd hsuspended (by simp [h.not_suspended])
  rw [if_neg hsuspended]
  cases htenant : id.tenant with
  | none =>
      simp only [Option.isNone_none, if_true, refuse_identity_ok, false_iff, not_and, not_exists]
      intro _ tenant h
      exact absurd h.tenant_eq (by simp [htenant])
  | some tenant =>
      simp only [Option.isNone_some, Bool.false_eq_true, if_false]
      by_cases hscope : id.scope = some "acting"
      · rw [if_neg (not_not_intro hscope)]
        simp only [ok_pure]
        constructor
        · intro h
          refine ⟨h.symm, tenant, ?_⟩
          exact ⟨by simpa using hanonymous, by simpa using hsuspended, htenant, hscope⟩
        · rintro ⟨rfl, -⟩
          rfl
      · rw [if_pos hscope]
        simp only [refuse_identity_ok, false_iff, not_and, not_exists]
        intro _ tenant h
        exact hscope h.scope_acting

/-- The identity a request comes with; none outside trusted mode. -/
def identity_of (state : AppState) (headers : HeaderMap) : Option TrustedIdentity :=
  state.trusted.map fun trusted => TrustedIdentity.from_headers headers trusted.headers

/-- An identity that is resolved is the one that the headers give. -/
theorem resolve_identity_eq {trace_id : String} {identity : Option TrustedIdentity}
    (h : (resolve_identity state headers trace_id).result = .ok identity) :
    identity = identity_of state headers := by
  rw [identity_of]
  cases htrusted : state.trusted with
  | none =>
      simp only [resolve_identity, htrusted, ok_pure] at h
      exact h.symm
  | some trusted => exact ((resolve_identity_ok htrusted).mp h).1

/-- The third gate lets a member through exactly if it holds all that it asks for. -/
theorem enforce_member_authz_ok {trusted : TrustedRuntime} (htrusted : state.trusted = some trusted)
    {id : TrustedIdentity} {config : RequestConfig} {trace_id : String} {u : Unit} :
    (enforce_member_authz state (some id) config trace_id).result = .ok u
      ↔ HoldsAll trusted.capability_entitlements (requested_capabilities config) id := by
  rw [← authorize_capabilities_ok]
  simp only [enforce_member_authz, htrusted]
  cases authorize_capabilities trusted.capability_entitlements (requested_capabilities config) id with
  | ok u => simp
  | error denied => simp

/-- The tenant quota, when one is configured, admits the tenant. -/
def QuotaAdmits (w : World) (trusted : TrustedRuntime) (tenant : String) (plan : Option String) :
    Prop :=
  ∀ limits, trusted.quota = some limits →
    ∃ q, TenantQuota.admit_tenant ⟨limits, w.inflight⟩ tenant plan = .ok q

/-- The fourth lets a tenant through exactly if it has room. -/
theorem enforce_quota_ok {trusted : TrustedRuntime} (htrusted : state.trusted = some trusted)
    {id : TrustedIdentity} {tenant : String} (htenant : id.tenant = some tenant)
    {trace_id : String} {info : Meta} :
    (∃ guard, (enforce_quota w state (some id) trace_id info).result = .ok guard)
      ↔ QuotaAdmits w trusted tenant id.plan := by
  simp only [enforce_quota, htrusted, htenant, QuotaAdmits]
  cases trusted.quota with
  | none => simp
  | some limits =>
      cases hq : TenantQuota.admit_tenant ⟨limits, w.inflight⟩ tenant id.plan with
      | ok q => simp [hq]
      | error exceeded => simp [hq]

/-! ## The egress session -/

/-- The session that is opened was opened with the frame that was sent. -/
theorem handshake_ok {init conn : WireInit} (h : (handshake w init).result = .ok conn) :
    conn = init := by
  simp only [handshake, ok_bind, ok_lift] at h
  obtain ⟨-, -, -, -, h⟩ := h
  unfold interpret_answer at h
  split at h
  · exact (Except.ok.inj h).symm
  all_goals cases h

theorem mem_handshake (init : WireInit) : .open_session init ∈ (handshake w init).effects :=
  mem_bind.mpr (Or.inl (mem_perform.mpr rfl))

/-- A session is named by the message it was opened with; a token may have been
added to that. -/
theorem connect_session_ok {transport : SidecarTransport} {init conn : WireInit}
    (h : (connect_session w transport init).result = .ok conn) :
    ∃ token, conn = { init with token }
      ∧ .open_session conn ∈ (connect_session w transport init).effects := by
  unfold connect_session at h ⊢
  cases transport with
  | none => exact absurd (ok_leave.mp h) id
  | uds =>
      simp only [ok_bind] at h
      obtain ⟨⟨⟩, hdial, ⟨⟩, hreached, h⟩ := h
      obtain rfl := handshake_ok h
      simp only [mem_bind]
      exact ⟨conn.token, rfl, Or.inr ⟨(), hdial, Or.inr ⟨(), hreached, mem_handshake _⟩⟩⟩
  | quic =>
      simp only [ok_bind] at h
      obtain ⟨token, htoken, ⟨⟩, hdial, ⟨⟩, hreached, h⟩ := h
      obtain rfl := handshake_ok h
      simp only [mem_bind]
      refine ⟨token, rfl, Or.inr ⟨token, htoken, Or.inr ⟨(), hdial, Or.inr ⟨(), hreached, ?_⟩⟩⟩⟩
      exact mem_handshake _

/-- The message of a request's session. -/
def Cleared.wire_init (c : Cleared) (state : AppState) : WireInit :=
  c.req.config.io.wire_init state.engine_cfg.timeout_ms.toNat (c.identity.bind (·.tenant))

/-- A request that reaches outside has a session: its frame is the request's own but for the token
of the box, and it was sent. -/
theorem egress_session_some {c : Cleared} {session : Option WireInit}
    (hany : c.req.config.io.any = true) (h : (egress_session w state c).result = .ok session) :
    ∃ conn, session = some conn ∧ (∃ token, conn = { c.wire_init state with token })
      ∧ .open_session conn ∈ (egress_session w state c).effects := by
  unfold egress_session at h ⊢
  rw [if_pos hany] at h ⊢
  simp only [ok_bind, ok_handle, deny_ok, and_false, exists_false, or_false, ok_pure] at h
  obtain ⟨conn, hconn, rfl⟩ := h
  obtain ⟨token, htoken, hopen⟩ := connect_session_ok hconn
  refine ⟨conn, rfl, ⟨token, htoken⟩, ?_⟩
  exact mem_bind.mpr (Or.inl (mem_handle.mpr (Or.inl hopen)))

/-- A request that stays inside opens no session. -/
theorem egress_session_none {c : Cleared} {session : Option WireInit}
    (hany : c.req.config.io.any = false) (h : (egress_session w state c).result = .ok session) :
    session = none := by
  rw [egress_session, if_neg (by simp [hany])] at h
  exact (ok_pure.mp h).symm

/-! ## Past the checks -/

/-- Everything the first half of the pipeline has established. -/
structure Checked (w : World) (state : AppState) (headers : HeaderMap)
    (payload : Except String ExecRequest) (c : Cleared) : Prop where
  auth : (enforce_auth w state headers).result = .ok ()
  identity : (resolve_identity state headers w.trace_id).result = .ok c.identity
  request : payload = .ok c.req
  authz : (enforce_member_authz state c.identity c.req.config w.trace_id).result = .ok ()
  script : resolve_script c.req.script c.req.key state.registry = .ok c.source
  sizes : validate_input_sizes c.script_bytes c.context_bytes state.engine_cfg.max_script_size
    state.engine_cfg.max_context_size = .ok ()
  partition_eq : c.partition
    = resolve_partition c.identity ((header_partition headers).or c.req.partition)

/-- **The checks of a request**, all that has to hold for it to be cleared, with what it is
cleared to do. -/
theorem check_request_ok {c : Cleared} :
    (check_request w state headers payload).result = .ok c
      ↔ Checked w state headers payload c := by
  simp only [check_request, ok_bind, ok_handle, ok_lift, ok_pure, reject_ok, deny_ok, and_false,
    exists_false, or_false]
  constructor
  · rintro ⟨⟨⟩, hauth, identity, hidentity, ⟨⟩, -, req, hreq, ⟨⟩, hauthz, source, hsource, ⟨⟩,
      hsizes, rfl⟩
    exact ⟨hauth, hidentity, hreq, hauthz, hsource, hsizes, rfl⟩
  · rintro ⟨hauth, hidentity, hreq, hauthz, hsource, hsizes, hpartition⟩
    refine ⟨(), hauth, c.identity, hidentity, (), ?_, c.req, hreq, (), hauthz, c.source, hsource, (),
      ?_, ?_⟩
    · unfold record_identity_attrs
      split <;> rfl
    · exact hsizes
    · rw [← hpartition]

/-! ## What the effects of a step are

One lemma for each step: a property holds of all its effects when it holds of the
effects that only count, measure or annotate, of the events of the identity, and
of the few effects of the step's own. -/

section Steps

variable {p : Effect → Prop} {identity : Option TrustedIdentity}

/-- The property holds of the effects that carry nothing, and of the events of
the identity. -/
structure Plain (p : Effect → Prop) (identity : Option TrustedIdentity) : Prop where
  count : ∀ counter, p (.count counter)
  observe : ∀ histogram micros, p (.observe histogram micros)
  span : ∀ field value, p (.span field value)
  event : ∀ event, event.tenant = identity.bind (·.tenant) → p (.record event)

/-- What holds of an identity's events holds of a denial. -/
theorem all_emit_denied {ρ : Type} (h : Plain p identity) (trace_id reason : String)
    (detail : Option Value) :
    All p (emit_denied state identity trace_id reason detail : Eff Effect ρ Unit) := by
  unfold emit_denied
  split
  · exact all_perform (h.event _ rfl)
  · exact all_pure ()

/-- It holds of an execution's, -/
theorem all_emit_executed {ρ : Type} (h : Plain p identity) (info : Meta) (outcome : String) :
    All p (emit_executed state identity info outcome : Eff Effect ρ Unit) := by
  unfold emit_executed
  split
  · exact all_bind (all_perform (h.event _ rfl)) fun _ _ => all_perform (h.event _ rfl)
  · exact all_pure ()

theorem all_reject {α : Type} (h : Plain p identity) (response : Response) :
    All p (reject response : Eff Effect Response α) :=
  all_bind (all_perform (h.count _)) fun _ _ => all_leave response

/-- of a refusal, -/
theorem all_deny {α : Type} (h : Plain p identity) (trace_id reason : String)
    (response : Response) :
    All p (deny state identity trace_id reason response : Eff Effect Response α) := by
  refine all_bind (all_perform (h.count _)) fun _ _ => ?_
  exact all_bind (all_emit_denied h trace_id reason none) fun _ _ => all_leave response

/-- of the first gate, -/
theorem all_enforce_auth (h : Plain p identity) : All p (enforce_auth w state headers) := by
  unfold enforce_auth
  split
  · exact all_pure ()
  · split
    · exact all_pure ()
    · exact all_reject h _

/-- What holds of every span holds of all that is recorded of an identity. -/
theorem all_record_identity_attrs (hspan : ∀ field value, p (.span field value)) :
    All p (record_identity_attrs identity) := by
  unfold record_identity_attrs
  split
  · exact all_pure ()
  · intro e he
    simp only [List.mem_append, List.mem_map] at he
    rcases he with (⟨value, -, rfl⟩ | ⟨value, -, rfl⟩) | ⟨value, -, rfl⟩
    · exact hspan _ _
    · exact hspan _ _
    · exact hspan _ _

/-- The effects of the third gate. -/
theorem all_enforce_member_authz (h : Plain p identity) (config : RequestConfig)
    (trace_id : String) : All p (enforce_member_authz state identity config trace_id) := by
  unfold enforce_member_authz
  split
  · split
    · exact all_pure ()
    · exact all_bind (all_emit_denied h _ _ _) fun _ _ => all_leave _
  · exact all_pure ()

/-- The effects of the fourth gate: the quota is asked for the identity's own tenant and plan. -/
theorem all_enforce_quota (h : Plain p identity) (trace_id : String) (info : Meta)
    (hkey : ∀ id tenant, identity = some id → id.tenant = some tenant →
      p (.ask_quota tenant id.plan)) :
    All p (enforce_quota w state identity trace_id info) := by
  unfold enforce_quota
  split
  · rename_i id _
    split
    · rename_i tenant _ htenant
      refine all_bind (all_perform (hkey id tenant rfl htenant)) fun _ _ => ?_
      split
      · exact all_pure _
      · exact all_bind (all_emit_denied h _ _ _) fun _ _ => all_leave _
    · exact all_pure none
  · exact all_pure none

/-- of an error that is answered, -/
theorem all_respond_engine_error (h : Plain p identity) (info : Meta) (err : EngineError) :
    All p (respond_engine_error state identity info err) := by
  refine all_bind (all_emit_executed h _ _) fun _ _ => ?_
  refine all_bind (all_perform (h.count _)) fun _ _ => ?_
  exact all_bind (all_perform (h.span _ _)) fun _ _ => all_pure _

/-- The latencies of the capabilities go to histograms of their own. -/
theorem mem_record_capability_latencies {exec : ExecMetrics} {backend : BackendMetrics}
    {e : Effect} (he : e ∈ (record_capability_latencies exec backend).effects) :
    ∃ histogram micros, e = .observe histogram micros ∧ histogram ≠ .exec_latency := by
  simp only [record_capability_latencies, List.mem_append, List.mem_map] at he
  rcases he with ((((((⟨m, -, rfl⟩ | ⟨m, -, rfl⟩) | ⟨m, -, rfl⟩) | ⟨m, -, rfl⟩) | ⟨m, -, rfl⟩) |
    ⟨m, -, rfl⟩) | ⟨m, -, rfl⟩) | ⟨m, -, rfl⟩ <;> exact ⟨_, _, rfl, by simp⟩

/-- A reading that passes over these histograms finds nothing there. -/
theorem reading_record_capability_latencies {κ : Type} {r : Effect → Option κ}
    (hr : ∀ histogram micros, histogram ≠ .exec_latency → r (.observe histogram micros) = none)
    (exec : ExecMetrics) (backend : BackendMetrics) :
    reading r (record_capability_latencies exec backend) = [] := by
  apply reading_eq_nil
  intro e he
  obtain ⟨histogram, micros, rfl, hne⟩ := mem_record_capability_latencies he
  exact hr histogram micros hne

/-- Recording an execution lets the answer go on, with a sink wired or without. -/
theorem result_emit_executed {ρ : Type} (identity : Option TrustedIdentity) (info : Meta)
    (outcome : String) :
    (emit_executed state identity info outcome : Eff Effect ρ Unit).result = .ok () := by
  rw [emit_executed]
  split <;> rfl

/-- and of the latencies. -/
theorem all_record_capability_latencies (h : Plain p identity) (exec : ExecMetrics)
    (backend : BackendMetrics) : All p (record_capability_latencies exec backend) := by
  intro e he
  obtain ⟨histogram, micros, rfl, -⟩ := mem_record_capability_latencies he
  exact h.observe histogram micros

/-- The effects of an answer. -/
theorem all_build_response (h : Plain p identity) (result : JoinResult) (base_meta : Meta) :
    All p (build_response w state identity result base_meta) := by
  refine all_bind (all_perform (h.observe _ _)) fun _ _ => ?_
  split
  · refine all_bind (all_record_capability_latencies h _ _) fun _ _ => ?_
    dsimp only
    split
    · refine all_bind (all_emit_executed h _ _) fun _ _ => ?_
      refine all_bind (all_perform (h.count _)) fun _ _ => ?_
      exact all_bind (all_perform (h.span _ _)) fun _ _ => all_pure _
    · exact all_respond_engine_error h _ _
  · exact all_respond_engine_error h _ _
  · exact all_respond_engine_error h _ _

/-- With a sink wired, every answer to an execution is recorded, whatever the outcome is: both
events are emitted in front of the response. -/
theorem exists_event_build_response (hevents : state.events = true)
    (identity : Option TrustedIdentity) (result : JoinResult) (base_meta : Meta) :
    ∃ event, .record event ∈ (build_response w state identity result base_meta).effects := by
  have hemit : ∀ info outcome, ∃ event, .record event
      ∈ (emit_executed state identity info outcome : Eff Effect Response Unit).effects := by
    intro info outcome
    rw [emit_executed, if_pos hevents]
    exact ⟨_, mem_bind.mpr (Or.inl (mem_perform.mpr rfl))⟩
  have herror : ∀ info err, ∃ event, .record event
      ∈ (respond_engine_error state identity info err).effects := by
    intro info err
    obtain ⟨event, hevent⟩ := hemit info (engine_error_outcome err)
    exact ⟨event, mem_bind.mpr (Or.inl hevent)⟩
  simp only [build_response, mem_bind]
  obtain join_err | ⟨engine_err | ⟨js_json | engine_err, metrics⟩, backend⟩ := result
  · obtain ⟨event, hevent⟩ := herror base_meta (.internal ("task panicked: " ++ join_err))
    exact ⟨event, Or.inr ⟨(), result_perform, hevent⟩⟩
  · obtain ⟨event, hevent⟩ := herror base_meta engine_err
    exact ⟨event, Or.inr ⟨(), result_perform, hevent⟩⟩
  · obtain ⟨event, hevent⟩ := hemit (base_meta.with_metrics metrics backend) "success"
    simp only [mem_bind]
    exact ⟨event, Or.inr ⟨(), result_perform, Or.inr ⟨(), rfl, Or.inl hevent⟩⟩⟩
  · obtain ⟨event, hevent⟩ := herror (base_meta.with_metrics metrics backend) engine_err
    simp only [mem_bind]
    exact ⟨event, Or.inr ⟨(), result_perform, Or.inr ⟨(), rfl, hevent⟩⟩⟩

/-- The effects of the second gate. -/
theorem all_resolve_identity (h : Plain p (identity_of state headers)) (trace_id : String) :
    All p (resolve_identity state headers trace_id) := by
  unfold resolve_identity
  split
  · exact all_pure none
  rename_i trusted htrusted
  have hrefuse : ∀ code message, All p (refuse_identity state
      (TrustedIdentity.from_headers headers trusted.headers) trace_id code message
      : Eff Effect Response (Option TrustedIdentity)) := by
    intro code message
    rw [identity_of, htrusted] at h
    exact all_bind (all_emit_denied h _ _ _) fun _ _ => all_leave _
  dsimp only
  split
  · exact hrefuse _ _
  split
  · exact hrefuse _ _
  split
  · exact hrefuse _ _
  split
  · exact hrefuse _ _
  exact all_pure _

/-- Up to the size check, a request does nothing but count, record and annotate. -/
theorem all_check_request (h : Plain p (identity_of state headers)) :
    All p (check_request w state headers payload) := by
  refine all_bind (all_enforce_auth h) fun _ _ => ?_
  refine all_bind (all_handle (all_resolve_identity h _) fun _ _ => all_reject h _) ?_
  intro identity hidentity
  simp only [ok_handle, reject_ok, and_false, exists_false, or_false] at hidentity
  rw [← resolve_identity_eq hidentity] at h
  refine all_bind (all_record_identity_attrs h.span) fun _ _ => ?_
  refine all_bind (all_handle (all_lift _) fun _ _ => all_deny h _ _ _) fun req _ => ?_
  refine all_bind (all_handle (all_enforce_member_authz h _ _) fun _ _ => all_reject h _) ?_
  intro _ _
  refine all_bind (all_handle (all_lift _) fun _ _ => all_deny h _ _ _) fun source _ => ?_
  exact all_bind (all_handle (all_lift _) fun _ _ => all_deny h _ _ _) fun _ _ => all_pure _

/-- The effects of opening a session: a dial, and one frame that is the given one but for its
token. -/
theorem all_connect_session {transport : SidecarTransport} {init : WireInit} (hdial : p .dial)
    (hopen : ∀ token, p (.open_session { init with token })) :
    All p (connect_session w transport init) := by
  have hshake : ∀ token, All p (handshake w { init with token }) := by
    intro token
    refine all_bind (all_perform (hopen token)) fun _ _ => ?_
    exact all_bind (all_lift _) fun _ _ => all_lift _
  unfold connect_session
  split
  · exact all_leave _
  · refine all_bind (all_perform hdial) fun _ _ => ?_
    exact all_bind (all_lift _) fun _ _ => hshake init.token
  · refine all_bind (all_lift _) fun token _ => ?_
    refine all_bind (all_perform hdial) fun _ _ => ?_
    exact all_bind (all_lift _) fun _ _ => hshake token

/-- The session of a request is opened in the name of its own tenant. -/
theorem all_egress_session {c : Cleared} (h : Plain p c.identity) (hdial : p .dial)
    (hopen : ∀ init : WireInit, init.tenant = c.identity.bind (·.tenant) → p (.open_session init)) :
    All p (egress_session w state c) := by
  unfold egress_session
  split
  · refine all_bind (all_handle ?_ fun _ _ => all_deny h _ _ _) fun _ _ => all_pure _
    exact all_connect_session hdial fun token => hopen _ rfl
  · exact all_pure none

/-- The effects of the admission: its counters, and one question for permits under the request's
own key. -/
theorem all_admit_execution (hcount : ∀ counter, p (.count counter)) {partition : Option String}
    (hask : p (.ask_permits partition)) (busy_meta : Meta) :
    All p (admit_execution w state partition busy_meta) := by
  refine all_bind (all_perform hask) fun _ _ => ?_
  split
  · exact all_pure ()
  · exact all_bind (all_perform (hcount _)) fun _ _ => all_leave _
  · exact all_bind (all_perform (hcount _)) fun _ _ => all_leave _

end Steps

/-! ## A run that starts its execution -/

/-- Everything on the way to an execution: the checks, and what the steps after
them went on with. -/
structure Started (w : World) (state : AppState) (headers : HeaderMap)
    (payload : Except String ExecRequest) (c : Cleared) (session : Option WireInit) : Prop where
  checked : Checked w state headers payload c
  quota : ∃ guard, (enforce_quota w state c.identity w.trace_id
    (c.error_meta w.trace_id)).result = .ok guard
  connected : (egress_session w state c).result = .ok session
  permits : (admit_execution w state c.partition (c.error_meta w.trace_id)).result = .ok ()
  effects : (run_execute w state headers payload).effects
    = (check_request w state headers payload).effects
      ++ ((enforce_quota w state c.identity w.trace_id (c.error_meta w.trace_id)).effects
      ++ ((egress_session w state c).effects
      ++ ((admit_execution w state c.partition (c.error_meta w.trace_id)).effects
      ++ (.execute (c.invocation session)
      :: (build_response w state c.identity (w.run (c.invocation session))
        (((Meta.new w.trace_id c.script_bytes c.context_bytes w.exec_time_us).with_key
          c.req.key).with_partition c.partition)).effects))))

/-- An execution is started at one place only. What stands in front of it has been passed, so it
is the execution of a request that was cleared, with the session that was opened for it. -/
theorem started_of_execute {inv : Invocation}
    (he : .execute inv ∈ (run_execute w state headers payload).effects) :
    ∃ c session, Started w state headers payload c session ∧ inv = c.invocation session := by
  -- no other step has this effect
  have hplain : ∀ identity, Plain (· ≠ Effect.execute inv) identity :=
    fun identity => ⟨by simp, by simp, by simp, by simp⟩
  have hnot : ∀ {α : Type} {m : Eff Effect Response α}, All (· ≠ Effect.execute inv) m →
      .execute inv ∉ m.effects := by
    intro α m hm hmem
    exact hm _ hmem rfl
  rcases mem_bind.mp he with he | ⟨c, hc, he⟩
  · exact absurd he (hnot (all_check_request (hplain _)))
  rcases mem_bind.mp he with he | ⟨guard, hguard, he⟩
  · have hquota : All (· ≠ Effect.execute inv)
        (enforce_quota w state c.identity w.trace_id (c.error_meta w.trace_id)) :=
      all_enforce_quota (hplain _) _ _ (by simp)
    exact absurd he (hnot (all_handle hquota fun _ _ => all_reject (hplain none) _))
  rcases mem_bind.mp he with he | ⟨session, hsession, he⟩
  · exact absurd he (hnot (all_egress_session (hplain _) (by simp) (by simp)))
  rcases mem_bind.mp he with he | ⟨⟨⟩, hpermits, he⟩
  · have hadmission : All (· ≠ Effect.execute inv)
        (admit_execution w state c.partition (c.error_meta w.trace_id)) :=
      all_admit_execution (by simp) (by simp) _
    refine absurd he (hnot (all_handle hadmission fun _ _ => ?_))
    exact all_bind (all_emit_denied (hplain _) _ _ _) fun _ _ => all_leave _
  rcases mem_bind.mp he with he | ⟨⟨⟩, -, he⟩
  · simp only [ok_handle, ok_bind, ok_leave, reject_ok, and_false, exists_false, or_false]
      at hguard hpermits
    refine ⟨c, session, ⟨check_request_ok.mp hc, ⟨guard, hguard⟩, hsession, hpermits, ?_⟩, ?_⟩
    · rw [run_execute, effects_bind hc, effects_bind (ok_handle.mpr (Or.inl hguard)),
        effects_handle hguard, effects_bind hsession, effects_bind (ok_handle.mpr (Or.inl hpermits)),
        effects_handle hpermits, effects_bind result_perform]
      rfl
    · exact Effect.execute.inj (mem_perform.mp he)
  · exact absurd he (hnot (all_build_response (hplain _) _ _))

end Runlet.Handler
