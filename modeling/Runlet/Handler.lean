/-
The `/execute` pipeline (`crates/runlet/src/handler.rs`, with `events.rs`,
`sandbox.rs` and the counters of `metrics.rs`).

`run_execute` is one request from its headers and body to its response. What it
does on the way is kept as a trace of effects, in the order the source does
them: counters, events, the quota asked, the session opened, the permits asked
for, the execution started. A gate that refuses leaves with its response.

What the code reads from outside is in `World`: the trace id of the request, a
fresh UUID, the quota table and the permits **at the moment they are asked**
(other requests change them in between), what the egress link does, and what an
execution returns.
-/
import Runlet.Backends
import Runlet.Capabilities
import Runlet.Concurrency
import Runlet.Errors
import Runlet.Identity
import Runlet.S3.Object

set_option autoImplicit false

namespace Runlet.Handler

open Effects Text Runlet.Json Runlet.Wire Runlet.Errors Runlet.Identity Runlet.Capabilities
open Runlet.Quota Runlet.Concurrency

/-! ## Metrics, meta and responses -/

structure HttpMetric where
  method : String
  host : String
  status : ℕ
  request_bytes : ℕ
  response_bytes : ℕ
  duration_us : ℕ
  deriving DecidableEq, Repr

/-- The in-engine metrics of one execution. -/
structure ExecMetrics where
  http : List HttpMetric := []
  s3 : List S3.S3Metric := []
  deriving DecidableEq, Repr

structure Meta where
  trace_id : String
  key : Option String := none
  partition : Option String := none
  script_bytes : ℕ
  context_bytes : ℕ
  total_input_bytes : ℕ
  exec_time_us : ℕ
  http_requests : List HttpMetric := []
  db_requests : List DbMetric := []
  mongo_requests : List MongoMetric := []
  mail_requests : List MailMetric := []
  s3_requests : List S3.S3Metric := []
  redis_requests : List RedisMetric := []
  amq_requests : List AmqMetric := []
  auth_requests : List AuthMetric := []
  deriving DecidableEq, Repr

namespace Meta

def new (trace_id : String) (script_bytes context_bytes exec_time_us : ℕ) : Meta where
  trace_id := trace_id
  script_bytes := script_bytes
  context_bytes := context_bytes
  total_input_bytes := Count.saturating_add 64 script_bytes context_bytes
  exec_time_us := exec_time_us

def with_key (m : Meta) (key : Option String) : Meta := { m with key }

def with_partition (m : Meta) (partition : Option String) : Meta := { m with partition }

def with_metrics (m : Meta) (metrics : ExecMetrics) (backend : BackendMetrics) : Meta :=
  { m with
    http_requests := metrics.http
    s3_requests := metrics.s3
    db_requests := backend.db
    mongo_requests := backend.mongo
    mail_requests := backend.mail
    redis_requests := backend.redis
    amq_requests := backend.amq
    auth_requests := backend.auth }

@[simp] theorem new_trace_id (trace_id : String) (s c t : ℕ) : (new trace_id s c t).trace_id = trace_id :=
  rfl

@[simp] theorem with_key_trace_id (m : Meta) (key : Option String) :
    (m.with_key key).trace_id = m.trace_id := rfl

@[simp] theorem with_partition_trace_id (m : Meta) (partition : Option String) :
    (m.with_partition partition).trace_id = m.trace_id := rfl

end Meta

/-- A response: the handler's own `data` and `error`, passed through as raw JSON,
or a structured error. -/
inductive Response
  | handler (data error : String) (info : Meta)
  | system_error (status : ℕ) (error : ErrorEnvelope) (info : Meta)
  deriving DecidableEq, Repr

def Response.meta : Response → Meta
  | handler _ _ info => info
  | system_error _ _ info => info

/-- `error.code` of a structured error. -/
def Response.error_code : Response → Option String
  | handler _ _ _ => none
  | system_error _ error _ => some error.code

/-- `system_error_response`; a status no HTTP response can have becomes 500. -/
def system_error_response (error : ErrorEnvelope) (status : ℕ) (info : Meta) : Response :=
  .system_error (if 100 ≤ status ∧ status < 1000 then status else 500) error info

def request_error (code message : String) : ErrorEnvelope :=
  (ErrorEnvelope.new .request .request code false .caller).with_message message

@[simp] theorem meta_system_error_response (error : ErrorEnvelope) (status : ℕ) (info : Meta) :
    (system_error_response error status info).meta = info := rfl

@[simp] theorem error_code_system_error_response (error : ErrorEnvelope) (status : ℕ)
    (info : Meta) : (system_error_response error status info).error_code = some error.code := rfl

@[simp] theorem request_error_code (code message : String) :
    (request_error code message).code = code := rfl

/-! ## Events -/

structure CapabilityOps where
  db : ℕ
  mongo : ℕ
  http : ℕ
  mail : ℕ
  s3 : ℕ
  redis : ℕ
  amq : ℕ
  auth : ℕ
  deriving DecidableEq, Repr

structure UsageBody where
  outcome : String
  exec_time_us : ℕ
  input_bytes : ℕ
  ops : CapabilityOps
  deriving DecidableEq, Repr

inductive Decision
  | allowed
  | denied
  deriving DecidableEq, Repr

structure AuditBody where
  decision : Decision
  reason : Option String
  detail : Option Value
  deriving DecidableEq

inductive EventBody
  | usage (body : UsageBody)
  | audit (body : AuditBody)
  deriving DecidableEq

structure Event where
  tenant : Option String
  user : Option String
  plan : Option String
  trace_id : String
  body : EventBody
  deriving DecidableEq

/-! ## State, world and effects -/

structure EngineConfig where
  timeout_ms : UInt64
  max_script_size : ℕ
  max_context_size : ℕ

inductive SidecarTransport
  | none
  | uds
  | quic
  deriving DecidableEq, Repr

structure TrustedRuntime where
  headers : TrustedHeaders
  capability_entitlements : Entitlements
  quota : Option PlanLimits

structure AppState where
  /-- `ScriptRegistry::get`. -/
  registry : String → Option String
  engine_cfg : EngineConfig
  error_debug : Bool
  /-- The hasher of the partition limiter. -/
  partition_hash : String → ℕ
  transport : SidecarTransport
  access_token : Option String
  trusted : Option TrustedRuntime
  /-- Whether an event sink is wired. -/
  events : Bool

/-- One execution request to the host. The session wired as egress is named by
the message it was opened with. -/
structure Invocation where
  code : String
  context_json : String
  profile : Profile
  caps : CapabilitySet
  egress : Option WireInit
  cache_namespace : Option String
  deriving DecidableEq, Repr

inductive ExecOutcome
  | success (json : String)
  | error (err : EngineError)
  deriving DecidableEq, Repr

structure Outcome where
  result : ExecOutcome
  metrics : ExecMetrics
  deriving DecidableEq, Repr

/-- What `spawn_blocking` gives back: a panic, or the host's answer with the
drained driver metrics. -/
abbrev JoinResult := Except String (Except EngineError Outcome × BackendMetrics)

structure World where
  /-- `current_trace_id`. -/
  trace_id : String
  /-- `Uuid::new_v4`. -/
  fresh_id : String
  /-- The in-flight table when the quota is asked. -/
  inflight : AList fun _ : String => ℕ
  /-- The permits left when they are asked for. -/
  permits : Permits
  /-- The client's auth token (QUIC). -/
  auth_token : Except String (Option String)
  /-- Connecting to the daemon. -/
  dial : Except String Unit
  write_init : Except String Unit
  read_init : Except String (Option WireResponse)
  /-- `LogicHost::run` on a blocking thread. -/
  run : Invocation → JoinResult
  exec_time_us : ℕ
  /-- `serde_json::from_str::<Envelope>`: the raw `data` and `error`. -/
  parse_envelope : String → Except String (String × String)

/-- The process-wide counters. -/
inductive Counter
  | success
  | script_error
  | capability_error
  | timeout
  | memory_limit
  | malformed_response
  | internal_error
  | rejections
  | overload_global
  | overload_partition
  deriving DecidableEq, Repr

/-- The histograms of `metrics.rs`. -/
inductive Histogram
  | exec_latency
  | http
  | s3
  | driver (kind : Kind)
  deriving DecidableEq, Repr

inductive Effect
  | count (counter : Counter)
  | observe (histogram : Histogram) (micros : ℕ)
  | record (event : Event)
  | span (field value : String)
  | ask_quota (tenant : String) (plan : Option String)
  | dial
  | open_session (init : WireInit)
  | ask_permits (partition : Option String)
  | execute (invocation : Invocation)
  deriving DecidableEq

/-! ## Events of a request -/

/-- `emit_denied`. Without a sink it does nothing. -/
def emit_denied {ρ : Type} (state : AppState) (identity : Option TrustedIdentity)
    (trace_id reason : String) (detail : Option Value) : Eff Effect ρ Unit :=
  if state.events then
    perform (.record
      { tenant := identity.bind (·.tenant)
        user := identity.bind (·.user)
        plan := identity.bind (·.plan)
        trace_id := trace_id
        body := .audit ⟨.denied, some reason, detail⟩ })
  else pure ()

/-- `emit_executed`: one `usage` and one `allowed` event. -/
def emit_executed {ρ : Type} (state : AppState) (identity : Option TrustedIdentity) (info : Meta)
    (outcome : String) : Eff Effect ρ Unit :=
  if state.events then do
    let event (body : EventBody) : Event :=
      { tenant := identity.bind (·.tenant)
        user := identity.bind (·.user)
        plan := identity.bind (·.plan)
        trace_id := info.trace_id
        body := body }
    let ops : CapabilityOps :=
      { db := info.db_requests.length
        mongo := info.mongo_requests.length
        http := info.http_requests.length
        mail := info.mail_requests.length
        s3 := info.s3_requests.length
        redis := info.redis_requests.length
        amq := info.amq_requests.length
        auth := info.auth_requests.length }
    perform (.record (event
      (.usage ⟨outcome, info.exec_time_us, info.total_input_bytes, ops⟩)))
    perform (.record (event (.audit ⟨.allowed, none, none⟩)))
  else pure ()

/-! ## The gates -/

/-- `Metrics::record_rejection`, and out. -/
def reject {α : Type} (response : Response) : Eff Effect Response α := do
  perform (.count .rejections)
  leave response

/-- `ct_eq` (`ct.rs`). -/
def ct_eq (lhs rhs : List UInt8) : Bool := if lhs.length ≠ rhs.length then false else lhs == rhs

/-- `str::strip_prefix`. -/
def strip_prefix (head s : String) : Option String :=
  if head.toList.isPrefixOf s.toList then some (String.ofList (s.toList.drop head.toList.length))
  else none

def request_authorized (headers : HeaderMap) (expected : String) : Bool :=
  match (headers.get "authorization").bind to_str with
  | none => false
  | some value =>
    match ( strip_prefix "Bearer " value).or ( strip_prefix "bearer " value) with
    | none => false
    | some token => ct_eq (utf8 (trim token)) (utf8 expected)

def unauthorized_response (w : World) : Response :=
  system_error_response (request_error "UNAUTHORIZED" "missing or invalid bearer token") 401
    (Meta.new w.fresh_id 0 0 0)

def enforce_auth (w : World) (state : AppState) (headers : HeaderMap) :
    Eff Effect Response Unit :=
  match state.access_token with
  | none => pure ()
  | some expected =>
    if request_authorized headers expected then pure () else reject (unauthorized_response w)

def identity_rejected (trace_id code message : String) : Response :=
  system_error_response (request_error code message) 403 (Meta.new trace_id 0 0 0)

/-- One refusal of `resolve_identity`: the event, then the response. -/
def refuse_identity {α : Type} (state : AppState) (identity : TrustedIdentity)
    (trace_id code message : String) : Eff Effect Response α := do
  emit_denied state (some identity) trace_id code none
  leave (identity_rejected trace_id code message)

def resolve_identity (state : AppState) (headers : HeaderMap) (trace_id : String) :
    Eff Effect Response (Option TrustedIdentity) :=
  match state.trusted with
  | none => pure none
  | some trusted =>
    let identity := TrustedIdentity.from_headers headers trusted.headers
    if identity.anonymous then
      refuse_identity state identity trace_id "ANONYMOUS_FORBIDDEN"
        "anonymous callers may not execute code"
    else if identity.suspended then
      refuse_identity state identity trace_id "SUSPENDED_FORBIDDEN"
        "a suspended principal may not execute code"
    else if identity.tenant.isNone then
      refuse_identity state identity trace_id "TENANT_REQUIRED"
        "trusted-header mode requires a tenant identity"
    else if identity.scope ≠ some "acting" then
      refuse_identity state identity trace_id "ACTING_SCOPE_REQUIRED"
        "trusted-header mode requires the edge to assert acting-org scope"
    else pure (some identity)

/-- `record_identity_attrs`: span attributes. -/
def record_identity_attrs (identity : Option TrustedIdentity) : Eff Effect Response Unit :=
  match identity with
  | none => pure ()
  | some id =>
    ⟨(id.tenant.toList.map (.span "tenant")) ++ (id.user.toList.map (.span "user"))
      ++ (id.plan.toList.map (.span "plan")), .ok ()⟩

/-- The request body. -/
structure ExecRequest where
  script : Option String := none
  key : Option String := none
  partition : Option String := none
  context : String := "\x7b\x7d"
  config : RequestConfig := {}

/-- `malformed_request_response`: the trace id is a fresh one. -/
def malformed_request_response (w : World) (state : AppState) (rejection : String) : Response :=
  let base := request_error "MALFORMED_REQUEST" "request body is not valid for /execute"
  let envelope := if state.error_debug then base.with_debug ⟨none, some rejection⟩ else base
  system_error_response envelope 400 (Meta.new w.fresh_id 0 0 0)

/-- `header_partition`. -/
def header_partition (headers : HeaderMap) : Option String := header_value headers "x-partition-key"

/-- The fairness and cache key: the trusted tenant, or what the caller says. -/
def resolve_partition (identity : Option TrustedIdentity) (caller_asserted : Option String) :
    Option String :=
  match identity with
  | none => caller_asserted
  | some id => id.tenant

def enforce_member_authz (state : AppState) (identity : Option TrustedIdentity)
    (config : RequestConfig) (trace_id : String) : Eff Effect Response Unit :=
  match state.trusted, identity with
  | some trusted, some id =>
    match authorize_capabilities trusted.capability_entitlements (requested_capabilities config) id with
    | .ok () => pure ()
    | .error denied => do
      emit_denied state identity trace_id "ENTITLEMENT_REQUIRED"
        (some (.object [("capability", .string denied.capability),
          ("required", .string denied.required)]))
      leave (system_error_response
        (request_error "ENTITLEMENT_REQUIRED" ("capability `" ++ denied.capability
          ++ "` requires entitlement `" ++ denied.required ++ "`"))
        403 (Meta.new trace_id 0 0 0))
  | _, _ => pure ()

inductive ScriptSource
  | inline (source : String)
  | registered (source : String)
  deriving DecidableEq, Repr

def ScriptSource.as_str : ScriptSource → String
  | inline source => source
  | registered source => source

/-- `resolve_script`: exactly one of `script` and `key`. -/
def resolve_script (script key : Option String) (registry : String → Option String) :
    Except (ℕ × ErrorEnvelope) ScriptSource :=
  match script, key with
  | some source, none => .ok (.inline source)
  | none, some requested =>
    match registry requested with
    | some source => .ok (.registered source)
    | none => .error (404, request_error "SCRIPT_NOT_FOUND"
        ("no registered script for key `" ++ requested ++ "`"))
  | some _, some _ | none, none => .error (400, request_error "SCRIPT_XOR_KEY"
      "request must include exactly one of `script` or `key`")

/-- `validate_input_sizes` (`sandbox.rs`). -/
def validate_input_sizes (script_bytes context_bytes max_script max_context : ℕ) :
    Except (String × String) Unit :=
  if max_script < script_bytes then
    .error ("SCRIPT_TOO_LARGE", "script too large: " ++ toString script_bytes ++ " bytes (max "
      ++ toString max_script ++ ")")
  else if max_context < context_bytes then
    .error ("CONTEXT_TOO_LARGE", "context too large: " ++ toString context_bytes ++ " bytes (max "
      ++ toString max_context ++ ")")
  else .ok ()

def quota_exceeded_response (exceeded : QuotaExceeded) (info : Meta) : Response :=
  system_error_response
    ((ErrorEnvelope.new .runtime .engine "QUOTA_EXCEEDED" true .caller).with_message
      ("tenant quota exceeded for plan `" ++ exceeded.plan ++ "`: " ++ toString exceeded.usage
        ++ " in-flight at limit " ++ toString exceeded.limit))
    429 info

/-- `enforce_quota`: the tenant of the guard, when there is one. -/
def enforce_quota (w : World) (state : AppState) (identity : Option TrustedIdentity)
    (trace_id : String) (info : Meta) : Eff Effect Response (Option String) :=
  match state.trusted, identity with
  | some trusted, some id =>
    match trusted.quota, id.tenant with
    | some limits, some tenant => do
      perform (.ask_quota tenant id.plan)
      match TenantQuota.admit_tenant ⟨limits, w.inflight⟩ tenant id.plan with
      | .ok _ => pure (some tenant)
      | .error exceeded => do
        emit_denied state identity trace_id "QUOTA_EXCEEDED"
          (some (.object [("limit", .number (.pos_int (.ofNat exceeded.limit))),
            ("plan", .string exceeded.plan),
            ("usage", .number (.pos_int (.ofNat exceeded.usage)))]))
        leave (quota_exceeded_response exceeded info)
    | _, _ => pure none
  | _, _ => pure none

/-! ## The egress session (`sidecar.rs`) -/

inductive SessionError
  | unavailable (message : String)
  | resolve (code message : String)
  | protocol (message : String)
  deriving DecidableEq, Repr

/-- What the daemon's answer to `Init` means. -/
def interpret_answer (init : WireInit) :
    Except String (Option WireResponse) → Except SessionError WireInit
  | .ok (some .ack) => .ok init
  | .ok (some (.init_error code message)) => .error (.resolve code message)
  | .ok (some (.reply _)) | .ok (some (.metrics _)) | .ok (some (.protocol_error _)) =>
    .error (.protocol "unexpected response to Init")
  | .ok none => .error (.unavailable "fabricd closed the connection during handshake")
  | .error err => .error (.unavailable ("fabricd handshake read failed: " ++ err))

/-- `handshake`: the `Init` frame, and the daemon's answer. -/
def handshake (w : World) (init : WireInit) : Eff Effect SessionError WireInit := do
  perform (.open_session init)
  lift (w.write_init.mapError fun err => .unavailable ("fabricd write failed: " ++ err))
  lift (interpret_answer init w.read_init)

def connect_session (w : World) (transport : SidecarTransport) (init : WireInit) :
    Eff Effect SessionError WireInit :=
  match transport with
  | .none => leave (.unavailable "no fabricd egress sidecar configured")
  | .uds => do
    perform .dial
    lift (w.dial.mapError fun err => .unavailable ("fabricd unreachable: " ++ err))
    handshake w init
  | .quic => do
    let token ← lift (w.auth_token.mapError fun err =>
      SessionError.unavailable ("auth token unreadable: " ++ err))
    perform .dial
    lift (w.dial.mapError fun err => .unavailable ("fabricd unreachable: " ++ err))
    handshake w { init with token }

def session_error_response (err : SessionError) (info : Meta) : Response :=
  match err with
  | .resolve code message => system_error_response (request_error code message) 400 info
  | .unavailable message =>
    system_error_response
      ((ErrorEnvelope.new .runtime .engine "EGRESS_UNAVAILABLE" true .operator).with_message
        message)
      503 info
  | .protocol _ =>
    system_error_response
      ((ErrorEnvelope.new .runtime .engine "EGRESS_PROTOCOL" false .operator).with_message
        "egress protocol error")
      500 info

/-! ## Admission -/

def overloaded_response (info : Meta) : Response :=
  system_error_response
    ((ErrorEnvelope.new .runtime .engine "OVERLOADED" true .operator).with_message
      "server at capacity, retry shortly")
    429 info

def partition_overloaded_response (info : Meta) : Response :=
  system_error_response
    ((ErrorEnvelope.new .runtime .engine "PARTITION_OVERLOADED" true .caller).with_message
      "partition concurrency limit reached, retry shortly")
    429 info

/-- `admit`: both permits, or the shed counted and answered. -/
def admit_execution (w : World) (state : AppState) (partition : Option String) (busy_meta : Meta) :
    Eff Effect Response Unit := do
  perform (.ask_permits partition)
  match acquire_permits state.partition_hash w.permits partition with
  | .granted _ _ => pure ()
  | .partition_busy => do
    perform (.count .overload_partition)
    leave (partition_overloaded_response busy_meta)
  | .global_busy => do
    perform (.count .overload_global)
    leave (overloaded_response busy_meta)

/-! ## The response to an execution -/

/-- The span and event label of an engine error. -/
def engine_error_outcome : EngineError → String
  | .syntax_error _ | .script_not_found _ | .module_not_found _ | .handler_not_defined
  | .script _ _ => "script_error"
  | .capability _ => "capability_error"
  | .timeout _ => "timeout"
  | .memory_limit => "memory_limit"
  | .malformed _ | .output_too_large _ _ => "malformed_response"
  | .internal _ | .shutting_down => "internal_error"

/-- The counter of `record_engine_error`. -/
def engine_error_counter : EngineError → Counter
  | .syntax_error _ | .script_not_found _ | .module_not_found _ | .handler_not_defined
  | .script _ _ => .script_error
  | .capability _ => .capability_error
  | .timeout _ => .timeout
  | .memory_limit => .memory_limit
  | .malformed _ | .output_too_large _ _ => .malformed_response
  | .internal _ | .shutting_down => .internal_error

def engine_error_response (err : EngineError) (info : Meta) (error_debug : Bool) : Response :=
  system_error_response (err.into_envelope error_debug) err.http_status info

def success_response (w : World) (js_json : String) (info : Meta) (error_debug : Bool) : Response :=
  match w.parse_envelope js_json with
  | .ok (data, error) => .handler data error info
  | .error parse_err =>
    engine_error_response (.malformed ("malformed handler response: " ++ parse_err)) info error_debug

/-- `record_capability_latencies`. -/
def record_capability_latencies (exec : ExecMetrics) (backend : BackendMetrics) :
    Eff Effect Response Unit :=
  ⟨backend.db.map (fun m => Effect.observe (.driver .db) m.duration_us)
    ++ backend.mongo.map (fun m => Effect.observe (.driver .mongo) m.duration_us)
    ++ exec.http.map (fun m => Effect.observe .http m.duration_us)
    ++ backend.mail.map (fun m => Effect.observe (.driver .mail) m.duration_us)
    ++ exec.s3.map (fun m => Effect.observe .s3 m.duration_us)
    ++ backend.redis.map (fun m => Effect.observe (.driver .redis) m.duration_us)
    ++ backend.amq.map (fun m => Effect.observe (.driver .amq) m.duration_us)
    ++ backend.auth.map (fun m => Effect.observe (.driver .auth) m.duration_us), .ok ()⟩

/-- The three error arms of `build_response` do the same. -/
def respond_engine_error (state : AppState) (identity : Option TrustedIdentity) (info : Meta)
    (err : EngineError) : Eff Effect Response Response := do
  emit_executed state identity info (engine_error_outcome err)
  perform (.count (engine_error_counter err))
  perform (.span "outcome" (engine_error_outcome err))
  return engine_error_response err info state.error_debug

def build_response (w : World) (state : AppState) (identity : Option TrustedIdentity)
    (result : JoinResult) (base_meta : Meta) : Eff Effect Response Response := do
  perform (.observe .exec_latency base_meta.exec_time_us)
  match result with
  | .ok (.ok exec, backend) => do
    record_capability_latencies exec.metrics backend
    let info := base_meta.with_metrics exec.metrics backend
    match exec.result with
    | .success js_json => do
      emit_executed state identity info "success"
      perform (.count .success)
      perform (.span "outcome" "success")
      return success_response w js_json info state.error_debug
    | .error engine_err => respond_engine_error state identity info engine_err
  | .ok (.error engine_err, _) => respond_engine_error state identity base_meta engine_err
  | .error join_err =>
    respond_engine_error state identity base_meta (.internal ("task panicked: " ++ join_err))

/-! ## The pipeline -/

/-- The exits that count a rejection and emit the denial in `run_execute` itself. -/
def deny {α : Type} (state : AppState) (identity : Option TrustedIdentity)
    (trace_id reason : String) (response : Response) : Eff Effect Response α := do
  perform (.count .rejections)
  emit_denied state identity trace_id reason none
  leave response

/-- `base_error_meta`. -/
def base_error_meta (trace_id : String) (script_bytes context_bytes : ℕ)
    (key partition : Option String) : Meta :=
  ((Meta.new trace_id script_bytes context_bytes 0).with_key key).with_partition partition

/-- What `run_execute` has in hand once every gate before the egress session has
let the request pass. -/
structure Cleared where
  identity : Option TrustedIdentity
  req : ExecRequest
  source : ScriptSource
  partition : Option String

def Cleared.script_bytes (c : Cleared) : ℕ := (utf8 c.source.as_str).length

def Cleared.context_bytes (c : Cleared) : ℕ := (utf8 c.req.context).length

/-- The `Meta` of an error after the script is known. -/
def Cleared.error_meta (c : Cleared) (trace_id : String) : Meta :=
  base_error_meta trace_id c.script_bytes c.context_bytes c.req.key c.partition

/-- `run_execute` up to and including the size check. -/
def check_request (w : World) (state : AppState) (headers : HeaderMap)
    (payload : Except String ExecRequest) : Eff Effect Response Cleared := do
  enforce_auth w state headers
  let trace_id := w.trace_id
  let identity ← handle (resolve_identity state headers trace_id) reject
  record_identity_attrs identity
  let req ← handle (lift payload) fun rejection =>
    deny state identity trace_id "MALFORMED_REQUEST" (malformed_request_response w state rejection)
  let partition := resolve_partition identity ((header_partition headers).or req.partition)
  handle (enforce_member_authz state identity req.config trace_id) reject
  let source ← handle (lift (resolve_script req.script req.key state.registry)) fun rejection =>
    deny state identity trace_id "SCRIPT_NOT_FOUND"
      (system_error_response rejection.2 rejection.1
        (((Meta.new trace_id 0 (utf8 req.context).length 0).with_key req.key).with_partition
          partition))
  let cleared : Cleared := { identity, req, source, partition }
  handle (lift (validate_input_sizes cleared.script_bytes cleared.context_bytes
      state.engine_cfg.max_script_size state.engine_cfg.max_context_size)) fun rejection =>
    deny state identity trace_id "INPUT_TOO_LARGE"
      (system_error_response (request_error rejection.1 rejection.2) 400
        (cleared.error_meta trace_id))
  return cleared

/-- The egress session, when a driver capability is requested. -/
def egress_session (w : World) (state : AppState) (c : Cleared) :
    Eff Effect Response (Option WireInit) :=
  if c.req.config.io.any then do
    let init := c.req.config.io.wire_init state.engine_cfg.timeout_ms.toNat
      (c.identity.bind (·.tenant))
    let conn ← handle (connect_session w state.transport init) fun err =>
      deny state c.identity w.trace_id "EGRESS_UNAVAILABLE"
        (session_error_response err (c.error_meta w.trace_id))
    return some conn
  else pure none

/-- The invocation handed to the host. -/
def Cleared.invocation (c : Cleared) (session : Option WireInit) : Invocation where
  code := c.source.as_str
  context_json := c.req.context
  profile := .full
  caps :=
    { allowed_hosts := c.req.config.allowed_hosts
      db := c.req.config.io.gates.db
      mongo := c.req.config.io.gates.mongo
      mail := c.req.config.io.gates.mail
      s3 := c.req.config.s3
      redis := c.req.config.io.gates.redis
      amq := c.req.config.io.gates.amq
      auth := c.req.config.io.gates.auth
      sys := c.req.config.sys }
  egress := session
  cache_namespace := c.partition

/-- `run_execute`: one request, from its headers and body to its response. -/
def run_execute (w : World) (state : AppState) (headers : HeaderMap)
    (payload : Except String ExecRequest) : Eff Effect Response Response := do
  let c ← check_request w state headers payload
  let _quota_guard ← handle
    (enforce_quota w state c.identity w.trace_id (c.error_meta w.trace_id)) reject
  let session ← egress_session w state c
  handle (admit_execution w state c.partition (c.error_meta w.trace_id)) fun shed => do
    emit_denied state c.identity w.trace_id "OVERLOADED" none
    leave shed
  perform (.execute (c.invocation session))
  build_response w state c.identity (w.run (c.invocation session))
    (((Meta.new w.trace_id c.script_bytes c.context_bytes w.exec_time_us).with_key
      c.req.key).with_partition c.partition)

end Runlet.Handler
