/-
The start of a box: its configuration (`crates/runlet/src/config.rs`), the limits it resolves to
(`crates/runlet-core/src/config.rs`), and what `main` wires from both.

A configuration is refused when it would expose an executor without a gate, trust headers that anyone
can send, or accept contexts the engine cannot parse. Nothing looks at these settings again: a request
meets only the `AppState` that was wired. `started_box` says what the refusals are worth there, for
every request of a box that did start.
-/
import Runlet.Admission
import Runlet.Audit
import Runlet.Body
import Runlet.Lib.Net
import Runlet.QuicClient
import Runlet.Trusted

set_option autoImplicit false

namespace Runlet.Startup

open Effects Text Net Runlet.Wire Runlet.Identity Runlet.Handler Runlet.Quota

/-! ## 1. Limits -/

/-- `EngineConfig`, as far as the limits of the server go. -/
structure EngineConfig where
  memory_limit : ℕ := 32 * 1024 * 1024
  timeout_ms : UInt64 := 4000
  pool_size : ℕ := 0
  max_script_size : ℕ := 1024 * 1024
  max_context_size : ℕ := 0
  max_concurrent_executions : ℕ := 0
  max_concurrent_per_partition : ℕ := 0
  partition_buckets : ℕ := 0

def PARSE_HEAP_FACTOR : ℕ := 4
def CONTEXT_LIMIT_DIVISOR : ℕ := 8
def AUTO_CONCURRENCY_FACTOR : ℕ := 16
def DEFAULT_PARTITION_BUCKETS : ℕ := 256

/-- The text of a context limit above the parse ceiling. -/
def ceiling_message (max_context_size parse_ceiling memory_limit : ℕ) : String :=
  "max_context_size (" ++ toString max_context_size
    ++ " bytes) exceeds the parse ceiling memory_limit/" ++ toString PARSE_HEAP_FACTOR ++ " ("
    ++ toString parse_ceiling ++ " bytes): a context that large cannot be parsed within the "
    ++ toString memory_limit ++ "-byte memory limit and would fail at runtime. Lower it to <= "
    ++ toString parse_ceiling ++ " bytes, omit it to auto-derive memory_limit/"
    ++ toString CONTEXT_LIMIT_DIVISOR ++ ", or raise memory_limit."

/-- The configured context limit, or the one derived from the memory limit. -/
def EngineConfig.resolved_context_size (self : EngineConfig) : ℕ :=
  if self.max_context_size = 0 then self.memory_limit / CONTEXT_LIMIT_DIVISOR
  else self.max_context_size

/-- `EngineConfig::resolve_limits`. -/
def EngineConfig.resolve_limits (self : EngineConfig) : Except String EngineConfig :=
  let parse_ceiling := self.memory_limit / PARSE_HEAP_FACTOR
  if parse_ceiling < self.resolved_context_size then
    .error (ceiling_message self.resolved_context_size parse_ceiling self.memory_limit)
  else .ok { self with max_context_size := self.resolved_context_size }

/-- `EngineConfig::resolved_max_concurrent`. -/
def EngineConfig.resolved_max_concurrent (self : EngineConfig) (pool_size : ℕ) : ℕ :=
  if 0 < self.max_concurrent_executions then self.max_concurrent_executions
  else
    let auto := min (pool_size * AUTO_CONCURRENCY_FACTOR) (2 ^ 64 - 1)
    if 0 < auto then auto else 1

/-- `EngineConfig::resolved_partition_buckets`. -/
def EngineConfig.resolved_partition_buckets (self : EngineConfig) : ℕ :=
  if 0 < self.partition_buckets then self.partition_buckets else DEFAULT_PARTITION_BUCKETS

/-! ## 2. Configuration -/

/-- `QuotaConfig`. -/
structure QuotaConfig where
  enabled : Bool := false
  plans : PlanLimits := ∅

/-- `TrustedConfig`. -/
structure TrustedConfig where
  enabled : Bool := false
  assert_network_isolation : Bool := false
  headers : TrustedHeaders := {}
  capability_entitlements : Entitlements := ∅
  quota : QuotaConfig := {}

/-- `Config`, with the host of its `server` block, and without telemetry and the size of the event
channel. -/
structure Config where
  debug : Bool := false
  error_debug : Bool := false
  host : IpAddr := .v4 ⟨127, 0, 0, 1⟩
  engine : EngineConfig := {}
  scripts_dir : Option String := none
  modules_dir : Option String := none
  access_token : Option String := none
  allow_unauthenticated : Bool := false
  fabricd_socket : Option String := none
  fabricd_quic : Option Quic.FabricdQuic := none
  trusted : TrustedConfig := {}
  events : Bool := false

/-- `IpAddr::is_loopback`. -/
def is_loopback : IpAddr → Bool
  | .v4 ip => ip.is_loopback
  | .v6 ip => ip.is_loopback

def Config.exposed (self : Config) : Bool := !is_loopback self.host

def Config.check_trusted_isolation (self : Config) (exposed : Bool) : Except String Unit :=
  Result.fail_if (self.trusted.enabled = true ∧ exposed = true
      ∧ self.trusted.assert_network_isolation = false)
    ("refusing to start: trusted-header mode is enabled on " ++ self.host.to_string
      ++ " (non-loopback) but `trusted.assert_network_isolation` is unset. The box then trusts `x-*` "
      ++ "identity headers blindly, so it must be reachable only through the edge (enforce with a "
      ++ "NetworkPolicy). Bind loopback, or set `trusted.assert_network_isolation: true` once the "
      ++ "isolation is in place.")

def Config.check_exposure (self : Config) : Except String Unit := do
  Result.fail_if (self.exposed = true ∧ self.access_token = none ∧ self.allow_unauthenticated = false)
    ("refusing to start: binding " ++ self.host.to_string ++ " (non-loopback) with no `access_token` "
      ++ "and `allow_unauthenticated` unset. /execute runs caller-supplied code with caller-supplied "
      ++ "credentials, so an unauthenticated reachable port is a full compromise. Set "
      ++ "`access_token`, bind loopback, or set `allow_unauthenticated: true` if auth is terminated "
      ++ "upstream.")
  self.check_trusted_isolation self.exposed

/-- `Config::load`, with what is at the path. -/
def Config.load (file : Option (Except String Config)) : Except String Config := do
  let config ← file.getD (.ok {})
  let engine ← config.engine.resolve_limits
  return { config with engine }

/-! ## 3. The box -/

/-- What `main` meets outside the configuration. -/
structure Host where
  /-- `ScriptRegistry::load`, and `get` of what it loads. -/
  load_scripts : String → ℕ → Except String (String → Option String)
  load_modules : String → ℕ → Except String Unit
  /-- The runtimes of the pool. -/
  create_runtimes : ℕ → Except String Unit
  available_parallelism : Option ℕ
  hex_decode : String → Except String (List UInt8)
  /-- The hasher of the partition limiter. -/
  partition_hash : String → ℕ

/-- What the requests of a box meet. -/
structure Box where
  state : AppState
  limits : Concurrency.Limits
  body_limit : ℕ
  allow_private_targets : Bool

def transport_label : Quic.SidecarTransport → SidecarTransport
  | .none => .none
  | .uds _ => .uds
  | .quic _ => .quic

/-- `JsPool::size`. -/
def pool_size (host : Host) (engine : EngineConfig) : ℕ :=
  if 0 < engine.pool_size then engine.pool_size else host.available_parallelism.getD 4

def Config.trusted_runtime (self : Config) : Option TrustedRuntime :=
  if self.trusted.enabled then
    some {
      headers := self.trusted.headers
      capability_entitlements := self.trusted.capability_entitlements
      quota := if self.trusted.quota.enabled then some self.trusted.quota.plans else none }
  else none

/-- Loading a directory that may not be configured. -/
def load_dir {α : Type} (dir : Option String) (empty : α) (load : String → Except String α) :
    Except String α :=
  match dir with
  | some path => load path
  | none => .ok empty

/-- `main`, up to the accept loop. -/
def start (host : Host) (file : Option (Except String Config)) : Except String (Config × Box) := do
  let config ← Config.load file
  config.check_exposure
  let registry ← load_dir config.scripts_dir (fun _ => none) fun dir =>
    host.load_scripts dir config.engine.max_script_size
  load_dir config.modules_dir () fun dir => host.load_modules dir config.engine.max_script_size
  host.create_runtimes (pool_size host config.engine)
  let transport ← Quic.SidecarTransport.from_config host.hex_decode config.fabricd_socket
    config.fabricd_quic
  let engine_cfg : Handler.EngineConfig :=
    ⟨config.engine.timeout_ms, config.engine.max_script_size, config.engine.max_context_size⟩
  return (config, {
    state := {
      registry, engine_cfg, error_debug := config.error_debug
      partition_hash := host.partition_hash, transport := transport_label transport
      access_token := config.access_token, trusted := config.trusted_runtime
      events := config.events }
    limits := {
      max_concurrent_executions :=
        config.engine.resolved_max_concurrent (pool_size host config.engine)
      partition_buckets := config.engine.resolved_partition_buckets
      max_concurrent_per_partition := config.engine.max_concurrent_per_partition
      hash := host.partition_hash }
    body_limit := engine_cfg.max_body_size
    allow_private_targets := config.debug })

/-! ## 4. What a start establishes -/

/-- Limits that resolve leave the parser its room in the heap. -/
theorem resolve_limits_headroom {engine resolved : EngineConfig}
    (h : engine.resolve_limits = .ok resolved) :
    resolved.max_context_size * PARSE_HEAP_FACTOR ≤ resolved.memory_limit := by
  unfold EngineConfig.resolve_limits at h
  dsimp only at h
  split at h
  · cases h
  · rename_i hfits
    rw [Nat.not_lt] at hfits
    rw [← Except.ok.inj h]
    exact (Nat.le_div_iff_mul_le (by decide)).mp hfits

/-- At least one execution may run. -/
theorem resolved_max_concurrent_pos (engine : EngineConfig) (size : ℕ) :
    0 < engine.resolved_max_concurrent size := by
  unfold EngineConfig.resolved_max_concurrent
  split
  · assumption
  · dsimp only
    split
    · assumption
    · exact Nat.one_pos

/-- What the refusals leave. -/
structure Fit (config : Config) (box : Box) : Prop where
  gate : config.exposed = true → config.allow_unauthenticated = false → config.access_token ≠ none
  isolated : config.trusted.enabled = true → config.exposed = true →
    config.trusted.assert_network_isolation = true
  headroom : config.engine.max_context_size * PARSE_HEAP_FACTOR ≤ config.engine.memory_limit
  token : box.state.access_token = config.access_token
  trusted : box.state.trusted = config.trusted_runtime
  script_size : box.state.engine_cfg.max_script_size = config.engine.max_script_size
  context_size : box.state.engine_cfg.max_context_size = config.engine.max_context_size
  linked : box.state.transport ≠ .none → config.fabricd_socket ≠ none ∨ config.fabricd_quic ≠ none
  capacity : 0 < box.limits.max_concurrent_executions

/-- A transport to a daemon has what its kind needs. -/
theorem from_config_linked {hex_decode : String → Except String (List UInt8)} {socket : Option String}
    {quic : Option Quic.FabricdQuic} {transport : Quic.SidecarTransport}
    (h : Quic.SidecarTransport.from_config hex_decode socket quic = .ok transport)
    (hlinked : transport_label transport ≠ .none) : socket ≠ none ∨ quic ≠ none := by
  cases quic with
  | some quic_cfg => exact Or.inr nofun
  | none =>
      cases socket with
      | some path => exact Or.inl nofun
      | none =>
          cases h
          exact absurd rfl hlinked

/-- **What a start establishes**, all of it in one place: the checks and limits that were passed,
and the state they left. What follows about the box needs no more of the start than `Fit`. -/
theorem start_fit {host : Host} {file : Option (Except String Config)} {config : Config} {box : Box}
    (h : start host file = .ok (config, box)) : Fit config box := by
  unfold start at h
  obtain ⟨loaded, hload, h⟩ := Result.bind_eq_ok.mp h
  obtain ⟨_, hexposure, h⟩ := Result.bind_eq_ok.mp h
  obtain ⟨registry, -, h⟩ := Result.bind_eq_ok.mp h
  obtain ⟨_, -, h⟩ := Result.bind_eq_ok.mp h
  obtain ⟨_, -, h⟩ := Result.bind_eq_ok.mp h
  obtain ⟨transport, htransport, h⟩ := Result.bind_eq_ok.mp h
  cases h
  unfold Config.check_exposure at hexposure
  obtain ⟨_, hgate, hisolated⟩ := Result.bind_eq_ok.mp hexposure
  unfold Config.check_trusted_isolation at hisolated
  rw [Result.fail_if_eq_ok] at hgate hisolated
  unfold Config.load at hload
  obtain ⟨read, -, hload⟩ := Result.bind_eq_ok.mp hload
  obtain ⟨engine, hengine, hload⟩ := Result.bind_eq_ok.mp hload
  refine ⟨?_, ?_, ?_, rfl, rfl, rfl, rfl, from_config_linked htransport,
    resolved_max_concurrent_pos _ _⟩
  · intro hexposed hopen hnone
    exact hgate ⟨hexposed, hnone, hopen⟩
  · intro htrusted hexposed
    by_contra hopen
    exact hisolated ⟨htrusted, hexposed, Bool.eq_false_iff.mpr hopen⟩
  · cases hload
    exact resolve_limits_headroom hengine

/-! ## 5. The requests of a box -/

/-- What holds of an execution that a request has started. -/
structure Guarded (config : Config) (w : World) (headers : HeaderMap) (inv : Invocation) : Prop where
  /-- An exposed box has seen its bearer, but for an explicit opt-out. -/
  bearer : config.exposed = true → config.allow_unauthenticated = false →
    ∃ token, config.access_token = some token ∧ request_authorized headers token = true
  /-- Headers are trusted on loopback or behind an asserted isolation only. The tenant they name is a
  live one within its quota, and it owns the compiled script. -/
  tenant : config.trusted.enabled = true → (config.exposed = true →
      config.trusted.assert_network_isolation = true)
    ∧ ∃ tenant, Accepted (TrustedIdentity.from_headers headers config.trusted.headers) tenant
      ∧ inv.cache_namespace = some tenant
      ∧ (config.trusted.quota.enabled = true → ∃ admitted, TenantQuota.admit_tenant
        ⟨config.trusted.quota.plans, w.inflight⟩ tenant
          (TrustedIdentity.from_headers headers config.trusted.headers).plan = .ok admitted)
  /-- The context can be parsed within the memory limit. -/
  headroom : (utf8 inv.context_json).length * PARSE_HEAP_FACTOR ≤ config.engine.memory_limit
  script : (utf8 inv.code).length ≤ config.engine.max_script_size
  /-- A session needs a configured link. -/
  session : inv.egress ≠ none → config.fabricd_socket ≠ none ∨ config.fabricd_quic ≠ none

/-- A session is there only where there is a transport. -/
theorem linked_of_session {w : World} {state : AppState} {c : Cleared} {session : Option WireInit}
    (h : (egress_session w state c).result = .ok session) (hsession : session ≠ none) :
    state.transport ≠ .none := by
  intro hnone
  by_cases hany : c.req.config.io.any = true
  · unfold egress_session at h
    rw [if_pos hany] at h
    simp only [ok_bind, ok_handle, deny_ok, and_false, exists_false, or_false] at h
    obtain ⟨conn, hconn, -⟩ := h
    unfold connect_session at hconn
    rw [hnone] at hconn
    exact ok_leave.mp hconn
  · exact hsession (egress_session_none (Bool.eq_false_iff.mpr hany) h)

section Guard

variable {config : Config} {box : Box} {w : World} {headers : HeaderMap}
  {payload : Except String ExecRequest} {inv : Invocation}

/-- A box that is exposed, and not declared open, executes for a bearer only. -/
theorem Fit.bearer (h : Fit config box)
    (he : .execute inv ∈ (run_execute w box.state headers payload).effects)
    (hexposed : config.exposed = true) (hclosed : config.allow_unauthenticated = false) :
    ∃ token, config.access_token = some token ∧ request_authorized headers token = true := by
  obtain ⟨c, session, hstarted, -⟩ := started_of_execute he
  obtain ⟨token, htoken⟩ := Option.ne_none_iff_exists'.mp (h.gate hexposed hclosed)
  exact ⟨token, htoken, enforce_auth_ok.mp hstarted.checked.auth token (h.token.trans htoken)⟩

/-- Under trusted mode an execution is some accepted tenant's, in its own name. -/
theorem Fit.tenant (h : Fit config box)
    (he : .execute inv ∈ (run_execute w box.state headers payload).effects)
    (henabled : config.trusted.enabled = true) :
    ∃ tenant, Accepted (TrustedIdentity.from_headers headers config.trusted.headers) tenant
      ∧ inv.cache_namespace = some tenant
      ∧ (config.trusted.quota.enabled = true → ∃ admitted, TenantQuota.admit_tenant
        ⟨config.trusted.quota.plans, w.inflight⟩ tenant
          (TrustedIdentity.from_headers headers config.trusted.headers).plan = .ok admitted) := by
  have htrusted := h.trusted
  rw [Config.trusted_runtime, if_pos henabled] at htrusted
  obtain ⟨req, tenant, -, hpassed⟩ := passed_of_work htrusted rfl he
  refine ⟨tenant, hpassed.accepted, all_carries htrusted hpassed.accepted _ he, ?_⟩
  intro hquota
  exact hpassed.quota config.trusted.quota.plans (if_pos hquota)

/-- An execution of a started box passed its gates, and runs within its limits. -/
theorem Fit.guarded (h : Fit config box)
    (he : .execute inv ∈ (run_execute w box.state headers payload).effects) :
    Guarded config w headers inv := by
  obtain ⟨c, session, hstarted, hinv⟩ := started_of_execute he
  have hsizes : SizesFit box.state c.req c.source := validate_input_sizes_ok.mp hstarted.checked.sizes
  have hbearer := h.bearer he
  have htenant := h.tenant he
  rw [hinv]
  refine ⟨hbearer, fun henabled => ⟨h.isolated henabled, hinv ▸ htenant henabled⟩, ?_, ?_, ?_⟩
  · have hcontext := (hsizes.2.trans_eq h.context_size)
    exact Nat.le_trans (Nat.mul_le_mul_right PARSE_HEAP_FACTOR hcontext) h.headroom
  · exact hsizes.1.trans_eq h.script_size
  · intro hsession
    exact h.linked (linked_of_session hstarted.connected hsession)

end Guard

/-! ## 6. The permits of a box -/

/-- When nothing runs, nobody is turned away. -/
theorem Fit.admits {config : Config} {box : Box} (h : Fit config box) {s : Admission.Floor}
    (hinv : Admission.Inv box.limits s) (hidle : s.live = []) (partition : Option String) :
    ∃ bucket left,
      Admission.acquire_permits box.limits.hash s.permits partition = (.granted bucket, left) := by
  have htwo := hinv.two_level
  have hfree := htwo.global
  rw [hidle, List.length_nil, Nat.add_zero] at hfree
  rcases hacquire : Admission.acquire_permits box.limits.hash s.permits partition with ⟨outcome, left⟩
  cases outcome with
  | granted bucket => exact ⟨bucket, left, rfl⟩
  | global_busy =>
      have hzero := htwo.global_busy partition left hacquire
      have hcapacity := h.capacity
      omega
  | partition_busy =>
      obtain ⟨key, buckets, -, hbuckets, -, hcount⟩ := htwo.partition_busy partition left hacquire
      rw [hidle, List.count_nil] at hcount
      have henabled := hinv.enabled
      rw [hbuckets, Concurrency.PartitionLimiter.new, if_pos (Or.inl hcount.symm)] at henabled
      cases henabled

/-- **A box that starts fails closed.** Every execution that any request of it starts is guarded as
the configuration demands, in every mode and behind every bind. And whatever has run on it before, once
nothing runs the next request gets its permits. -/
theorem started_box {host : Host} {file : Option (Except String Config)} {config : Config} {box : Box}
    (h : start host file = .ok (config, box)) :
    (∀ w headers payload inv, .execute inv ∈ (run_execute w box.state headers payload).effects →
      Guarded config w headers inv)
    ∧ ∀ es s, Machine.run (Admission.step box.limits) (Admission.Floor.new box.limits) es = some s →
      s.live = [] → ∀ partition, ∃ bucket left,
        Admission.acquire_permits box.limits.hash s.permits partition = (.granted bucket, left) := by
  have hfit := start_fit h
  refine ⟨fun w headers payload inv he => hfit.guarded he, ?_⟩
  intro es s hrun hidle partition
  have hinv := Machine.run_inv Admission.inv_step (Admission.inv_new box.limits) hrun
  exact hfit.admits hinv hidle partition

/-! An exposed box of a tenant, with a socket to its daemon. -/

def exposed_config : Config where
  host := .v4 ⟨0, 0, 0, 0⟩
  access_token := some "s3cret"
  engine := { timeout_ms := 1000 }
  fabricd_socket := some "/run/fabricd.sock"
  trusted := {
    enabled := true
    assert_network_isolation := true
    capability_entitlements := AList.singleton "db" "orders"
    quota := { enabled := true, plans := AList.singleton "free" ⟨1⟩ } }
  events := true

/-- Four cores, and no directory that loads. -/
def bare_host : Host where
  load_scripts := fun _ _ => .error "not a directory"
  load_modules := fun _ _ => .error "not a directory"
  create_runtimes := fun _ => .ok ()
  available_parallelism := some 4
  hex_decode := fun _ => .error "Odd number of digits"
  partition_hash := fun _ => 0

/-- The context limit is derived from the memory limit. -/
def resolved_config : Config :=
  { exposed_config with engine := { timeout_ms := 1000, max_context_size := 4 * 1024 * 1024 } }

def exposed_box : Box where
  state := {
    registry := fun _ => none
    engine_cfg := ⟨1000, 1024 * 1024, 4 * 1024 * 1024⟩
    error_debug := false
    partition_hash := fun _ => 0
    transport := .uds
    access_token := some "s3cret"
    trusted := resolved_config.trusted_runtime
    events := true }
  limits := ⟨64, 256, 0, fun _ => 0⟩
  body_limit := Handler.EngineConfig.max_body_size ⟨1000, 1024 * 1024, 4 * 1024 * 1024⟩
  allow_private_targets := false

/-- A box with a token, on all interfaces. -/
theorem exposed_box_starts :
    start bare_host (some (.ok exposed_config)) = .ok (resolved_config, exposed_box) := by
  have hload : Config.load (some (.ok exposed_config)) = .ok resolved_config := rfl
  have hexposure : resolved_config.check_exposure = .ok () := rfl
  have hlinked : Quic.SidecarTransport.from_config bare_host.hex_decode
      resolved_config.fabricd_socket resolved_config.fabricd_quic = .ok (.uds "/run/fabricd.sock") := rfl
  refine Result.bind_eq_ok.mpr ⟨_, hload, ?_⟩
  refine Result.bind_eq_ok.mpr ⟨_, hexposure, ?_⟩
  refine Result.bind_eq_ok.mpr ⟨_, rfl, ?_⟩
  refine Result.bind_eq_ok.mpr ⟨_, rfl, ?_⟩
  refine Result.bind_eq_ok.mpr ⟨_, rfl, ?_⟩
  exact Result.bind_eq_ok.mpr ⟨_, hlinked, rfl⟩

/-- An execution of the exposed box. -/
theorem started_box_exposed :
    Guarded resolved_config calm_world acme_headers orders_invocation := by
  have hexecuted : .execute orders_invocation
      ∈ (run_execute calm_world exposed_box.state acme_headers (.ok orders_request)).effects := by
    decide +kernel
  exact (started_box exposed_box_starts).1 _ _ _ _ hexecuted

end Runlet.Startup
