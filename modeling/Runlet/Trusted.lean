/-
Trusted-header mode: who gets as far as a session or an execution, and under
which tenant everything a request does is filed.

Five places are given a tenant by five separate expressions of the pipeline: the
fairness key, the bytecode-cache namespace, the quota key, the events and the
session-open message. `trusted_mode_isolates` says that they are all the tenant
of the trusted headers, and that nothing else a caller sends has a say in it.
-/
import Runlet.Gates

set_option autoImplicit false

namespace Runlet.Handler

open Effects Text Runlet.Json Runlet.Wire Runlet.Errors Runlet.Identity Runlet.Capabilities
open Runlet.Quota Runlet.Concurrency

variable {w : World} {state : AppState} {headers : HeaderMap}
  {payload : Except String ExecRequest} {trusted : TrustedRuntime}

/-! ## The effects that matter -/

/-- The effects the gates guard: reaching for the daemon, opening a session on it,
and starting an execution. -/
def Effect.is_work : Effect → Bool
  | .dial | .open_session _ | .execute _ => true
  | .count _ | .observe _ _ | .record _ | .span _ _ | .ask_quota _ _ | .ask_permits _ => false

/-- Whatever the effect files under a tenant, it files under `tenant`. -/
def Effect.Carries (tenant : String) : Effect → Prop
  | .record event => event.tenant = some tenant
  | .ask_quota key _ => key = tenant
  | .open_session init => init.tenant = some tenant
  | .ask_permits partition => partition = some tenant
  | .execute invocation => invocation.cache_namespace = some tenant
  | .count _ | .observe _ _ | .span _ _ | .dial => True

/-- The five values of a request, one field for each. -/
structure KeyedBy (tenant : String) (effects : List Effect) : Prop where
  fairness : ∀ partition, .ask_permits partition ∈ effects → partition = some tenant
  cache : ∀ invocation, .execute invocation ∈ effects → invocation.cache_namespace = some tenant
  quota : ∀ key plan, .ask_quota key plan ∈ effects → key = tenant
  events : ∀ event, .record event ∈ effects → event.tenant = some tenant
  wire : ∀ init, .open_session init ∈ effects → init.tenant = some tenant

/-- Effects that all carry a tenant are keyed by it. -/
theorem keyedBy_of_all {ρ α : Type} {m : Eff Effect ρ α} {tenant : String}
    (h : All (Effect.Carries tenant) m) : KeyedBy tenant m.effects where
  fairness partition he := h (.ask_permits partition) he
  cache invocation he := h (.execute invocation) he
  quota key plan he := h (.ask_quota key plan) he
  events event he := h (.record event) he
  wire init he := h (.open_session init) he

/-! ## Behind the gates -/

/-- Everything the claim of a request has been checked for. -/
structure Passed (w : World) (state : AppState) (trusted : TrustedRuntime) (headers : HeaderMap)
    (req : ExecRequest) (tenant : String) : Prop where
  bearer : BearerMatched state headers
  accepted : Accepted (TrustedIdentity.from_headers headers trusted.headers) tenant
  entitled : HoldsAll trusted.capability_entitlements (requested_capabilities req.config)
    (TrustedIdentity.from_headers headers trusted.headers)
  quota : QuotaAdmits w trusted tenant (TrustedIdentity.from_headers headers trusted.headers).plan

/-- The checks and the quota together are the gate. -/
theorem passed_of_checked (htrusted : state.trusted = some trusted) {c : Cleared}
    (hchecked : Checked w state headers payload c)
    (hquota : ∃ guard, (enforce_quota w state c.identity w.trace_id
      (c.error_meta w.trace_id)).result = .ok guard) :
    ∃ tenant, Passed w state trusted headers c.req tenant := by
  obtain ⟨hidentity, tenant, haccepted⟩ := (resolve_identity_ok htrusted).mp hchecked.identity
  have hauthz := hchecked.authz
  rw [hidentity] at hauthz hquota
  refine ⟨tenant, ?_⟩
  exact ⟨enforce_auth_ok.mp hchecked.auth, haccepted, (enforce_member_authz_ok htrusted).mp hauthz,
    (enforce_quota_ok htrusted haccepted.tenant_eq).mp hquota⟩

/-- No session and no execution before the last of the gates. -/
theorem passed_of_work (htrusted : state.trusted = some trusted) {e : Effect}
    (hwork : e.is_work = true) (he : e ∈ (run_execute w state headers payload).effects) :
    ∃ req tenant, payload = .ok req ∧ Passed w state trusted headers req tenant := by
  have hplain : ∀ identity, Plain (·.is_work = false) identity :=
    fun identity => ⟨fun _ => rfl, fun _ _ => rfl, fun _ _ => rfl, fun _ _ => rfl⟩
  have hidle : ∀ {e' : Effect}, e' = e → e'.is_work ≠ false := by
    rintro e' rfl
    rw [hwork]
    nofun
  rcases mem_bind.mp he with he | ⟨c, hc, he⟩
  · exact absurd (all_check_request (hplain _) e he) (hidle rfl)
  rcases mem_bind.mp he with he | ⟨guard, hguard, -⟩
  · refine absurd ?_ (hidle rfl)
    exact all_handle (all_enforce_quota (hplain _) _ _ fun _ _ _ _ => rfl)
      (fun _ _ => all_reject (hplain none) _) e he
  simp only [ok_handle, reject_ok, and_false, exists_false, or_false] at hguard
  have hchecked := check_request_ok.mp hc
  obtain ⟨tenant, hpassed⟩ := passed_of_checked htrusted hchecked ⟨guard, hguard⟩
  exact ⟨c.req, tenant, hchecked.request, hpassed⟩

/-! ## One tenant -/

/-- Whatever an accepted request does, it does under the tenant of its headers. Stage by stage
along the pipeline, each of which is given the identity and not the tenant of the body. -/
theorem all_carries (htrusted : state.trusted = some trusted) {tenant : String}
    (haccepted : Accepted (TrustedIdentity.from_headers headers trusted.headers) tenant) :
    All (Effect.Carries tenant) (run_execute w state headers payload) := by
  have htenant : (identity_of state headers).bind (·.tenant) = some tenant := by
    rw [identity_of, htrusted]
    exact haccepted.tenant_eq
  have hplain : Plain (Effect.Carries tenant) (identity_of state headers) := by
    refine ⟨fun _ => trivial, fun _ _ => trivial, fun _ _ => trivial, ?_⟩
    intro event hevent
    exact hevent.trans htenant
  refine all_bind (all_check_request hplain) fun c hc => ?_
  have hchecked := check_request_ok.mp hc
  have hidentity : c.identity = identity_of state headers := resolve_identity_eq hchecked.identity
  -- the caller's own partition is not looked at
  have hpartition : c.partition = some tenant := by
    rw [hchecked.partition_eq, hidentity, identity_of, htrusted]
    exact haccepted.tenant_eq
  rw [← hidentity] at hplain htenant
  refine all_bind (all_handle (all_enforce_quota hplain _ _ ?_) fun _ _ => all_reject hplain _) ?_
  · intro id key hid hkey
    rw [hid] at htenant
    exact Option.some.inj (hkey.symm.trans htenant)
  intro _ _
  refine all_bind (all_egress_session hplain trivial ?_) fun session _ => ?_
  · intro init hinit
    exact hinit.trans htenant
  refine all_bind (all_handle (all_admit_execution hplain.count hpartition _) ?_) fun _ _ => ?_
  · intro _ _
    exact all_bind (all_emit_denied hplain _ _ _) fun _ _ => all_leave _
  exact all_bind (all_perform hpartition) fun _ _ => all_build_response hplain _ _

/-- Which of the five values a request that starts its execution is sure to have. -/
structure Filed (state : AppState) (trusted : TrustedRuntime) (req : ExecRequest)
    (effects : List Effect) : Prop where
  fairness : ∃ partition, .ask_permits partition ∈ effects
  quota : trusted.quota.isSome = true → ∃ key plan, .ask_quota key plan ∈ effects
  events : state.events = true → ∃ event, .record event ∈ effects
  wire : req.config.io.any = true → ∃ init, .open_session init ∈ effects

/-- A started execution is filed under the tenant that was accepted, in each of the five places.
-/
theorem filed_of_started {c : Cleared} {session : Option WireInit}
    (htrusted : state.trusted = some trusted) {tenant : String}
    (haccepted : Accepted (TrustedIdentity.from_headers headers trusted.headers) tenant)
    (h : Started w state headers payload c session) :
    Filed state trusted c.req (run_execute w state headers payload).effects := by
  rw [h.effects]
  have hidentity := ((resolve_identity_ok htrusted).mp h.checked.identity).1
  refine ⟨?_, ?_, ?_, ?_⟩
  · refine ⟨c.partition, ?_⟩
    have hask : .ask_permits c.partition
        ∈ (admit_execution w state c.partition (c.error_meta w.trace_id)).effects :=
      mem_bind.mpr (Or.inl (mem_perform.mpr rfl))
    simp [hask]
  · intro hquota
    obtain ⟨limits, hlimits⟩ := Option.isSome_iff_exists.mp hquota
    refine ⟨tenant, (TrustedIdentity.from_headers headers trusted.headers).plan, ?_⟩
    have hask : .ask_quota tenant (TrustedIdentity.from_headers headers trusted.headers).plan
        ∈ (enforce_quota w state c.identity w.trace_id (c.error_meta w.trace_id)).effects := by
      rw [hidentity]
      simp only [enforce_quota, htrusted, hlimits, haccepted.tenant_eq]
      exact mem_bind.mpr (Or.inl (mem_perform.mpr rfl))
    simp [hask]
  · intro hevents
    obtain ⟨event, hevent⟩ := exists_event_build_response (w := w) hevents c.identity
      (w.run (c.invocation session))
      (((Meta.new w.trace_id c.script_bytes c.context_bytes w.exec_time_us).with_key
        c.req.key).with_partition c.partition)
    exact ⟨event, by simp [hevent]⟩
  · intro hany
    obtain ⟨conn, -, -, hopen⟩ := egress_session_some hany h.connected
    exact ⟨conn, by simp [hopen]⟩

/-! ## The result -/

/-- **Trusted mode isolates.** A session is opened or an execution started only
behind every gate. All that such a request files is filed under the tenant of the
trusted headers, and a request that starts its execution files each of the five
values there is a place for. Two requests with the same trusted headers, whatever
else they carry and whatever they meet, file under the same tenant. -/
theorem trusted_mode_isolates (state : AppState) (trusted : TrustedRuntime)
    (htrusted : state.trusted = some trusted) :
    (∀ w headers payload e, e ∈ (run_execute w state headers payload).effects → e.is_work = true →
      ∃ req tenant, payload = .ok req ∧ Passed w state trusted headers req tenant
        ∧ KeyedBy tenant (run_execute w state headers payload).effects
        ∧ ((∃ inv, .execute inv ∈ (run_execute w state headers payload).effects) →
          Filed state trusted req (run_execute w state headers payload).effects))
    ∧ (∀ w₁ w₂ headers₁ headers₂ payload₁ payload₂, AgreeOn trusted.headers headers₁ headers₂ →
      (∃ inv, .execute inv ∈ (run_execute w₁ state headers₁ payload₁).effects) →
      (∃ inv, .execute inv ∈ (run_execute w₂ state headers₂ payload₂).effects) →
      ∃ tenant, KeyedBy tenant (run_execute w₁ state headers₁ payload₁).effects
        ∧ KeyedBy tenant (run_execute w₂ state headers₂ payload₂).effects) := by
  constructor
  · intro w headers payload e he hwork
    obtain ⟨req, tenant, hreq, hpassed⟩ := passed_of_work htrusted hwork he
    refine ⟨req, tenant, hreq, hpassed, keyedBy_of_all (all_carries htrusted hpassed.accepted), ?_⟩
    rintro ⟨inv, hinv⟩
    obtain ⟨c, session, hstarted, -⟩ := started_of_execute hinv
    have hsame : c.req = req := by
      rw [hstarted.checked.request, Except.ok.injEq] at hreq
      exact hreq
    rw [← hsame]
    exact filed_of_started htrusted hpassed.accepted hstarted
  · rintro w₁ w₂ headers₁ headers₂ payload₁ payload₂ hagree ⟨inv₁, hinv₁⟩ -
    obtain ⟨req, tenant, -, hpassed⟩ := passed_of_work htrusted rfl hinv₁
    have haccepted := hpassed.accepted
    refine ⟨tenant, keyedBy_of_all (all_carries htrusted haccepted), ?_⟩
    rw [from_headers_congr hagree] at haccepted
    exact keyedBy_of_all (all_carries htrusted haccepted)

/-! ### Two requests of one tenant -/

def acme_runtime : TrustedRuntime where
  headers := {}
  capability_entitlements := AList.singleton "db" "orders"
  quota := some (AList.singleton "free" ⟨1⟩)

/-- A server in trusted mode, with a bearer, a quota and a sidecar. -/
def acme_state : AppState where
  registry := fun _ => none
  engine_cfg := ⟨1000, 1000, 1000⟩
  error_debug := false
  partition_hash := fun _ => 0
  transport := .uds
  access_token := some "s3cret"
  trusted := some acme_runtime
  events := true

/-- Nobody else is there, the daemon agrees, and the script returns an empty envelope. -/
def calm_world : World where
  trace_id := "4bf92f3577b34da6a3ce929d0e0e4736"
  fresh_id := "6f1ed002-ab5c-4ad8-a7c4-8d9a29dd1e6f"
  inflight := ∅
  permits := ⟨1, none⟩
  auth_token := .ok none
  dial := .ok ()
  write_init := .ok ()
  read_init := .ok (some .ack)
  run := fun _ => .ok (.ok ⟨.success "\x7b\x7d", {}⟩, {})
  exec_time_us := 10
  parse_envelope := fun _ => .ok ("null", "null")

/-- The headers the edge injects for a caller who may use `db`. -/
def acme_headers : HeaderMap :=
  [(⟨"authorization", by decide +kernel⟩, utf8 "Bearer s3cret"),
    (⟨"x-tenant-id", by decide +kernel⟩, utf8 "ws_acme"),
    (⟨"x-tenant-scope", by decide +kernel⟩, utf8 "acting"),
    (⟨"x-tenant-plan", by decide +kernel⟩, utf8 "free"),
    (⟨"x-user-roles", by decide +kernel⟩, utf8 "billing, orders")]

/-- The same, with a partition of the caller's choice. -/
def spoofed_headers : HeaderMap :=
  acme_headers ++ [(⟨"x-partition-key", by decide +kernel⟩, utf8 "ws_other")]

def orders_request : ExecRequest where
  script := some "handler"
  config := { io := { db := ["orders-db"] } }

def spoofed_request : ExecRequest where
  script := some "other"
  partition := some "ws_other"

def orders_invocation : Invocation :=
  Cleared.invocation ⟨none, orders_request, .inline "handler", some "ws_acme"⟩
    (some { db := some "orders-db", timeout_ms := 1000, tenant := some "ws_acme" })

def spoofed_invocation : Invocation :=
  Cleared.invocation ⟨none, spoofed_request, .inline "other", some "ws_acme"⟩ none

/-- A request with a partition of the caller's choice, beside one without. -/
theorem trusted_mode_isolates_spoofed :
    Filed acme_state acme_runtime orders_request
      (run_execute calm_world acme_state acme_headers (.ok orders_request)).effects
    ∧ ∃ tenant, KeyedBy tenant
        (run_execute calm_world acme_state acme_headers (.ok orders_request)).effects
      ∧ KeyedBy tenant
        (run_execute calm_world acme_state spoofed_headers (.ok spoofed_request)).effects := by
  obtain ⟨hgate, hsame⟩ := trusted_mode_isolates acme_state acme_runtime rfl
  have horders : .execute orders_invocation
      ∈ (run_execute calm_world acme_state acme_headers (.ok orders_request)).effects := by
    decide +kernel
  have hspoofed : .execute spoofed_invocation
      ∈ (run_execute calm_world acme_state spoofed_headers (.ok spoofed_request)).effects := by
    decide +kernel
  constructor
  · obtain ⟨req, tenant, hreq, -, -, hfiled⟩ := hgate _ _ _ _ horders rfl
    rw [Except.ok.injEq] at hreq
    subst hreq
    exact hfiled ⟨_, horders⟩
  · refine hsame _ _ _ _ _ _ ?_ ⟨_, horders⟩ ⟨_, hspoofed⟩
    constructor <;> decide +kernel

end Runlet.Handler
