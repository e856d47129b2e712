/-
From what a request names to what its script can reach.

Five selections of the same six kinds are written out by hand on both sides of
the process boundary. `capabilities_agree` says that they select the same kinds,
and follows one call of a script through all of them: a backend is reached only
if the request named a resource of its kind, and, in trusted mode, the caller
holds the entitlement that kind requires.
-/
import Runlet.Trusted
import Mathlib.Data.Set.Basic

set_option autoImplicit false

namespace Runlet.Handler

open Effects Runlet.Wire Runlet.Resources Runlet.Backends Runlet.Identity Runlet.Capabilities

variable {w : World} {state : AppState} {headers : HeaderMap}
  {payload : Except String ExecRequest}

/-! ## The five sets -/

/-- The driver kinds submitted to the capability gate. -/
def submitted (config : RequestConfig) : Set Kind := { k | k.as_str ∈ requested_capabilities config }

/-- The kinds whose wrapper the engine injects. -/
def gated (io : RequestIo) : Set Kind := { k | (io.gates.gate k).is_on = true }

/-- The kinds a session names a resource of. -/
def named (init : WireInit) : Set Kind := { k | (init.named k).isSome = true }

/-- The kinds a session has a backend of. -/
def present (set : BackendSet) : Set Kind := { k | (set.slot k).isSome = true }

theorem submitted_eq (config : RequestConfig) : submitted config = { k | config.io.Selects k } := by
  ext k
  exact mem_requested

theorem gated_eq (io : RequestIo) : gated io = { k | io.Selects k } := by
  ext k
  exact gates_is_on

theorem named_wire_init (io : RequestIo) (timeout : ℕ) (tenant : Option String) :
    named (io.wire_init timeout tenant) = { k | io.Selects k } := by
  ext k
  exact wire_init_named

/-- A token changes no name. -/
theorem named_with_token (init : WireInit) (token : Option String) :
    named { init with token } = named init := by
  ext k
  cases k <;> rfl

/-- The backends that are opened are those that the frame names. -/
theorem present_open_backends {table : Table} {ceiling_ms : UInt64} {init : WireInit}
    {set : BackendSet} (h : open_backends table ceiling_ms init = .ok set) :
    present set = named init := by
  ext k
  exact (open_backends_ok h k).1

/-! ## What a script reaches -/

/-- The backends one `io.call` of the script of an execution touches, when the
daemon's table is `table`. Without a session there is no `io` global. -/
def reached (drivers : Drivers) (table : Table) (ceiling_ms : UInt64) (inv : Invocation)
    (name action payload : String) : List ResourceBinding :=
  if inv.profile ≠ .full then []
  else
    match inv.egress with
    | none => []
    | some init =>
      match open_backends table ceiling_ms init with
      | .error _ => []
      | .ok set => (call drivers set name action payload).effects

/-- A backend is reached through its own name, and only if the session named a
resource of its kind. -/
theorem mem_reached {drivers : Drivers} {table : Table} {ceiling_ms : UInt64} {inv : Invocation}
    {name action text : String} {backend : ResourceBinding}
    (h : backend ∈ reached drivers table ceiling_ms inv name action text) :
    ∃ init, inv.egress = some init ∧ name = backend.kind.as_str ∧ backend.kind ∈ named init := by
  unfold reached at h
  split at h
  · simp at h
  cases hegress : inv.egress with
  | none => simp [hegress] at h
  | some init =>
      simp only [hegress] at h
      cases hset : open_backends table ceiling_ms init with
      | error err => simp [hset] at h
      | ok set =>
          simp only [hset] at h
          obtain ⟨k, hname, hslot⟩ := mem_call h
          have hkind := (open_backends_ok hset k).2 backend hslot
          refine ⟨init, rfl, ?_, ?_⟩
          · rw [hkind]
            exact hname
          · rw [← present_open_backends hset, hkind]
            exact Option.isSome_iff_exists.mpr ⟨backend, hslot⟩

/-- In trusted mode, the caller holds what a capability requires. -/
def Entitled (state : AppState) (headers : HeaderMap) (capability : String) : Prop :=
  ∀ trusted, state.trusted = some trusted →
    ∀ required, trusted.capability_entitlements.lookup capability = some required →
      (TrustedIdentity.from_headers headers trusted.headers).has_grant required = true

/-- What was submitted to the gate was authorized there. -/
theorem entitled_of_checked {c : Cleared} (hchecked : Checked w state headers payload c)
    {capability : String} (hsubmitted : capability ∈ requested_capabilities c.req.config) :
    Entitled state headers capability := by
  intro trusted htrusted required hrequired
  have hauthz := hchecked.authz
  rw [((resolve_identity_ok htrusted).mp hchecked.identity).1,
    enforce_member_authz_ok htrusted] at hauthz
  exact hauthz capability hsubmitted required hrequired

/-- The session of an execution names the kinds the request selects. -/
theorem named_of_started {c : Cleared} {session : Option WireInit} {init : WireInit}
    (h : Started w state headers payload c session) (hsession : session = some init) :
    named init = { k | c.req.config.io.Selects k } := by
  by_cases hany : c.req.config.io.any = true
  · obtain ⟨conn, hconn, ⟨token, rfl⟩, -⟩ := egress_session_some hany h.connected
    rw [hsession, Option.some.injEq] at hconn
    rw [hconn, named_with_token]
    exact named_wire_init _ _ _
  · have hnone := egress_session_none (by simpa using hany) h.connected
    rw [hsession] at hnone
    cases hnone

/-- The wrappers of an execution are those of its request. -/
theorem mem_inject_apis {c : Cleared} {session : Option WireInit} {wrapper : Wrapper}
    (h : wrapper ∈ inject_apis (c.invocation session).profile (c.invocation session).caps) :
    wrapper.as_str ∈ requested_capabilities c.req.config := by
  rw [inject_apis, if_neg (by simp [Cleared.invocation])] at h
  simp only [List.mem_append, mem_if_singleton] at h
  rcases h with ((((((⟨rfl, h⟩ | ⟨rfl, h⟩) | ⟨rfl, h⟩) | ⟨rfl, h⟩) | ⟨rfl, h⟩) | ⟨rfl, h⟩) |
    ⟨rfl, h⟩) | ⟨rfl, h⟩
  · exact http_mem_requested.mpr (by simpa [Cleared.invocation] using h)
  · exact mem_requested.mpr ((gates_is_on (k := .db)).mp h)
  · exact mem_requested.mpr ((gates_is_on (k := .mongo)).mp h)
  · exact mem_requested.mpr ((gates_is_on (k := .mail)).mp h)
  · exact s3_mem_requested.mpr h
  · exact mem_requested.mpr ((gates_is_on (k := .redis)).mp h)
  · exact mem_requested.mpr ((gates_is_on (k := .amq)).mp h)
  · exact mem_requested.mpr ((gates_is_on (k := .auth)).mp h)

/-! ## The result -/

/-- **The capability sets agree**, and a script reaches nothing outside them. What is gated, what
is sent to the daemon and what is opened there are computed by different pieces of code, and come
out as the set that was submitted; what a script reaches, or has injected, is in it and granted to
its caller. -/
theorem capabilities_agree (config : RequestConfig) :
    (∀ timeout tenant,
      gated config.io = submitted config
      ∧ named (config.io.wire_init timeout tenant) = submitted config
      ∧ (∀ table ceiling_ms set,
        open_backends table ceiling_ms (config.io.wire_init timeout tenant) = .ok set →
        present set = submitted config)
      ∧ (config.io.any = true ↔ (submitted config).Nonempty))
    ∧ ∀ w state headers req inv, req.config = config →
      .execute inv ∈ (run_execute w state headers (.ok req)).effects →
      (∀ drivers table ceiling_ms name action text, ∀ backend ∈
        reached drivers table ceiling_ms inv name action text,
        config.io.Selects backend.kind ∧ Entitled state headers backend.kind.as_str)
      ∧ ∀ wrapper ∈ inject_apis inv.profile inv.caps,
        wrapper.as_str ∈ requested_capabilities config ∧ Entitled state headers wrapper.as_str := by
  refine ⟨?_, ?_⟩
  · intro timeout tenant
    rw [submitted_eq, gated_eq, named_wire_init, any_iff]
    refine ⟨rfl, rfl, ?_, Iff.rfl⟩
    intro table ceiling_ms set hset
    rw [present_open_backends hset, named_wire_init]
  · rintro w state headers req inv rfl hinv
    -- an execution is behind the gate, so all it was submitted for is entitled
    obtain ⟨c, session, hstarted, rfl⟩ := started_of_execute hinv
    have hreq : c.req = req := (Except.ok.inj hstarted.checked.request).symm
    have hentitled : ∀ capability ∈ requested_capabilities req.config,
        Entitled state headers capability := by
      rw [← hreq]
      exact fun _ hmem => entitled_of_checked hstarted.checked hmem
    refine ⟨?_, ?_⟩
    -- from the backend back over the session to the request
    · intro drivers table ceiling_ms name action text backend hbackend
      obtain ⟨init, hegress, -, hnamed⟩ := mem_reached hbackend
      rw [named_of_started hstarted hegress, hreq] at hnamed
      exact ⟨hnamed, hentitled _ (mem_requested.mpr hnamed)⟩
    · intro wrapper hwrapper
      have hsubmitted := mem_inject_apis hwrapper
      rw [hreq] at hsubmitted
      exact ⟨hsubmitted, hentitled _ hsubmitted⟩

/-! ### The orders database -/

def orders_db : DbConfig :=
  { host := "db.internal", user := "acme", password := "pw", database := "orders" }

def orders_table : Table :=
  AList.singleton "orders-db" { tenant := some "ws_acme", binding := .db orders_db }

/-- Drivers that connect and answer `null`. -/
def null_drivers : Drivers where
  connect_resource := fun _ => .ok ()
  call := fun _ _ _ => .ok "null"
  unpack := fun _ text => .ok text

/-- A caller who may use the database, and uses it. -/
theorem capabilities_agree_orders :
    reached null_drivers orders_table 0 orders_invocation "db" "query" "null" = [.db orders_db]
    ∧ orders_request.config.io.Selects .db ∧ Entitled acme_state acme_headers "db" := by
  have hreached : reached null_drivers orders_table 0 orders_invocation "db" "query" "null"
      = [.db orders_db] := by
    decide +kernel
  refine ⟨hreached, ?_⟩
  have hexecuted : .execute orders_invocation
      ∈ (run_execute calm_world acme_state acme_headers (.ok orders_request)).effects := by
    decide +kernel
  have hagree := (capabilities_agree orders_request.config).2 calm_world acme_state acme_headers
    orders_request orders_invocation rfl hexecuted
  exact hagree.1 null_drivers orders_table 0 "db" "query" "null" (.db orders_db)
    (by rw [hreached]; exact List.mem_singleton_self _)

end Runlet.Handler
