/-
What a request asks for: `RequestConfig` and the four readings of it in the box
(`crates/runlet/src/handler.rs`, `runlet-core/src/engine.rs`).

The same selection is written out four times: the kinds submitted to the
capability gate, the engine's gates, the names in the session-open message, and
whether a session is opened at all. One lemma for each says that it selects the
kinds the request names a resource for.
-/
import Runlet.S3.Host
import Runlet.Wire

set_option autoImplicit false

namespace Runlet.Capabilities

open Runlet.Json Runlet.Wire Runlet.S3

/-! ## The configuration -/

/-- `$sys` env and secrets (`sys.rs`). -/
structure SysConfig where
  env : List (String × Value) := []
  secrets : List (String × Value) := []
  deriving DecidableEq, Repr

/-- `config.io`: the resources a script may address, per kind. -/
structure RequestIo where
  db : List String := []
  mongo : List String := []
  mail : List String := []
  redis : List String := []
  amq : List String := []
  auth : List String := []
  deriving DecidableEq, Repr

structure RequestConfig where
  allowed_hosts : List String := []
  s3 : Option S3Config := none
  sys : Option SysConfig := none
  io : RequestIo := {}
  deriving DecidableEq, Repr

/-- Whether a capability is exposed. -/
inductive Gate
  | off
  | on
  deriving DecidableEq, Repr

def Gate.from_enabled (enabled : Bool) : Gate := if enabled then .on else .off

def Gate.is_on (gate : Gate) : Bool := gate = .on

structure CapabilityGates where
  db : Gate
  mongo : Gate
  mail : Gate
  redis : Gate
  amq : Gate
  auth : Gate
  deriving DecidableEq, Repr

namespace RequestIo

/-- Is any driver capability requested? -/
def any (io : RequestIo) : Bool :=
  [io.db, io.mongo, io.mail, io.redis, io.amq, io.auth].any fun names => !names.isEmpty

def gates (io : RequestIo) : CapabilityGates where
  db := Gate.from_enabled (!io.db.isEmpty)
  mongo := Gate.from_enabled (!io.mongo.isEmpty)
  mail := Gate.from_enabled (!io.mail.isEmpty)
  redis := Gate.from_enabled (!io.redis.isEmpty)
  amq := Gate.from_enabled (!io.amq.isEmpty)
  auth := Gate.from_enabled (!io.auth.isEmpty)

/-- The session-open message: the first name of each kind. The token is added
when the session is opened. -/
def wire_init (io : RequestIo) (timeout : ℕ) (tenant : Option String) : WireInit where
  db := io.db.head?
  mongo := io.mongo.head?
  mail := io.mail.head?
  redis := io.redis.head?
  amq := io.amq.head?
  auth := io.auth.head?
  timeout_ms := if timeout < 2 ^ 64 then timeout else 2 ^ 64 - 1
  tenant := tenant
  token := none

end RequestIo

/-- `requested_capabilities`: what the capability gate is asked about. -/
def requested_capabilities (config : RequestConfig) : List String :=
  let io := config.io
  (if !io.db.isEmpty then ["db"] else [])
    ++ (if !io.mongo.isEmpty then ["mongo"] else [])
    ++ (if !io.mail.isEmpty then ["mail"] else [])
    ++ (if !io.redis.isEmpty then ["redis"] else [])
    ++ (if !io.amq.isEmpty then ["amq"] else [])
    ++ (if !io.auth.isEmpty then ["auth"] else [])
    ++ (if !config.allowed_hosts.isEmpty then ["http"] else [])
    ++ (if config.s3.isSome then ["s3"] else [])

/-! ## What the engine injects -/

inductive Profile
  | full
  | deterministic
  deriving DecidableEq, Repr

/-- `CapabilitySet` (`host.rs`). -/
structure CapabilitySet where
  allowed_hosts : List String
  db : Gate
  mongo : Gate
  mail : Gate
  s3 : Option S3Config
  redis : Gate
  amq : Gate
  auth : Gate
  sys : Option SysConfig
  deriving DecidableEq, Repr

/-- A capability wrapper bound in the script's globals. -/
inductive Wrapper
  | http
  | s3
  | driver (kind : Kind)
  deriving DecidableEq, Repr

/-- The kind a wrapper is submitted to the capability gate under. -/
def Wrapper.as_str : Wrapper → String
  | http => "http"
  | s3 => "s3"
  | driver kind => kind.as_str

/-- `inject_apis` (`engine.rs`): the wrappers injected, in order. -/
def inject_apis (profile : Profile) (caps : CapabilitySet) : List Wrapper :=
  if profile ≠ .full then []
  else
    (if !caps.allowed_hosts.isEmpty then [Wrapper.http] else [])
      ++ (if caps.db.is_on then [Wrapper.driver Kind.db] else [])
      ++ (if caps.mongo.is_on then [Wrapper.driver Kind.mongo] else [])
      ++ (if caps.mail.is_on then [Wrapper.driver Kind.mail] else [])
      ++ (if caps.s3.isSome then [Wrapper.s3] else [])
      ++ (if caps.redis.is_on then [Wrapper.driver Kind.redis] else [])
      ++ (if caps.amq.is_on then [Wrapper.driver Kind.amq] else [])
      ++ (if caps.auth.is_on then [Wrapper.driver Kind.auth] else [])

/-! ## The readings agree -/

/-- The resources named for one kind. -/
def RequestIo.names (io : RequestIo) : Kind → List String
  | .db => io.db
  | .mongo => io.mongo
  | .mail => io.mail
  | .redis => io.redis
  | .amq => io.amq
  | .auth => io.auth

def CapabilityGates.gate (gates : CapabilityGates) : Kind → Gate
  | .db => gates.db
  | .mongo => gates.mongo
  | .mail => gates.mail
  | .redis => gates.redis
  | .amq => gates.amq
  | .auth => gates.auth

/-- The request names a resource of the kind. -/
def RequestIo.Selects (io : RequestIo) (k : Kind) : Prop := io.names k ≠ []

theorem Gate.is_on_from_enabled (enabled : Bool) :
    (Gate.from_enabled enabled).is_on = enabled := by
  cases enabled <;> rfl

/-- A gate is on exactly for a kind that is selected. -/
theorem gates_is_on {io : RequestIo} {k : Kind} :
    (io.gates.gate k).is_on = true ↔ io.Selects k := by
  cases k <;>
    simp [RequestIo.gates, CapabilityGates.gate, Gate.is_on_from_enabled, RequestIo.Selects,
      RequestIo.names]

theorem wire_init_named {io : RequestIo} {timeout : ℕ} {tenant : Option String} {k : Kind} :
    ((io.wire_init timeout tenant).named k).isSome = true ↔ io.Selects k := by
  cases k <;>
    simp [RequestIo.wire_init, WireInit.named, RequestIo.Selects, RequestIo.names]

/-- A request selects something exactly if one of the kinds is selected. -/
theorem any_iff {io : RequestIo} : io.any = true ↔ ∃ k, io.Selects k := by
  rw [RequestIo.any, List.any_eq_true]
  constructor
  · rintro ⟨names, hnames, hne⟩
    have hne : names ≠ [] := by simpa using hne
    simp only [List.mem_cons, List.not_mem_nil, or_false] at hnames
    rcases hnames with rfl | rfl | rfl | rfl | rfl | rfl
    · exact ⟨.db, hne⟩
    · exact ⟨.mongo, hne⟩
    · exact ⟨.mail, hne⟩
    · exact ⟨.redis, hne⟩
    · exact ⟨.amq, hne⟩
    · exact ⟨.auth, hne⟩
  · rintro ⟨k, hk⟩
    refine ⟨io.names k, ?_, by simpa [RequestIo.Selects] using hk⟩
    cases k <;> simp [RequestIo.names]

/-- Membership in one of the pieces a list is pushed together from. -/
theorem mem_if_singleton {α : Type} {a b : α} {c : Bool} :
    a ∈ (if c then [b] else []) ↔ a = b ∧ c = true := by
  cases c <;> simp

theorem mem_requested {config : RequestConfig} {k : Kind} :
    k.as_str ∈ requested_capabilities config ↔ config.io.Selects k := by
  simp only [requested_capabilities, List.mem_append, mem_if_singleton]
  cases k <;> simp [Kind.as_str, RequestIo.Selects, RequestIo.names]

theorem http_mem_requested {config : RequestConfig} :
    "http" ∈ requested_capabilities config ↔ config.allowed_hosts ≠ [] := by
  simp only [requested_capabilities, List.mem_append, mem_if_singleton]
  simp

theorem s3_mem_requested {config : RequestConfig} :
    "s3" ∈ requested_capabilities config ↔ config.s3.isSome = true := by
  simp only [requested_capabilities, List.mem_append, mem_if_singleton]
  simp

end Runlet.Capabilities
