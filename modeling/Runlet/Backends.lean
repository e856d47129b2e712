/-
The daemon's set of backends for one session
(`crates/fabric-backends/src/backendset.rs`).

A slot holds the resolved configuration of its kind; the driver behind it is a
parameter (`Drivers`). A call is modelled with what it touches: the effects of
`call` are the backends it reached, connected or not.
-/
import Runlet.Lib.Effects
import Runlet.Resources

set_option autoImplicit false

namespace Runlet.Backends

open Effects Runlet.Wire Runlet.Resources

/-- The driver crates: connecting to a resource, and one operation on it. -/
structure Drivers where
  connect_resource : ResourceBinding → Except EgressError Unit
  call : ResourceBinding → String → String → Except EgressError String
  /-- Unpacking the payload of a kind that has a shape of its own. -/
  unpack : Kind → String → Except EgressError String

structure BackendSet where
  db : Option DbConfig := none
  mongo : Option MongoConfig := none
  mail : Option MailConfig := none
  redis : Option RedisConfig := none
  auth : Option AuthConfig := none
  amq : Option AmqConfig := none
  deriving DecidableEq, Repr

namespace BackendSet

def new : BackendSet := {}

def with_db (set : BackendSet) (config : DbConfig) : BackendSet := { set with db := some config }

def with_mongo (set : BackendSet) (config : MongoConfig) : BackendSet :=
  { set with mongo := some config }

def with_mail (set : BackendSet) (config : MailConfig) : BackendSet :=
  { set with mail := some config }

def with_redis (set : BackendSet) (config : RedisConfig) : BackendSet :=
  { set with redis := some config }

def with_auth (set : BackendSet) (config : AuthConfig) : BackendSet :=
  { set with auth := some config }

def with_amq (set : BackendSet) (config : AmqConfig) : BackendSet := { set with amq := some config }

/-- `if let Some(cfg) = … { set = set.with_…(cfg) }`. -/
def when_some {α : Type} (config : Option α) (wire : BackendSet → α → BackendSet)
    (set : BackendSet) : BackendSet :=
  match config with
  | some cfg => wire set cfg
  | none => set

def from_configs (configs : ResolvedConfigs) : BackendSet :=
  let set := when_some configs.db with_db new
  let set := when_some configs.mongo with_mongo set
  let set := when_some configs.mail with_mail set
  let set := when_some configs.redis with_redis set
  let set := when_some configs.amq with_amq set
  when_some configs.auth with_auth set

/-- The slot of one kind. -/
def slot (set : BackendSet) : Kind → Option ResourceBinding
  | .db => set.db.map .db
  | .mongo => set.mongo.map .mongo
  | .mail => set.mail.map .mail
  | .redis => set.redis.map .redis
  | .amq => set.amq.map .amq
  | .auth => set.auth.map .auth

/-- The set has a slot exactly for what was resolved. -/
theorem slot_from_configs (configs : ResolvedConfigs) (k : Kind) :
    (from_configs configs).slot k = configs.slot k := by
  obtain ⟨db, mongo, mail, redis, amq, auth⟩ := configs
  cases db <;> cases mongo <;> cases mail <;> cases redis <;> cases amq <;> cases auth <;>
    cases k <;> rfl

end BackendSet

/-- What `serve` (`fabricd/src/main.rs`) builds from an accepted `Init`: the
resolved configs, with the operator's ceiling on the database timeout. -/
def open_backends (table : Table) (ceiling_ms : UInt64) (init : WireInit) :
    Except ResolveError BackendSet :=
  (resolve table init).map fun configs =>
    BackendSet.from_configs (configs.clamp_db_statement_timeout ceiling_ms)

/-- The ceiling changes a slot's timeout, never its presence or its kind. -/
theorem slot_clamp (configs : ResolvedConfigs) (ceiling_ms : UInt64) (k : Kind) :
    ((configs.clamp_db_statement_timeout ceiling_ms).slot k).map ResourceBinding.kind
      = (configs.slot k).map ResourceBinding.kind := by
  rw [ResolvedConfigs.clamp_db_statement_timeout]
  split
  · rfl
  · cases k
    case db =>
      simp only [ResolvedConfigs.slot, Option.map_map]
      rfl
    all_goals rfl

/-- A session has the slots it named, each with a backend of its kind. -/
theorem open_backends_ok {table : Table} {ceiling_ms : UInt64} {init : WireInit}
    {set : BackendSet} (h : open_backends table ceiling_ms init = .ok set) (k : Kind) :
    ((set.slot k).isSome = true ↔ (init.named k).isSome = true)
      ∧ ∀ backend, set.slot k = some backend → backend.kind = k := by
  rw [open_backends] at h
  cases hresolve : resolve table init with
  | error err => simp [hresolve, Except.map] at h
  | ok configs =>
      simp only [hresolve, Except.map, Except.ok.injEq] at h
      obtain ⟨hkind, hpresent⟩ := resolve_granted hresolve k
      have hslot : (set.slot k).map ResourceBinding.kind
          = (configs.slot k).map ResourceBinding.kind := by
        rw [← h, BackendSet.slot_from_configs, slot_clamp]
      constructor
      · rw [← hpresent, ← Option.isSome_map, hslot, Option.isSome_map]
      · intro backend hbackend
        rw [hbackend, Option.map_some] at hslot
        obtain ⟨b, hb, hbkind⟩ := Option.map_eq_some_iff.mp hslot.symm
        obtain ⟨-, -, -, -, -, -, hk⟩ := hkind b hb
        rw [← hbkind, hk]

/-! ## Calls -/

/-- `<CAP>_NOT_CONFIGURED`. -/
def not_configured (name : String) : EgressError :=
  { EgressError.new name (name.toUpper ++ "_NOT_CONFIGURED") (name ++ " egress is not configured")
    with owner := .developer }

section Call

variable (drivers : Drivers) (set : BackendSet)

/-- The shape of the six `call_…` functions: the slot, its connection, the
payload, the operation. -/
def call_slot (name : String) (slot : Option ResourceBinding)
    (connect : ResourceBinding → Except EgressError Unit)
    (unpack : String → Except EgressError String) (action payload : String) :
    Eff ResourceBinding EgressError String :=
  match slot with
  | none => leave (not_configured name)
  | some backend => do
    perform backend
    lift (connect backend)
    let args ← lift (unpack payload)
    lift (drivers.call backend action args)

def call_db : String → String → Eff ResourceBinding EgressError String :=
  call_slot drivers "db" (set.slot .db) drivers.connect_resource (drivers.unpack .db)

def call_mongo : String → String → Eff ResourceBinding EgressError String :=
  call_slot drivers "mongo" (set.slot .mongo) drivers.connect_resource (drivers.unpack .mongo)

/-- The payload is the send envelope, passed through. -/
def call_mail : String → String → Eff ResourceBinding EgressError String :=
  call_slot drivers "mail" (set.slot .mail) drivers.connect_resource .ok

def call_redis : String → String → Eff ResourceBinding EgressError String :=
  call_slot drivers "redis" (set.slot .redis) drivers.connect_resource .ok

/-- `amq` connects inside each operation. -/
def call_amq : String → String → Eff ResourceBinding EgressError String :=
  call_slot drivers "amq" (set.slot .amq) (fun _ => .ok ()) .ok

def call_auth : String → String → Eff ResourceBinding EgressError String :=
  call_slot drivers "auth" (set.slot .auth) drivers.connect_resource (drivers.unpack .auth)

/-- `BackendSet::call`: any name a script can write comes here. -/
def call (name action payload : String) : Eff ResourceBinding EgressError String :=
  match name with
  | "db" => call_db drivers set action payload
  | "mongo" => call_mongo drivers set action payload
  | "mail" => call_mail drivers set action payload
  | "redis" => call_redis drivers set action payload
  | "amq" => call_amq drivers set action payload
  | "auth" => call_auth drivers set action payload
  | other =>
    leave { EgressError.new "engine" "IO_UNKNOWN" ("unknown egress '" ++ other ++ "'")
      with owner := .developer }

variable {drivers set}

/-- A call of one slot reaches that slot's backend or none. -/
theorem mem_call_slot {name : String} {slot : Option ResourceBinding}
    {connect : ResourceBinding → Except EgressError Unit}
    {unpack : String → Except EgressError String} {action payload : String}
    {backend : ResourceBinding}
    (h : backend ∈ (call_slot drivers name slot connect unpack action payload).effects) :
    slot = some backend := by
  cases slot with
  | none => simp [call_slot] at h
  | some b =>
      simp only [call_slot, mem_bind, mem_perform, mem_lift, and_false, exists_false, or_false] at h
      rw [h]

/-- Whatever name it is given, a call reaches a backend only through its slot. -/
theorem mem_call {name action payload : String} {backend : ResourceBinding}
    (h : backend ∈ (call drivers set name action payload).effects) :
    ∃ k, name = k.as_str ∧ set.slot k = some backend := by
  unfold call at h
  split at h
  · exact ⟨.db, rfl, mem_call_slot h⟩
  · exact ⟨.mongo, rfl, mem_call_slot h⟩
  · exact ⟨.mail, rfl, mem_call_slot h⟩
  · exact ⟨.redis, rfl, mem_call_slot h⟩
  · exact ⟨.amq, rfl, mem_call_slot h⟩
  · exact ⟨.auth, rfl, mem_call_slot h⟩
  · simp at h

end Call

end Runlet.Backends
