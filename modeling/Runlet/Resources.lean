/-
The operator resource table and name resolution
(`crates/fabric-backends/src/resources.rs`), with the six driver configurations
it hands out.

A table maps a logical name to a binding and the tenant allowed to use it.
`resolve` looks up the six names of a `WireInit` one after the other and stops
at the first that does not resolve. Two things are proved about it: a session
sees nothing of the entries of other tenants, not even whether they exist; and
what it is given is its own entry, under the requested name and of the requested
kind. `resolve_isolated` is both.
-/
import Runlet.Lib.Result
import Runlet.Wire
import Mathlib.Data.List.AList

set_option autoImplicit false

namespace Runlet.Resources

open Runlet.Wire

/-! ## The driver configurations -/

/-- `DbConfig` (`db.rs`). -/
structure DbConfig where
  host : String
  port : UInt16 := 5432
  user : String
  password : String
  database : String
  ssl : Bool := false
  statement_timeout_ms : UInt64 := 5000
  max_rows : ℕ := 1000
  deriving DecidableEq, Repr

/-- `MongoConfig` (`mongo.rs`). -/
structure MongoConfig where
  host : String
  port : UInt16 := 27017
  username : Option String := none
  password : Option String := none
  database : String
  auth_source : String := "admin"
  tls : Bool := false
  ca_cert : Option String := none
  op_timeout_ms : UInt64 := 5000
  max_docs : ℕ := 1000
  deriving DecidableEq, Repr

/-- The transport security of an SMTP connection. -/
inductive TlsMode
  | starttls
  | wrapper
  | none
  deriving DecidableEq, Repr

/-- `MailConfig` (`mail.rs`). -/
structure MailConfig where
  host : String
  port : UInt16 := 587
  user : String := ""
  password : String := ""
  tls : TlsMode := .starttls
  sender : String
  max_recipients : ℕ := 50
  allowed_recipient_domains : List String := []
  max_sends : ℕ := 0
  timeout_ms : UInt64 := 10000
  deriving DecidableEq, Repr

/-- `RedisConfig` (`kv.rs`). -/
structure RedisConfig where
  url : String
  timeout_ms : UInt64 := 5000
  deriving DecidableEq, Repr

/-- The messaging backend an `amq` resource speaks to. -/
inductive AmqBackend
  | rabbitmq
  | nats
  deriving DecidableEq, Repr

/-- `AmqConfig` (`amq.rs`). -/
structure AmqConfig where
  backend : AmqBackend := .rabbitmq
  host : String
  port : Option UInt16 := none
  username : Option String := none
  password : Option String := none
  token : Option String := none
  vhost : String := "/"
  exchange : String := ""
  max_batch : ℕ := 100
  request_timeout_ms : UInt64 := 5000
  tls : Bool := false
  ca_cert : Option String := none
  deriving DecidableEq, Repr

/-- `AuthConfig` (`auth.rs`). -/
structure AuthConfig where
  issuer : String
  userinfo_url : Option String := none
  introspect_url : Option String := none
  client_id : String := ""
  client_secret : String := ""
  timeout_ms : UInt64 := 10000
  deriving DecidableEq, Repr

/-! ## Bindings and the table -/

/-- One operator-declared resource: the kind tag with that driver's config. -/
inductive ResourceBinding
  | db (config : DbConfig)
  | mongo (config : MongoConfig)
  | mail (config : MailConfig)
  | redis (config : RedisConfig)
  | amq (config : AmqConfig)
  | auth (config : AuthConfig)
  deriving DecidableEq, Repr

namespace ResourceBinding

/-- The `kind` tag of a binding. -/
def kind : ResourceBinding → Kind
  | db _ => .db
  | mongo _ => .mongo
  | mail _ => .mail
  | redis _ => .redis
  | amq _ => .amq
  | auth _ => .auth

def as_db : ResourceBinding → Option DbConfig
  | db config => some config
  | mongo _ | mail _ | redis _ | amq _ | auth _ => none

def as_mongo : ResourceBinding → Option MongoConfig
  | mongo config => some config
  | db _ | mail _ | redis _ | amq _ | auth _ => none

def as_mail : ResourceBinding → Option MailConfig
  | mail config => some config
  | db _ | mongo _ | redis _ | amq _ | auth _ => none

def as_redis : ResourceBinding → Option RedisConfig
  | redis config => some config
  | db _ | mongo _ | mail _ | amq _ | auth _ => none

def as_amq : ResourceBinding → Option AmqConfig
  | amq config => some config
  | db _ | mongo _ | mail _ | redis _ | auth _ => none

def as_auth : ResourceBinding → Option AuthConfig
  | auth config => some config
  | db _ | mongo _ | mail _ | redis _ | amq _ => none

theorem as_db_eq_some {b : ResourceBinding} {c : DbConfig} : b.as_db = some c ↔ b = db c := by
  cases b <;> simp [as_db]

theorem as_mongo_eq_some {b : ResourceBinding} {c : MongoConfig} :
    b.as_mongo = some c ↔ b = mongo c := by
  cases b <;> simp [as_mongo]

theorem as_mail_eq_some {b : ResourceBinding} {c : MailConfig} :
    b.as_mail = some c ↔ b = mail c := by
  cases b <;> simp [as_mail]

theorem as_redis_eq_some {b : ResourceBinding} {c : RedisConfig} :
    b.as_redis = some c ↔ b = redis c := by
  cases b <;> simp [as_redis]

theorem as_amq_eq_some {b : ResourceBinding} {c : AmqConfig} : b.as_amq = some c ↔ b = amq c := by
  cases b <;> simp [as_amq]

theorem as_auth_eq_some {b : ResourceBinding} {c : AuthConfig} :
    b.as_auth = some c ↔ b = auth c := by
  cases b <;> simp [as_auth]

end ResourceBinding

/-- A binding with the tenant allowed to resolve it; `none` is a global binding. -/
structure TenantResourceBinding where
  tenant : Option String := none
  binding : ResourceBinding
  deriving DecidableEq, Repr

/-- The operator table, by logical name. -/
abbrev Table := AList fun _ : String => TenantResourceBinding

/-- The configs resolved for one session. -/
structure ResolvedConfigs where
  db : Option DbConfig := none
  mongo : Option MongoConfig := none
  mail : Option MailConfig := none
  redis : Option RedisConfig := none
  amq : Option AmqConfig := none
  auth : Option AuthConfig := none
  deriving DecidableEq, Repr

/-- The slot of one kind, with the kind put back on it. -/
def ResolvedConfigs.slot (c : ResolvedConfigs) : Kind → Option ResourceBinding
  | .db => c.db.map .db
  | .mongo => c.mongo.map .mongo
  | .mail => c.mail.map .mail
  | .redis => c.redis.map .redis
  | .amq => c.amq.map .amq
  | .auth => c.auth.map .auth

/-- `clamp_db_statement_timeout`: a ceiling of 0 is no ceiling, and a timeout of
0, which the server takes as unlimited, is raised to the ceiling. -/
def ResolvedConfigs.clamp_db_statement_timeout (c : ResolvedConfigs) (ceiling_ms : UInt64) :
    ResolvedConfigs :=
  if ceiling_ms = 0 then c
  else
    { c with
      db := c.db.map fun db =>
        { db with
          statement_timeout_ms :=
            if db.statement_timeout_ms = 0 then ceiling_ms
            else min db.statement_timeout_ms ceiling_ms } }

/-! ## Resolution -/

inductive ResolveError
  | not_found (name : String)
  | kind_mismatch (name kind : String)
  deriving DecidableEq, Repr

def ResolveError.code : ResolveError → String
  | .not_found _ => "RESOURCE_NOT_FOUND"
  | .kind_mismatch _ _ => "RESOURCE_KIND_MISMATCH"

def ResolveError.message : ResolveError → String
  | .not_found name => "no operator resource named `" ++ name ++ "`"
  | .kind_mismatch name kind => "resource `" ++ name ++ "` is not a " ++ kind ++ " resource"

/-- Resolves one optional name within the session's tenant. An entry of another
tenant is reported exactly as a missing one. -/
def pick {α : Type} (table : Table) (session_tenant name : Option String) (kind : String)
    (extract : ResourceBinding → Option α) : Except ResolveError (Option α) :=
  match name with
  | none => .ok none
  | some resource_name =>
    match table.lookup resource_name with
    | none => .error (.not_found resource_name)
    | some entry =>
      -- not even the existence of the entry shows
      if entry.tenant ≠ session_tenant then .error (.not_found resource_name)
      else
        match extract entry.binding with
        | some config => .ok (some config)
        | none => .error (.kind_mismatch resource_name kind)

/-- Resolves the six names of a session in turn. -/
def resolve (table : Table) (init : WireInit) : Except ResolveError ResolvedConfigs := do
  let db ← pick table init.tenant init.db "db" ResourceBinding.as_db
  let mongo ← pick table init.tenant init.mongo "mongo" ResourceBinding.as_mongo
  let mail ← pick table init.tenant init.mail "mail" ResourceBinding.as_mail
  let redis ← pick table init.tenant init.redis "redis" ResourceBinding.as_redis
  let amq ← pick table init.tenant init.amq "amq" ResourceBinding.as_amq
  let auth ← pick table init.tenant init.auth "auth" ResourceBinding.as_auth
  return { db, mongo, mail, redis, amq, auth }

/-! ## What a session sees of a table -/

/-- Two tables agree on the entries of one tenant. -/
def AgreeOn (tenant : Option String) (t₁ t₂ : Table) : Prop :=
  ∀ (name : String) (entry : TenantResourceBinding), entry.tenant = tenant →
    (t₁.lookup name = some entry ↔ t₂.lookup name = some entry)

section Pick

variable {α : Type} {tenant name : Option String} {kind : String}
  {extract : ResourceBinding → Option α}

/-- Without an entry of the session's tenant under the name, `pick` answers as if
the table were empty. -/
theorem pick_foreign {table : Table} {n : String}
    (h : ∀ entry, table.lookup n = some entry → entry.tenant ≠ tenant) :
    pick table tenant (some n) kind extract = .error (.not_found n) := by
  cases hl : table.lookup n with
  | none => simp only [pick, hl]
  | some entry =>
      simp only [pick, hl]
      rw [if_pos (h entry hl)]

/-- `pick` depends on a table only through the entries of the session's tenant. -/
theorem pick_congr {t₁ t₂ : Table} (h : AgreeOn tenant t₁ t₂) :
    pick t₁ tenant name kind extract = pick t₂ tenant name kind extract := by
  cases name with
  | none => rfl
  | some n =>
      by_cases hown : ∃ entry, t₁.lookup n = some entry ∧ entry.tenant = tenant
      · obtain ⟨entry, hl, ht⟩ := hown
        have hl₂ := (h n entry ht).mp hl
        simp only [pick, hl, hl₂]
      -- neither table has an own entry: both answer `NotFound`
      · rw [pick_foreign, pick_foreign]
        · intro entry hl ht
          exact hown ⟨entry, (h n entry ht).mpr hl, ht⟩
        · intro entry hl ht
          exact hown ⟨entry, hl, ht⟩

/-- What a successful `pick` hands out. -/
theorem pick_ok {table : Table} {c : Option α}
    (h : pick table tenant name kind extract = .ok c) :
    (name = none ∧ c = none) ∨ ∃ n entry v, name = some n ∧ table.lookup n = some entry
      ∧ entry.tenant = tenant ∧ extract entry.binding = some v ∧ c = some v := by
  cases name with
  | none =>
      left
      exact ⟨rfl, by simpa [pick] using h.symm⟩
  | some n =>
      right
      cases hl : table.lookup n with
      | none => simp [pick, hl] at h
      | some entry =>
          simp only [pick, hl] at h
          by_cases ht : entry.tenant = tenant
          · rw [if_neg (not_not_intro ht)] at h
            cases hx : extract entry.binding with
            | none => simp [hx] at h
            | some v =>
                simp only [hx, Except.ok.injEq] at h
                exact ⟨n, entry, v, rfl, hl, ht, hx, h.symm⟩
          · rw [if_pos ht] at h
            cases h

end Pick

/-- `resolve` succeeds exactly when its six `pick`s do. -/
theorem resolve_ok {table : Table} {init : WireInit} {c : ResolvedConfigs}
    (h : resolve table init = .ok c) :
    pick table init.tenant init.db "db" ResourceBinding.as_db = .ok c.db
    ∧ pick table init.tenant init.mongo "mongo" ResourceBinding.as_mongo = .ok c.mongo
    ∧ pick table init.tenant init.mail "mail" ResourceBinding.as_mail = .ok c.mail
    ∧ pick table init.tenant init.redis "redis" ResourceBinding.as_redis = .ok c.redis
    ∧ pick table init.tenant init.amq "amq" ResourceBinding.as_amq = .ok c.amq
    ∧ pick table init.tenant init.auth "auth" ResourceBinding.as_auth = .ok c.auth := by
  simp only [resolve, Result.bind_eq_ok, Result.pure_eq_ok] at h
  obtain ⟨db, hdb, mongo, hmongo, mail, hmail, redis, hredis, amq, hamq, auth, hauth, rfl⟩ := h
  exact ⟨hdb, hmongo, hmail, hredis, hamq, hauth⟩

/-- What the slot of one kind holds after a successful resolution: nothing if the
session named nothing, else the binding of its own entry of that name and kind. -/
def Granted (table : Table) (init : WireInit) (c : ResolvedConfigs) (k : Kind) : Prop :=
  (∀ b, c.slot k = some b → ∃ name entry, init.named k = some name
    ∧ table.lookup name = some entry ∧ entry.tenant = init.tenant ∧ entry.binding = b
    ∧ b.kind = k)
  ∧ ((c.slot k).isSome ↔ (init.named k).isSome)

/-- One slot, from its `pick`. -/
theorem granted_of_pick {α : Type} {table : Table} {init : WireInit} {c : ResolvedConfigs}
    {k : Kind} {cfg : Option α} {extract : ResourceBinding → Option α}
    {wrap : α → ResourceBinding} {kind : String}
    (hpick : pick table init.tenant (init.named k) kind extract = .ok cfg)
    (hslot : c.slot k = cfg.map wrap) (hkind : ∀ v, (wrap v).kind = k)
    (hextract : ∀ b v, extract b = some v → b = wrap v) : Granted table init c k := by
  rcases pick_ok hpick with ⟨hn, hc⟩ | ⟨n, entry, v, hn, hl, ht, hx, hc⟩
  -- nothing named, nothing granted
  · rw [Granted, hslot, hn, hc]
    exact ⟨by rintro b ⟨⟩, by simp⟩
  · rw [Granted, hslot, hn, hc]
    refine ⟨?_, by simp⟩
    rintro b ⟨⟩
    exact ⟨n, entry, rfl, hl, ht, hextract _ _ hx, hkind v⟩

/-- Every slot of a resolved session is granted. -/
theorem resolve_granted {table : Table} {init : WireInit} {c : ResolvedConfigs}
    (h : resolve table init = .ok c) (k : Kind) : Granted table init c k := by
  obtain ⟨hdb, hmongo, hmail, hredis, hamq, hauth⟩ := resolve_ok h
  cases k with
  | db =>
      exact granted_of_pick hdb rfl (fun _ => rfl)
        (fun _ _ => ResourceBinding.as_db_eq_some.mp)
  | mongo =>
      exact granted_of_pick hmongo rfl (fun _ => rfl)
        (fun _ _ => ResourceBinding.as_mongo_eq_some.mp)
  | mail =>
      exact granted_of_pick hmail rfl (fun _ => rfl)
        (fun _ _ => ResourceBinding.as_mail_eq_some.mp)
  | redis =>
      exact granted_of_pick hredis rfl (fun _ => rfl)
        (fun _ _ => ResourceBinding.as_redis_eq_some.mp)
  | amq =>
      exact granted_of_pick hamq rfl (fun _ => rfl)
        (fun _ _ => ResourceBinding.as_amq_eq_some.mp)
  | auth =>
      exact granted_of_pick hauth rfl (fun _ => rfl)
        (fun _ _ => ResourceBinding.as_auth_eq_some.mp)

/-- `resolve` depends on a table only through the entries of the session's
tenant. -/
theorem resolve_congr {t₁ t₂ : Table} {init : WireInit} (h : AgreeOn init.tenant t₁ t₂) :
    resolve t₁ init = resolve t₂ init := by
  unfold resolve
  rw [pick_congr h, pick_congr h, pick_congr h, pick_congr h, pick_congr h, pick_congr h]

/-- **Tenant isolation.** Tables that agree on the session's own entries give the
session the same configs, or the same error; and every config handed out is the
session's own entry under the requested name and of the requested kind. -/
theorem resolve_isolated (init : WireInit) :
    (∀ t₁ t₂ : Table, AgreeOn init.tenant t₁ t₂ → resolve t₁ init = resolve t₂ init)
    ∧ ∀ (table : Table) (c : ResolvedConfigs), resolve table init = .ok c →
        ∀ k, Granted table init c k :=
  ⟨fun _ _ h => resolve_congr h, fun _ _ h => resolve_granted h⟩

/-! ## Two tenants -/

/-- The database of tenant `ws_a`. -/
def a_db : DbConfig :=
  { host := "ha", user := "u", password := "p", database := "d" }

/-- `ws_a`'s own entry. -/
def a_table : Table :=
  AList.singleton "a-db" { tenant := some "ws_a", binding := .db a_db }

/-- The same table after `ws_b` has declared a resource. -/
def ab_table : Table :=
  a_table.insert "b-db" { tenant := some "ws_b", binding := .redis { url := "redis://hb:6379" } }

/-- Another tenant's entries are nothing to this one. -/
theorem ab_table_agrees : AgreeOn (some "ws_a") a_table ab_table := by
  intro name entry ht
  by_cases hb : name = "b-db"
  · subst hb
    have h₁ : a_table.lookup "b-db" = none := by decide
    have h₂ : ab_table.lookup "b-db" =
        some { tenant := some "ws_b", binding := .redis { url := "redis://hb:6379" } } := by decide
    rw [h₁, h₂]
    constructor
    · nofun
    · rintro ⟨⟩
      exact absurd ht (by decide)
  · rw [ab_table, AList.lookup_insert_ne hb]

/-- A session of `ws_a` that names `ws_b`'s entry gets the error it got before
that entry existed; naming its own entry, it gets its own config. -/
theorem resolve_isolated_ws_a :
    resolve ab_table { db := some "b-db", tenant := some "ws_a" } = .error (.not_found "b-db")
    ∧ resolve a_table { db := some "b-db", tenant := some "ws_a" } = .error (.not_found "b-db")
    ∧ resolve ab_table { db := some "a-db", tenant := some "ws_a" } = .ok { db := some a_db }
    ∧ Granted ab_table { db := some "a-db", tenant := some "ws_a" } { db := some a_db } .db := by
  have hforeign : resolve a_table { db := some "b-db", tenant := some "ws_a" } =
      .error (.not_found "b-db") := by decide
  have hown : resolve ab_table { db := some "a-db", tenant := some "ws_a" } =
      .ok { db := some a_db } := by decide
  refine ⟨?_, hforeign, hown, (resolve_isolated _).2 _ _ hown .db⟩
  rw [← (resolve_isolated { db := some "b-db", tenant := some "ws_a" }).1 a_table ab_table
    ab_table_agrees]
  exact hforeign

end Runlet.Resources
