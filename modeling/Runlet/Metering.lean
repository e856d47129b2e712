/-
Metering of driver operations: the lazily connected slots of a `BackendSet`
(`crates/fabric-backends/src/backendset.rs`), the `call` of each of the six backends
(`db.rs`, `mongo.rs`, `mail.rs`, `kv.rs`, `amq.rs`, `auth.rs`) and the collector they
record into (`crates/fabric-wire/src/metrics.rs`).

`Backends` has the set as its slots. Here the slots are live: a slot's cell holds nothing,
the backend it connected to with what that backend has recorded, or the error it did not
connect with. What the drivers do is given call by call, as a `World`; the JSON library is a
parameter, `Serde`. A collector's lock is never poisoned: nothing panics while holding it.

Each backend records in its own place. `Meter` is what that comes to, kind by kind;
`metered_one_to_one` says when it is one entry a call.
-/
import Runlet.Backends

set_option autoImplicit false

namespace Runlet.Metering

open Runlet.Json Runlet.Wire Runlet.Resources

/-! ## 1. What the set is given -/

/-- `serde_json`, at the types the module decodes to. -/
structure Serde where
  /-- `DbPayload`: `sql` and `params`, null when absent. -/
  db_payload : String → Except String (String × Value)
  /-- `MongoEnvelope`: `collection` and `data`. -/
  mongo_envelope : String → Except String (String × Value)
  /-- `AuthPayload`: `token`. -/
  auth_payload : String → Except String String
  from_str : String → Except String Value
  to_string : Value → Except String String

structure MongoOutcome where
  json : String
  docs_returned : ℕ
  docs_affected : ℕ
  truncated : Bool

/-- `SendOutcome` of `mail.rs`. -/
structure MailOutcome where
  json : String
  recipients : ℕ
  bytes : ℕ
  accepted : Bool

/-- `SendOutcome` of `amq.rs`. -/
structure AmqOutcome where
  json : String
  messages : ℕ
  bytes : ℕ

structure AuthOutcome where
  json : String
  status : ℕ

/-- The drivers during one call: whether a connect succeeds, what each `dispatch` answers
(its error as the seam sees it), how long it took. -/
structure World where
  connect_resource : ResourceBinding → Except EgressError Unit
  db : (action sql params_json : String) → Except EgressError String
  mongo : (action collection payload_json : String) → Except EgressError MongoOutcome
  mail : (action payload_json : String) → Except EgressError MailOutcome
  redis : (action payload_json : String) → Except EgressError String
  amq : (action payload_json : String) → Except EgressError AmqOutcome
  auth : (action token : String) → Except EgressError AuthOutcome
  /-- The host of an issuer, where it parses as a URL and has one. -/
  host_str : String → Option String
  duration_us : ℕ

/-! ## 2. The backends -/

/-- `Value::as_u64`. -/
def as_u64 : Value → Option ℕ
  | .number (.pos_int n) => some n.toNat
  | _ => none

/-- `Value::as_bool`. -/
def as_bool : Value → Option Bool
  | .bool b => some b
  | _ => none

section Backends

variable (serde : Serde) (world : World)

/-- `extract_metric_info` (`db.rs`). -/
def extract_metric_info (action json : String) : ℕ × ℕ × Bool :=
  let parsed := (serde.from_str json).toOption.getD .null
  match action with
  | "query" =>
    (((parsed.get_key "row_count").bind as_u64).getD 0, 0,
      ((parsed.get_key "truncated").bind as_bool).getD false)
  | "execute" => (0, ((parsed.get_key "rows_affected").bind as_u64).getD 0, false)
  | _ => (0, 0, false)

/-- `value_stats` (`kv.rs`). -/
def value_stats (action json : String) : ℕ × Bool :=
  if action ≠ "get" then (0, false)
  else
    let parsed := (serde.from_str json).toOption.getD .null
    match (parsed.get_key "value").bind Value.as_str with
    | some text => (text.utf8ByteSize, true)
    | none => (0, false)

/-- `DbBackend::call`: the operation, recorded whatever it answers. -/
def db_call (action sql params_json : String) (metrics : List DbMetric) :
    Except EgressError String × List DbMetric :=
  let result := world.db action sql params_json
  let info := (result.toOption.map (extract_metric_info serde action)).getD (0, 0, false)
  (result, metrics ++ [⟨action, world.duration_us, info.1, info.2.1, info.2.2⟩])

/-- `MongoBackend::call`. -/
def mongo_call (action collection payload_json : String) (metrics : List MongoMetric) :
    Except EgressError String × List MongoMetric :=
  let result := world.mongo action collection payload_json
  let info := (result.toOption.map fun out => (out.docs_returned, out.docs_affected, out.truncated))
    |>.getD (0, 0, false)
  (result.map MongoOutcome.json,
    metrics ++ [⟨action, world.duration_us, info.1, info.2.1, info.2.2⟩])

/-- The refusal of a send beyond `max_sends`. -/
def mail_op_limit (max_sends : ℕ) : EgressError where
  code := "MAIL_OP_LIMIT"
  message := "too many mail.send calls: limit is " ++ toString max_sends
  source := "mail"
  details := none
  retryable := false
  owner := .developer

/-- `MailBackend::call`: beyond `max_sends` it is refused before anything is recorded. -/
def mail_call (config : MailConfig) (action payload_json : String) (metrics : List MailMetric) :
    Except EgressError String × List MailMetric :=
  if config.max_sends ≠ 0 ∧ config.max_sends ≤ metrics.length then
    (.error (mail_op_limit config.max_sends), metrics)
  else
    let result := world.mail action payload_json
    let info := (result.toOption.map fun out => (out.recipients, out.bytes, out.accepted))
      |>.getD (0, 0, false)
    (result.map MailOutcome.json,
      metrics ++ [⟨action, world.duration_us, info.1, info.2.1, info.2.2⟩])

/-- `RedisBackend::call`. -/
def redis_call (action payload_json : String) (metrics : List RedisMetric) :
    Except EgressError String × List RedisMetric :=
  let result := world.redis action payload_json
  let info := (result.toOption.map (value_stats serde action)).getD (0, false)
  (result, metrics ++ [⟨action, world.duration_us, info.1, info.2⟩])

/-- `AmqProducer::call`: the connect is part of the operation. -/
def amq_call (action payload_json : String) (metrics : List AmqMetric) :
    Except EgressError String × List AmqMetric :=
  let result := world.amq action payload_json
  let info := (result.toOption.map fun out => (out.messages, out.bytes, true)).getD (0, 0, false)
  (result.map AmqOutcome.json,
    metrics ++ [⟨action, world.duration_us, info.1, info.2.1, info.2.2⟩])

/-- `AuthBackend::call`. -/
def auth_call (config : AuthConfig) (action token : String) (metrics : List AuthMetric) :
    Except EgressError String × List AuthMetric :=
  let result := world.auth action token
  let status := (result.toOption.map AuthOutcome.status).getD 0
  (result.map AuthOutcome.json,
    metrics ++ [⟨action, (world.host_str config.issuer).getD "unknown", status, world.duration_us⟩])

/-! ## 3. Payloads -/

/-- An unpacking error: the developer's. -/
def bad_payload (source code message : String) : EgressError :=
  { EgressError.new source code message with owner := .developer }

/-- `parse_db_payload`: the SQL and the parameters as a JSON array. -/
def parse_db_payload (payload_json : String) : Except EgressError (String × String) :=
  match serde.db_payload payload_json with
  | .error err => .error (bad_payload "db" "DB_BAD_PAYLOAD" s!"invalid db payload: {err}")
  | .ok (sql, .null) => .ok (sql, "[]")
  | .ok (sql, params) => .ok (sql, (serde.to_string params).toOption.getD "[]")

/-- `parse_mongo_payload`: the collection and its payload. -/
def parse_mongo_payload (payload_json : String) : Except EgressError (String × String) :=
  match serde.mongo_envelope payload_json with
  | .error err => .error (bad_payload "mongo" "MONGO_QUERY" s!"invalid mongo payload: {err}")
  | .ok (collection, .null) => .ok (collection, "\x7b\x7d")
  | .ok (collection, data) => .ok (collection, (serde.to_string data).toOption.getD "\x7b\x7d")

/-- `parse_auth_token`. -/
def parse_auth_token (payload_json : String) : Except EgressError String :=
  match serde.auth_payload payload_json with
  | .error err => .error (bad_payload "auth" "AUTH_REQUEST" s!"invalid auth payload: {err}")
  | .ok token => .ok token

end Backends

/-! ## 4. The set -/

/-- A connect-once cell: `OnceLock<Result<Backend, EgressError>>`, the backend by what it
has recorded. -/
abbrev OnceLock (M : Type) : Type := Option (Except EgressError (List M))

/-- A lazily connected egress. -/
structure Slot (C M : Type) where
  config : C
  backend : OnceLock M

/-- `AmqProducer`: connects per call, so it is built eagerly. -/
structure AmqProducer where
  config : AmqConfig
  metrics : List AmqMetric

structure BackendSet where
  db : Option (Slot DbConfig DbMetric)
  mongo : Option (Slot MongoConfig MongoMetric)
  mail : Option (Slot MailConfig MailMetric)
  redis : Option (Slot RedisConfig RedisMetric)
  auth : Option (Slot AuthConfig AuthMetric)
  amq : Option AmqProducer

/-- `from_configs`: nothing is connected yet. -/
def BackendSet.from_configs (configs : Backends.BackendSet) : BackendSet where
  db := configs.db.map (⟨·, none⟩)
  mongo := configs.mongo.map (⟨·, none⟩)
  mail := configs.mail.map (⟨·, none⟩)
  redis := configs.redis.map (⟨·, none⟩)
  auth := configs.auth.map (⟨·, none⟩)
  amq := configs.amq.map (⟨·, []⟩)

section Slots

variable {C M A : Type}

/-- The slot's `backend()`, connecting on first use; a failure is kept. -/
def Slot.get_or_init (slot : Slot C M) (connect : C → Except EgressError Unit) :
    Except EgressError (List M) :=
  match slot.backend with
  | some backend => backend
  | none => (connect slot.config).map fun _ => []

/-- The shape of five `call_…` functions: the backend, the payload, the operation. -/
def Slot.call (slot : Slot C M) (connect : C → Except EgressError Unit)
    (args : Except EgressError A) (operate : C → A → List M → Except EgressError String × List M) :
    Except EgressError String × Slot C M :=
  match slot.get_or_init connect with
  | .error err => (.error err, { slot with backend := some (.error err) })
  | .ok metrics =>
    match args with
    | .error err => (.error err, { slot with backend := some (.ok metrics) })
    | .ok a =>
      ((operate slot.config a metrics).1,
        { slot with backend := some (.ok (operate slot.config a metrics).2) })

/-- The metrics recorded so far; none before a connection. -/
def Slot.drain_metrics : Option (Slot C M) → List M
  | some ⟨_, some (.ok metrics)⟩ => metrics
  | _ => []

end Slots

section Calls

variable (serde : Serde) (world : World) (set : BackendSet)

def call_db (action payload_json : String) : Except EgressError String × BackendSet :=
  match set.db with
  | none => (.error (Backends.not_configured "db"), set)
  | some slot =>
    let (answer, slot) := slot.call (fun config => world.connect_resource (.db config))
      (parse_db_payload serde payload_json) fun _ args => db_call serde world action args.1 args.2
    (answer, { set with db := some slot })

def call_mongo (action payload_json : String) : Except EgressError String × BackendSet :=
  match set.mongo with
  | none => (.error (Backends.not_configured "mongo"), set)
  | some slot =>
    let (answer, slot) := slot.call (fun config => world.connect_resource (.mongo config))
      (parse_mongo_payload serde payload_json) fun _ args => mongo_call world action args.1 args.2
    (answer, { set with mongo := some slot })

/-- The payload is the send envelope, passed straight through. -/
def call_mail (action payload_json : String) : Except EgressError String × BackendSet :=
  match set.mail with
  | none => (.error (Backends.not_configured "mail"), set)
  | some slot =>
    let (answer, slot) := slot.call (fun config => world.connect_resource (.mail config))
      (.ok payload_json) fun config payload => mail_call world config action payload
    (answer, { set with mail := some slot })

def call_redis (action payload_json : String) : Except EgressError String × BackendSet :=
  match set.redis with
  | none => (.error (Backends.not_configured "redis"), set)
  | some slot =>
    let (answer, slot) := slot.call (fun config => world.connect_resource (.redis config))
      (.ok payload_json) fun _ payload => redis_call serde world action payload
    (answer, { set with redis := some slot })

def call_amq (action payload_json : String) : Except EgressError String × BackendSet :=
  match set.amq with
  | none => (.error (Backends.not_configured "amq"), set)
  | some producer =>
    let (answer, metrics) := amq_call world action payload_json producer.metrics
    (answer, { set with amq := some ⟨producer.config, metrics⟩ })

def call_auth (action payload_json : String) : Except EgressError String × BackendSet :=
  match set.auth with
  | none => (.error (Backends.not_configured "auth"), set)
  | some slot =>
    let (answer, slot) := slot.call (fun config => world.connect_resource (.auth config))
      (parse_auth_token serde payload_json) fun config token => auth_call world config action token
    (answer, { set with auth := some slot })

/-- `BackendSet::call`. -/
def call (name action payload_json : String) : Except EgressError String × BackendSet :=
  match name with
  | "db" => call_db serde world set action payload_json
  | "mongo" => call_mongo serde world set action payload_json
  | "mail" => call_mail world set action payload_json
  | "redis" => call_redis serde world set action payload_json
  | "amq" => call_amq world set action payload_json
  | "auth" => call_auth serde world set action payload_json
  | other =>
    (.error { EgressError.new "engine" "IO_UNKNOWN" ("unknown egress '" ++ other ++ "'")
      with owner := .developer }, set)

end Calls

/-- `BackendSet::metrics`: cloned out, nothing is taken. -/
def BackendSet.metrics (set : BackendSet) : BackendMetrics where
  db := Slot.drain_metrics set.db
  mongo := Slot.drain_metrics set.mongo
  mail := Slot.drain_metrics set.mail
  redis := Slot.drain_metrics set.redis
  amq := (set.amq.map AmqProducer.metrics).getD []
  auth := Slot.drain_metrics set.auth

inductive Event
  | call (world : World) (name action payload_json : String)
  /-- The metrics are read. -/
  | metrics

def BackendSet.step (serde : Serde) (set : BackendSet) : Event → BackendSet
  | .call world name action payload_json => (Metering.call serde world set name action payload_json).2
  | .metrics => set

def BackendSet.after (serde : Serde) (set : BackendSet) (events : List Event) : BackendSet :=
  events.foldl (BackendSet.step serde) set

/-! ## 5. One kind's meter -/

/-- A slot as far as metering goes: never called, not connected, or connected and these
actions recorded. -/
inductive Meter
  | idle
  | failed
  | connected (actions : List String)
  deriving DecidableEq, Repr

def Meter.actions : Meter → List String
  | .connected actions => actions
  | _ => []

/-- What a call brings to it. -/
structure Attempt where
  connects : Bool
  unpacks : Bool
  action : String
  deriving DecidableEq, Repr

/-- A connected slot records what unpacks, up to its cap (`0`: none). -/
def Meter.record (cap : ℕ) (actions : List String) (a : Attempt) : Meter :=
  if a.unpacks = true ∧ (cap = 0 ∨ actions.length < cap) then .connected (actions ++ [a.action])
  else .connected actions

def Meter.call (cap : ℕ) (meter : Meter) (a : Attempt) : Meter :=
  match meter with
  | .connected actions => Meter.record cap actions a
  | .failed => .failed
  | .idle => if a.connects then Meter.record cap [] a else .failed

section Meter

variable {cap : ℕ} {attempts : List Attempt}

/-- What an attempt adds to a meter: its action, if the payload is read and the cap leaves room.
-/
theorem record_actions (cap : ℕ) (actions : List String) (a : Attempt) :
    Meter.record cap actions a
      = .connected (actions ++ if a.unpacks = true ∧ (cap = 0 ∨ actions.length < cap)
          then [a.action] else []) := by
  rw [Meter.record]
  split
  · rfl
  · rw [List.append_nil]

/-- No more is recorded than is called. Each call adds one entry or none, so the number of calls
bounds what a connected meter has. -/
theorem connected_length (actions : List String) :
    ((attempts.foldl (Meter.call cap) (.connected actions)).actions).length
      ≤ actions.length + attempts.length := by
  induction attempts generalizing actions with
  | nil => exact Nat.le_refl _
  | cons a attempts ih =>
      rw [List.foldl_cons, Meter.call, record_actions]
      refine Nat.le_trans (ih _) ?_
      rw [List.length_append, List.length_cons]
      split
      · rw [List.length_singleton]
        omega
      · rw [List.length_nil]
        omega

/-- A connected slot records every call iff all of them unpack and the cap is not reached. A call
that is not recorded leaves the list one too short for good, so the first such call decides. -/
theorem connected_records (actions : List String) (hcap : cap = 0 ∨ actions.length ≤ cap) :
    (attempts.foldl (Meter.call cap) (.connected actions)).actions
        = actions ++ attempts.map Attempt.action
      ↔ (∀ a ∈ attempts, a.unpacks = true)
        ∧ (cap = 0 ∨ actions.length + attempts.length ≤ cap) := by
  induction attempts generalizing actions with
  | nil =>
      refine iff_of_true (List.append_nil _).symm ⟨?_, hcap⟩
      intro a ha
      cases ha
  | cons a attempts ih =>
      rw [List.foldl_cons, Meter.call, record_actions, List.map_cons, List.forall_mem_cons]
      by_cases hrec : a.unpacks = true ∧ (cap = 0 ∨ actions.length < cap)
      -- recorded: the rest starts from one action more
      · have hnext : cap = 0 ∨ (actions ++ [a.action]).length ≤ cap := by
          rw [List.length_append, List.length_singleton]
          omega
        have hrest := ih (actions ++ [a.action]) hnext
        rw [List.append_assoc, List.singleton_append, List.length_append,
          List.length_singleton] at hrest
        rw [if_pos hrec, hrest, List.length_cons]
        constructor
        · rintro ⟨hall, hle⟩
          refine ⟨⟨hrec.1, hall⟩, ?_⟩
          omega
        · rintro ⟨⟨-, hall⟩, hle⟩
          refine ⟨hall, ?_⟩
          omega
      -- this call is missed, and nothing makes up for it
      · rw [if_neg hrec, List.append_nil]
        refine iff_of_false ?_ ?_
        · intro heq
          have hfew : ((attempts.foldl (Meter.call cap) (.connected actions)).actions).length
              ≤ actions.length + attempts.length := connected_length actions
          rw [heq, List.length_append, List.length_cons, List.length_map] at hfew
          omega
        · rintro ⟨⟨hunpacks, -⟩, hle⟩
          apply hrec
          refine ⟨hunpacks, ?_⟩
          rw [List.length_cons] at hle
          omega

theorem failed_actions : (attempts.foldl (Meter.call cap) .failed).actions = [] := by
  induction attempts with
  | nil => rfl
  | cons a attempts ih => exact ih

/-- A slot records every call iff its first call connects, all of them unpack and there are
no more than the cap. -/
theorem idle_records :
    (attempts.foldl (Meter.call cap) .idle).actions = attempts.map Attempt.action
      ↔ (∀ a ∈ attempts.head?, a.connects = true) ∧ (∀ a ∈ attempts, a.unpacks = true)
        ∧ (cap = 0 ∨ attempts.length ≤ cap) := by
  cases attempts with
  | nil => simp [Meter.actions]
  | cons a attempts =>
      have hhead : (∀ b ∈ (a :: attempts).head?, b.connects = true) ↔ a.connects = true := by simp
      rw [hhead]
      by_cases hconnects : a.connects = true
      -- from its first call on it is a connected slot
      · have hfirst : Meter.call cap .idle a = Meter.call cap (.connected []) a := if_pos hconnects
        have hall : ((a :: attempts).foldl (Meter.call cap) (.connected [])).actions
            = [] ++ (a :: attempts).map Attempt.action ↔ _ :=
          connected_records [] (Or.inr (Nat.zero_le cap))
        rw [List.foldl_cons, List.nil_append, List.length_nil, Nat.zero_add] at hall
        rw [List.foldl_cons, hfirst, hall]
        exact (and_iff_right hconnects).symm
      -- the cell keeps the error, and no call gets past it
      · have hfirst : Meter.call cap .idle a = .failed := by
          rw [Meter.call, if_neg hconnects]
        rw [List.foldl_cons, hfirst, failed_actions]
        refine iff_of_false ?_ ?_
        · intro h
          cases h
        · rintro ⟨h, -⟩
          exact hconnects h

end Meter

/-! ## 6. The set, kind by kind -/

/-- A slot as a meter; `action` reads a metric's action. -/
def Slot.meter {C M : Type} (action : M → String) (slot : Slot C M) : Meter :=
  match slot.backend with
  | none => .idle
  | some (.error _) => .failed
  | some (.ok metrics) => .connected (metrics.map action)

def BackendSet.meter (set : BackendSet) : Kind → Option Meter
  | .db => set.db.map (Slot.meter DbMetric.action)
  | .mongo => set.mongo.map (Slot.meter MongoMetric.action)
  | .mail => set.mail.map (Slot.meter MailMetric.action)
  | .redis => set.redis.map (Slot.meter RedisMetric.action)
  | .amq => set.amq.map fun producer => .connected (producer.metrics.map AmqMetric.action)
  | .auth => set.auth.map (Slot.meter AuthMetric.action)

/-- The configuration of a slot. -/
def BackendSet.slot (set : BackendSet) : Kind → Option ResourceBinding
  | .db => set.db.map (.db ·.config)
  | .mongo => set.mongo.map (.mongo ·.config)
  | .mail => set.mail.map (.mail ·.config)
  | .redis => set.redis.map (.redis ·.config)
  | .amq => set.amq.map (.amq ·.config)
  | .auth => set.auth.map (.auth ·.config)

/-- `max_sends`, which only mail has. -/
def cap : ResourceBinding → ℕ
  | .mail config => config.max_sends
  | _ => 0

/-- The payload has the shape the kind asks for; three kinds ask for none. -/
def unpacks (serde : Serde) (kind : Kind) (payload_json : String) : Bool :=
  match kind with
  | .db => (parse_db_payload serde payload_json).isOk
  | .mongo => (parse_mongo_payload serde payload_json).isOk
  | .auth => (parse_auth_token serde payload_json).isOk
  | .mail | .redis | .amq => true

/-- What a call brings to the meter of a slot. `amq` has nothing to connect. -/
def attempt (serde : Serde) (world : World) (binding : ResourceBinding)
    (action payload_json : String) : Attempt where
  connects := match binding with
    | .amq _ => true
    | _ => (world.connect_resource binding).isOk
  unpacks := unpacks serde binding.kind payload_json
  action := action

/-- What a call of a slot does to its meter, given what the operation records. The slot connects
at its first call; from then on the call is the operation's, and one whose arguments do not unpack
never gets there. -/
theorem slot_call_meter {C M A : Type} {action : M → String} {n : ℕ} (slot : Slot C M)
    (connect : C → Except EgressError Unit) (args : Except EgressError A)
    (operate : C → A → List M → Except EgressError String × List M) (act : String)
    (hoperate : ∀ a metrics, Meter.connected ((operate slot.config a metrics).2.map action)
      = Meter.record n (metrics.map action) ⟨true, true, act⟩) :
    (slot.call connect args operate).2.meter action
      = (slot.meter action).call n ⟨(connect slot.config).isOk, args.isOk, act⟩ := by
  obtain ⟨config, backend⟩ := slot
  have hmissed : ∀ actions connects,
      Meter.record n actions ⟨connects, false, act⟩ = .connected actions := by
    intro actions connects
    rw [record_actions, if_neg (by simp), List.append_nil]
  have hsame : ∀ actions connects, Meter.record n actions ⟨connects, true, act⟩
      = Meter.record n actions ⟨true, true, act⟩ := fun _ _ => rfl
  -- whatever is connected, the payload decides first and then the operation
  have hconnected : ∀ metrics connects,
      (match args with
        | .error _ => Meter.connected (metrics.map action)
        | .ok a => Meter.connected ((operate config a metrics).2.map action))
        = Meter.record n (metrics.map action) ⟨connects, args.isOk, act⟩ := by
    intro metrics connects
    cases args with
    | error err => exact (hmissed _ _).symm
    | ok a =>
        dsimp only
        rw [hoperate a metrics]
        exact (hsame _ _).symm
  cases backend with
  | none =>
      rw [Slot.call, Slot.get_or_init]
      dsimp only
      cases hconnect : connect config with
      | error err => rfl
      | ok u =>
          have h := hconnected [] true
          cases args with
          | error err => exact h
          | ok a => exact h
  | some cell =>
      cases cell with
      | error err => rfl
      | ok metrics =>
          have h := hconnected metrics (connect config).isOk
          cases args with
          | error err => exact h
          | ok a => exact h

/-- A call leaves the configuration of its slot. -/
@[simp] theorem slot_call_config {C M A : Type} (slot : Slot C M)
    (connect : C → Except EgressError Unit) (args : Except EgressError A)
    (operate : C → A → List M → Except EgressError String × List M) :
    (slot.call connect args operate).2.config = slot.config := by
  rw [Slot.call]
  split
  · rfl
  · split <;> rfl

/-- A call of a configured kind advances that kind's meter and touches nothing else. -/
def Advances (serde : Serde) (world : World) (set : BackendSet) (kind : Kind)
    (action payload_json : String) (set' : BackendSet) : Prop :=
  ∀ k, set'.slot k = set.slot k ∧ ∀ binding, set.slot k = some binding →
    set'.meter k = if k = kind
      then (set.meter k).map fun m =>
        m.call (cap binding) (attempt serde world binding action payload_json)
      else set.meter k

theorem record_uncapped (actions : List String) (action : String) :
    Meter.record 0 actions ⟨true, true, action⟩ = .connected (actions ++ [action]) :=
  if_pos ⟨rfl, Or.inl rfl⟩

section Kinds

variable {serde : Serde} {world : World} {set : BackendSet} {action payload_json : String}

/-- A call of the database leaves one record, if its payload is read. -/
theorem db_call_records (sql params_json : String) (metrics : List DbMetric) :
    Meter.connected ((db_call serde world action sql params_json metrics).2.map DbMetric.action)
      = Meter.record 0 (metrics.map DbMetric.action) ⟨true, true, action⟩ := by
  rw [record_uncapped, db_call, List.map_append]
  rfl

/-- The same for `mongo`. -/
theorem mongo_call_records (collection data_json : String) (metrics : List MongoMetric) :
    Meter.connected
        ((mongo_call world action collection data_json metrics).2.map MongoMetric.action)
      = Meter.record 0 (metrics.map MongoMetric.action) ⟨true, true, action⟩ := by
  rw [record_uncapped, mongo_call, List.map_append]
  rfl

/-- The same for `redis`. -/
theorem redis_call_records (payload : String) (metrics : List RedisMetric) :
    Meter.connected ((redis_call serde world action payload metrics).2.map RedisMetric.action)
      = Meter.record 0 (metrics.map RedisMetric.action) ⟨true, true, action⟩ := by
  rw [record_uncapped, redis_call, List.map_append]
  rfl

/-- The same for `amq`. -/
theorem amq_call_records (payload : String) (metrics : List AmqMetric) :
    Meter.connected ((amq_call world action payload metrics).2.map AmqMetric.action)
      = Meter.record 0 (metrics.map AmqMetric.action) ⟨true, true, action⟩ := by
  rw [record_uncapped, amq_call, List.map_append]
  rfl

/-- The same for `auth`, up to its cap. -/
theorem auth_call_records (config : AuthConfig) (token : String) (metrics : List AuthMetric) :
    Meter.connected ((auth_call world config action token metrics).2.map AuthMetric.action)
      = Meter.record 0 (metrics.map AuthMetric.action) ⟨true, true, action⟩ := by
  rw [record_uncapped, auth_call, List.map_append]
  rfl

/-- The one backend that turns a call away unrecorded. -/
theorem mail_call_records (config : MailConfig) (payload : String) (metrics : List MailMetric) :
    Meter.connected ((mail_call world config action payload metrics).2.map MailMetric.action)
      = Meter.record config.max_sends (metrics.map MailMetric.action) ⟨true, true, action⟩ := by
  rw [record_actions, List.length_map, mail_call]
  by_cases hfull : config.max_sends ≠ 0 ∧ config.max_sends ≤ metrics.length
  · have hnot : ¬ (true = true ∧ (config.max_sends = 0 ∨ metrics.length < config.max_sends)) := by
      rintro ⟨-, hroom⟩
      omega
    rw [if_pos hfull, if_neg hnot, List.append_nil]
  · have hroom : true = true ∧ (config.max_sends = 0 ∨ metrics.length < config.max_sends) := by
      refine ⟨rfl, ?_⟩
      omega
    rw [if_neg hfull, if_pos hroom, List.map_append]
    rfl

/-- The argument for a lazily connected kind, given where its slot is in the set. -/
theorem slot_advances {C M A : Type} {kind : Kind} {slot : Slot C M} {binding : ResourceBinding}
    {act : M → String} {connect : C → Except EgressError Unit} {args : Except EgressError A}
    {operate : C → A → List M → Except EgressError String × List M} {set' : BackendSet}
    (hoperate : ∀ a metrics, Meter.connected ((operate slot.config a metrics).2.map act)
      = Meter.record (cap binding) (metrics.map act) ⟨true, true, action⟩)
    (hattempt : attempt serde world binding action payload_json
      = ⟨(connect slot.config).isOk, args.isOk, action⟩)
    (hmeter : set.meter kind = some (slot.meter act))
    (hmeter' : set'.meter kind = some ((slot.call connect args operate).2.meter act)) :
    set'.meter kind = (set.meter kind).map fun m =>
      m.call (cap binding) (attempt serde world binding action payload_json) := by
  have h := slot_call_meter slot connect args operate action hoperate
  rw [hmeter', hmeter, Option.map_some, hattempt, h]

/-- The other kinds' slots are where they were. -/
theorem advances_of {kind : Kind} {set' : BackendSet}
    (hothers : ∀ k, k ≠ kind → set'.slot k = set.slot k ∧ set'.meter k = set.meter k)
    (hslot : set'.slot kind = set.slot kind)
    (hown : ∀ binding, set.slot kind = some binding →
      set'.meter kind = (set.meter kind).map fun m =>
        m.call (cap binding) (attempt serde world binding action payload_json)) :
    Advances serde world set kind action payload_json set' := by
  intro k
  by_cases hk : k = kind
  · subst hk
    refine ⟨hslot, ?_⟩
    intro binding hbinding
    rw [if_pos rfl]
    exact hown binding hbinding
  · obtain ⟨hsame, hmeter⟩ := hothers k hk
    refine ⟨hsame, ?_⟩
    intro binding _
    rw [if_neg hk]
    exact hmeter

/-- An unconfigured kind is turned away without a trace. -/
theorem advances_unconfigured {kind : Kind} (h : set.slot kind = none) :
    Advances serde world set kind action payload_json set := by
  refine advances_of (fun _ _ => ⟨rfl, rfl⟩) rfl ?_
  intro binding hbinding
  rw [h] at hbinding
  cases hbinding

/-- A lazily connected kind advances, given where its slot is in the set before and after. -/
theorem advances_slot {C M A : Type} {kind : Kind} {slot : Slot C M} {binding : ResourceBinding}
    {act : M → String} {connect : C → Except EgressError Unit} {args : Except EgressError A}
    {operate : C → A → List M → Except EgressError String × List M} {set' : BackendSet}
    (hothers : ∀ k, k ≠ kind → set'.slot k = set.slot k ∧ set'.meter k = set.meter k)
    (hslot : set.slot kind = some binding) (hslot' : set'.slot kind = some binding)
    (hmeter : set.meter kind = some (slot.meter act))
    (hmeter' : set'.meter kind = some ((slot.call connect args operate).2.meter act))
    (hattempt : attempt serde world binding action payload_json
      = ⟨(connect slot.config).isOk, args.isOk, action⟩)
    (hoperate : ∀ a metrics, Meter.connected ((operate slot.config a metrics).2.map act)
      = Meter.record (cap binding) (metrics.map act) ⟨true, true, action⟩) :
    Advances serde world set kind action payload_json set' := by
  refine advances_of hothers (hslot'.trans hslot.symm) ?_
  intro binding' hbinding
  rw [hslot, Option.some.injEq] at hbinding
  rw [← hbinding]
  exact slot_advances hoperate hattempt hmeter hmeter'

/-- A call of the database moves its own meter on by this attempt, and no other. -/
theorem call_db_advances :
    Advances serde world set .db action payload_json
      (call_db serde world set action payload_json).2 := by
  rw [call_db]
  cases hslot : set.db with
  | none => exact advances_unconfigured (by rw [BackendSet.slot, hslot]; rfl)
  | some slot =>
      refine advances_slot ?_ (by rw [BackendSet.slot, hslot]; rfl) ?_
        (by rw [BackendSet.meter, hslot]; rfl) rfl rfl (fun args => db_call_records args.1 args.2)
      · intro k hk
        cases k <;> first | exact absurd rfl hk | exact ⟨rfl, rfl⟩
      · rw [BackendSet.slot, Option.map_some, slot_call_config]

/-- The same for `mongo`. -/
theorem call_mongo_advances :
    Advances serde world set .mongo action payload_json
      (call_mongo serde world set action payload_json).2 := by
  rw [call_mongo]
  cases hslot : set.mongo with
  | none => exact advances_unconfigured (by rw [BackendSet.slot, hslot]; rfl)
  | some slot =>
      refine advances_slot ?_ (by rw [BackendSet.slot, hslot]; rfl) ?_
        (by rw [BackendSet.meter, hslot]; rfl) rfl rfl (fun args => mongo_call_records args.1 args.2)
      · intro k hk
        cases k <;> first | exact absurd rfl hk | exact ⟨rfl, rfl⟩
      · rw [BackendSet.slot, Option.map_some, slot_call_config]

/-- The same for `mail`. -/
theorem call_mail_advances :
    Advances serde world set .mail action payload_json
      (call_mail world set action payload_json).2 := by
  rw [call_mail]
  cases hslot : set.mail with
  | none => exact advances_unconfigured (by rw [BackendSet.slot, hslot]; rfl)
  | some slot =>
      refine advances_slot ?_ (by rw [BackendSet.slot, hslot]; rfl) ?_
        (by rw [BackendSet.meter, hslot]; rfl) rfl rfl (mail_call_records slot.config)
      · intro k hk
        cases k <;> first | exact absurd rfl hk | exact ⟨rfl, rfl⟩
      · rw [BackendSet.slot, Option.map_some, slot_call_config]

/-- The same for `redis`. -/
theorem call_redis_advances :
    Advances serde world set .redis action payload_json
      (call_redis serde world set action payload_json).2 := by
  rw [call_redis]
  cases hslot : set.redis with
  | none => exact advances_unconfigured (by rw [BackendSet.slot, hslot]; rfl)
  | some slot =>
      refine advances_slot ?_ (by rw [BackendSet.slot, hslot]; rfl) ?_
        (by rw [BackendSet.meter, hslot]; rfl) rfl rfl redis_call_records
      · intro k hk
        cases k <;> first | exact absurd rfl hk | exact ⟨rfl, rfl⟩
      · rw [BackendSet.slot, Option.map_some, slot_call_config]

/-- The same for `auth`. -/
theorem call_auth_advances :
    Advances serde world set .auth action payload_json
      (call_auth serde world set action payload_json).2 := by
  rw [call_auth]
  cases hslot : set.auth with
  | none => exact advances_unconfigured (by rw [BackendSet.slot, hslot]; rfl)
  | some slot =>
      refine advances_slot ?_ (by rw [BackendSet.slot, hslot]; rfl) ?_
        (by rw [BackendSet.meter, hslot]; rfl) rfl rfl (auth_call_records slot.config)
      · intro k hk
        cases k <;> first | exact absurd rfl hk | exact ⟨rfl, rfl⟩
      · rw [BackendSet.slot, Option.map_some, slot_call_config]

/-- The same for `amq`, which has no cell: its meter is in the producer. -/
theorem call_amq_advances :
    Advances serde world set .amq action payload_json
      (call_amq world set action payload_json).2 := by
  rw [call_amq]
  cases hslot : set.amq with
  | none => exact advances_unconfigured (by rw [BackendSet.slot, hslot]; rfl)
  | some producer =>
      refine advances_of ?_ ?_ ?_
      · intro k hk
        cases k <;> first | exact absurd rfl hk | exact ⟨rfl, rfl⟩
      · rw [BackendSet.slot, BackendSet.slot, hslot]
        rfl
      · intro binding hbinding
        rw [BackendSet.slot, hslot, Option.map_some, Option.some.injEq] at hbinding
        rw [← hbinding, BackendSet.meter, BackendSet.meter, hslot, Option.map_some,
          Option.map_some, Option.map_some, amq_call_records]
        rfl

/-- A call by any name, seen from one kind: the call to this kind is one turn of its meter, a call
to another leaves it alone, and the configuration stays in any case. -/
theorem call_meter (name : String) (k : Kind) :
    (call serde world set name action payload_json).2.slot k = set.slot k
      ∧ ∀ binding, set.slot k = some binding →
        (call serde world set name action payload_json).2.meter k = if name = k.as_str
          then (set.meter k).map fun m =>
            m.call (cap binding) (attempt serde world binding action payload_json)
          else set.meter k := by
  -- the six arms differ in their kind alone
  have hnamed : ∀ kind set', name = kind.as_str →
      Advances serde world set kind action payload_json set' →
      set'.slot k = set.slot k ∧ ∀ binding, set.slot k = some binding →
        set'.meter k = if name = k.as_str
          then (set.meter k).map fun m =>
            m.call (cap binding) (attempt serde world binding action payload_json)
          else set.meter k := by
    intro kind set' hname h
    obtain ⟨hsame, hmeter⟩ := h k
    have hiff : k = kind ↔ name = k.as_str := by
      rw [hname]
      cases k <;> cases kind <;> simp [Kind.as_str]
    refine ⟨hsame, ?_⟩
    intro binding hbinding
    rw [hmeter binding hbinding]
    simp only [hiff]
  unfold call
  split
  · exact hnamed .db _ rfl call_db_advances
  · exact hnamed .mongo _ rfl call_mongo_advances
  · exact hnamed .mail _ rfl call_mail_advances
  · exact hnamed .redis _ rfl call_redis_advances
  · exact hnamed .amq _ rfl call_amq_advances
  · exact hnamed .auth _ rfl call_auth_advances
  -- a name of no kind touches no slot
  · rename_i hdb hmongo hmail hredis hamq hauth
    have hother : ¬ name = k.as_str := by
      intro hname
      cases k with
      | db => exact hdb hname
      | mongo => exact hmongo hname
      | mail => exact hmail hname
      | redis => exact hredis hname
      | amq => exact hamq hname
      | auth => exact hauth hname
    refine ⟨rfl, ?_⟩
    intro binding _
    rw [if_neg hother]

end Kinds

/-! ## 7. Sequences of calls and reads -/

/-- The action of a call to a kind. -/
def Event.action_to (kind : Kind) : Event → Option String
  | .call _ name action _ => if name = kind.as_str then some action else none
  | .metrics => none

/-- The actions called on a kind, in call order. -/
def calls_to (kind : Kind) (events : List Event) : List String :=
  events.filterMap (Event.action_to kind)

def Event.attempt_at (serde : Serde) (binding : ResourceBinding) : Event → Option Attempt
  | .call world name action payload_json =>
    if name = binding.kind.as_str then some (attempt serde world binding action payload_json)
    else none
  | .metrics => none

/-- What the calls to a configured kind bring to it, in call order. -/
def attempts (serde : Serde) (binding : ResourceBinding) (events : List Event) : List Attempt :=
  events.filterMap (Event.attempt_at serde binding)

/-- The actions of the entries reported for a kind. -/
def actions (metrics : BackendMetrics) : Kind → List String
  | .db => metrics.db.map DbMetric.action
  | .mongo => metrics.mongo.map MongoMetric.action
  | .mail => metrics.mail.map MailMetric.action
  | .redis => metrics.redis.map RedisMetric.action
  | .amq => metrics.amq.map AmqMetric.action
  | .auth => metrics.auth.map AuthMetric.action

section Sequences

variable {serde : Serde} {set : BackendSet} {binding : ResourceBinding} {events : List Event}

/-- A slot has a binding of its own kind. -/
theorem slot_kind {k : Kind} (h : set.slot k = some binding) : binding.kind = k := by
  cases k <;>
    (obtain ⟨slot, -, hslot⟩ := Option.map_eq_some_iff.mp h
     rw [← hslot]
     rfl)

/-- The configurations are those of the start after any events. -/
theorem after_slot (k : Kind) : (set.after serde events).slot k = set.slot k := by
  induction events generalizing set with
  | nil => rfl
  | cons e events ih =>
      have hrest : (set.after serde (e :: events)).slot k = (set.step serde e).slot k := ih
      rw [hrest]
      cases e with
      | call world name action payload_json => exact (call_meter name k).1
      | metrics => rfl

/-- A kind's meter has seen the calls to the kind, and nothing else. By induction along the
events, with `call_meter` for each of them. -/
theorem after_meter {k : Kind} (h : set.slot k = some binding) :
    (set.after serde events).meter k
      = (set.meter k).map fun m => (attempts serde binding events).foldl (Meter.call (cap binding)) m := by
  induction events generalizing set with
  | nil => exact Option.map_id'.symm
  | cons e events ih =>
      have hkind := slot_kind h
      cases e with
      | metrics => exact ih h
      | call world name action payload_json =>
          obtain ⟨hslot, hmeter⟩ := @call_meter serde world set action payload_json name k
          have hrest := ih (hslot.trans h)
          have hstep : set.after serde (.call world name action payload_json :: events)
              = ((call serde world set name action payload_json).2).after serde events := rfl
          rw [hstep, hrest, hmeter binding h]
          by_cases hname : name = k.as_str
          · have hown : Event.attempt_at serde binding (.call world name action payload_json)
                = some (attempt serde world binding action payload_json) := by
              rw [Event.attempt_at, hkind, if_pos hname]
            rw [if_pos hname, Option.map_map, attempts, attempts, List.filterMap_cons_some hown]
            rfl
          · have hother : Event.attempt_at serde binding (.call world name action payload_json)
                = none := by
              rw [Event.attempt_at, hkind, if_neg hname]
            rw [if_neg hname, attempts, attempts, List.filterMap_cons_none hother]

/-- What is reported is what the meters say. A kind without a slot, or without a connection, has
nothing to report. -/
theorem metrics_actions (k : Kind) :
    actions set.metrics k = ((set.meter k).map Meter.actions).getD [] := by
  have hslot : ∀ {C M : Type} (act : M → String) (slot : Option (Slot C M)),
      (Slot.drain_metrics slot).map act
        = ((slot.map (Slot.meter act)).map Meter.actions).getD [] := by
    intro C M act slot
    cases slot with
    | none => rfl
    | some slot =>
        obtain ⟨config, backend⟩ := slot
        cases backend with
        | none => rfl
        | some cell =>
            cases cell with
            | error err => rfl
            | ok metrics => rfl
  cases k with
  | db => exact hslot _ _
  | mongo => exact hslot _ _
  | mail => exact hslot _ _
  | redis => exact hslot _ _
  | auth => exact hslot _ _
  | amq =>
      -- the producer has no cell: it is there from the start
      rw [actions, BackendSet.metrics, BackendSet.meter]
      cases set.amq with
      | none => rfl
      | some producer => rfl

/-- Where there is no slot there is no meter. -/
theorem meter_eq_none {k : Kind} (h : set.slot k = none) : set.meter k = none := by
  cases k <;> exact Option.map_eq_none_iff.mpr (Option.map_eq_none_iff.mp h)

/-- They are the ones the set was made from. -/
theorem from_configs_slot (configs : Backends.BackendSet) (k : Kind) :
    (BackendSet.from_configs configs).slot k = configs.slot k := by
  obtain ⟨db, mongo, mail, redis, auth, amq⟩ := configs
  cases k with
  | db => cases db <;> rfl
  | mongo => cases mongo <;> rfl
  | mail => cases mail <;> rfl
  | redis => cases redis <;> rfl
  | amq => cases amq <;> rfl
  | auth => cases auth <;> rfl

/-- A kind starts unconnected, or has nothing to connect. -/
theorem from_configs_meter (configs : Backends.BackendSet) (k : Kind) :
    (BackendSet.from_configs configs).meter k
      = (configs.slot k).map fun _ => if k = .amq then Meter.connected [] else .idle := by
  obtain ⟨db, mongo, mail, redis, auth, amq⟩ := configs
  cases k with
  | db => cases db <;> rfl
  | mongo => cases mongo <;> rfl
  | mail => cases mail <;> rfl
  | redis => cases redis <;> rfl
  | amq => cases amq <;> rfl
  | auth => cases auth <;> rfl

/-- The attempts on a backend are the calls to it. -/
theorem attempts_action : (attempts serde binding events).map Attempt.action
    = calls_to binding.kind events := by
  rw [attempts, calls_to, List.map_filterMap]
  congr 1
  funext e
  cases e with
  | call world name action payload_json =>
      rw [Event.attempt_at, Event.action_to]
      split <;> rfl
  | metrics => rfl

/-- `amq` connects with every attempt. -/
theorem attempts_amq {config : AmqConfig} :
    ∀ a ∈ attempts serde (.amq config) events, a.connects = true := by
  intro a ha
  obtain ⟨e, -, he⟩ := List.mem_filterMap.mp ha
  cases e with
  | call world name action payload_json =>
      rw [Event.attempt_at] at he
      split at he
      · rw [← Option.some.inj he]
        rfl
      · cases he
  | metrics => cases he

end Sequences

/-- One entry a call. -/
structure OneToOne (serde : Serde) (configs : Backends.BackendSet) (events : List Event) : Prop where
  /-- In call order, with the call's action; nothing for a kind that is not configured. -/
  entries : ∀ k, actions ((BackendSet.from_configs configs).after serde events).metrics k
    = if (configs.slot k).isSome then calls_to k events else []
  /-- Reading the metrics changes nothing. -/
  reads : ∀ before rest, events = before ++ Event.metrics :: rest →
    ((BackendSet.from_configs configs).after serde events).metrics
      = ((BackendSet.from_configs configs).after serde (before ++ rest)).metrics

/-- Every call to a configured kind gets as far as its operation: the first one connects,
the payloads unpack, and there are no more sends than mail allows. -/
def AllReach (serde : Serde) (configs : Backends.BackendSet) (events : List Event) : Prop :=
  ∀ k binding, configs.slot k = some binding →
    (∀ a ∈ (attempts serde binding events).head?, a.connects = true)
      ∧ (∀ a ∈ attempts serde binding events, a.unpacks = true)
      ∧ (cap binding = 0 ∨ (attempts serde binding events).length ≤ cap binding)

/-- What is reported for a configured kind is one entry a call iff its calls get that far: the
first of them connects the slot, all of them unpack, and the cap is not reached. -/
theorem slot_entries {serde : Serde} {configs : Backends.BackendSet} {events : List Event}
    {k : Kind} {binding : ResourceBinding} (hslot : configs.slot k = some binding) :
    actions ((BackendSet.from_configs configs).after serde events).metrics k = calls_to k events
      ↔ (∀ a ∈ (attempts serde binding events).head?, a.connects = true)
        ∧ (∀ a ∈ attempts serde binding events, a.unpacks = true)
        ∧ (cap binding = 0 ∨ (attempts serde binding events).length ≤ cap binding) := by
  have hslot' : (BackendSet.from_configs configs).slot k = some binding := by
    rw [from_configs_slot, hslot]
  have hkind := slot_kind hslot'
  rw [metrics_actions, after_meter hslot', from_configs_meter, hslot, Option.map_some,
    Option.map_some, Option.map_some, Option.getD_some, ← hkind, ← attempts_action]
  by_cases hamq : binding.kind = .amq
  -- nothing to connect
  · rw [if_pos hamq]
    have hall : ((attempts serde binding events).foldl (Meter.call (cap binding))
        (.connected [])).actions = [] ++ (attempts serde binding events).map Attempt.action ↔ _ :=
      connected_records [] (Or.inr (Nat.zero_le (cap binding)))
    rw [List.nil_append, List.length_nil, Nat.zero_add] at hall
    rw [hall]
    refine (and_iff_right ?_).symm
    intro a ha
    cases binding with
    | amq config => exact attempts_amq a (List.mem_of_head? ha)
    | db _ | mongo _ | mail _ | redis _ | auth _ => cases hamq
  · rw [if_neg hamq]
    exact idle_records

/-- **Metering.** The metrics of a set are one entry a call exactly when every call to a
configured kind gets as far as its backend's operation. -/
theorem metered_one_to_one (serde : Serde) (configs : Backends.BackendSet) (events : List Event) :
    OneToOne serde configs events ↔ AllReach serde configs events := by
  constructor
  · intro h k binding hslot
    have hentries := h.entries k
    rw [hslot, Option.isSome_some, if_pos rfl] at hentries
    exact (slot_entries hslot).mp hentries
  · intro h
    constructor
    · intro k
      cases hslot : configs.slot k with
      | none =>
          -- not configured, now or later: nothing is reported
          have hnone : ((BackendSet.from_configs configs).after serde events).slot k = none := by
            rw [after_slot, from_configs_slot, hslot]
          rw [metrics_actions, meter_eq_none hnone]
          rfl
      | some binding =>
          rw [Option.isSome_some, if_pos rfl]
          exact (slot_entries hslot).mpr (h k binding hslot)
    · intro before rest hevents
      rw [hevents, BackendSet.after, List.foldl_append, BackendSet.after, List.foldl_append]
      rfl

/-- The library on the payload of the run below. -/
def select_serde : Serde where
  db_payload payload :=
    if payload = "\x7b\"sql\":\"SELECT 1\"\x7d" then .ok ("SELECT 1", .null)
    else .error "expected value at line 1 column 1"
  mongo_envelope _ := .error "expected value at line 1 column 1"
  auth_payload _ := .error "expected value at line 1 column 1"
  from_str _ := .error "expected value at line 1 column 1"
  to_string _ := .ok "null"

/-- A database that refuses connections. -/
def refused : World where
  connect_resource _ := .error ⟨"DB_CONNECTION", "connection refused", "db", none, true, .operator⟩
  db _ _ _ := .ok "null"
  mongo _ _ _ := .error ⟨"MONGO_ERROR", "", "mongo", none, true, .operator⟩
  mail _ _ := .error ⟨"MAIL_ERROR", "", "mail", none, true, .operator⟩
  redis _ _ := .ok "null"
  amq _ _ := .error ⟨"AMQ_ERROR", "", "amq", none, true, .operator⟩
  auth _ _ := .error ⟨"AUTH_UNAVAILABLE", "", "auth", none, true, .operator⟩
  host_str _ := none
  duration_us := 7

/-- One query against it: an operation that failed, and no entry. -/
theorem refused_query_unmetered :
    ¬ OneToOne select_serde
      { db := some ⟨"localhost", 5432, "app", "secret", "app", false, 5000, 1000⟩ }
      [.call refused "db" "query" "\x7b\"sql\":\"SELECT 1\"\x7d"] := by
  intro h
  have hentries := h.entries .db
  have hreported : ([] : List String) = ["query"] := hentries
  cases hreported

/-! ## 8. The answers are those of `Backends` -/

/-- The drivers as the set's cells leave them: a cell that is filled has its answer. -/
def connected {C M : Type} (slot : Option (Slot C M)) (fresh : Except EgressError Unit) :
    Except EgressError Unit :=
  match slot with
  | some ⟨_, some cell⟩ => cell.map fun _ => ()
  | _ => fresh

/-- `Backends.Drivers` of a live set. -/
def BackendSet.drivers (serde : Serde) (world : World) (set : BackendSet) : Backends.Drivers where
  connect_resource binding :=
    match binding with
    | .db _ => connected set.db (world.connect_resource binding)
    | .mongo _ => connected set.mongo (world.connect_resource binding)
    | .mail _ => connected set.mail (world.connect_resource binding)
    | .redis _ => connected set.redis (world.connect_resource binding)
    | .auth _ => connected set.auth (world.connect_resource binding)
    | .amq _ => .ok ()
  unpack kind payload :=
    match kind with
    | .db => (parse_db_payload serde payload).map fun _ => payload
    | .mongo => (parse_mongo_payload serde payload).map fun _ => payload
    | .auth => (parse_auth_token serde payload).map fun _ => payload
    | .mail | .redis | .amq => .ok payload
  call binding action payload :=
    match binding with
    | .db _ => (parse_db_payload serde payload).bind fun args =>
        (db_call serde world action args.1 args.2 (Slot.drain_metrics set.db)).1
    | .mongo _ => (parse_mongo_payload serde payload).bind fun args =>
        (mongo_call world action args.1 args.2 (Slot.drain_metrics set.mongo)).1
    | .mail config => (mail_call world config action payload (Slot.drain_metrics set.mail)).1
    | .redis _ => (redis_call serde world action payload (Slot.drain_metrics set.redis)).1
    | .amq _ => (amq_call world action payload ((set.amq.map AmqProducer.metrics).getD [])).1
    | .auth config => (parse_auth_token serde payload).bind fun token =>
        (auth_call world config action token (Slot.drain_metrics set.auth)).1

/-- The slots by their configurations. -/
def BackendSet.configs (set : BackendSet) : Backends.BackendSet where
  db := set.db.map Slot.config
  mongo := set.mongo.map Slot.config
  mail := set.mail.map Slot.config
  redis := set.redis.map Slot.config
  auth := set.auth.map Slot.config
  amq := set.amq.map AmqProducer.config

/-- What a live slot answers is what `Backends.call_slot` answers with its cell's answer for
the connect. -/
theorem slot_call_answer {C M A : Type} {slot : Slot C M} {held : Option (Slot C M)}
    (hheld : held = some slot) {connect : C → Except EgressError Unit}
    {args : Except EgressError A} {operate : C → A → List M → Except EgressError String × List M}
    {drivers : Backends.Drivers} {name action payload : String} {binding : ResourceBinding}
    {connect' : ResourceBinding → Except EgressError Unit}
    {unpack : String → Except EgressError String}
    (hconnect : connect' binding = connected held (connect slot.config))
    (hunpack : unpack payload = args.map fun _ => payload)
    (hcall : drivers.call binding action payload
      = args.bind fun a => (operate slot.config a (Slot.drain_metrics held)).1) :
    (slot.call connect args operate).1
      = (Backends.call_slot drivers name (some binding) connect' unpack action payload).result := by
  have hresult : (Backends.call_slot drivers name (some binding) connect' unpack action payload).result
      = (connect' binding).bind fun _ => (unpack payload).bind fun a =>
          drivers.call binding action a := by
    rw [Backends.call_slot]
    cases connect' binding with
    | error err => rfl
    | ok u =>
        cases unpack payload with
        | error err => rfl
        | ok a => rfl
  rw [hresult, hconnect, hunpack]
  subst hheld
  obtain ⟨config, backend⟩ := slot
  cases backend with
  | none =>
      -- the first call connects, and is answered by that
      have hfresh : connected (some (⟨config, none⟩ : Slot C M)) (connect config)
          = connect config := rfl
      dsimp only
      rw [hfresh, Slot.call, Slot.get_or_init]
      dsimp only
      cases connect config with
      | error err => rfl
      | ok u =>
          cases args with
          | error err => rfl
          | ok a => exact hcall.symm
  | some cell =>
      cases cell with
      | error err => rfl
      | ok metrics =>
          cases args with
          | error err => rfl
          | ok a => exact hcall.symm

/-- A name of no kind is refused. -/
theorem backends_call_other {drivers : Backends.Drivers} {set : Backends.BackendSet}
    {name action payload : String} (h : ∀ kind : Kind, name ≠ kind.as_str) :
    Backends.call drivers set name action payload
      = Effects.leave { EgressError.new "engine" "IO_UNKNOWN" ("unknown egress '" ++ name ++ "'")
          with owner := .developer } := by
  unfold Backends.call
  split
  · exact absurd rfl (h .db)
  · exact absurd rfl (h .mongo)
  · exact absurd rfl (h .mail)
  · exact absurd rfl (h .redis)
  · exact absurd rfl (h .amq)
  · exact absurd rfl (h .auth)
  · rfl

/-- The live set answers as the set of `Backends` does: what a slot keeps between two calls, its
connection and its meter, has no part in the answer. -/
theorem call_answer (serde : Serde) (world : World) (set : BackendSet)
    (name action payload_json : String) :
    (call serde world set name action payload_json).1
      = (Backends.call (set.drivers serde world) set.configs name action payload_json).result := by
  unfold call
  split
  · rw [call_db, Backends.call, Backends.call_db]
    have hslot : set.configs.slot .db = set.db.map fun slot => .db slot.config :=
      Option.map_map ..
    rw [hslot]
    cases hdb : set.db with
    | none => rfl
    | some slot => exact slot_call_answer hdb rfl rfl rfl
  · rw [call_mongo, Backends.call, Backends.call_mongo]
    have hslot : set.configs.slot .mongo = set.mongo.map fun slot => .mongo slot.config :=
      Option.map_map ..
    rw [hslot]
    cases hmongo : set.mongo with
    | none => rfl
    | some slot => exact slot_call_answer hmongo rfl rfl rfl
  · rw [call_mail, Backends.call, Backends.call_mail]
    have hslot : set.configs.slot .mail = set.mail.map fun slot => .mail slot.config :=
      Option.map_map ..
    rw [hslot]
    cases hmail : set.mail with
    | none => rfl
    | some slot => exact slot_call_answer hmail rfl rfl rfl
  · rw [call_redis, Backends.call, Backends.call_redis]
    have hslot : set.configs.slot .redis = set.redis.map fun slot => .redis slot.config :=
      Option.map_map ..
    rw [hslot]
    cases hredis : set.redis with
    | none => rfl
    | some slot => exact slot_call_answer hredis rfl rfl rfl
  -- no cell here either, so the lemma about slots does not apply
  · rw [call_amq, Backends.call, Backends.call_amq]
    have hslot : set.configs.slot .amq = set.amq.map fun producer => .amq producer.config :=
      Option.map_map ..
    have hmetrics : ∀ producer, set.amq = some producer →
        (set.amq.map AmqProducer.metrics).getD [] = producer.metrics := by
      intro producer h
      rw [h]
      rfl
    rw [hslot]
    cases hamq : set.amq with
    | none => rfl
    | some producer =>
        exact congrArg (fun m => (amq_call world action payload_json m).1) (hmetrics producer hamq).symm
  · rw [call_auth, Backends.call, Backends.call_auth]
    have hslot : set.configs.slot .auth = set.auth.map fun slot => .auth slot.config :=
      Option.map_map ..
    rw [hslot]
    cases hauth : set.auth with
    | none => rfl
    | some slot => exact slot_call_answer hauth rfl rfl rfl
  · rename_i hdb hmongo hmail hredis hamq hauth
    have hother : ∀ kind : Kind, name ≠ kind.as_str := by
      intro kind
      cases kind with
      | db => exact hdb
      | mongo => exact hmongo
      | mail => exact hmail
      | redis => exact hredis
      | amq => exact hamq
      | auth => exact hauth
    rw [backends_call_other hother]
    rfl

end Runlet.Metering
