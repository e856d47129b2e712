/-
The producer: `crates/fabric-backends/src/amq.rs`.

A `send` opens one connection for its batch, publishes the messages one after the other and
leaves at the first that fails. The two clients are behind one shape, `deliver`; what a
client answers is a parameter of the call, and what it is asked is the trace. An `Ok` to a
publish means that the client has queued the message; only the flush of NATS says that it
got out.

`producer_runs` says what the client has been handed when a `send` returns, and when it fails.
-/
import Runlet.Lib.Count
import Runlet.Lib.Effects
import Runlet.Lib.Text
import Runlet.Metering

set_option autoImplicit false

namespace Runlet.Amq

open Runlet.Json Runlet.Wire Runlet.Resources Count Effects
open Runlet.Metering (AmqOutcome)

/-! ## 1. Errors and payloads -/

def AMQ_FALLBACK : Fault := ⟨"AMQ_ERROR", true, .operator⟩
def AMQ_CONNECTION : Fault := ⟨"AMQ_CONNECTION", true, .operator⟩
def AMQ_BATCH : Fault := ⟨"AMQ_BATCH_TOO_LARGE", false, .developer⟩
def AMQ_TIMEOUT : Fault := ⟨"AMQ_TIMEOUT", true, .operator⟩
def AMQ_UNSUPPORTED : Fault := ⟨"AMQ_UNSUPPORTED", false, .developer⟩

structure AmqError where
  fault : Fault
  message : String
  deriving DecidableEq, Repr

def AmqError.fallback (message : String) : AmqError := ⟨AMQ_FALLBACK, message⟩
def AmqError.connection (message : String) : AmqError := ⟨AMQ_CONNECTION, message⟩
def AmqError.unsupported (message : String) : AmqError := ⟨AMQ_UNSUPPORTED, message⟩

def AmqError.into_resource_error (error : AmqError) : EgressError where
  code := error.fault.code
  message := error.message
  source := "amq"
  details := none
  retryable := error.fault.retryable
  owner := error.fault.owner

/-- One message; the payload is the text of a JSON value. -/
structure AmqMessage where
  key : String
  payload : String
  deriving DecidableEq, Repr

structure RequestPayload where
  subject : String
  payload : String
  deriving DecidableEq, Repr

/-- `serde_json` and the standard library, as far as the module uses them. -/
structure AmqLib where
  /-- `SendPayload`: its messages, none when the field is absent. -/
  send_payload : String → Except String (List AmqMessage)
  request_payload : String → Except String RequestPayload
  from_str : String → Except String Value
  /-- A `Value` as it is displayed. -/
  to_text : Value → String
  from_utf8_lossy : List UInt8 → String
  to_lowercase : String → String

/-- What the client answers during one call, for itself or for the broker behind it. -/
structure Client where
  runtime : Except String Unit
  tls : Except String Unit
  connect : Except String Unit
  channel : Except String Unit
  /-- Whether it queues the `i`-th message of the call. -/
  publish : ℕ → Except String Unit
  /-- Whether what is queued gets out. -/
  flush : Except String Unit
  request : Except String (List UInt8)

/-- Whom the producer connects to, and as whom. -/
structure Endpoint where
  host : String
  port : UInt16
  vhost : Option String
  user : Option (String × String)
  token : Option String
  tls : Bool
  ca_cert : Option String
  deriving DecidableEq, Repr

inductive Effect
  | connect (endpoint : Endpoint)
  | open_channel
  | publish (exchange : Option String) (key : String) (content : List UInt8)
  | flush
  | request (subject : String) (content : List UInt8)
  | close_channel
  | close_connection
  deriving DecidableEq, Repr

/-- `AmqConfig::resolved_port`. -/
def resolved_port (config : AmqConfig) : UInt16 :=
  config.port.getD (match config.backend with
    | .rabbitmq => 5672
    | .nats => 4222)

/-! ## 2. A batch -/

section Producer

variable (lib : AmqLib) (config : AmqConfig) (client : Client)

/-- The loop over the messages, from the `i`-th on, with the bytes so far. -/
def publish_each (exchange : Option String) (failed : String → AmqError) :
    (i total : ℕ) → List AmqMessage → Eff Effect AmqError ℕ
  | _, total, [] => pure total
  | i, total, message :: messages => do
    let content := Text.utf8 message.payload
    perform (.publish exchange message.key content)
    lift ((client.publish i).mapError failed)
    publish_each exchange failed (i + 1) (saturating_add 64 total content.length) messages

/-- Open, publish every message, close. -/
def deliver (opening closing : Eff Effect AmqError Unit) (exchange : Option String)
    (failed : String → AmqError) (messages : List AmqMessage) : Eff Effect AmqError ℕ := do
  opening
  let total ← publish_each client exchange failed 0 0 messages
  closing
  return total

/-- The TLS adaptor is made where the configuration asks for it, before anything is sent. -/
def setup_tls : Eff Effect AmqError Unit :=
  if config.tls then
    lift (client.tls.mapError fun err => .connection s!"amq tls setup failed: {err}")
  else pure ()

def rabbitmq_open : Eff Effect AmqError Unit := do
  setup_tls config client
  perform (.connect
    { host := config.host
      port := resolved_port config
      vhost := some config.vhost
      user := some (config.username.getD "guest", config.password.getD "guest")
      token := none
      tls := config.tls
      ca_cert := if config.tls then config.ca_cert else none })
  lift (client.connect.mapError fun err => .connection s!"amq connect failed: {err}")
  perform .open_channel
  lift (client.channel.mapError fun err => .connection s!"amq channel failed: {err}")

def rabbitmq_close : Eff Effect AmqError Unit := do
  perform .close_channel
  perform .close_connection

/-- `publish_batch`. -/
def publish_batch (messages : List AmqMessage) : Eff Effect AmqError ℕ :=
  deliver client (rabbitmq_open config client) rabbitmq_close (some config.exchange)
    (fun err => .fallback s!"amq publish failed: {err}") messages

/-- `nats_connect`: a user goes before a token. -/
def nats_connect : Eff Effect AmqError Unit := do
  perform (.connect
    { host := config.host
      port := resolved_port config
      vhost := none
      user := config.username.map fun username => (username, config.password.getD "")
      token := if config.username.isSome then none else config.token
      tls := config.tls
      ca_cert := if config.tls then config.ca_cert else none })
  lift (client.connect.mapError fun err => .connection s!"nats connect failed: {err}")

def nats_flush : Eff Effect AmqError Unit := do
  perform .flush
  lift (client.flush.mapError fun err => .fallback s!"nats flush failed: {err}")

/-- `nats_publish`. -/
def nats_publish (messages : List AmqMessage) : Eff Effect AmqError ℕ :=
  deliver client (nats_connect config client) (nats_flush client) none
    (fun err => .fallback s!"nats publish failed: {err}") messages

/-- The runtime and the client of the configured backend. -/
def publish_to (messages : List AmqMessage) : Eff Effect AmqError ℕ :=
  match config.backend with
  | .rabbitmq => publish_batch config client messages
  | .nats => nats_publish config client messages

def build_runtime : Eff Effect AmqError Unit :=
  lift (client.runtime.mapError fun err => .fallback s!"failed to build runtime: {err}")

/-- The batch is refused when it is empty or larger than `max_batch`. -/
def check_batch (count : ℕ) : Except AmqError Unit :=
  if count = 0 then .error (.fallback "amq.send requires at least one message")
  else if config.max_batch < count then
    .error ⟨AMQ_BATCH, s!"batch too large: {count} (max {config.max_batch})"⟩
  else .ok ()

def do_send (payload_json : String) : Eff Effect AmqError AmqOutcome := do
  let messages ← lift ((lib.send_payload payload_json).mapError fun err =>
    AmqError.fallback s!"invalid amq payload: {err}")
  lift (check_batch config messages.length)
  build_runtime client
  let bytes ← publish_to config client messages
  return ⟨"\x7b\"published\":" ++ toString messages.length ++ "\x7d", messages.length, bytes⟩

/-! ## 3. A request -/

/-- Whether a text contains another. -/
def contains (text part : String) : Bool :=
  text.toList.tails.any fun rest => part.toList.isPrefixOf rest

def classify_request_error (message : String) : Fault :=
  let lowered := lib.to_lowercase message
  if contains lowered "no responders" || contains lowered "timed out"
      || contains lowered "timeout" then AMQ_TIMEOUT
  else AMQ_FALLBACK

/-- The reply: its JSON, or else its text as a string. -/
def reply_json (reply : List UInt8) : String :=
  let body_text := lib.from_utf8_lossy reply
  let body := (lib.from_str body_text).toOption.getD (.string body_text)
  lib.to_text (.object [("reply", body)])

def nats_request (subject payload : String) : Eff Effect AmqError (String × ℕ) := do
  nats_connect config client
  perform (.request subject (Text.utf8 payload))
  let reply ← lift (client.request.mapError fun err =>
    ⟨classify_request_error lib err, s!"nats request failed: {err}"⟩)
  return (reply_json lib reply, payload.utf8ByteSize)

def do_request (payload_json : String) : Eff Effect AmqError AmqOutcome :=
  match config.backend with
  | .rabbitmq => leave (.unsupported "amq.request requires the nats backend")
  | .nats => do
    let req ← lift ((lib.request_payload payload_json).mapError fun err =>
      AmqError.fallback s!"invalid amq payload: {err}")
    build_runtime client
    let (json, bytes) ← nats_request lib config client req.subject req.payload
    return ⟨json, 1, bytes⟩

/-- `dispatch`. -/
def dispatch (action payload_json : String) : Eff Effect AmqError AmqOutcome :=
  match action with
  | "send" => do_send lib config client payload_json
  | "request" => do_request lib config client payload_json
  | other => leave (.fallback s!"unknown amq action: {other}")

end Producer

/-! ## 4. What the client is handed -/

/-- A publish, as the client is asked for it. -/
def published : Effect → Option (Option String × String × List UInt8)
  | .publish exchange key content => some (exchange, key, content)
  | .connect _ | .open_channel | .flush | .request _ _ | .close_channel | .close_connection => none

/-- A message, as it is published. -/
def wire (exchange : Option String) (message : AmqMessage) :
    Option String × String × List UInt8 := (exchange, message.key, Text.utf8 message.payload)

/-- The exchange of the configured backend; a subject has none. -/
def exchange_of (config : AmqConfig) : Option String :=
  match config.backend with
  | .rabbitmq => some config.exchange
  | .nats => none

def total_bytes (total : ℕ) (messages : List AmqMessage) : ℕ :=
  messages.foldl
    (fun total message => saturating_add 64 total (Text.utf8 message.payload).length) total

section Batch

variable {client : Client} {exchange : Option String} {failed : String → AmqError}

/-- A publish hands over one message, as it goes out. -/
theorem reading_publish (message : AmqMessage) :
    reading published (perform (.publish exchange message.key (Text.utf8 message.payload))
      : Eff Effect AmqError Unit) = [wire exchange message] := by
  rw [reading_perform]
  rfl

/-- A loop that comes to its end has handed over every message in turn, and each was queued. The
messages are numbered from `i` on. -/
theorem publish_each_ok {messages : List AmqMessage} {i total bytes : ℕ}
    (h : (publish_each client exchange failed i total messages).result = .ok bytes) :
    reading published (publish_each client exchange failed i total messages)
        = messages.map (wire exchange)
      ∧ (∀ j < messages.length, client.publish (i + j) = .ok ())
      ∧ bytes = total_bytes total messages := by
  induction messages generalizing i total with
  | nil =>
      refine ⟨rfl, ?_, ?_⟩
      · intro j hj
        exact absurd hj (Nat.not_lt_zero j)
      · exact (ok_pure.mp h).symm
  | cons message messages ih =>
      simp only [publish_each, ok_bind, ok_lift] at h
      obtain ⟨_, -, _, hanswer, hrest⟩ := h
      obtain ⟨hread, haccepted, hbytes⟩ := ih hrest
      have hok := Result.mapError_eq_ok.mp hanswer
      refine ⟨?_, ?_, hbytes⟩
      · rw [publish_each, reading_bind result_perform, reading_publish,
          reading_bind hanswer, reading_lift, hread]
        rfl
      · intro j hj
        cases j with
        | zero => exact hok
        | succ j =>
            have hnext := haccepted j (Nat.lt_of_succ_lt_succ hj)
            rwa [Nat.add_right_comm, Nat.add_assoc] at hnext

/-- A loop that leaves early stopped at the first message that was not queued, and had handed that
one over as well. -/
theorem publish_each_error {messages : List AmqMessage} {i total : ℕ} {err : AmqError}
    (h : (publish_each client exchange failed i total messages).result = .error err) :
    ∃ k < messages.length, ∃ text,
      reading published (publish_each client exchange failed i total messages)
          = (messages.take (k + 1)).map (wire exchange)
        ∧ (∀ j < k, client.publish (i + j) = .ok ()) ∧ client.publish (i + k) = .error text
        ∧ err = failed text := by
  induction messages generalizing i total with
  | nil => cases h
  | cons message messages ih =>
      rw [publish_each, result_bind result_perform] at h
      cases hanswer : client.publish i with
      | error text =>
          have hleft : (lift ((client.publish i).mapError failed)
              : Eff Effect AmqError Unit).result = .error (failed text) := by
            rw [hanswer]
            rfl
          rw [result_bind_error hleft] at h
          refine ⟨0, Nat.succ_pos _, text, ?_, ?_, hanswer, ?_⟩
          · rw [publish_each, reading_bind result_perform, reading_publish,
              reading_bind_error hleft, reading_lift]
            rfl
          · intro j hj
            exact absurd hj (Nat.not_lt_zero j)
          · cases h
            rfl
      | ok u =>
          have hright : (lift ((client.publish i).mapError failed)
              : Eff Effect AmqError Unit).result = .ok () := by
            rw [hanswer]
            rfl
          rw [result_bind hright] at h
          obtain ⟨k, hk, text, hread, haccepted, hrefused, herr⟩ := ih h
          refine ⟨k + 1, Nat.succ_lt_succ hk, text, ?_, ?_, ?_, herr⟩
          · rw [publish_each, reading_bind result_perform, reading_publish, reading_bind hright,
              reading_lift, hread]
            rfl
          · intro j hj
            cases j with
            | zero => exact hanswer
            | succ j =>
                have hnext := haccepted j (Nat.lt_of_succ_lt_succ hj)
                rwa [Nat.add_right_comm, Nat.add_assoc] at hnext
          · rwa [Nat.add_right_comm, Nat.add_assoc] at hrefused

/-- The first `count` messages are queued. -/
def Queued (client : Client) (count : ℕ) : Prop := ∀ i < count, client.publish i = .ok ()

/-- A loop that starts at the first message queues them in their order. -/
theorem queued_of_loop {count : ℕ} (h : ∀ j < count, client.publish (0 + j) = .ok ()) :
    Queued client count := by
  intro i hi
  have hi' := h i hi
  rwa [Nat.zero_add] at hi'

variable {opening closing : Eff Effect AmqError Unit} {messages : List AmqMessage}

/-- A batch that went through: every message was handed over and queued, and what closes the batch
came behind them. -/
theorem deliver_ok (hopening : reading published opening = [])
    (hclosing : reading published closing = []) {bytes : ℕ}
    (h : (deliver client opening closing exchange failed messages).result = .ok bytes) :
    reading published (deliver client opening closing exchange failed messages)
        = messages.map (wire exchange)
      ∧ Queued client messages.length
      ∧ closing.result = .ok ()
      ∧ closing.effects <:+ (deliver client opening closing exchange failed messages).effects
      ∧ bytes = total_bytes 0 messages := by
  simp only [deliver, ok_bind, ok_pure] at h
  obtain ⟨_, hopen, bytes', heach, _, hclose, rfl⟩ := h
  obtain ⟨hread, haccepted, hbytes⟩ := publish_each_ok heach
  refine ⟨?_, queued_of_loop haccepted, hclose, ?_, hbytes⟩
  · rw [deliver, reading_bind hopen, hopening, reading_bind heach, hread, reading_bind hclose,
      hclosing, reading_pure, List.nil_append, List.append_nil, List.append_nil]
  · rw [deliver, effects_bind hopen, effects_bind heach, effects_bind hclose, ← List.append_assoc]
    exact List.suffix_append_of_suffix ((List.append_nil _).symm ▸ List.suffix_rfl)

/-- A batch that failed: the link was not opened; or one message was not queued; or all were, and
the closing failed. -/
theorem deliver_error (hopening : reading published opening = [])
    (hclosing : reading published closing = []) {err : AmqError}
    (h : (deliver client opening closing exchange failed messages).result = .error err) :
    (opening.result = .error err
        ∧ reading published (deliver client opening closing exchange failed messages) = [])
      ∨ (∃ k < messages.length, ∃ text, client.publish k = .error text ∧ Queued client k
        ∧ err = failed text
        ∧ reading published (deliver client opening closing exchange failed messages)
          = (messages.take (k + 1)).map (wire exchange))
      ∨ (closing.result = .error err ∧ Queued client messages.length
        ∧ reading published (deliver client opening closing exchange failed messages)
          = messages.map (wire exchange)) := by
  cases hopen : opening.result with
  | error err' =>
      rw [deliver, result_bind_error hopen] at h
      cases h
      refine .inl ⟨rfl, ?_⟩
      rw [deliver, reading_bind_error hopen, hopening]
  | ok u =>
      rw [deliver, result_bind hopen] at h
      cases heach : (publish_each client exchange failed 0 0 messages).result with
      | error err' =>
          rw [result_bind_error heach] at h
          cases h
          obtain ⟨k, hk, text, hread, haccepted, hrefused, herr⟩ := publish_each_error heach
          refine .inr (.inl ⟨k, hk, text, ?_, queued_of_loop haccepted, herr, ?_⟩)
          · rwa [Nat.zero_add] at hrefused
          · rw [deliver, reading_bind hopen, hopening, reading_bind_error heach, hread]
            rfl
      | ok bytes =>
          rw [result_bind heach] at h
          obtain ⟨hread, haccepted, -⟩ := publish_each_ok heach
          cases hclose : closing.result with
          | ok u =>
              rw [result_bind hclose] at h
              cases h
          | error err' =>
              rw [result_bind_error hclose] at h
              cases h
              refine .inr (.inr ⟨rfl, queued_of_loop haccepted, ?_⟩)
              rw [deliver, reading_bind hopen, hopening, reading_bind heach, hread,
                reading_bind_error hclose, hclosing, List.append_nil]
              rfl

end Batch

section Clients

variable {config : AmqConfig} {client : Client}

/-- Making the adaptor sends nothing. -/
theorem effects_setup_tls : (setup_tls config client).effects = [] := by
  unfold setup_tls
  by_cases htls : config.tls = true
  · rw [if_pos htls]
    rfl
  · rw [if_neg htls]
    rfl

/-- Opening a connection publishes nothing. -/
theorem quiet_rabbitmq_open : reading published (rabbitmq_open config client) = [] := by
  apply reading_eq_nil
  intro e he
  simp only [rabbitmq_open, mem_bind, mem_perform, mem_lift, and_false, exists_false, or_false,
    effects_setup_tls, List.not_mem_nil, false_or] at he
  rcases he with ⟨_, -, rfl | ⟨_, -, _, -, rfl⟩⟩
  · rfl
  · rfl

theorem quiet_rabbitmq_close : reading published rabbitmq_close = [] := rfl

/-- Nor does connecting to NATS. -/
theorem quiet_nats_connect : reading published (nats_connect config client) = [] := by
  apply reading_eq_nil
  intro e he
  simp only [nats_connect, mem_bind, mem_perform, mem_lift, and_false, exists_false,
    or_false] at he
  rw [he]
  rfl

/-- Nor does the flush. -/
theorem quiet_nats_flush : reading published (nats_flush client) = [] := by
  apply reading_eq_nil
  intro e he
  simp only [nats_flush, mem_bind, mem_perform, mem_lift, and_false, exists_false,
    or_false] at he
  rw [he]
  rfl

/-- A step that only renames its error fails as the name says. -/
theorem fails_mapped {α : Type} {p : AmqError → Prop} {x : Except String α}
    {f : String → AmqError} (hf : ∀ text, p (f text)) :
    Fails p (lift (x.mapError f) : Eff Effect AmqError α) := by
  apply fails_lift
  intro err h
  obtain ⟨text, -, rfl⟩ := Result.mapError_eq_error.mp h
  exact hf text

/-- What fails while the connection is made is the connection. -/
theorem fails_rabbitmq_open :
    Fails (fun err => err.fault = AMQ_CONNECTION) (rabbitmq_open config client) := by
  have htls : Fails (fun err => err.fault = AMQ_CONNECTION) (setup_tls config client) := by
    unfold setup_tls
    by_cases htls : config.tls = true
    · rw [if_pos htls]
      exact fails_mapped fun _ => rfl
    · rw [if_neg htls]
      exact fails_pure ()
  refine fails_bind htls fun _ => ?_
  refine fails_bind (fails_perform _) fun _ => ?_
  refine fails_bind (fails_mapped fun _ => rfl) fun _ => ?_
  refine fails_bind (fails_perform _) fun _ => ?_
  exact fails_mapped fun _ => rfl

theorem fails_nats_connect :
    Fails (fun err => err.fault = AMQ_CONNECTION) (nats_connect config client) := by
  refine fails_bind (fails_perform _) fun _ => ?_
  exact fails_mapped fun _ => rfl

variable {messages : List AmqMessage}

/-- What the two backends have in common is `deliver`: on RabbitMQ with a channel to close, -/
theorem publish_to_rabbitmq (h : config.backend = .rabbitmq) :
    publish_to config client messages
      = deliver client (rabbitmq_open config client) rabbitmq_close (exchange_of config)
        (fun err => .fallback s!"amq publish failed: {err}") messages := by
  rw [publish_to, exchange_of, h]
  rfl

/-- and on NATS with a flush. -/
theorem publish_to_nats (h : config.backend = .nats) :
    publish_to config client messages
      = deliver client (nats_connect config client) (nats_flush client) (exchange_of config)
        (fun err => .fallback s!"nats publish failed: {err}") messages := by
  rw [publish_to, exchange_of, h]
  rfl

/-- What closes a batch: RabbitMQ's channel and connection, whatever they answer, and the flush of
NATS, which is waited for. -/
def closing_effects (config : AmqConfig) : List Effect :=
  match config.backend with
  | .rabbitmq => [.close_channel, .close_connection]
  | .nats => [.flush]

/-- A batch that was delivered, as far as the client knows: each message was handed to it and
queued, in the order of the list, and on NATS the flush behind them got them out. -/
structure Delivered (config : AmqConfig) (client : Client) (messages : List AmqMessage)
    (trace : List Effect) : Prop where
  handed : trace.filterMap published = messages.map (wire (exchange_of config))
  queued : Queued client messages.length
  closed : closing_effects config <:+ trace
  flushed : config.backend = .nats → client.flush = .ok ()

/-- A batch that stopped on its way, by what the client had been handed of it: nothing; the messages
up to the first that was not queued; or all of them, in front of a flush that failed, so that the
broker may have any of them or none. -/
inductive Stopped (config : AmqConfig) (client : Client) (messages : List AmqMessage)
    (err : AmqError) : List (Option String × String × List UInt8) → Prop
  | before : Stopped config client messages err []
  | unqueued {k : ℕ} {text : String} (hk : k < messages.length)
      (hrefused : client.publish k = .error text) (hqueued : Queued client k)
      (hfault : err.fault = AMQ_FALLBACK) :
      Stopped config client messages err
        ((messages.take (k + 1)).map (wire (exchange_of config)))
  | unflushed {text : String} (hnats : config.backend = .nats) (hflush : client.flush = .error text)
      (hqueued : Queued client messages.length) (hfault : err.fault = AMQ_FALLBACK) :
      Stopped config client messages err (messages.map (wire (exchange_of config)))

/-- A flush that succeeds was the client's. -/
theorem nats_flush_ok {u : Unit} (h : (nats_flush client).result = .ok u) :
    client.flush = .ok () ∧ (nats_flush client).effects = [.flush] := by
  rw [nats_flush, result_bind result_perform] at h
  refine ⟨Result.mapError_eq_ok.mp h, ?_⟩
  rw [nats_flush, effects_bind result_perform]
  rfl

/-- So was one that fails. -/
theorem nats_flush_error {err : AmqError} (h : (nats_flush client).result = .error err) :
    ∃ text, client.flush = .error text ∧ err.fault = AMQ_FALLBACK := by
  rw [nats_flush, result_bind result_perform] at h
  obtain ⟨text, hflush, rfl⟩ := Result.mapError_eq_error.mp h
  exact ⟨text, hflush, rfl⟩

/-- A batch that was published is delivered, on either backend. On NATS the flush is a part of it;
on RabbitMQ the closing cannot fail. -/
theorem publish_to_ok {bytes : ℕ} (h : (publish_to config client messages).result = .ok bytes) :
    Delivered config client messages (publish_to config client messages).effects
      ∧ bytes = total_bytes 0 messages := by
  cases hbackend : config.backend with
  | rabbitmq =>
      rw [publish_to_rabbitmq hbackend] at h ⊢
      obtain ⟨hread, hqueued, -, hclosed, hbytes⟩ :=
        deliver_ok quiet_rabbitmq_open quiet_rabbitmq_close h
      refine ⟨⟨hread, hqueued, ?_, fun hnats => ?_⟩, hbytes⟩
      · rw [closing_effects, hbackend]
        exact hclosed
      · rw [hbackend] at hnats
        cases hnats
  | nats =>
      rw [publish_to_nats hbackend] at h ⊢
      obtain ⟨hread, hqueued, hflush, hclosed, hbytes⟩ :=
        deliver_ok quiet_nats_connect quiet_nats_flush h
      obtain ⟨hflushed, heffects⟩ := nats_flush_ok hflush
      refine ⟨⟨hread, hqueued, ?_, fun _ => hflushed⟩, hbytes⟩
      rw [closing_effects, hbackend, ← heffects]
      exact hclosed

/-- What fails once the runtime is there is the connection or the publishing, on either backend.
How far the batch had come is read off `deliver_error`. -/
theorem publish_to_error {err : AmqError}
    (h : (publish_to config client messages).result = .error err) :
    Stopped config client messages err (reading published (publish_to config client messages))
      ∧ (err.fault = AMQ_CONNECTION ∨ err.fault = AMQ_FALLBACK) := by
  cases hbackend : config.backend with
  | rabbitmq =>
      rw [publish_to_rabbitmq hbackend] at h ⊢
      rcases deliver_error quiet_rabbitmq_open quiet_rabbitmq_close h with
        ⟨hopen, hread⟩ | ⟨k, hk, text, hrefused, hqueued, rfl, hread⟩ | ⟨hclose, -⟩
      · rw [hread]
        exact ⟨.before, .inl (fails_rabbitmq_open err hopen)⟩
      · rw [hread]
        exact ⟨.unqueued hk hrefused hqueued rfl, .inr rfl⟩
      · cases hclose
  | nats =>
      rw [publish_to_nats hbackend] at h ⊢
      rcases deliver_error quiet_nats_connect quiet_nats_flush h with
        ⟨hopen, hread⟩ | ⟨k, hk, text, hrefused, hqueued, rfl, hread⟩ | ⟨hclose, hqueued, hread⟩
      · rw [hread]
        exact ⟨.before, .inl (fails_nats_connect err hopen)⟩
      · rw [hread]
        exact ⟨.unqueued hk hrefused hqueued rfl, .inr rfl⟩
      · obtain ⟨text, hflush, hfault⟩ := nats_flush_error hclose
        rw [hread]
        exact ⟨.unflushed hbackend hflush hqueued hfault, .inr hfault⟩

/-- The sizes of a batch that are let through. -/
theorem check_batch_eq_ok {count : ℕ} {u : Unit} :
    check_batch config count = .ok u ↔ 0 < count ∧ count ≤ config.max_batch := by
  unfold check_batch
  by_cases hzero : count = 0
  · simp [hzero]
  · by_cases hmax : config.max_batch < count
    · simp [hzero, hmax, Nat.not_le.mpr hmax]
    · simp [hzero, hmax, Nat.pos_of_ne_zero hzero, Nat.not_lt.mp hmax]

/-- A batch that is refused is empty or too large, and the code says which. -/
theorem check_batch_error {count : ℕ} {err : AmqError} (h : check_batch config count = .error err) :
    count = 0 ∧ err.fault = AMQ_FALLBACK
      ∨ config.max_batch < count ∧ err.fault = AMQ_BATCH := by
  unfold check_batch at h
  by_cases hzero : count = 0
  · rw [if_pos hzero] at h
    cases h
    exact .inl ⟨hzero, rfl⟩
  · by_cases hmax : config.max_batch < count
    · rw [if_neg hzero, if_pos hmax] at h
      cases h
      exact .inr ⟨hmax, rfl⟩
    · rw [if_neg hzero, if_neg hmax] at h
      cases h

end Clients

/-- A `send` of these messages: an answer stands for the whole batch; on an error the client was
handed a beginning of it, and one behind a publish is worth a retry. -/
structure InOrder (config : AmqConfig) (client : Client) (messages : List AmqMessage)
    (send : Eff Effect AmqError AmqOutcome) : Prop where
  answered : ∀ out, send.result = .ok out →
    Delivered config client messages send.effects
      ∧ (0 < messages.length ∧ messages.length ≤ config.max_batch)
      ∧ out = ⟨"\x7b\"published\":" ++ toString messages.length ++ "\x7d", messages.length,
          total_bytes 0 messages⟩
  failed : ∀ err, send.result = .error err →
    Stopped config client messages err (reading published send)
      ∧ (err.fault = AMQ_BATCH ↔ config.max_batch < messages.length)

section Send

variable {lib : AmqLib} {config : AmqConfig} {client : Client} {payload_json : String}

/-- The payload is read first. -/
theorem result_payload {messages : List AmqMessage}
    (hread : lib.send_payload payload_json = .ok messages) :
    (lift ((lib.send_payload payload_json).mapError fun err =>
      AmqError.fallback s!"invalid amq payload: {err}")
        : Eff Effect AmqError (List AmqMessage)).result = .ok messages := by
  rw [hread]
  rfl

/-- A `send` that is answered passed the check of its size, and was delivered. -/
theorem do_send_ok {messages : List AmqMessage}
    (hread : lib.send_payload payload_json = .ok messages) {out : AmqOutcome}
    (hout : (do_send lib config client payload_json).result = .ok out) :
    Delivered config client messages (do_send lib config client payload_json).effects
      ∧ (0 < messages.length ∧ messages.length ≤ config.max_batch)
      ∧ out = ⟨"\x7b\"published\":" ++ toString messages.length ++ "\x7d", messages.length,
          total_bytes 0 messages⟩ := by
  have hpayload := result_payload hread
  unfold do_send at hout ⊢
  rw [result_bind hpayload] at hout
  simp only [ok_bind, ok_pure, ok_lift] at hout
  obtain ⟨u, hcheck, v, hruntime, bytes, hbytes, rfl⟩ := hout
  obtain ⟨hdelivered, rfl⟩ := publish_to_ok hbytes
  refine ⟨?_, check_batch_eq_ok.mp hcheck, rfl⟩
  -- everything in front of the publishing is quiet, and so is the answer behind it
  have heffects : (publish_to config client messages >>= fun bytes => (pure
        ⟨"\x7b\"published\":" ++ toString messages.length ++ "\x7d", messages.length, bytes⟩
          : Eff Effect AmqError AmqOutcome)).effects
      = (publish_to config client messages).effects :=
    (effects_bind hbytes).trans (List.append_nil _)
  rw [effects_bind hpayload, effects_bind hcheck, effects_bind hruntime, heffects]
  exact hdelivered

/-- A `send` that fails was stopped by the check of its size, or without a runtime, or by the
publishing. -/
theorem do_send_error {messages : List AmqMessage}
    (hread : lib.send_payload payload_json = .ok messages) {err : AmqError}
    (herr : (do_send lib config client payload_json).result = .error err) :
    Stopped config client messages err (reading published (do_send lib config client payload_json))
      ∧ (err.fault = AMQ_BATCH ↔ config.max_batch < messages.length) := by
  have hpayload := result_payload hread
  have hfallback : AMQ_FALLBACK ≠ AMQ_BATCH := by decide
  have hconnection : AMQ_CONNECTION ≠ AMQ_BATCH := by decide
  unfold do_send at herr ⊢
  rw [result_bind hpayload] at herr
  rw [reading_bind hpayload, reading_lift, List.nil_append]
  revert herr
  cases hcheck : check_batch config messages.length with
  | error err' =>
      intro herr
      have hleft : (lift (.error err') : Eff Effect AmqError Unit).result = .error err' := rfl
      rw [result_bind_error hleft] at herr
      rw [reading_bind_error hleft, reading_lift]
      cases herr
      refine ⟨.before, ?_⟩
      rcases check_batch_error hcheck with ⟨hzero, hfault⟩ | ⟨hmax, hfault⟩
      · rw [hfault, hzero]
        exact iff_of_false hfallback (Nat.not_lt_zero _)
      · exact iff_of_true hfault hmax
  | ok u =>
      intro herr
      have hright : (lift (.ok u) : Eff Effect AmqError Unit).result = .ok u := rfl
      have hsize := check_batch_eq_ok.mp hcheck
      have hmax : ¬ config.max_batch < messages.length := Nat.not_lt.mpr hsize.2
      rw [result_bind hright] at herr
      rw [reading_bind hright, reading_lift, List.nil_append]
      cases hruntime : (build_runtime client).result with
      | error err' =>
          rw [result_bind_error hruntime] at herr
          rw [reading_bind_error hruntime, build_runtime, reading_lift]
          cases herr
          have hfault : err.fault = AMQ_FALLBACK :=
            (fails_mapped (p := fun err => err.fault = AMQ_FALLBACK) fun _ => rfl) err hruntime
          refine ⟨.before, ?_⟩
          rw [hfault]
          exact iff_of_false hfallback hmax
      | ok v =>
          rw [result_bind hruntime] at herr
          rw [reading_bind hruntime, build_runtime, reading_lift, List.nil_append]
          cases hbytes : (publish_to config client messages).result with
          | ok bytes =>
              rw [result_bind hbytes] at herr
              cases herr
          | error err' =>
              rw [result_bind_error hbytes] at herr
              rw [reading_bind_error hbytes]
              cases herr
              obtain ⟨hstopped, hfault | hfault⟩ := publish_to_error hbytes
              · refine ⟨hstopped, ?_⟩
                rw [hfault]
                exact iff_of_false hconnection hmax
              · refine ⟨hstopped, ?_⟩
                rw [hfault]
                exact iff_of_false hfallback hmax

/-- A `send` whose payload was read. Whatever stops it in front of the publishing, the client has
nothing of it; from there on it is as delivered, or as far on its way, as the publishing was. -/
theorem do_send_read {messages : List AmqMessage}
    (hread : lib.send_payload payload_json = .ok messages) :
    InOrder config client messages (do_send lib config client payload_json) where
  answered _ hout := do_send_ok hread hout
  failed _ herr := do_send_error hread herr

end Send

/-! ## 5. A producer over its calls -/

/-- One call of a script, with what the outside does during it. -/
structure Call where
  action : String
  payload_json : String
  client : Client

section Runs

variable (lib : AmqLib) (config : AmqConfig) (world : Metering.World)

def Call.trace (call : Call) : Eff Effect AmqError AmqOutcome :=
  dispatch lib config call.client call.action call.payload_json

/-- `AmqProducer::call`: the answer, and what is recorded. -/
def producer_call (metrics : List AmqMetric) (call : Call) :
    Except EgressError String × List AmqMetric :=
  let result := (call.trace lib config).result.mapError AmqError.into_resource_error
  let during := { world with amq := fun _ _ => result }
  Metering.amq_call during call.action call.payload_json metrics

/-- What is recorded after the calls. -/
def run (calls : List Call) : List AmqMetric :=
  calls.foldl (fun metrics call => (producer_call lib config world metrics call).2) []

/-- A payload that is not read is refused before anything is done; one that is, is sent in order. -/
structure SendSafe (call : Call) : Prop where
  unread : ∀ text, lib.send_payload call.payload_json = .error text →
    (call.trace lib config).effects = []
      ∧ (call.trace lib config).result
        = .error (.fallback ("invalid amq payload: " ++ text))
  read : ∀ messages, lib.send_payload call.payload_json = .ok messages →
    InOrder config call.client messages (call.trace lib config)

/-- The record of a call: of a `send` that was answered, what the client was handed; of one that
failed, nothing, whatever the client has of it. -/
structure Metered (call : Call) (metric : AmqMetric) : Prop where
  action : metric.action = call.action
  answered : metric.published = true ↔ ∃ out, (call.trace lib config).result = .ok out
  sent : call.action = "send" → metric.published = true →
    metric.messages = (reading published (call.trace lib config)).length
      ∧ metric.bytes = (reading published (call.trace lib config)).foldl
          (fun total given => saturating_add 64 total given.2.2.length) 0
  failed : metric.published = false → metric.messages = 0 ∧ metric.bytes = 0

end Runs

section Runs

variable {lib : AmqLib} {config : AmqConfig} {world : Metering.World}

/-- Every `send` is safe, whether its payload can be read or not. -/
theorem send_safe {call : Call} (h : call.action = "send") : SendSafe lib config call := by
  have htrace : call.trace lib config = do_send lib config call.client call.payload_json := by
    rw [Call.trace, h]
    rfl
  constructor
  · intro text hunread
    have hleft : (lift ((lib.send_payload call.payload_json).mapError fun err =>
        AmqError.fallback s!"invalid amq payload: {err}")
          : Eff Effect AmqError (List AmqMessage)).result
        = .error (.fallback ("invalid amq payload: " ++ text)) := by
      rw [hunread]
      rfl
    rw [htrace, do_send, bind_error hleft]
    exact ⟨rfl, rfl⟩
  · intro messages hread
    rw [htrace]
    exact do_send_read hread

/-- The bytes of the messages are those that go out. -/
theorem total_bytes_eq (exchange : Option String) (total : ℕ) (messages : List AmqMessage) :
    (messages.map (wire exchange)).foldl
      (fun total given => saturating_add 64 total given.2.2.length) total
        = total_bytes total messages := by
  rw [List.foldl_map]
  rfl

/-- The record of one call: an answered send has the numbers of its batch, an answered request
those of its one message, and a failed call has zero for both. -/
theorem metered_call (metrics : List AmqMetric) (call : Call) : ∃ metric,
    (producer_call lib config world metrics call).2 = metrics ++ [metric]
      ∧ Metered lib config call metric := by
  cases hresult : (call.trace lib config).result with
  | error err =>
      have hmetric : (producer_call lib config world metrics call).2
          = metrics ++ [⟨call.action, world.duration_us, 0, 0, false⟩] := by
        simp only [producer_call, hresult]
        rfl
      refine ⟨_, hmetric, rfl, ?_, ?_, fun _ => ⟨rfl, rfl⟩⟩
      · rw [hresult]
        refine iff_of_false Bool.false_ne_true ?_
        rintro ⟨out, hout⟩
        cases hout
      · intro _ hpublished
        exact absurd hpublished Bool.false_ne_true
  | ok out =>
      have hmetric : (producer_call lib config world metrics call).2
          = metrics ++ [⟨call.action, world.duration_us, out.messages, out.bytes, true⟩] := by
        simp only [producer_call, hresult]
        rfl
      refine ⟨_, hmetric, rfl, iff_of_true rfl ⟨out, hresult⟩, ?_, ?_⟩
      · intro hsend _
        have hsafe := @send_safe lib config call hsend
        cases hread : lib.send_payload call.payload_json with
        | error text =>
            have herror := (hsafe.unread text hread).2
            rw [hresult] at herror
            cases herror
        | ok messages =>
            obtain ⟨hdelivered, -, hout⟩ := (hsafe.read messages hread).answered out hresult
            have hhanded : reading published (call.trace lib config)
                = messages.map (wire (exchange_of config)) := hdelivered.handed
            rw [hout, hhanded, List.length_map, total_bytes_eq]
            exact ⟨rfl, rfl⟩
      · intro hpublished
        cases hpublished

/-- Each call of a run leaves its record. By induction on the calls, from the last one. -/
theorem run_metered (calls : List Call) :
    List.Forall₂ (Metered lib config) calls (run lib config world calls) := by
  induction calls using List.reverseRecOn with
  | nil => exact .nil
  | append_singleton calls call ih =>
      obtain ⟨metric, hmetric, hmetered⟩ :=
        @metered_call lib config world (run lib config world calls) call
      rw [run] at hmetric ih
      rw [run, List.foldl_append, List.foldl_cons, List.foldl_nil, hmetric]
      exact List.rel_append ih (.cons hmetered .nil)

/-- **No message is lost, doubled or reordered behind an answer.** In any calls of a producer, with
whatever client in each: an answered `send` handed over every message of its batch once, in order,
and the client queued each, and flushed them where it is that of NATS; a failed one handed over a
beginning of it, with a retryable error if it handed over anything; and what is recorded of the
answered ones is what the client was handed. -/
theorem producer_runs (calls : List Call) :
    (∀ call ∈ calls, call.action = "send" → SendSafe lib config call)
      ∧ List.Forall₂ (Metered lib config) calls (run lib config world calls) :=
  ⟨fun _ _ hsend => send_safe hsend, run_metered calls⟩

end Runs

end Runlet.Amq
