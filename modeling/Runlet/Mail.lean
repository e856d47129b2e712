/-
The `mail` backend (`crates/fabric-backends/src/mail.rs`): what a send checks, the message it
builds, and what a sequence of calls hands to the transport.

An address is parsed twice, once for the allowlist and once for the message, and the limit on
sends is held against the metrics that were recorded. `mail_policy` says what this comes to
over any sequence of calls: no message goes out beyond the limit, and the recipients of each
are the addresses that were counted and checked, no more and no fewer.

`lettre` and `serde_json` are parameters. What a message is delivered to is its `To`, `Cc` and
`Bcc`.
-/
import Mathlib.Data.List.Induction
import Runlet.Lib.Count
import Runlet.Lib.Effects
import Runlet.Metering

set_option autoImplicit false

namespace Runlet.Mail

open Count Effects Runlet.Wire Runlet.Resources Runlet.Metering

/-! ## 1. Payloads and messages -/

/-- A `Vec<String>`: an allocation has at most `isize::MAX` bytes, and a `String` takes 24. -/
structure Addresses where
  items : List String := []
  fits : items.length * 24 < 2 ^ 63 := by decide

/-- `SendPayload`, its `from` as `sender` and its `to` as `to_`. -/
structure SendPayload where
  sender : String := ""
  to_ : Addresses := {}
  cc : Addresses := {}
  bcc : Addresses := {}
  reply_to : String := ""
  subject : String := ""
  text : String := ""
  html : String := ""

/-- The addresses a payload is for. -/
def SendPayload.addresses (payload : SendPayload) : List String :=
  payload.to_.items ++ payload.cc.items ++ payload.bcc.items

/-- `lettre::Address`. -/
structure Address where
  user : String
  domain : String
  deriving DecidableEq, Repr

/-- `lettre::message::Mailbox`. -/
structure Mailbox where
  name : Option String
  email : Address
  deriving DecidableEq, Repr

/-- The headers that hold mailboxes. -/
inductive Header
  | sender
  | to_
  | cc
  | bcc
  | reply_to
  deriving DecidableEq, Repr

/-- `MessageBuilder`: the headers it has been given. -/
structure MessageBuilder where
  mailboxes : Header → List Mailbox := fun _ => []
  subject : Option String := none

/-- `MessageBuilder::from`, `to`, `cc`, `bcc` and `reply_to`: one more mailbox in a header. -/
def MessageBuilder.add (header : Header) (b : MessageBuilder) (m : Mailbox) : MessageBuilder :=
  { b with mailboxes := Function.update b.mailboxes header (b.mailboxes header ++ [m]) }

theorem MessageBuilder.mailboxes_add (header : Header) (b : MessageBuilder) (m : Mailbox) :
    (b.add header m).mailboxes
      = Function.update b.mailboxes header (b.mailboxes header ++ [m]) := rfl

inductive Body
  | alternative_plain_html (text html : String)
  | html (html : String)
  | plain (text : String)
  deriving DecidableEq, Repr

structure Message where
  headers : MessageBuilder
  body : Body

def Message.mailboxes (message : Message) : Header → List Mailbox := message.headers.mailboxes

/-- Who a message is delivered to. -/
def Message.recipients (message : Message) : List Mailbox :=
  message.mailboxes .to_ ++ message.mailboxes .cc ++ message.mailboxes .bcc

/-- The libraries. The parser is a function: it gives the same mailbox each time. -/
structure Library where
  /-- `serde_json::from_str::<SendPayload>`. -/
  from_str : String → Except String SendPayload
  /-- `serde_json::to_string`, of a text. -/
  to_string : String → Except String String
  /-- `str::parse::<Mailbox>`. -/
  parse : String → Except String Mailbox
  /-- Whether the builder takes the body. -/
  build : MessageBuilder → Body → Except String Unit
  /-- `formatted().len()`. -/
  formatted_len : Message → ℕ
  to_lowercase : String → String

structure Response where
  is_positive : Bool
  first_line : Option String

structure SmtpError where
  is_transient : Bool
  is_permanent : Bool
  text : String

/-- A call of the backend, with what the transport will answer to a message. -/
structure Call where
  action : String
  payload_json : String
  send : Message → Except SmtpError Response
  duration_us : ℕ

/-! ## 2. Errors -/

def MAIL_FALLBACK : Fault := ⟨"MAIL_ERROR", true, .operator⟩

def MAIL_OP_LIMIT : Fault := ⟨"MAIL_OP_LIMIT", false, .developer⟩

structure MailError where
  fault : Fault
  message : String
  deriving DecidableEq, Repr

def MailError.fallback (message : String) : MailError := ⟨MAIL_FALLBACK, message⟩

def classify (err : SmtpError) : Fault :=
  if err.is_transient then ⟨"MAIL_TRANSIENT", true, .operator⟩
  else if err.is_permanent then ⟨"MAIL_PERMANENT", false, .developer⟩
  else MAIL_FALLBACK

def MailError.from_driver (err : SmtpError) : MailError := ⟨classify err, err.text⟩

def MailError.into_resource_error (err : MailError) : EgressError where
  code := err.fault.code
  message := err.message
  source := "mail"
  details := none
  retryable := err.fault.retryable
  owner := err.fault.owner

/-! ## 3. A send -/

def count_recipients (payload : SendPayload) : ℕ :=
  saturating_add 64 (saturating_add 64 payload.to_.items.length payload.cc.items.length)
    payload.bcc.items.length

section Send

variable (lib : Library) (config : MailConfig)

def parse_mailbox (addr field : String) : Except String Mailbox :=
  (lib.parse addr).mapError fun err =>
    "invalid " ++ field ++ " address '" ++ addr ++ "': " ++ err

/-- The body of the loop in `enforce_recipient_domains`. -/
def check_domain (allowed : List String) (addr : String) : Except MailError Unit := do
  let mailbox ← (parse_mailbox lib addr "recipient").mapError MailError.fallback
  let domain := lib.to_lowercase mailbox.email.domain
  Result.fail_if (allowed.any (fun allow => lib.to_lowercase allow == domain) = false)
    (MailError.fallback ("recipient domain '" ++ domain ++ "' is not in allowed_recipient_domains"))

def enforce_recipient_domains (payload : SendPayload) (allowed : List String) :
    Except MailError Unit :=
  if allowed = [] then .ok () else forM payload.addresses (check_domain lib allowed)

/-- `for addr in addrs { builder = builder.add(parse_mailbox(addr, field)?) }`. -/
def add_all (header : Header) (field : String) (addrs : List String) (builder : MessageBuilder) :
    Except String MessageBuilder :=
  addrs.foldlM (fun builder addr => do return builder.add header (← parse_mailbox lib addr field))
    builder

def build_body (builder : MessageBuilder) (payload : SendPayload) : Except String Message := do
  let body : Body :=
    if payload.text ≠ "" ∧ payload.html ≠ "" then .alternative_plain_html payload.text payload.html
    else if payload.html ≠ "" then .html payload.html
    else .plain payload.text
  (lib.build builder body).mapError fun err => "failed to build message: " ++ err
  return ⟨builder, body⟩

def build_message (payload : SendPayload) (default_from : String) : Except String Message := do
  let from_str := if payload.sender = "" then default_from else payload.sender
  let sender ← parse_mailbox lib from_str "from"
  let builder ← add_all lib .to_ "to" payload.to_.items (MessageBuilder.add .sender {} sender)
  let builder ← add_all lib .cc "cc" payload.cc.items builder
  let builder ← add_all lib .bcc "bcc" payload.bcc.items builder
  -- at most one, where there is one
  let builder ← add_all lib .reply_to "reply_to"
    (if payload.reply_to = "" then [] else [payload.reply_to]) builder
  build_body lib { builder with subject := some payload.subject } payload

/-- What `do_send` does before it sends: the count of the recipients, and the message. -/
def prepare (payload_json : String) : Except MailError (ℕ × Message) := do
  let payload ← (lib.from_str payload_json).mapError fun err =>
    MailError.fallback ("invalid mail payload: " ++ err)
  let recipients := count_recipients payload
  Result.fail_if (recipients = 0)
    (MailError.fallback "at least one recipient (to/cc/bcc) is required")
  Result.fail_if (config.max_recipients < recipients)
    (MailError.fallback ("too many recipients: " ++ toString recipients ++ " (max "
      ++ toString config.max_recipients ++ ")"))
  enforce_recipient_domains lib payload config.allowed_recipient_domains
  let message ← (build_message lib payload config.sender).mapError MailError.fallback
  return (recipients, message)

/-- `do_send`. Its effect is the message it hands to the transport. -/
def do_send (c : Call) : Eff Message MailError MailOutcome := do
  let (recipients, message) ← lift (prepare lib config c.payload_json)
  perform message
  match c.send message with
  | .ok response =>
    let escaped := match lib.to_string (response.first_line.getD "") with
      | .ok text => text
      | .error _ => "\"\""
    return {
      json := "\x7b\"accepted\":" ++ toString response.is_positive ++ ",\"response\":" ++ escaped
        ++ "\x7d"
      recipients
      bytes := lib.formatted_len message
      accepted := response.is_positive }
  | .error err => leave (.from_driver err)

def dispatch (c : Call) : Eff Message MailError MailOutcome :=
  match c.action with
  | "send" => do_send lib config c
  | other => leave (.fallback ("unknown mail action: " ++ other))

/-! ## 4. Calls -/

def build_metric (c : Call) (outcome : Option MailOutcome) : MailMetric :=
  let (recipients, bytes, accepted) :=
    (outcome.map fun out => (out.recipients, out.bytes, out.accepted)).getD (0, 0, false)
  ⟨c.action, c.duration_us, recipients, bytes, accepted⟩

/-- The backend has made as many sends as it may. -/
def LimitReached (metrics : List MailMetric) : Prop :=
  config.max_sends ≠ 0 ∧ config.max_sends ≤ metrics.length

instance (metrics : List MailMetric) : Decidable (LimitReached config metrics) :=
  inferInstanceAs (Decidable (_ ∧ _))

/-- `MailBackend::call`, on what the collector holds. -/
def call (c : Call) (metrics : List MailMetric) : Eff Message MailError String × List MailMetric :=
  if LimitReached config metrics then
    (leave ⟨MAIL_OP_LIMIT, "too many mail.send calls: limit is " ++ toString config.max_sends⟩,
      metrics)
  else
    let outcome := dispatch lib config c
    (⟨outcome.effects, outcome.result.map MailOutcome.json⟩,
      metrics ++ [build_metric c outcome.result.toOption])

/-- A backend after some calls: what it has recorded, and the messages handed over. -/
structure Session where
  metrics : List MailMetric := []
  handed : List Message := []

def Session.call (s : Session) (c : Call) : Session where
  metrics := (Mail.call lib config c s.metrics).2
  handed := s.handed ++ (Mail.call lib config c s.metrics).1.effects

/-- A new backend, and a sequence of calls. -/
def session (calls : List Call) : Session := calls.foldl (Session.call lib config) {}

end Send

/-! ## 5. What a send checks -/

section Checks

variable {lib : Library} {config : MailConfig} {payload : SendPayload}

/-- No list of addresses is long enough for the count to saturate. -/
theorem count_recipients_eq (payload : SendPayload) :
    count_recipients payload = payload.addresses.length := by
  have hto := payload.to_.fits
  have hcc := payload.cc.fits
  have hbcc := payload.bcc.fits
  unfold count_recipients saturating_add SendPayload.addresses
  rw [List.length_append, List.length_append]
  omega

theorem parse_mailbox_eq_ok {addr field : String} {mailbox : Mailbox} :
    parse_mailbox lib addr field = .ok mailbox ↔ lib.parse addr = .ok mailbox := by
  rw [parse_mailbox, Result.mapError_eq_ok]

/-- The domain is one of these, whatever the case of its letters. -/
def DomainIn (lib : Library) (allowed : List String) (mailbox : Mailbox) : Prop :=
  ∃ allow ∈ allowed, lib.to_lowercase allow = lib.to_lowercase mailbox.email.domain

/-- An address that is let through is one in an allowed domain. -/
theorem check_domain_eq_ok {allowed : List String} {addr : String} {u : Unit} :
    check_domain lib allowed addr = .ok u
      ↔ ∃ mailbox, lib.parse addr = .ok mailbox ∧ DomainIn lib allowed mailbox := by
  unfold check_domain
  rw [Result.bind_eq_ok]
  refine exists_congr fun mailbox => ?_
  rw [Result.mapError_eq_ok, parse_mailbox_eq_ok, Result.fail_if_eq_ok, Bool.not_eq_false,
    List.any_eq_true]
  simp only [beq_iff_eq]
  exact Iff.rfl

/-- Under an allowlist, every address of the payload has one of its domains. -/
theorem domainIn_of_enforce {allowed : List String}
    (h : enforce_recipient_domains lib payload allowed = .ok ()) (hallowed : allowed ≠ [])
    {addr : String} (haddr : addr ∈ payload.addresses) {mailbox : Mailbox}
    (hparse : lib.parse addr = .ok mailbox) : DomainIn lib allowed mailbox := by
  rw [enforce_recipient_domains, if_neg hallowed, Result.forM_eq_ok] at h
  obtain ⟨mailbox', hparse', hdomain⟩ := check_domain_eq_ok.mp (h addr haddr)
  -- parsed once more it is the same mailbox
  rw [hparse, Except.ok.injEq] at hparse'
  rw [hparse']
  exact hdomain

/-- These mailboxes are what the addresses parse to, one for each. -/
def ParsedAs (lib : Library) (addrs : List String) (mailboxes : List Mailbox) : Prop :=
  List.Forall₂ (fun addr mailbox => lib.parse addr = .ok mailbox) addrs mailboxes

/-- A header has its mailboxes in the order in which they were added. -/
theorem foldl_add (header : Header) (ms : List Mailbox) (b : MessageBuilder) :
    (ms.foldl (.add header) b).mailboxes
      = Function.update b.mailboxes header (b.mailboxes header ++ ms) := by
  induction ms generalizing b with
  | nil => rw [List.foldl_nil, List.append_nil, Function.update_eq_self]
  | cons m ms ih =>
      rw [List.foldl_cons, ih, MessageBuilder.mailboxes_add, Function.update_self,
        Function.update_idem, List.append_assoc, List.singleton_append]

/-- The loop adds what the addresses parse to, to its own header and to no other. -/
theorem add_all_eq_ok {header : Header} {field : String} {addrs : List String}
    {builder builder' : MessageBuilder} (h : add_all lib header field addrs builder = .ok builder') :
    ∃ mailboxes, ParsedAs lib addrs mailboxes
      ∧ builder'.mailboxes
        = Function.update builder.mailboxes header (builder.mailboxes header ++ mailboxes) := by
  unfold add_all at h
  rw [Result.foldlM_eq_ok] at h
  obtain ⟨mailboxes, hparsed, rfl⟩ := h
  simp only [parse_mailbox_eq_ok] at hparsed
  exact ⟨mailboxes, hparsed, foldl_add header mailboxes builder⟩

/-- The headers of a message are those of its builder. -/
theorem build_body_eq_ok {builder : MessageBuilder} {message : Message}
    (h : build_body lib builder payload = .ok message) : message.headers = builder := by
  unfold build_body at h
  obtain ⟨_, -, h⟩ := Result.bind_eq_ok.mp h
  rw [Result.pure_eq_ok] at h
  rw [← h]

/-- The recipients of a message are the addresses of its payload, list by list. -/
theorem build_message_eq_ok {default_from : String} {message : Message}
    (h : build_message lib payload default_from = .ok message) :
    ParsedAs lib payload.to_.items (message.mailboxes .to_)
      ∧ ParsedAs lib payload.cc.items (message.mailboxes .cc)
      ∧ ParsedAs lib payload.bcc.items (message.mailboxes .bcc) := by
  unfold build_message at h
  obtain ⟨sender, -, h⟩ := Result.bind_eq_ok.mp h
  obtain ⟨b₁, hto, h⟩ := Result.bind_eq_ok.mp h
  obtain ⟨b₂, hcc, h⟩ := Result.bind_eq_ok.mp h
  obtain ⟨b₃, hbcc, h⟩ := Result.bind_eq_ok.mp h
  obtain ⟨b₄, hreply, h⟩ := Result.bind_eq_ok.mp h
  obtain ⟨tos, htos, h₁⟩ := add_all_eq_ok hto
  obtain ⟨ccs, hccs, h₂⟩ := add_all_eq_ok hcc
  obtain ⟨bccs, hbccs, h₃⟩ := add_all_eq_ok hbcc
  obtain ⟨replies, -, h₄⟩ := add_all_eq_ok hreply
  have hmailboxes : message.mailboxes = b₄.mailboxes := by
    rw [Message.mailboxes, build_body_eq_ok h]
  have hall : message.mailboxes .to_ = tos ∧ message.mailboxes .cc = ccs
      ∧ message.mailboxes .bcc = bccs := by
    rw [hmailboxes, h₄, h₃, h₂, h₁]
    exact ⟨rfl, rfl, rfl⟩
  rw [hall.1, hall.2.1, hall.2.2]
  exact ⟨htos, hccs, hbccs⟩

/-- What holds of a message and the payload it was built from: its recipients are the addresses
of the payload, each as it was counted and checked. -/
structure Permitted (lib : Library) (config : MailConfig) (payload : SendPayload)
    (message : Message) : Prop where
  to_ : ParsedAs lib payload.to_.items (message.mailboxes .to_)
  cc : ParsedAs lib payload.cc.items (message.mailboxes .cc)
  bcc : ParsedAs lib payload.bcc.items (message.mailboxes .bcc)
  counted : count_recipients payload = message.recipients.length
  one_recipient : 1 ≤ message.recipients.length
  few_recipients : message.recipients.length ≤ config.max_recipients
  allowed : config.allowed_recipient_domains ≠ [] →
    ∀ mailbox ∈ message.recipients, DomainIn lib config.allowed_recipient_domains mailbox

/-- Each mailbox is what some address parses to. -/
theorem ParsedAs.exists_addr {addrs : List String} {mailboxes : List Mailbox}
    (h : ParsedAs lib addrs mailboxes) {mailbox : Mailbox} (hmem : mailbox ∈ mailboxes) :
    ∃ addr ∈ addrs, lib.parse addr = .ok mailbox := by
  induction h with
  | nil => exact absurd hmem List.not_mem_nil
  | @cons addr m addrs ms hparse _ ih =>
      rcases List.mem_cons.mp hmem with rfl | hrest
      · exact ⟨addr, List.mem_cons_self, hparse⟩
      · obtain ⟨addr', haddr', hparse'⟩ := ih hrest
        exact ⟨addr', List.mem_cons_of_mem _ haddr', hparse'⟩

/-- A message that gets as far as the transport is permitted. -/
theorem permitted_of_prepare {payload_json : String} {recipients : ℕ} {message : Message}
    (h : prepare lib config payload_json = .ok (recipients, message)) :
    ∃ payload, lib.from_str payload_json = .ok payload ∧ Permitted lib config payload message := by
  unfold prepare at h
  obtain ⟨payload, hpayload, h⟩ := Result.bind_eq_ok.mp h
  obtain ⟨_, hnone, h⟩ := Result.bind_eq_ok.mp h
  obtain ⟨_, hmany, h⟩ := Result.bind_eq_ok.mp h
  obtain ⟨_, henforce, h⟩ := Result.bind_eq_ok.mp h
  obtain ⟨message', hmessage, h⟩ := Result.bind_eq_ok.mp h
  rw [Result.mapError_eq_ok] at hpayload hmessage
  rw [Result.fail_if_eq_ok] at hnone hmany
  rw [Result.pure_eq_ok, Prod.mk.injEq] at h
  obtain ⟨hto, hcc, hbcc⟩ := build_message_eq_ok hmessage
  rw [h.2] at hto hcc hbcc
  -- the two lists are of one length, address by address
  have hall : ParsedAs lib payload.addresses message.recipients :=
    List.rel_append (List.rel_append hto hcc) hbcc
  have hcount : count_recipients payload = message.recipients.length := by
    rw [count_recipients_eq]
    exact hall.length_eq
  refine ⟨payload, hpayload, hto, hcc, hbcc, hcount, by omega, by omega, ?_⟩
  intro hallowed mailbox hmailbox
  obtain ⟨addr, haddr, hparse⟩ := hall.exists_addr hmailbox
  exact domainIn_of_enforce henforce hallowed haddr hparse

end Checks

/-! ## 6. Sequences of calls -/

section Sequences

variable {lib : Library} {config : MailConfig} {c : Call}

/-- A send hands over the message it has prepared, whatever the transport answers. -/
theorem effects_do_send :
    (do_send lib config c).effects
      = ((prepare lib config c.payload_json).toOption.map Prod.snd).toList := by
  unfold do_send
  cases hprepare : prepare lib config c.payload_json with
  | error err => rfl
  | ok prepared =>
      obtain ⟨recipients, message⟩ := prepared
      rw [effects_bind (show (lift (.ok (recipients, message)) :
        Eff Message MailError (ℕ × Message)).result = .ok (recipients, message) from rfl)]
      cases hsend : c.send message with
      | error err => simp [lift, perform, leave, bind, hsend, Except.toOption]
      | ok response => simp [lift, perform, bind, hsend, Except.toOption, pure]

/-- A call hands over at most one message, built from its own payload and permitted. -/
theorem effects_dispatch :
    (dispatch lib config c).effects.length ≤ 1
      ∧ ∀ message ∈ (dispatch lib config c).effects, c.action = "send"
        ∧ ∃ payload, lib.from_str c.payload_json = .ok payload
          ∧ Permitted lib config payload message := by
  unfold dispatch
  split
  · rename_i haction
    rw [effects_do_send]
    cases hprepare : prepare lib config c.payload_json with
    | error err => exact ⟨Nat.zero_le _, fun m hm => absurd hm List.not_mem_nil⟩
    | ok prepared =>
        refine ⟨Nat.le_refl _, ?_⟩
        intro message hmessage
        rw [List.mem_singleton.mp hmessage]
        exact ⟨haction, permitted_of_prepare hprepare⟩
  · exact ⟨Nat.zero_le _, fun m hm => absurd hm List.not_mem_nil⟩

theorem call_of_limit {metrics : List MailMetric} (h : LimitReached config metrics) :
    call lib config c metrics = (leave ⟨MAIL_OP_LIMIT,
      "too many mail.send calls: limit is " ++ toString config.max_sends⟩, metrics) :=
  if_pos h

/-- Below the limit a call is what `dispatch` makes of it. -/
theorem call_of_not_limit {metrics : List MailMetric} (h : ¬ LimitReached config metrics) :
    call lib config c metrics
      = (⟨(dispatch lib config c).effects, (dispatch lib config c).result.map MailOutcome.json⟩,
        metrics ++ [build_metric c (dispatch lib config c).result.toOption]) :=
  if_neg h

/-- Beyond the limit a call changes nothing. -/
theorem Session.call_eq_self {s : Session} (h : LimitReached config s.metrics) :
    s.call lib config c = s := by
  rw [Session.call, call_of_limit h]
  show Session.mk s.metrics (s.handed ++ []) = s
  rw [List.append_nil]

/-- Up to the limit a call is dispatched, and recorded whatever comes of it. -/
theorem Session.call_eq {s : Session} (h : ¬ LimitReached config s.metrics) :
    s.call lib config c
      = ⟨s.metrics ++ [build_metric c (dispatch lib config c).result.toOption],
        s.handed ++ (dispatch lib config c).effects⟩ := by
  rw [Session.call, call_of_not_limit h]

theorem session_snoc (calls : List Call) :
    session lib config (calls ++ [c]) = (session lib config calls).call lib config c := by
  rw [session, List.foldl_append]
  rfl

/-- There are no more messages than metrics, and no more metrics than the limit. -/
def Session.Limited (config : MailConfig) (s : Session) : Prop :=
  s.handed.length ≤ s.metrics.length
    ∧ (config.max_sends ≠ 0 → s.metrics.length ≤ config.max_sends)

/-- A call keeps the session within its limit. -/
theorem Session.limited_call {s : Session} (h : s.Limited config) :
    (s.call lib config c).Limited config := by
  by_cases hlimit : LimitReached config s.metrics
  · rw [Session.call_eq_self hlimit]
    exact h
  · obtain ⟨hhanded, hmetrics⟩ := h
    have hone := (@effects_dispatch lib config c).1
    rw [Session.call_eq hlimit]
    unfold LimitReached at hlimit
    refine ⟨?_, ?_⟩
    · rw [List.length_append, List.length_append, List.length_singleton]
      omega
    · intro hmax
      rw [List.length_append, List.length_singleton]
      omega

/-- **A session stays within its limit**, call by call. -/
theorem limited_session (calls : List Call) : (session lib config calls).Limited config := by
  induction calls using List.reverseRecOn with
  | nil => exact ⟨Nat.le_refl _, fun _ => Nat.zero_le _⟩
  | append_singleton calls c ih =>
      rw [session_snoc]
      exact Session.limited_call ih

/-- Every message handed over is permitted, by the payload of one of the calls. By induction from
the last call, which hands over one message or none. -/
theorem permitted_of_mem_handed {calls : List Call} {message : Message}
    (h : message ∈ (session lib config calls).handed) :
    ∃ c ∈ calls, c.action = "send" ∧ ∃ payload, lib.from_str c.payload_json = .ok payload
      ∧ Permitted lib config payload message := by
  induction calls using List.reverseRecOn with
  | nil => exact absurd h List.not_mem_nil
  | append_singleton calls c ih =>
      have hearlier (hmem : message ∈ (session lib config calls).handed) :
          ∃ c' ∈ calls ++ [c], c'.action = "send" ∧ ∃ payload,
            lib.from_str c'.payload_json = .ok payload ∧ Permitted lib config payload message := by
        obtain ⟨c', hc', hpermitted⟩ := ih hmem
        exact ⟨c', List.mem_append_left _ hc', hpermitted⟩
      rw [session_snoc] at h
      by_cases hlimit : LimitReached config (session lib config calls).metrics
      · rw [Session.call_eq_self hlimit] at h
        exact hearlier h
      · rw [Session.call_eq hlimit] at h
        rcases List.mem_append.mp h with hmem | hmem
        · exact hearlier hmem
        · exact ⟨c, List.mem_append_right _ List.mem_cons_self, effects_dispatch.2 message hmem⟩

end Sequences

/-- The mail policy, over any sequence of calls of a new backend: no more messages are handed
over than the limit on sends, each of them is permitted, and the next call is recorded once
if it gets past the limit, and changes nothing if it does not. -/
theorem mail_policy (lib : Library) (config : MailConfig) (calls : List Call) :
    (config.max_sends ≠ 0 → (session lib config calls).handed.length ≤ config.max_sends)
      ∧ (∀ message ∈ (session lib config calls).handed,
        ∃ c ∈ calls, c.action = "send" ∧ ∃ payload, lib.from_str c.payload_json = .ok payload
          ∧ Permitted lib config payload message)
      ∧ ∀ c, (LimitReached config (session lib config calls).metrics →
          session lib config (calls ++ [c]) = session lib config calls)
        ∧ (¬ LimitReached config (session lib config calls).metrics →
          ∃ metric, metric.action = c.action
            ∧ (session lib config (calls ++ [c])).metrics
              = (session lib config calls).metrics ++ [metric]) := by
  obtain ⟨hhanded, hmetrics⟩ := @limited_session lib config calls
  refine ⟨?_, fun message hmessage => permitted_of_mem_handed hmessage, ?_⟩
  · intro hmax
    exact hhanded.trans (hmetrics hmax)
  · intro c
    rw [session_snoc]
    constructor
    · intro hlimit
      exact Session.call_eq_self hlimit
    · intro hlimit
      rw [Session.call_eq hlimit]
      exact ⟨_, rfl, rfl⟩

/-- A parser that knows one address. -/
def example_library : Library where
  from_str _ := .ok { to_ := { items := ["ops@Example.com"] }, subject := "down" }
  to_string text := .ok ("\"" ++ text ++ "\"")
  parse addr :=
    if addr = "ops@Example.com" then .ok ⟨none, "ops", "Example.com"⟩
    else if addr = "runlet@example.com" then .ok ⟨none, "runlet", "example.com"⟩
    else .error "Missing domain or user"
  build _ _ := .ok ()
  formatted_len _ := 120
  to_lowercase s := String.ofList (s.toList.map Char.toLower)

def example_config : MailConfig where
  host := "relay"
  sender := "runlet@example.com"
  allowed_recipient_domains := ["example.com"]
  max_sends := 1

def example_call : Call where
  action := "send"
  payload_json := "\x7b\"to\":[\"ops@Example.com\"],\"subject\":\"down\"\x7d"
  send _ := .ok ⟨true, some "250 OK"⟩
  duration_us := 5

/-- Two sends with a limit of one: one message, to the one address. -/
theorem two_calls_one_send :
    (session example_library example_config [example_call, example_call]).handed.map
        Message.recipients = [[⟨none, "ops", "Example.com"⟩]]
      ∧ (session example_library example_config [example_call, example_call]).handed.length ≤ 1 :=
  ⟨by decide, (mail_policy _ example_config _).1 (by decide)⟩

/-! ## 7. The call the slots make -/

/-- `MailBackend::call` as the set of backends sees it (`mail_call`): the same answer, with its
error as the seam has it, and the same metrics. -/
theorem mail_call_eq {lib : Library} {config : MailConfig} {world : World} {c : Call}
    (hmail : world.mail c.action c.payload_json
      = (dispatch lib config c).result.mapError MailError.into_resource_error)
    (hduration : world.duration_us = c.duration_us) (metrics : List MailMetric) :
    mail_call world config c.action c.payload_json metrics
      = ((call lib config c metrics).1.result.mapError MailError.into_resource_error,
        (call lib config c metrics).2) := by
  unfold mail_call
  by_cases hlimit : LimitReached config metrics
  · have hpos : config.max_sends ≠ 0 ∧ config.max_sends ≤ metrics.length := hlimit
    rw [if_pos hpos, call_of_limit hlimit]
    rfl
  · have hneg : ¬ (config.max_sends ≠ 0 ∧ config.max_sends ≤ metrics.length) := hlimit
    rw [if_neg hneg, call_of_not_limit hlimit, hmail, hduration]
    cases (dispatch lib config c).result with
    | error err => rfl
    | ok outcome => rfl

end Runlet.Mail
