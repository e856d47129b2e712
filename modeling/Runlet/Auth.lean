/-
The identity capability: `crates/fabric-backends/src/auth.rs` and its wrapper
`crates/runlet-core/src/js/auth.js`.

One backend lives as long as one request. It remembers what the issuer's discovery document
named, and the wrapper remembers what each token came to, so that what a request does depends
on the requests before it. `Session` is that memory, with a log of the lookups; the answers
of the identity provider are given lookup by lookup. Between the two stands the seam of
`io.call`, which may refuse a call or lose its answer (`Seam`).

`auth_runs` says for any sequence of lookups which requests are handed to the HTTP client, what
is asked twice, and what a script is told.
-/
import Runlet.Metering
import Runlet.Sys
import Runlet.Lib.Machine
import Runlet.Lib.Result
import Runlet.Lib.Uri

set_option autoImplicit false

namespace Runlet.Auth

open Runlet.Json Runlet.Wire Runlet.Resources
open Runlet.Metering (AuthOutcome)

/-! ## 1. Requests, answers and errors -/

inductive Method
  | get
  | post
  deriving DecidableEq, Repr

inductive Authorization
  | bearer (token : String)
  | basic (user password : String)
  deriving DecidableEq, Repr

/-- A request, as it is handed to the HTTP client. Where a redirect takes it from there is the
client's: `connect_resource` leaves the default policy, which follows one, and a 307 or a 308 with
the body. -/
structure Request where
  method : Method
  url : String
  authorization : Option Authorization := none
  content_type : Option String := none
  body : Option String := none
  deriving DecidableEq, Repr

/-- What the client makes of a request: no response, a response without a readable body, or one. -/
inductive Answer
  | failed (err : String)
  | unreadable (err : String)
  | response (status : ℕ) (body : String)
  deriving DecidableEq, Repr

abbrev Exchange := Request × Answer

def AUTH_UNAVAILABLE : Fault := ⟨"AUTH_UNAVAILABLE", true, .operator⟩
def AUTH_REQUEST : Fault := ⟨"AUTH_REQUEST", false, .operator⟩

structure AuthError where
  fault : Fault
  message : String
  details : Option Value

def AuthError.new (fault : Fault) (message : String) : AuthError := ⟨fault, message, none⟩

def AuthError.with_status (fault : Fault) (message : String) (status : ℕ) : AuthError :=
  ⟨fault, s!"{message} (status {status})", some (.object [("http_status", of_u64 status)])⟩

def AuthError.from_transport (err : String) : AuthError :=
  .new AUTH_UNAVAILABLE s!"auth request failed: {err}"

def AuthError.into_resource_error (error : AuthError) : EgressError where
  code := error.fault.code
  message := error.message
  source := "auth"
  details := error.details
  retryable := error.fault.retryable
  owner := error.fault.owner

/-- `send`, of what the client answered. -/
def send : Answer → Except AuthError (ℕ × String)
  | .failed err => .error (.from_transport err)
  | .unreadable err => .error (.new AUTH_UNAVAILABLE s!"failed to read response: {err}")
  | .response status body => .ok (status, body)

/-- `serde_json`. -/
structure AuthLib where
  from_str : String → Except String Value
  to_string : Value → Except String String

/-- What discovery found. -/
structure Endpoints where
  userinfo : Option String
  introspect : Option String
  deriving DecidableEq, Repr

/-- What resolving or asking came to: the result, what is remembered of discovery after it, and
what was exchanged. -/
structure Visit (α : Type) where
  result : Except AuthError α
  discovery : Option Endpoints
  exchanges : List Exchange

def is_success (status : ℕ) : Bool := 200 ≤ status && status ≤ 299
def is_server_error (status : ℕ) : Bool := 500 ≤ status && status ≤ 599

section Backend

variable (lib : AuthLib) (config : AuthConfig)

def encode (value : Value) : String :=
  (lib.to_string value).toOption.getD
    "\x7b\"ok\":false,\"status\":0,\"code\":\"AUTH_INVALID_TOKEN\"\x7d"

def ok_claims_json (claims : Value) : String :=
  encode lib (.object [("ok", .bool true), ("claims", claims)])

def invalid_token_json (status : ℕ) : String :=
  encode lib (.object
    [("ok", .bool false), ("status", of_u64 status), ("code", .string "AUTH_INVALID_TOKEN")])

def parse_claims (body : String) (status : ℕ) : Except AuthError Value :=
  (lib.from_str body).mapError fun err =>
    .with_status AUTH_REQUEST s!"invalid claims JSON: {err}" status

def string_field (doc : Value) (key : String) : Option String :=
  ((doc.get_key key).bind Value.as_str).filter fun text => !text.isEmpty

/-! ## 2. The endpoints -/

def discovery_request : Request :=
  let base := String.ofList (Text.trim_end_matches '/' config.issuer.toList)
  { method := .get, url := s!"{base}/.well-known/openid-configuration" }

/-- `fetch_discovery`, of what the issuer answered. -/
def fetch_discovery (answer : Answer) : Except AuthError Endpoints := do
  let (status, body) ← send answer
  Result.fail_if (is_success status = false)
    (AuthError.with_status AUTH_REQUEST "OIDC discovery failed" status)
  let doc ← (lib.from_str body).mapError fun err =>
    AuthError.new AUTH_REQUEST s!"invalid discovery document: {err}"
  return ⟨string_field doc "userinfo_endpoint", string_field doc "introspection_endpoint"⟩

variable (net : Request → Answer) (discovery : Option Endpoints)

/-- `AuthState::discover`: the document is fetched until one is read. -/
def discover : Visit Endpoints :=
  match discovery with
  | some endpoints => ⟨.ok endpoints, some endpoints, []⟩
  | none =>
    let answer := net (discovery_request config)
    let endpoints := fetch_discovery lib answer
    ⟨endpoints, endpoints.toOption, [(discovery_request config, answer)]⟩

/-- An endpoint: the configured one, or what discovery found under its name. -/
def resolve (explicit : Option String) (endpoint : Endpoints → Option String) (missing : String) :
    Visit String :=
  match explicit with
  | some url => ⟨.ok url, discovery, []⟩
  | none =>
    let found := discover lib config net discovery
    ⟨found.result >>= fun endpoints =>
        (endpoint endpoints).elim (.error (AuthError.new AUTH_REQUEST missing)) .ok,
      found.discovery, found.exchanges⟩

def resolve_userinfo : Visit String :=
  resolve lib config net discovery config.userinfo_url Endpoints.userinfo
    "issuer exposes no userinfo_endpoint"

def resolve_introspect : Visit String :=
  resolve lib config net discovery config.introspect_url Endpoints.introspect
    "issuer exposes no introspection_endpoint"

/-! ## 3. The two lookups -/

/-- The status of an answer decides: claims, a token that is not valid (where the lookup has
that outcome), or an error. -/
def outcome (invalid : ℕ → Bool) (unavailable failed : String) (response : ℕ × String) :
    Except AuthError AuthOutcome :=
  let (status, body) := response
  if is_success status then
    (parse_claims lib body status).map fun claims => ⟨ok_claims_json lib claims, status⟩
  else if invalid status then .ok ⟨invalid_token_json lib status, status⟩
  else if is_server_error status then .error (.with_status AUTH_UNAVAILABLE unavailable status)
  else .error (.with_status AUTH_REQUEST failed status)

/-- The endpoint is asked, where there is one. -/
def ask (resolved : Visit String) (request : String → Request)
    (read : ℕ × String → Except AuthError AuthOutcome) : Visit AuthOutcome :=
  match resolved.result with
  | .error err => ⟨.error err, resolved.discovery, resolved.exchanges⟩
  | .ok url =>
    let answer := net (request url)
    ⟨send answer >>= read, resolved.discovery, resolved.exchanges ++ [(request url, answer)]⟩

def userinfo_request (token url : String) : Request where
  method := .get
  url := url
  authorization := some (.bearer token)

def userinfo_outcome : ℕ × String → Except AuthError AuthOutcome :=
  outcome lib (fun status => status == 401 || status == 403) "userinfo unavailable"
    "userinfo request failed"

def do_user_info (token : String) : Visit AuthOutcome :=
  ask net (resolve_userinfo lib config net discovery) (userinfo_request token)
    (userinfo_outcome lib)

/-- The form that carries the token. -/
def form_body (token : String) : String :=
  "token=" ++ String.ofList (Percent.utf8_percent_encode Sys.is_alphanumeric token)

def introspect_request (token url : String) : Request where
  method := .post
  url := url
  authorization := some (.basic config.client_id config.client_secret)
  content_type := some "application/x-www-form-urlencoded"
  body := some (form_body token)

def introspect_outcome : ℕ × String → Except AuthError AuthOutcome :=
  outcome lib (fun _ => false) "introspection unavailable" "introspection request failed"

def missing_client : AuthError :=
  .new AUTH_REQUEST "introspect requires config.auth.client_id/client_secret"

def do_introspect (token : String) : Visit AuthOutcome :=
  if config.client_id.isEmpty then ⟨.error missing_client, discovery, []⟩
  else
    ask net (resolve_introspect lib config net discovery) (introspect_request config token)
      (introspect_outcome lib)

/-- `dispatch`. -/
def dispatch (action token : String) : Visit AuthOutcome :=
  match action with
  | "user_info" => do_user_info lib config net discovery token
  | "introspect" => do_introspect lib config net discovery token
  | other => ⟨.error (.new AUTH_REQUEST s!"unknown auth action: {other}"), discovery, []⟩

end Backend

/-! ## 4. One request's session -/

/-- The methods of `globalThis.auth`. -/
inductive Action
  | user_info
  | introspect
  deriving DecidableEq, Repr

def Action.as_str : Action → String
  | .user_info => "user_info"
  | .introspect => "introspect"

/-- What becomes of a call between the wrapper and the backend. -/
inductive Seam
  | passes
  /-- It does not get there: over `max_ops`, with a token that is no text, with no backend to connect,
  or with no time left. -/
  | refuses (err : EgressError)
  /-- The backend is asked, and its answer does not get back: the deadline passes, or the link breaks. -/
  | loses (err : EgressError)

def Seam.reaches : Seam → Bool
  | .refuses _ => false
  | .passes | .loses _ => true

/-- What comes back of the backend's answer. -/
def Seam.answer (seam : Seam) (answer : Except EgressError String) : Except EgressError String :=
  match seam with
  | .passes => answer
  | .refuses err | .loses err => .error err

/-- One lookup of a script, with what the seam and the network do during it. -/
structure Call where
  action : Action
  token : String
  seam : Seam
  net : Request → Answer

/-- What a lookup came to. -/
structure Lookup where
  action : Action
  token : String
  seam : Seam
  exchanges : List Exchange
  result : Except EgressError String

structure Session where
  discovery : Option Endpoints := none
  metrics : List AuthMetric := []
  /-- `cache` of the wrapper. -/
  cache : String → Option String := fun _ => none
  log : List Lookup := []

/-- The key of the wrapper's `cache`. -/
def cache_key (action : Action) (token : String) : String := action.as_str ++ ":" ++ token

section Session

variable (lib : AuthLib) (config : AuthConfig) (world : Metering.World)

/-- The backend's part of a lookup; `Metering.auth_call` records it. -/
def backend_call (session : Session) (call : Call) :
    (Except EgressError String × List AuthMetric) × Visit AuthOutcome :=
  let visit := dispatch lib config call.net session.discovery call.action.as_str call.token
  let result := visit.result.mapError AuthError.into_resource_error
  let during := { world with auth := fun _ _ => result }
  (Metering.auth_call during config call.action.as_str call.token session.metrics, visit)

/-- The log after a lookup. -/
def Session.wrote (session : Session) (call : Call) (exchanges : List Exchange)
    (result : Except EgressError String) : List Lookup :=
  session.log ++ [⟨call.action, call.token, call.seam, exchanges, result⟩]

/-- A call that reaches the backend: a result that comes back is kept, an error is not. -/
def reach (session : Session) (call : Call) : Session :=
  let ((answer, metrics), visit) := backend_call lib config world session call
  let result := call.seam.answer answer
  { discovery := visit.discovery
    metrics := metrics
    cache := result.toOption.elim session.cache fun res =>
      Function.update session.cache (cache_key call.action call.token) (some res)
    log := session.wrote call visit.exchanges result }

/-- `memo`. -/
def memo (session : Session) (call : Call) : Session :=
  match session.cache (cache_key call.action call.token) with
  | some res => { session with log := session.wrote call [] (.ok res) }
  | none =>
    match call.seam with
    | .refuses err => { session with log := session.wrote call [] (.error err) }
    | .passes | .loses _ => reach lib config world session call

/-- The session of a request after its lookups. -/
def run (calls : List Call) : Session := calls.foldl (memo lib config world) {}

end Session

/-! ## 5. What a session keeps to -/

section Laws

variable (lib : AuthLib) (config : AuthConfig)

/-- The endpoint the operator set for a lookup. -/
def configured : Action → Option String
  | .user_info => config.userinfo_url
  | .introspect => config.introspect_url

def Endpoints.of (endpoints : Endpoints) : Action → Option String
  | .user_info => endpoints.userinfo
  | .introspect => endpoints.introspect

/-- The request that carries the credentials of a lookup. -/
def credential_request : Action → (token url : String) → Request
  | .user_info => userinfo_request
  | .introspect => introspect_request config

def outcome_of : Action → ℕ × String → Except AuthError AuthOutcome
  | .user_info => userinfo_outcome lib
  | .introspect => introspect_outcome lib

/-- What an exchange says of the endpoints, when it is a discovery that worked. -/
def discovered (x : Exchange) : Option Endpoints :=
  if x.1 = discovery_request config then (fetch_discovery lib x.2).toOption else none

def seen (log : List Lookup) : List Exchange := log.flatMap Lookup.exchanges

/-- The endpoint is the operator's, or else one that a discovery document named. -/
def Names (xs : List Exchange) (action : Action) (url : String) : Prop :=
  configured config action = some url
    ∨ configured config action = none
      ∧ ∃ x ∈ xs, ∃ endpoints, discovered lib config x = some endpoints
        ∧ endpoints.of action = some url

/-- No readable response, or a server error of the endpoint itself. -/
def Unavailable (x : Exchange) : Prop :=
  (∀ status body, x.2 ≠ .response status body)
    ∨ x.1 ≠ discovery_request config
      ∧ ∃ status body, x.2 = .response status body ∧ is_server_error status = true

/-- What a script may read off a response. -/
def Told (action : Action) (status : ℕ) (body res : String) : Prop :=
  (is_success status = true
      ∧ ∃ claims, lib.from_str body = .ok claims ∧ res = ok_claims_json lib claims)
    ∨ action = .user_info ∧ (status = 401 ∨ status = 403) ∧ res = invalid_token_json lib status

/-- An earlier lookup of the same token that was answered. -/
def Lookup.Repeats (lookup : Lookup) (res : String) (earlier : Lookup) : Prop :=
  earlier.action = lookup.action ∧ earlier.token = lookup.token ∧ earlier.result = .ok res

/-- The backend is asked: no earlier lookup of the same token was answered, and the seam lets it
through. -/
def Lookup.Asked (lookup : Lookup) (before : List Lookup) : Bool :=
  lookup.seam.reaches && !before.any fun earlier => earlier.action == lookup.action
    && earlier.token == lookup.token && earlier.result.toOption.isSome

/-- Where an error comes from: the seam, on the way there (and then nothing was sent) or on the way
back, or else the backend. The backend's own are the operator's, and worth a retry exactly when
something on the way was unavailable. -/
inductive Throws (lookup : Lookup) (error : EgressError) : Prop
  | refused (hseam : lookup.seam = .refuses error) (hsent : lookup.exchanges = [])
  | lost (hseam : lookup.seam = .loses error)
  | backend (hseam : lookup.seam = .passes) (hsource : error.source = "auth")
      (howner : error.owner = .operator)
      (hretry : error.retryable = true ↔ ∃ x ∈ lookup.exchanges, Unavailable config x)

/-- One lookup, after those before it. -/
structure Lawful (before : List Lookup) (lookup : Lookup) : Prop where
  repeated : ∀ earlier ∈ before, ∀ res, lookup.Repeats res earlier →
    lookup.exchanges = [] ∧ lookup.result = .ok res
  sent : ∀ x ∈ lookup.exchanges,
    x.1 = discovery_request config ∧ configured config lookup.action = none
      ∨ (∃ url, Names lib config (seen before ++ lookup.exchanges) lookup.action url
          ∧ x.1 = credential_request config lookup.action lookup.token url)
        ∧ (lookup.action = .introspect → config.client_id ≠ "")
  told : ∀ res, lookup.result = .ok res →
    (∃ earlier ∈ before, lookup.Repeats res earlier)
      ∨ ∃ x ∈ lookup.exchanges, x.1 ≠ discovery_request config
        ∧ ∃ status body, x.2 = .response status body ∧ Told lib lookup.action status body res
  thrown : ∀ error, lookup.result = .error error → Throws config lookup error

/-- A session, whatever was looked up in it: its lookups are lawful, the discovery document is
read once at most, every form has one field, the token of its lookup, and a lookup is recorded
unless it repeats one that was answered or does not reach the backend. -/
structure AuthSafe (session : Session) : Prop where
  lookups : ∀ moment ∈ Machine.moments session.log, Lawful lib config moment.1 moment.2
  discovery : (seen session.log).countP (fun x => (discovered lib config x).isSome) ≤ 1
  forms : ∀ lookup ∈ session.log, ∀ x ∈ lookup.exchanges, ∀ body, x.1.body = some body →
    Uri.parse_form body.toList = [(Text.utf8 "token", Text.utf8 lookup.token)]
  metered : session.metrics.length
    = (Machine.moments session.log).countP fun moment => moment.2.Asked moment.1

/-- How the endpoints come to be known in one lookup. -/
inductive Found (explicit : Option String) (net : Request → Answer) (known : Option Endpoints) :
    Option Endpoints → List Exchange → Prop
  | kept : Found explicit net known known []
  | fetched (hexplicit : explicit = none) (hknown : known = none) :
      Found explicit net known (fetch_discovery lib (net (discovery_request config))).toOption
        [(discovery_request config, net (discovery_request config))]

/-- All that one lookup of the backend can do. -/
inductive Visited (call : Call) (known : Option Endpoints) : Visit AuthOutcome → Prop
  | refused {err : AuthError} {known' : Option Endpoints} {xs : List Exchange}
      (hfound : Found lib config (configured config call.action) call.net known known' xs)
      (howner : err.fault.owner = .operator)
      (hretry : err.fault.retryable = true ↔ ∃ x ∈ xs, Unavailable config x) :
      Visited call known ⟨.error err, known', xs⟩
  | asked {url : String} {known' : Option Endpoints} {xs : List Exchange}
      (hfound : Found lib config (configured config call.action) call.net known known' xs)
      (hurl : configured config call.action = some url ∨ configured config call.action = none
        ∧ ∃ endpoints, known' = some endpoints ∧ endpoints.of call.action = some url)
      (hclient : call.action = .introspect → config.client_id ≠ "") :
      Visited call known
        ⟨send (call.net (credential_request config call.action call.token url))
            >>= outcome_of lib call.action,
          known', xs ++ [(credential_request config call.action call.token url,
            call.net (credential_request config call.action call.token url))]⟩

end Laws

/-! ## 6. One lookup -/

section OneLookup

variable {lib : AuthLib} {config : AuthConfig} {net : Request → Answer}

/-- The request with the credential is not the discovery: its body is a form. -/
theorem credential_ne_discovery (action : Action) (token url : String) :
    credential_request config action token url ≠ discovery_request config := by
  intro heq
  have hauth := congrArg Request.authorization heq
  cases action with
  | user_info => exact absurd hauth (Option.some_ne_none _)
  | introspect => exact absurd hauth (Option.some_ne_none _)

theorem discovered_discovery (answer : Answer) :
    discovered lib config (discovery_request config, answer)
      = (fetch_discovery lib answer).toOption := if_pos rfl

theorem discovered_credential (action : Action) (token url : String) (answer : Answer) :
    discovered lib config (credential_request config action token url, answer) = none :=
  if_neg (credential_ne_discovery action token url)

theorem failed_ne_response (err : String) (status : ℕ) (body : String) :
    Answer.failed err ≠ .response status body := by simp

theorem unreadable_ne_response (err : String) (status : ℕ) (body : String) :
    Answer.unreadable err ≠ .response status body := by simp

/-- A document that was read came with a response. -/
theorem response_of_fetch {answer : Answer} {endpoints : Endpoints}
    (h : (fetch_discovery lib answer).toOption = some endpoints) :
    ∃ status body, answer = .response status body := by
  cases answer with
  | failed err => exact absurd h.symm (Option.some_ne_none _)
  | unreadable err => exact absurd h.symm (Option.some_ne_none _)
  | response status body => exact ⟨status, body, rfl⟩

/-- A discovery that fails is the operator's error, and worth a retry exactly if no answer came.
-/
theorem fetch_error {answer : Answer} {err : AuthError}
    (h : fetch_discovery lib answer = .error err) : err.fault.owner = .operator
      ∧ (err.fault.retryable = true ↔ ∀ status body, answer ≠ .response status body) := by
  cases answer with
  | failed err' =>
      cases h
      exact ⟨rfl, iff_of_true rfl (failed_ne_response err')⟩
  | unreadable err' =>
      cases h
      exact ⟨rfl, iff_of_true rfl (unreadable_ne_response err')⟩
  | response status body =>
      have hfault : err.fault = AUTH_REQUEST := by
        rw [fetch_discovery, send, Result.ok_bind] at h
        rcases Result.bind_eq_error.mp h with hstatus | ⟨_, -, h⟩
        · unfold Result.fail_if at hstatus
          split at hstatus
          · cases hstatus
            rfl
          · cases hstatus
        · rcases Result.bind_eq_error.mp h with hdoc | ⟨_, -, h⟩
          · obtain ⟨_, -, rfl⟩ := Result.mapError_eq_error.mp hdoc
            rfl
          · cases h
      rw [hfault]
      exact ⟨rfl, iff_of_false Bool.false_ne_true fun hall => hall status body rfl⟩

variable {explicit : Option String} {endpoint : Endpoints → Option String} {missing : String}
variable {known known' : Option Endpoints} {xs : List Exchange}

/-- What is remembered after the endpoint was looked up is what was known or what the lookup
discovered. -/
theorem resolve_found : Found lib config explicit net known
    (resolve lib config net known explicit endpoint missing).discovery
    (resolve lib config net known explicit endpoint missing).exchanges := by
  cases explicit with
  | some url => exact .kept
  | none =>
      cases known with
      | some endpoints => exact .kept
      | none => exact .fetched rfl rfl

/-- An endpoint that is there, or the error that it is missing. -/
theorem elim_eq_ok {o : Option String} {err : AuthError} {url : String} :
    o.elim (Except.error err) Except.ok = .ok url ↔ o = some url := by
  cases o with
  | none => simp
  | some url' => simp

/-- An endpoint that was found is the configured one, or stands in the discovery document. -/
theorem resolve_ok {url : String}
    (h : (resolve lib config net known explicit endpoint missing).result = .ok url) :
    explicit = some url ∨ explicit = none ∧ ∃ endpoints,
      (resolve lib config net known explicit endpoint missing).discovery = some endpoints
        ∧ endpoint endpoints = some url := by
  cases explicit with
  | some url' =>
      cases h
      exact .inl rfl
  | none =>
      obtain ⟨endpoints, hfound, hurl⟩ := Result.bind_eq_ok.mp h
      refine .inr ⟨rfl, endpoints, ?_, elim_eq_ok.mp hurl⟩
      cases known with
      | some endpoints' =>
          cases hfound
          rfl
      | none => exact congrArg Except.toOption hfound

/-- Without an endpoint the error is the operator's, and worth a retry exactly if the discovery
was not available. -/
theorem resolve_error {err : AuthError}
    (h : (resolve lib config net known explicit endpoint missing).result = .error err) :
    err.fault.owner = .operator ∧ (err.fault.retryable = true
      ↔ ∃ x ∈ (resolve lib config net known explicit endpoint missing).exchanges,
        Unavailable config x) := by
  have hmissing : ∀ {o : Option String}, o.elim (Except.error (AuthError.new AUTH_REQUEST missing))
      Except.ok = .error err → err.fault = AUTH_REQUEST := by
    intro o ho
    cases o with
    | none =>
        cases ho
        rfl
    | some url => cases ho
  cases explicit with
  | some url => cases h
  | none =>
      cases known with
      | some endpoints =>
          rw [hmissing h]
          refine ⟨rfl, iff_of_false Bool.false_ne_true ?_⟩
          rintro ⟨x, hx, -⟩
          exact absurd hx List.not_mem_nil
      | none =>
          have hxs : (resolve lib config net none none endpoint missing).exchanges
              = [(discovery_request config, net (discovery_request config))] := rfl
          simp only [hxs, List.mem_singleton, exists_eq_left]
          rcases Result.bind_eq_error.mp h with hfetch | ⟨endpoints, hfetch, h⟩
          -- the document was not read
          · obtain ⟨howner, hretry⟩ := fetch_error hfetch
            refine ⟨howner, hretry.trans ⟨.inl, ?_⟩⟩
            rintro (hnone | ⟨hne, -⟩)
            · exact hnone
            · exact absurd rfl hne
          -- it names no such endpoint
          · rw [hmissing h]
            obtain ⟨status, body, hresponse⟩ := response_of_fetch (congrArg Except.toOption hfetch)
            refine ⟨rfl, iff_of_false Bool.false_ne_true ?_⟩
            rintro (hnone | ⟨hne, -⟩)
            · exact hnone status body hresponse
            · exact hne rfl

/-- What is known now was named in time: nothing failed on the way. -/
theorem Found.available (endpoint : Endpoints → Option String) {url : String}
    (hfound : Found lib config explicit net known known' xs)
    (hurl : explicit = some url ∨ explicit = none ∧ ∃ endpoints, known' = some endpoints
      ∧ endpoint endpoints = some url) : ∀ x ∈ xs, ¬ Unavailable config x := by
  intro x hx
  cases hfound with
  | kept => exact absurd hx List.not_mem_nil
  | fetched hexplicit hknown =>
      rw [List.mem_singleton] at hx
      subst hx
      rcases hurl with hurl | ⟨-, endpoints, hfetch, -⟩
      · exact absurd (hexplicit.symm.trans hurl).symm (Option.some_ne_none _)
      · obtain ⟨status, body, hresponse⟩ := response_of_fetch hfetch
        rintro (hnone | ⟨hne, -⟩)
        · exact hnone status body hresponse
        · exact hne rfl

/-- An answer is made of claims that came with a success, or says that the token is invalid. -/
theorem outcome_response_ok {invalid : ℕ → Bool} {unavailable failed : String} {status : ℕ}
    {body : String} {out : AuthOutcome}
    (h : outcome lib invalid unavailable failed (status, body) = .ok out) :
    (is_success status = true
        ∧ ∃ claims, lib.from_str body = .ok claims ∧ out.json = ok_claims_json lib claims)
      ∨ invalid status = true ∧ out.json = invalid_token_json lib status := by
  unfold outcome at h
  by_cases hsuccess : is_success status = true
  · simp only [hsuccess, if_true] at h
    cases hclaims : lib.from_str body with
    | error err =>
        simp [parse_claims, hclaims, Except.mapError, Except.map] at h
    | ok claims =>
        simp only [parse_claims, hclaims, Except.mapError, Except.map, Except.ok.injEq] at h
        subst h
        exact .inl ⟨hsuccess, claims, rfl, rfl⟩
  · by_cases hinvalid : invalid status = true
    · simp only [hsuccess, hinvalid, if_true, Bool.false_eq_true, if_false, Except.ok.injEq] at h
      subst h
      exact .inr ⟨hinvalid, rfl⟩
    · by_cases hserver : is_server_error status = true
      · simp [hsuccess, hinvalid, hserver] at h
      · simp [hsuccess, hinvalid, hserver] at h

/-- A response that is no answer is the operator's error, and worth a retry exactly for a server's
fault. -/
theorem outcome_response_error {invalid : ℕ → Bool} {unavailable failed : String} {status : ℕ}
    {body : String} {err : AuthError}
    (h : outcome lib invalid unavailable failed (status, body) = .error err) :
    err.fault.owner = .operator ∧ (err.fault.retryable = true ↔ is_server_error status = true) := by
  unfold outcome at h
  by_cases hsuccess : is_success status = true
  · have hserver : ¬ is_server_error status = true := by
      simp only [is_success, is_server_error, Bool.and_eq_true, decide_eq_true_eq] at hsuccess ⊢
      omega
    simp only [hsuccess, if_true] at h
    cases hclaims : lib.from_str body with
    | error message =>
        simp only [parse_claims, hclaims, Except.mapError, Except.map, Except.error.injEq] at h
        subst h
        exact ⟨rfl, iff_of_false Bool.false_ne_true hserver⟩
    | ok claims => simp [parse_claims, hclaims, Except.mapError, Except.map] at h
  · by_cases hinvalid : invalid status = true
    · simp [hsuccess, hinvalid] at h
    · by_cases hserver : is_server_error status = true
      · simp only [hsuccess, hinvalid, hserver, if_true, Bool.false_eq_true, if_false,
          Except.error.injEq] at h
        subst h
        exact ⟨rfl, iff_of_true rfl hserver⟩
      · simp only [hsuccess, hinvalid, hserver, Bool.false_eq_true, if_false,
          Except.error.injEq] at h
        subst h
        exact ⟨rfl, iff_of_false Bool.false_ne_true hserver⟩

/-- What a call answers was told by the endpoint's response, for either action. -/
theorem outcome_ok {action : Action} {status : ℕ} {body : String} {out : AuthOutcome}
    (h : outcome_of lib action (status, body) = .ok out) :
    Told lib action status body out.json := by
  cases action with
  | user_info =>
      unfold outcome_of userinfo_outcome at h
      rcases outcome_response_ok h with hclaims | ⟨hinvalid, hjson⟩
      · exact .inl hclaims
      · simp only [Bool.or_eq_true, beq_iff_eq] at hinvalid
        exact .inr ⟨rfl, hinvalid, hjson⟩
  | introspect =>
      unfold outcome_of introspect_outcome at h
      rcases outcome_response_ok h with hclaims | ⟨hinvalid, -⟩
      · exact .inl hclaims
      · exact absurd hinvalid Bool.false_ne_true

/-- The error of a response, for either action. -/
theorem outcome_error {action : Action} {status : ℕ} {body : String} {err : AuthError}
    (h : outcome_of lib action (status, body) = .error err) : err.fault.owner = .operator
      ∧ (err.fault.retryable = true ↔ is_server_error status = true) := by
  cases action with
  | user_info =>
      unfold outcome_of userinfo_outcome at h
      exact outcome_response_error h
  | introspect =>
      unfold outcome_of introspect_outcome at h
      exact outcome_response_error h

/-- Asking an endpoint that was resolved, or leaving with the error. -/
theorem ask_visited (call : Call) {endpoint : Endpoints → Option String} {missing : String}
    (hendpoint : ∀ endpoints : Endpoints, endpoint endpoints = endpoints.of call.action)
    (hclient : call.action = .introspect → config.client_id ≠ "") :
    Visited lib config call known
      (ask call.net
        (resolve lib config call.net known (configured config call.action) endpoint missing)
        (credential_request config call.action call.token) (outcome_of lib call.action)) := by
  have hfound := @resolve_found lib config call.net (configured config call.action) endpoint missing
    known
  cases hresult : (resolve lib config call.net known (configured config call.action) endpoint
      missing).result with
  | error err =>
      obtain ⟨howner, hretry⟩ := resolve_error hresult
      have h := @Visited.refused lib config call known err _ _ hfound howner hretry
      simpa only [ask, hresult] using h
  | ok url =>
      have hurl := resolve_ok hresult
      simp only [hendpoint] at hurl
      have h := @Visited.asked lib config call known url _ _ hfound hurl hclient
      simpa only [ask, hresult] using h

/-- A call goes to an endpoint that it finds, once, and otherwise nowhere. What follows about
calls is read off `Visited`. -/
theorem dispatch_visited (call : Call) (known : Option Endpoints) :
    Visited lib config call known
      (dispatch lib config call.net known call.action.as_str call.token) := by
  obtain ⟨action, token, seam, net⟩ := call
  cases action with
  | user_info =>
      refine ask_visited ⟨.user_info, token, seam, net⟩ (fun _ => rfl) fun haction => ?_
      cases haction
  | introspect =>
      show Visited lib config ⟨.introspect, token, seam, net⟩ known
        (do_introspect lib config net known token)
      unfold do_introspect
      by_cases hclient : config.client_id.isEmpty = true
      · rw [if_pos hclient]
        refine .refused .kept rfl (iff_of_false Bool.false_ne_true ?_)
        rintro ⟨x, hx, -⟩
        exact absurd hx List.not_mem_nil
      · rw [if_neg hclient]
        refine ask_visited ⟨.introspect, token, seam, net⟩ (fun _ => rfl) fun _ hempty => ?_
        rw [hempty] at hclient
        exact hclient rfl

/-! ## 7. What one lookup of the backend keeps to -/

/-- The error of a call. It is worth a retry exactly if one of its exchanges had no answer, or a
server's fault for one. -/
theorem Visited.result_error {call : Call} {visit : Visit AuthOutcome} {err : AuthError}
    (h : Visited lib config call known visit) (herr : visit.result = .error err) :
    err.fault.owner = .operator
      ∧ (err.fault.retryable = true ↔ ∃ x ∈ visit.exchanges, Unavailable config x) := by
  cases h with
  | refused hfound howner hretry =>
      cases herr
      exact ⟨howner, hretry⟩
  | @asked url known' xs hfound hurl hclient =>
      have hearlier := hfound.available (fun e => e.of call.action) hurl
      have hne : credential_request config call.action call.token url ≠ discovery_request config :=
        credential_ne_discovery call.action call.token url
      have hlast : ∀ p : Prop, (p ↔ Unavailable config
          (credential_request config call.action call.token url,
            call.net (credential_request config call.action call.token url))) →
          (p ↔ ∃ x ∈ xs ++ [(credential_request config call.action call.token url,
            call.net (credential_request config call.action call.token url))],
              Unavailable config x) := by
        intro p hp
        rw [hp]
        constructor
        · intro hunavailable
          exact ⟨_, List.mem_append_right _ (List.mem_singleton_self _), hunavailable⟩
        · rintro ⟨x, hx, hunavailable⟩
          rcases List.mem_append.mp hx with hx | hx
          · exact absurd hunavailable (hearlier x hx)
          · rw [List.mem_singleton] at hx
            exact hx ▸ hunavailable
      cases hanswer : call.net (credential_request config call.action call.token url) with
      | failed err' =>
          simp only [hanswer] at herr hlast ⊢
          cases herr
          exact ⟨rfl, hlast _ (iff_of_true rfl (.inl (failed_ne_response err')))⟩
      | unreadable err' =>
          simp only [hanswer] at herr hlast ⊢
          cases herr
          exact ⟨rfl, hlast _ (iff_of_true rfl (.inl (unreadable_ne_response err')))⟩
      | response status body =>
          simp only [hanswer] at herr hlast ⊢
          obtain ⟨howner, hretry⟩ := outcome_error herr
          refine ⟨howner, hlast _ (hretry.trans ⟨?_, ?_⟩)⟩
          · intro hserver
            exact .inr ⟨hne, status, body, rfl, hserver⟩
          · rintro (hnone | ⟨-, status', body', heq, hserver⟩)
            · exact absurd rfl (hnone status body)
            · cases heq
              exact hserver

/-- An answered call has it from an exchange with the endpoint: not from the discovery. -/
theorem Visited.result_ok {call : Call} {visit : Visit AuthOutcome} {out : AuthOutcome}
    (h : Visited lib config call known visit) (hok : visit.result = .ok out) :
    ∃ x ∈ visit.exchanges, x.1 ≠ discovery_request config
      ∧ ∃ status body, x.2 = .response status body
        ∧ Told lib call.action status body out.json := by
  cases h with
  | refused hfound howner hretry => cases hok
  | @asked url known' xs hfound hurl hclient =>
      refine ⟨_, List.mem_append_right _ (List.mem_singleton_self _),
        credential_ne_discovery call.action call.token url, ?_⟩
      cases hanswer : call.net (credential_request config call.action call.token url) with
      | failed err =>
          simp only [hanswer] at hok
          cases hok
      | unreadable err =>
          simp only [hanswer] at hok
          cases hok
      | response status body =>
          simp only [hanswer] at hok
          exact ⟨status, body, rfl, outcome_ok hok⟩

/-- What is known after the lookup was known before, or the one discovery of the lookup says it. -/
theorem Found.source_of {e : Endpoints} (hfound : Found lib config explicit net known (some e) xs) :
    known = some e ∧ xs = [] ∨ ∃ x ∈ xs, discovered lib config x = some e := by
  generalize hknown' : some e = known' at hfound
  cases hfound with
  | kept => exact .inl ⟨rfl, rfl⟩
  | fetched hexplicit hknown =>
      exact .inr ⟨_, List.mem_singleton_self _, discovered_discovery _⟩

/-- Where a call sends what. The discovery is asked only where no endpoint is configured; the
credential goes to the configured endpoint or to one that an exchange of this session discovered.
-/
theorem Visited.sent {call : Call} {visit : Visit AuthOutcome} {before : List Exchange}
    (h : Visited lib config call known visit)
    (hknown : ∀ e, known = some e → ∃ x ∈ before, discovered lib config x = some e) :
    ∀ x ∈ visit.exchanges,
      x.1 = discovery_request config ∧ configured config call.action = none
        ∨ (∃ url, Names lib config (before ++ visit.exchanges) call.action url
            ∧ x.1 = credential_request config call.action call.token url)
          ∧ (call.action = .introspect → config.client_id ≠ "") := by
  have hdiscovery : ∀ {known' : Option Endpoints} {xs : List Exchange},
      Found lib config (configured config call.action) call.net known known' xs → ∀ x ∈ xs,
        x.1 = discovery_request config ∧ configured config call.action = none := by
    intro known' xs hfound x hx
    cases hfound with
    | kept => exact absurd hx List.not_mem_nil
    | fetched hexplicit hknown =>
        rw [List.mem_singleton] at hx
        subst hx
        exact ⟨rfl, hexplicit⟩
  cases h with
  | refused hfound howner hretry => exact fun x hx => .inl (hdiscovery hfound x hx)
  | @asked url known' xs hfound hurl hclient =>
      intro x hx
      rcases List.mem_append.mp hx with hx | hx
      · exact .inl (hdiscovery hfound x hx)
      · rw [List.mem_singleton] at hx
        subst hx
        refine .inr ⟨⟨url, ?_, rfl⟩, hclient⟩
        rcases hurl with hurl | ⟨hnone, e, rfl, hurl⟩
        · exact .inl hurl
        · refine .inr ⟨hnone, ?_⟩
          -- the document was read in this lookup, or in one before it
          rcases hfound.source_of with ⟨hbefore, -⟩ | ⟨y, hy, hdiscovered⟩
          · obtain ⟨y, hy, hdiscovered⟩ := hknown e hbefore
            exact ⟨y, List.mem_append_left _ hy, e, hdiscovered, hurl⟩
          · exact ⟨y, List.mem_append_right _ (List.mem_append_left _ hy), e, hdiscovered, hurl⟩

/-- The exchanges of a call are with the network it was given. -/
theorem Visited.answers {call : Call} {visit : Visit AuthOutcome}
    (h : Visited lib config call known visit) : ∀ x ∈ visit.exchanges, x.2 = call.net x.1 := by
  have hfirst : ∀ {known' : Option Endpoints} {xs : List Exchange},
      Found lib config (configured config call.action) call.net known known' xs →
        ∀ x ∈ xs, x.2 = call.net x.1 := by
    intro known' xs hfound x hx
    cases hfound with
    | kept => exact absurd hx List.not_mem_nil
    | fetched hexplicit hknown =>
        rw [List.mem_singleton] at hx
        rw [hx]
  cases h with
  | refused hfound howner hretry => exact hfirst hfound
  | asked hfound hurl hclient =>
      intro x hx
      rcases List.mem_append.mp hx with hx | hx
      · exact hfirst hfound x hx
      · rw [List.mem_singleton] at hx
        rw [hx]

/-- The memory of discovery, counted. -/
theorem Visited.discovery {call : Call} {visit : Visit AuthOutcome} {before : List Exchange}
    (h : Visited lib config call known visit)
    (hcount : before.countP (fun x => (discovered lib config x).isSome)
      = if known.isSome then 1 else 0) :
    (before ++ visit.exchanges).countP (fun x => (discovered lib config x).isSome)
      = if visit.discovery.isSome then 1 else 0 := by
  have hfirst : ∀ {known' : Option Endpoints} {xs : List Exchange},
      Found lib config (configured config call.action) call.net known known' xs →
        (before ++ xs).countP (fun x => (discovered lib config x).isSome)
          = if known'.isSome then 1 else 0 := by
    intro known' xs hfound
    cases hfound with
    | kept => rw [List.append_nil, hcount]
    | fetched hexplicit hknown =>
        rw [List.countP_append, hcount, hknown, List.countP_singleton, discovered_discovery]
        rw [Option.isSome_none, if_neg Bool.false_ne_true, Nat.zero_add]
  cases h with
  | refused hfound howner hretry => exact hfirst hfound
  | asked hfound hurl hclient =>
      rw [← List.append_assoc, List.countP_append, hfirst hfound, List.countP_singleton,
        discovered_credential]
      rw [Option.isSome_none, if_neg Bool.false_ne_true, Nat.add_zero]

/-- What is known after a call was discovered in one of the exchanges up to then. -/
theorem Visited.remembers {call : Call} {visit : Visit AuthOutcome} {before : List Exchange}
    (h : Visited lib config call known visit)
    (hknown : ∀ e, known = some e → ∃ x ∈ before, discovered lib config x = some e) :
    ∀ e, visit.discovery = some e →
      ∃ x ∈ before ++ visit.exchanges, discovered lib config x = some e := by
  have hfirst : ∀ {known' : Option Endpoints} {xs : List Exchange},
      Found lib config (configured config call.action) call.net known known' xs →
        ∀ e, known' = some e → ∃ x ∈ before ++ xs, discovered lib config x = some e := by
    rintro known' xs hfound e rfl
    rcases hfound.source_of with ⟨hbefore, rfl⟩ | ⟨x, hx, hdiscovered⟩
    · rw [List.append_nil]
      exact hknown e hbefore
    · exact ⟨x, List.mem_append_right _ hx, hdiscovered⟩
  cases h with
  | refused hfound howner hretry => exact hfirst hfound
  | asked hfound hurl hclient =>
      intro e he
      obtain ⟨x, hx, hdiscovered⟩ := hfirst hfound e he
      rw [← List.append_assoc]
      exact ⟨x, List.mem_append_left _ hx, hdiscovered⟩

end OneLookup

/-! ## 8. The form -/

theorem alphanumeric_plain : Percent.Plain Sys.is_alphanumeric :=
  Percent.plain_of_forall (by decide +kernel)

/-- No delimiter of a form is in a token as it is written into it. -/
theorem delimiter_not_mem_form {c : Char} (hc : c ∈ ['&', '=', '+']) (token : String) :
    c ∉ Percent.utf8_percent_encode Sys.is_alphanumeric token := by
  have hkeep : ∀ n : Fin 256, Sys.is_alphanumeric (UInt8.ofNat n.val) = true →
      Char.ofNat n.val ∉ ['&', '=', '+'] := by decide +kernel
  have hhex : ∀ n : Fin 16, Percent.hex_digit n.val ∉ ['&', '=', '+'] := by decide
  have hpercent : '%' ∉ ['&', '=', '+'] := by decide
  refine Percent.not_mem_encode (fun n hn heq => ?_) (fun heq => ?_) (fun n heq => ?_) _
  · exact hkeep n hn (heq ▸ hc)
  · exact hpercent (heq ▸ hc)
  · exact hhex n (heq ▸ hc)

/-- The form has one field, whatever the token is. What is special in a form is escaped in the
token, so the text has one `=`, in front of it, and no `&`. -/
theorem parse_form_body (token : String) :
    Uri.parse_form (form_body token).toList = [(Text.utf8 "token", Text.utf8 token)] := by
  have hlist : (form_body token).toList
      = "token".toList ++ '=' :: Percent.utf8_percent_encode Sys.is_alphanumeric token := by
    rw [form_body, String.toList_append, String.toList_ofList, String.toList_ofList]
    rfl
  have hname : '&' ∉ "token".toList ∧ '=' ∉ "token".toList := by decide
  have hpiece : '&' ∉ (form_body token).toList ∧ (form_body token).toList ≠ [] := by
    rw [hlist]
    refine ⟨?_, List.append_ne_nil_of_right_ne_nil _ (List.cons_ne_nil _ _)⟩
    rw [List.mem_append, List.mem_cons, not_or, not_or]
    exact ⟨hname.1, by decide, delimiter_not_mem_form (by decide) token⟩
  have hform := Uri.parse_form_intercalate (List.cons_ne_nil (form_body token).toList [])
    fun piece hmem => by
      rw [List.mem_singleton] at hmem
      exact hmem ▸ hpiece
  rw [List.intercalate_singleton, List.map_singleton] at hform
  have hvalue : Percent.decode (Uri.plus (Percent.utf8_percent_encode Sys.is_alphanumeric token))
      = Text.utf8 token := by
    rw [Uri.plus_of_not_mem (delimiter_not_mem_form (by decide) token)]
    exact Percent.decode_encode alphanumeric_plain _
  rw [hform, hlist, Uri.parse_pair, Uri.cut_append hname.2]
  show [(Percent.decode (Uri.plus "token".toList), Percent.decode _)] = _
  rw [Option.getD_some, hvalue]
  rfl

/-! ## 9. The session -/

/-- A key of the cache tells the action and the token. The separator is none of the characters of
an action's name. -/
theorem cache_key_inj {a b : Action} {s t : String} (h : cache_key a s = cache_key b t) :
    a = b ∧ s = t := by
  have hlist := congrArg String.toList h
  simp only [cache_key, String.toList_append] at hlist
  cases a with
  | user_info =>
      cases b with
      | user_info => exact ⟨rfl, String.toList_injective (List.append_cancel_left hlist)⟩
      | introspect => simp [Action.as_str] at hlist
  | introspect =>
      cases b with
      | user_info => simp [Action.as_str] at hlist
      | introspect => exact ⟨rfl, String.toList_injective (List.append_cancel_left hlist)⟩

section Sessions

variable {lib : AuthLib} {config : AuthConfig} {world : Metering.World}

/-- What holds of a session after any lookups. -/
structure Inv (lib : AuthLib) (config : AuthConfig) (session : Session) : Prop where
  known : ∀ e, session.discovery = some e →
    ∃ x ∈ seen session.log, discovered lib config x = some e
  count : (seen session.log).countP (fun x => (discovered lib config x).isSome)
    = if session.discovery.isSome then 1 else 0
  cached : ∀ action token res, session.cache (cache_key action token) = some res
    ↔ ∃ earlier ∈ session.log, earlier.action = action ∧ earlier.token = token
      ∧ earlier.result = .ok res
  safe : AuthSafe lib config session

theorem seen_snoc (log : List Lookup) (lookup : Lookup) :
    seen (log ++ [lookup]) = seen log ++ lookup.exchanges := by
  simp [seen]

theorem exists_mem_snoc {log : List Lookup} {lookup : Lookup} {p : Lookup → Prop} :
    (∃ l ∈ log ++ [lookup], p l) ↔ (∃ l ∈ log, p l) ∨ p lookup := by
  simp only [List.mem_append, List.mem_singleton, or_and_right, exists_or, exists_eq_left]

/-- A fresh session has asked nothing and knows nothing. Each clause is about the log, the cache
or the discovery document, and all three are empty. -/
theorem inv_new : Inv lib config {} where
  known := fun _ h => absurd h.symm (Option.some_ne_none _)
  count := rfl
  cached := fun _ _ _ => iff_of_false (fun h => absurd h.symm (Option.some_ne_none _)) fun h =>
    absurd h.choose_spec.1 List.not_mem_nil
  safe :=
    { lookups := fun _ h => absurd h List.not_mem_nil
      discovery := Nat.zero_le _
      forms := fun _ h => absurd h List.not_mem_nil
      metered := rfl }

theorem backend_call_metrics (session : Session) (call : Call) :
    (backend_call lib config world session call).1.2.length = session.metrics.length + 1 :=
  List.length_append

/-- Every form is that of the token that is looked up. -/
theorem credential_body {action : Action} {token url body : String}
    (h : (credential_request config action token url).body = some body) :
    body = form_body token := by
  cases action with
  | user_info => cases h
  | introspect => exact (Option.some.inj h).symm

/-- An answer that comes back is the backend's. -/
theorem answer_ok {seam : Seam} {result : Except AuthError AuthOutcome} {res : String}
    (h : seam.answer ((result.mapError AuthError.into_resource_error).map AuthOutcome.json)
      = .ok res) : ∃ out, result = .ok out ∧ res = out.json := by
  cases seam with
  | refuses err => cases h
  | loses err => cases h
  | passes =>
      cases result with
      | error err => cases h
      | ok out =>
          cases h
          exact ⟨out, rfl, rfl⟩

/-- An error that comes back is the seam's own, or the backend's. -/
theorem answer_error {seam : Seam} {result : Except AuthError AuthOutcome} {error : EgressError}
    (hreaches : seam.reaches = true)
    (h : seam.answer ((result.mapError AuthError.into_resource_error).map AuthOutcome.json)
      = .error error) :
    seam = .loses error
      ∨ seam = .passes ∧ ∃ err, result = .error err ∧ error = err.into_resource_error := by
  cases seam with
  | refuses err => cases hreaches
  | loses err =>
      cases h
      exact .inl rfl
  | passes =>
      cases result with
      | error err =>
          cases h
          exact .inr ⟨rfl, err, rfl, rfl⟩
      | ok out => cases h

/-- A lookup that sends nothing adds its line to the log and nothing else. If an earlier lookup
has its answer already, the cache stands for the longer log as well. -/
theorem Inv.quiet {session : Session} (h : Inv lib config session) {lookup : Lookup}
    (hsent : lookup.exchanges = []) (hlawful : Lawful lib config session.log lookup)
    (hold : ∀ res, lookup.result = .ok res → ∃ earlier ∈ session.log, lookup.Repeats res earlier)
    (hasked : lookup.Asked session.log = false) :
    Inv lib config { session with log := session.log ++ [lookup] } := by
  have hseen : seen (session.log ++ [lookup]) = seen session.log := by
    rw [seen_snoc, hsent, List.append_nil]
  constructor
  · rw [hseen]
    exact h.known
  · rw [hseen]
    exact h.count
  · intro action token res
    rw [h.cached, exists_mem_snoc]
    refine (or_iff_left_of_imp ?_).symm
    rintro ⟨rfl, rfl, hok⟩
    exact hold res hok
  · constructor
    · intro moment hmoment
      rw [Machine.moments_snoc, List.mem_append, List.mem_singleton] at hmoment
      rcases hmoment with hmoment | rfl
      · exact h.safe.lookups moment hmoment
      · exact hlawful
    · rw [hseen]
      exact h.safe.discovery
    · intro other hother x hx
      rcases List.mem_append.mp hother with hother | hother
      · exact h.safe.forms other hother x hx
      · rw [List.mem_singleton] at hother
        subst hother
        rw [hsent] at hx
        exact absurd hx List.not_mem_nil
    · rw [Machine.moments_snoc, List.countP_append, ← h.safe.metered, List.countP_singleton,
        hasked]
      rfl

/-- A lookup that was answered before goes nowhere. The cache holds one answer under its key, and
the invariant says which earlier lookup that was the answer to. -/
theorem Inv.hit {session : Session} (h : Inv lib config session) {call : Call} {res : String}
    (hcache : session.cache (cache_key call.action call.token) = some res) :
    Inv lib config { session with log := session.wrote call [] (.ok res) } := by
  obtain ⟨earlier, hmem, haction, htoken, hres⟩ := (h.cached _ _ _).mp hcache
  refine h.quiet rfl ?_ ?_ ?_
  · constructor
    · rintro e he res' ⟨haction', htoken', hres'⟩
      -- the cache holds one result under a key
      have hsame := (h.cached _ _ _).mpr ⟨e, he, haction', htoken', hres'⟩
      rw [hcache] at hsame
      exact ⟨rfl, congrArg Except.ok (Option.some.inj hsame)⟩
    · exact fun x hx => absurd hx List.not_mem_nil
    · intro res' hok
      cases hok
      exact .inl ⟨earlier, hmem, haction, htoken, hres⟩
    · intro error herror
      cases herror
  · intro res' hok
    cases hok
    exact ⟨earlier, hmem, haction, htoken, hres⟩
  · rw [Lookup.Asked, Bool.and_eq_false_iff, Bool.not_eq_false', List.any_eq_true]
    exact .inr ⟨earlier, hmem, by simp [haction, htoken, hres, Except.toOption]⟩

/-- What is not in the cache was never answered. -/
theorem Inv.unanswered {session : Session} (h : Inv lib config session) {action : Action}
    {token : String} (hcache : session.cache (cache_key action token) = none) :
    ∀ e ∈ session.log, e.action = action → e.token = token → ∀ res, e.result ≠ .ok res := by
  intro e he haction htoken res hres
  have hhit := (h.cached _ _ _).mpr ⟨e, he, haction, htoken, hres⟩
  exact absurd (hcache.symm.trans hhit).symm (Option.some_ne_none _)

/-- A lookup the seam refuses does not get to the backend. Nothing is sent, nothing is recorded,
and its error, which is the seam's own, is not kept. -/
theorem Inv.refused {session : Session} (h : Inv lib config session) {call : Call}
    (hcache : session.cache (cache_key call.action call.token) = none) {err : EgressError}
    (hseam : call.seam = .refuses err) :
    Inv lib config { session with log := session.wrote call [] (.error err) } := by
  refine h.quiet rfl ?_ (fun res hok => ?_) ?_
  · constructor
    · rintro e he res ⟨haction, htoken, hres⟩
      exact absurd hres (h.unanswered hcache e he haction htoken res)
    · exact fun x hx => absurd hx List.not_mem_nil
    · intro res hok
      cases hok
    · intro error herror
      cases herror
      exact .refused hseam rfl
  · cases hok
  · rw [Lookup.Asked, hseam]
    rfl

/-- The cache after a lookup that was not answered before: what it held, and the answer if one came
back. -/
theorem Inv.cached_miss {session : Session} (h : Inv lib config session) {lookup : Lookup}
    (hcache : session.cache (cache_key lookup.action lookup.token) = none) (action : Action)
    (token res : String) :
    (lookup.result.toOption.elim session.cache fun res =>
        Function.update session.cache (cache_key lookup.action lookup.token) (some res))
        (cache_key action token) = some res
      ↔ ∃ earlier ∈ session.log ++ [lookup], earlier.action = action ∧ earlier.token = token
        ∧ earlier.result = .ok res := by
  rw [exists_mem_snoc]
  cases hout : lookup.result with
  | error err =>
      show session.cache (cache_key action token) = some res ↔ _
      rw [h.cached]
      refine (or_iff_left ?_).symm
      rintro ⟨-, -, hok⟩
      cases hok
  | ok res' =>
      show Function.update session.cache _ (some res') (cache_key action token) = some res ↔ _
      by_cases hkey : cache_key action token = cache_key lookup.action lookup.token
      · obtain ⟨rfl, rfl⟩ := cache_key_inj hkey
        rw [Function.update_self]
        refine Iff.trans ?_ (or_iff_right ?_).symm
        · simp only [Option.some.injEq, Except.ok.injEq, true_and]
        · rintro ⟨e, he, haction, htoken, hres⟩
          exact h.unanswered hcache e he haction htoken res hres
      · rw [Function.update_of_ne hkey, h.cached]
        refine (or_iff_left ?_).symm
        rintro ⟨haction, htoken, -⟩
        exact hkey (congrArg₂ cache_key haction htoken).symm

/-- It is lawful: what it sends and what it answers are the backend's, and its errors are the
backend's or the seam's. -/
theorem Inv.lawful_miss {session : Session} (h : Inv lib config session) {call : Call}
    (hcache : session.cache (cache_key call.action call.token) = none)
    (hreaches : call.seam.reaches = true) {visit : Visit AuthOutcome}
    (hvisit : Visited lib config call session.discovery visit) {result : Except EgressError String}
    (hresult : result = call.seam.answer
      ((visit.result.mapError AuthError.into_resource_error).map AuthOutcome.json)) :
    Lawful lib config session.log
      ⟨call.action, call.token, call.seam, visit.exchanges, result⟩ := by
  constructor
  · rintro e he res ⟨haction, htoken, hres⟩
    exact absurd hres (h.unanswered hcache e he haction htoken res)
  · exact hvisit.sent h.known
  · intro res hok
    obtain ⟨out, hout, rfl⟩ := answer_ok (hresult.symm.trans hok)
    exact .inr (hvisit.result_ok hout)
  · intro error herror
    rcases answer_error hreaches (hresult.symm.trans herror) with hlost | ⟨hseam, err, hout, rfl⟩
    · exact .lost hlost
    · obtain ⟨howner, hretry⟩ := hvisit.result_error hout
      exact .backend hseam rfl howner hretry

/-- It counts as one that asks the backend: the seam lets it through, and since the cache has
nothing for it, no earlier lookup of the token was answered. -/
theorem Inv.asked_miss {session : Session} (h : Inv lib config session) {lookup : Lookup}
    (hcache : session.cache (cache_key lookup.action lookup.token) = none)
    (hreaches : lookup.seam.reaches = true) : lookup.Asked session.log = true := by
  rw [Lookup.Asked, Bool.and_eq_true, Bool.not_eq_true', List.any_eq_false]
  refine ⟨hreaches, fun e he hany => ?_⟩
  simp only [Bool.and_eq_true, beq_iff_eq, Option.isSome_iff_exists] at hany
  obtain ⟨⟨haction, htoken⟩, res, hres⟩ := hany
  cases hout : e.result with
  | error err =>
      rw [hout] at hres
      cases hres
  | ok res' => exact h.unanswered hcache e he haction htoken res' hout

/-- A lookup that was not answered before: what the backend does, and what comes back and is kept
of it. -/
theorem Inv.miss {session : Session} (h : Inv lib config session) {call : Call}
    (hcache : session.cache (cache_key call.action call.token) = none)
    (hreaches : call.seam.reaches = true) {visit : Visit AuthOutcome}
    (hvisit : Visited lib config call session.discovery visit) {metrics : List AuthMetric}
    (hmetrics : metrics.length = session.metrics.length + 1) {result : Except EgressError String}
    (hresult : result = call.seam.answer
      ((visit.result.mapError AuthError.into_resource_error).map AuthOutcome.json)) :
    Inv lib config
      { discovery := visit.discovery
        metrics := metrics
        cache := result.toOption.elim session.cache fun res =>
          Function.update session.cache (cache_key call.action call.token) (some res)
        log := session.wrote call visit.exchanges result } := by
  unfold Session.wrote
  have hcount := hvisit.discovery h.count
  have hlawful := h.lawful_miss hcache hreaches hvisit hresult
  constructor
  · rw [seen_snoc]
    exact hvisit.remembers h.known
  · rw [seen_snoc]
    exact hcount
  · exact @Inv.cached_miss lib config session h ⟨_, _, _, _, result⟩ hcache
  · constructor
    · intro moment hmoment
      rw [Machine.moments_snoc, List.mem_append, List.mem_singleton] at hmoment
      rcases hmoment with hmoment | rfl
      · exact h.safe.lookups moment hmoment
      · exact hlawful
    · rw [seen_snoc, hcount]
      split
      · exact Nat.le_refl _
      · exact Nat.zero_le _
    · intro lookup hlookup x hx body hbody
      rcases List.mem_append.mp hlookup with hlookup | hlookup
      · exact h.safe.forms lookup hlookup x hx body hbody
      · rw [List.mem_singleton] at hlookup
        subst hlookup
        rcases hlawful.sent x hx with ⟨hdiscovery, -⟩ | ⟨⟨url, -, hrequest⟩, -⟩
        · rw [hdiscovery] at hbody
          cases hbody
        · rw [hrequest] at hbody
          rw [credential_body hbody]
          exact parse_form_body call.token
    · rw [Machine.moments_snoc, List.countP_append, ← h.safe.metered, List.countP_singleton, if_pos]
      · exact hmetrics
      · exact h.asked_miss hcache hreaches

/-- One lookup keeps the invariant. It is answered from the cache, refused by the seam, or it
reaches the backend, whether or not the answer gets back. -/
theorem memo_inv {session : Session} (h : Inv lib config session) (call : Call) :
    Inv lib config (memo lib config world session call) := by
  have hreach : session.cache (cache_key call.action call.token) = none →
      call.seam.reaches = true → Inv lib config (reach lib config world session call) :=
    fun hcache hreaches => h.miss hcache hreaches (dispatch_visited call session.discovery)
      (@backend_call_metrics lib config world session call) rfl
  unfold memo
  cases hcache : session.cache (cache_key call.action call.token) with
  | some res => exact h.hit hcache
  | none =>
      dsimp only
      split
      · rename_i err hseam
        exact h.refused hcache hseam
      · rename_i hseam
        exact hreach hcache (by rw [hseam]; rfl)
      · rename_i err hseam
        exact hreach hcache (by rw [hseam]; rfl)

/-- **Every run keeps the invariant**, from the empty session on. -/
theorem run_inv (calls : List Call) : Inv lib config (run lib config world calls) := by
  induction calls using List.reverseRecOn with
  | nil => exact inv_new
  | append_singleton calls call ih =>
      rw [run, List.foldl_append, List.foldl_cons, List.foldl_nil]
      exact memo_inv ih call

end Sessions

end Runlet.Auth
