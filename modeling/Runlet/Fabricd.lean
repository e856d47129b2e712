/-
The daemon as a whole (`crates/fabricd/src/auth.rs` and `main.rs`): its listeners, whom each of them
lets in, and what a run of it hands out.

Sessions run side by side. What they share is the operator table, which nothing writes, the key cache,
which the refresh task swaps, and the counter of rejected tokens. A session reads the cache once, at
the moment it presents its token, and adds to the counter right behind it. So a run is a list of
refreshes and of sessions in the order of those moments, and a session is served whole (`serve`) with
the authenticator of its moment.

`daemon_serves` says what such a run hands out. Who is let in is read off the configuration and the
refreshes (`Admits`), not off the authenticator.
-/
import Runlet.Handler
import Runlet.Lib.Machine
import Runlet.SaToken
import Runlet.Serve

set_option autoImplicit false

namespace Runlet.Fabricd

open Effects Text Runlet.Wire Runlet.Resources Runlet.Backends Runlet.SaToken Runlet.Serve
open Runlet.Handler ( ct_eq)

/-! ## 1. Client authentication -/

/-- `AuthMode`. -/
inductive AuthMode
  | none
  | static
  | sa_token
  deriving DecidableEq, Repr

/-- `ClientAuthConfig`. -/
structure ClientAuthConfig where
  mode : AuthMode := .none
  static_token : Option String := none
  previous_token : Option String := none
  audience : Option String := none
  issuer : Option String := none
  jwks_url : Option String := none
  ca_cert : Option String := none
  deriving DecidableEq, Repr

/-- `AuthReject::new`. -/
def reject (message : String) : AuthReject := ⟨"UNAUTHENTICATED", message⟩

/-- `VerifyError`, as it is displayed. -/
def display : VerifyError → String
  | .keys_not_loaded => "sa-token verifier not ready (JWKS not loaded)"
  | .missing_kid => "token header missing kid"
  | .unknown_kid => "no JWKS key matches the token kid"
  | .invalid reason => "token invalid: " ++ reason
  | .internal => "internal verifier error"

/-- The three providers. -/
inductive Authenticator (δ : Type)
  | none
  | static (current : String) (previous : Option String)
  | sa_token (verifier : JwksVerifier δ)

/-- `filter(|value| !value.is_empty())`. -/
def non_empty (value : Option String) : Option String := value.filter fun s => s ≠ ""

def ok_or {α : Type} (message : String) : Option α → Except String α
  | some a => .ok a
  | none => .error message

section Auth

variable {κ δ : Type}

/-- `build_sa_token`; `build_client` is the HTTP client of the key set, with its CA bundle. -/
def build_sa_token (build_client : Option String → Except String Unit) (cfg : ClientAuthConfig) :
    Except String (Authenticator δ) := do
  let issuer ← ok_or "quic.auth.mode = sa-token requires an issuer" (non_empty cfg.issuer)
  let audience ← ok_or "quic.auth.mode = sa-token requires an audience" (non_empty cfg.audience)
  build_client cfg.ca_cert
  return .sa_token (JwksVerifier.spawn δ issuer audience (non_empty cfg.jwks_url))

/-- `auth::build`. -/
def build (build_client : Option String → Except String Unit) (cfg : ClientAuthConfig) :
    Except String (Authenticator δ) :=
  match cfg.mode with
  | .none => .ok .none
  | .static => do
    let current ← ok_or "quic.auth.mode = static requires a non-empty static_token"
      (non_empty cfg.static_token)
    return .static current (non_empty cfg.previous_token)
  | .sa_token => build_sa_token build_client cfg

/-- `StaticAuthenticator::authenticate`, once a token is there. -/
def authenticate_static (current : String) (previous : Option String) (presented : String) :
    Except AuthReject Unit :=
  if ct_eq (utf8 presented) (utf8 current) then .ok ()
  else
    match previous with
    | some previous =>
      if ct_eq (utf8 presented) (utf8 previous) then .ok ()
      else .error (reject "client auth token rejected")
    | none => .error (reject "client auth token rejected")

/-- `ClientAuthenticator::authenticate`, at an instant. -/
def Authenticator.authenticate (jwt : Jwt κ δ) (now : ℕ) (token : Option String) :
    Authenticator δ → Except AuthReject Unit
  | .none => .ok ()
  | .static current previous => do
    match token with
    | .none => .error (reject "missing client auth token")
    | some presented => authenticate_static current previous presented
  | .sa_token verifier => do
    match token with
    | .none => .error (reject "missing client auth token")
    | some presented =>
      (verifier.verify jwt now presented).mapError fun err => reject (display err)

end Auth

/-! ## 2. The daemon -/

/-- `FabricdConfig`, with the `quic` block as far as it names a listener. -/
structure FabricdConfig where
  socket : Option String := none
  resources : Table := ∅
  max_statement_timeout_ms : UInt64 := 0
  quic : Option ClientAuthConfig := none

inductive Listener
  | uds
  | quic
  deriving DecidableEq, Repr

/-- The state its sessions share, and the authenticator of each listener that is there. -/
structure Daemon (δ : Type) where
  table : Table
  max_statement_timeout_ms : UInt64
  auth_failures : UInt64
  uds : Option (Authenticator δ)
  quic : Option (Authenticator δ)

/-- `DEFAULT_SOCKET`. -/
def DEFAULT_SOCKET : String := "/tmp/fabricd.sock"

/-- The socket `main` binds: an explicit one, or the default where nothing else listens. -/
def uds_path (env_socket : Option String) (config : FabricdConfig) : Option String :=
  (env_socket.or config.socket).or (if config.quic.isNone then some DEFAULT_SOCKET else none)

section Run

variable {κ δ : Type}

/-- The provider of the QUIC listener, if there is one. -/
def quic_auth (build_client : Option String → Except String Unit) :
    Option ClientAuthConfig → Except String (Option (Authenticator δ))
  | none => .ok none
  | some cfg => do return some (← build build_client cfg)

/-- `main`, up to the accept loops. A socket is gated by the file system, so its listener takes no
token. -/
def start (build_client : Option String → Except String Unit) (env_socket : Option String)
    (config : FabricdConfig) : Except String (Daemon δ) := do
  Result.fail_if (uds_path env_socket config = none ∧ config.quic = none)
    "no listener configured: set `socket` (UDS) and/or `quic` (remote)"
  let uds_auth ← build build_client {}
  let quic ← quic_auth build_client config.quic
  return {
    table := config.resources, max_statement_timeout_ms := config.max_statement_timeout_ms
    auth_failures := 0
    uds := (uds_path env_socket config).map fun _ => uds_auth
    quic }

def Daemon.listener (d : Daemon δ) : Listener → Option (Authenticator δ)
  | .uds => d.uds
  | .quic => d.quic

/-- One client, and all that its session meets. -/
structure Peer where
  stream : Framing.Stream
  /-- The instant it presents its token. -/
  now : ℕ
  request : Codec WireRequest
  response : Codec WireResponse
  drivers : ℕ → Drivers
  join_error : ℕ → Option String
  metrics : ℕ → BackendMetrics
  write_all : ℕ → Except IoError Unit

/-- The session of a client, behind an authenticator. -/
def Daemon.session (jwt : Jwt κ δ) (d : Daemon δ) (authenticator : Authenticator δ) (peer : Peer) :
    Session where
  request := peer.request
  response := peer.response
  authenticate token := authenticator.authenticate jwt peer.now token
  table := d.table
  max_statement_timeout_ms := d.max_statement_timeout_ms
  drivers := peer.drivers
  join_error := peer.join_error
  metrics := peer.metrics
  write_all := peer.write_all

/-- What happens to a daemon. -/
inductive Event (κ : Type)
  /-- The key cache is refreshed, or its lock poisoned. -/
  | keys (event : SaToken.Event κ)
  | session (listener : Listener) (peer : Peer)

/-- The trace of a session. -/
def Daemon.trace (jwt : Jwt κ δ) (d : Daemon δ) (authenticator : Authenticator δ) (peer : Peer) :
    List SessionEffect :=
  (serve (d.session jwt authenticator peer) peer.stream).effects

def Authenticator.step (jwt : Jwt κ δ) (event : SaToken.Event κ) : Authenticator δ → Authenticator δ
  | .none => .none
  | .static current previous => .static current previous
  | .sa_token verifier => .sa_token (verifier.step jwt event)

/-- One event. A session needs its listener; each rejection is one `fetch_add`, which wraps. -/
def Daemon.step (jwt : Jwt κ δ) (d : Daemon δ) : Event κ → Option (Daemon δ)
  | .keys event => some { d with quic := d.quic.map (Authenticator.step jwt event) }
  | .session listener peer =>
    (d.listener listener).map fun authenticator =>
      { d with auth_failures := d.auth_failures
          + UInt64.ofNat ((d.trace jwt authenticator peer).countP (· = .auth_failure)) }

end Run

/-! ## 3. Who is let in -/

/-- The comparison in constant time is equality. -/
theorem ct_eq_iff {s t : String} : ct_eq (utf8 s) (utf8 t) = true ↔ s = t := by
  unfold ct_eq
  constructor
  · intro h
    split at h
    · exact absurd h Bool.false_ne_true
    · exact utf8_injective (eq_of_beq h)
  · rintro rfl
    rw [if_neg (not_not_intro rfl)]
    exact beq_self_eq_true _

section Admits

variable {κ δ : Type}

/-- A service-account token that is good for the issuer and the audience, under the key set of the
latest refresh that succeeded. -/
def Verified (jwt : Jwt κ δ) (issuer audience : String) (jwks_url : Option String)
    (events : List (SaToken.Event κ)) (now : ℕ) (token : String) : Prop :=
  ∃ kid set key claims, jwt.decode_header token = .ok (some kid)
    ∧ latest_set issuer jwks_url events = some set
    ∧ (usable_keys jwt kid set).getLast? = some key
    ∧ jwt.decode now token key { Validation.new .RS256 with
        aud := some [audience], iss := some [issuer] } = .ok claims

/-- Whom the configuration of a listener lets in, after a history of refreshes. -/
def Admits (jwt : Jwt κ δ) (cfg : ClientAuthConfig) (events : List (SaToken.Event κ)) (now : ℕ)
    (token : Option String) : Prop :=
  match cfg.mode with
  | .none => True
  | .static => ∃ presented, token = some presented ∧ presented ≠ ""
      ∧ (cfg.static_token = some presented ∨ cfg.previous_token = some presented)
  | .sa_token => ∃ presented issuer audience, token = some presented ∧ cfg.issuer = some issuer
      ∧ cfg.audience = some audience
      ∧ Verified jwt issuer audience (non_empty cfg.jwks_url) events now presented

theorem non_empty_eq_some {value : Option String} {s : String} :
    non_empty value = some s ↔ value = some s ∧ s ≠ "" := by
  unfold non_empty
  rw [Option.filter_eq_some_iff, decide_eq_true_eq]

/-- What is there is answered. -/
theorem ok_or_eq_ok {α : Type} {message : String} {o : Option α} {a : α} :
    ok_or message o = .ok a ↔ o = some a := by
  cases o with
  | none => exact iff_of_false nofun nofun
  | some b =>
      rw [ok_or, Except.ok.injEq, Option.some.injEq]

/-- A token is let in if it is the current secret or the one before it. Each comparison is
`ct_eq`, which is equality of the bytes, and texts with the same bytes are the same. -/
theorem authenticate_static_ok {current : String} {previous : Option String} {presented : String} :
    authenticate_static current previous presented = .ok ()
      ↔ presented = current ∨ previous = some presented := by
  unfold authenticate_static
  by_cases hcurrent : presented = current
  · rw [if_pos (ct_eq_iff.mpr hcurrent)]
    exact iff_of_true rfl (Or.inl hcurrent)
  · rw [if_neg (mt ct_eq_iff.mp hcurrent)]
    cases previous with
    | none =>
        refine iff_of_false nofun ?_
        rintro (h | h)
        · exact hcurrent h
        · exact absurd h nofun
    | some old =>
        by_cases hold : presented = old
        · dsimp only
          rw [if_pos (ct_eq_iff.mpr hold)]
          exact iff_of_true rfl (Or.inr (congrArg some hold.symm))
        · dsimp only
          rw [if_neg (mt ct_eq_iff.mp hold)]
          refine iff_of_false nofun ?_
          rintro (h | h)
          · exact hcurrent h
          · exact hold (Option.some.inj h).symm

/-- The verifier lets in exactly the tokens that are good under the latest keys, while its lock is
sound. -/
theorem verify_iff {jwt : Jwt κ δ} {issuer audience : String} {jwks_url : Option String}
    {events : List (SaToken.Event κ)} {verifier : JwksVerifier δ}
    (h : Cached jwt issuer audience jwks_url events verifier) {now : ℕ} {token : String} :
    verifier.verify jwt now token = .ok ()
      ↔ verifier.poisoned = false ∧ Verified jwt issuer audience jwks_url events now token := by
  have hvalidation : verifier.validation
      = { Validation.new .RS256 with aud := some [audience], iss := some [issuer] } := by
    rw [JwksVerifier.validation, h.same_audience, h.same_issuer]
  constructor
  · intro hverify
    obtain ⟨kid, map, key, claims, hkid, hsound, hmap, hkey, hclaims⟩ := verify_ok hverify
    rw [h.keys hsound] at hmap
    obtain ⟨set, hset, rfl⟩ := Option.map_eq_some_iff.mp hmap
    rw [build_key_map_lookup] at hkey
    exact ⟨hsound, kid, set, key, claims, hkid, hset, hkey, hvalidation ▸ hclaims⟩
  · rintro ⟨hsound, kid, set, key, claims, hkid, hset, hkey, hclaims⟩
    have hmap : verifier.keys = some (build_key_map jwt set) := by
      rw [h.keys hsound, hset, Option.map_some]
    refine verify_of_checks hkid hsound hmap ?_ (hvalidation ▸ hclaims)
    rw [build_key_map_lookup, hkey]

/-- The authenticator a configuration has after a history of refreshes. -/
inductive Made (jwt : Jwt κ δ) (cfg : ClientAuthConfig) (events : List (SaToken.Event κ)) :
    Authenticator δ → Prop
  | none (hmode : cfg.mode = .none) : Made jwt cfg events .none
  | static {current : String} (hmode : cfg.mode = .static)
    (hcurrent : non_empty cfg.static_token = some current) :
    Made jwt cfg events (.static current (non_empty cfg.previous_token))
  | sa_token {issuer audience : String} {verifier : JwksVerifier δ} (hmode : cfg.mode = .sa_token)
    (hissuer : cfg.issuer = some issuer) (haudience : cfg.audience = some audience)
    (hcached : Cached jwt issuer audience (non_empty cfg.jwks_url) events verifier) :
    Made jwt cfg events (.sa_token verifier)

/-- An authenticator that is built is one for its configuration, before any event of its keys. -/
theorem build_made (jwt : Jwt κ δ) {build_client : Option String → Except String Unit}
    {cfg : ClientAuthConfig} {authenticator : Authenticator δ}
    (h : build build_client cfg = .ok authenticator) : Made jwt cfg [] authenticator := by
  unfold build at h
  cases hmode : cfg.mode with
  | none =>
      rw [hmode] at h
      cases h
      exact .none hmode
  | static =>
      rw [hmode] at h
      obtain ⟨current, hcurrent, h⟩ := Result.bind_eq_ok.mp h
      cases h
      exact .static hmode (ok_or_eq_ok.mp hcurrent)
  | sa_token =>
      rw [hmode] at h
      unfold build_sa_token at h
      obtain ⟨issuer, hissuer, h⟩ := Result.bind_eq_ok.mp h
      obtain ⟨audience, haudience, h⟩ := Result.bind_eq_ok.mp h
      obtain ⟨u, -, h⟩ := Result.bind_eq_ok.mp h
      cases h
      exact .sa_token hmode (non_empty_eq_some.mp (ok_or_eq_ok.mp hissuer)).1
        (non_empty_eq_some.mp (ok_or_eq_ok.mp haudience)).1 (cached_after jwt _ _ _ [])

/-- What the key cache stands for is kept by each event of the keys. A refresh that is read takes
the place of the cache, one that fails leaves it, and to verify a token or to poison the lock
changes no key. -/
theorem cached_step {jwt : Jwt κ δ} {issuer audience : String} {jwks_url : Option String}
    {events : List (SaToken.Event κ)} {verifier : JwksVerifier δ}
    (h : Cached jwt issuer audience jwks_url events verifier) (e : SaToken.Event κ) :
    Cached jwt issuer audience jwks_url (events ++ [e]) (verifier.step jwt e) := by
  cases e with
  | refresh client => exact cached_refresh h client
  | verify now token =>
      refine ⟨h.same_issuer, h.same_audience, h.same_url, ?_⟩
      rw [latest_set_snoc]
      exact h.keys
  | poison =>
      refine ⟨h.same_issuer, h.same_audience, h.same_url, ?_⟩
      intro hsound
      exact absurd hsound nofun

/-- An authenticator stays one for its configuration, with one more event of its keys behind it.
-/
theorem made_step {jwt : Jwt κ δ} {cfg : ClientAuthConfig} {events : List (SaToken.Event κ)}
    {authenticator : Authenticator δ} (h : Made jwt cfg events authenticator)
    (e : SaToken.Event κ) : Made jwt cfg (events ++ [e]) (authenticator.step jwt e) := by
  cases h with
  | none hmode => exact .none hmode
  | static hmode hcurrent => exact .static hmode hcurrent
  | sa_token hmode hissuer haudience hcached =>
      exact .sa_token hmode hissuer haudience (cached_step hcached e)

/-- The lock of the key cache is not poisoned. -/
def Authenticator.Sound : Authenticator δ → Prop
  | .none => True
  | .static _ _ => True
  | .sa_token verifier => verifier.poisoned = false

/-- Once poisoned, the lock stays so: no refresh mends it, because a refresh writes the keys under
the lock and does nothing where it cannot take it. -/
theorem poisoned_step (jwt : Jwt κ δ) (verifier : JwksVerifier δ) (event : SaToken.Event κ) :
    (verifier.step jwt event).poisoned = false ↔ verifier.poisoned = false ∧ event ≠ .poison := by
  cases event with
  | refresh client =>
      have hsame : (verifier.refresh jwt client).poisoned = verifier.poisoned := by
        unfold JwksVerifier.refresh
        split
        · split
          · rfl
          · rfl
        · rfl
      rw [JwksVerifier.step, hsame]
      simp
  | verify now token => simp [JwksVerifier.step]
  | poison =>
      refine iff_of_false (fun hsound => ?_) fun h => h.2 rfl
      cases hsound

/-- A key cache that was just made is sound. -/
theorem poisoned_build {build_client : Option String → Except String Unit}
    {cfg : ClientAuthConfig} {verifier : JwksVerifier δ}
    (h : build build_client cfg = .ok (.sa_token verifier)) : verifier.poisoned = false := by
  unfold build at h
  cases hmode : cfg.mode with
  | none =>
      rw [hmode] at h
      cases h
  | static =>
      rw [hmode] at h
      obtain ⟨current, -, h⟩ := Result.bind_eq_ok.mp h
      cases h
  | sa_token =>
      rw [hmode] at h
      unfold build_sa_token at h
      obtain ⟨issuer, -, h⟩ := Result.bind_eq_ok.mp h
      obtain ⟨audience, -, h⟩ := Result.bind_eq_ok.mp h
      obtain ⟨u, -, h⟩ := Result.bind_eq_ok.mp h
      cases h
      rfl

/-- **Whom an authenticator lets in**: those its configuration admits. Mode by mode: everyone, a
bearer of one of the two secrets, or a bearer of a service-account token that the latest keys
verify; the last mode asks for a sound lock, too. -/
theorem authenticate_iff {jwt : Jwt κ δ} {cfg : ClientAuthConfig}
    {events : List (SaToken.Event κ)} {authenticator : Authenticator δ}
    (h : Made jwt cfg events authenticator) {now : ℕ} {token : Option String} :
    authenticator.authenticate jwt now token = .ok ()
      ↔ Admits jwt cfg events now token ∧ authenticator.Sound := by
  unfold Admits
  cases h with
  | none hmode =>
      rw [hmode]
      exact iff_of_true rfl ⟨trivial, trivial⟩
  | @static current hmode hcurrent =>
      rw [hmode]
      obtain ⟨hstatic, hne⟩ := non_empty_eq_some.mp hcurrent
      cases token with
      | none =>
          refine iff_of_false nofun ?_
          rintro ⟨⟨presented, h, -⟩, -⟩
          exact absurd h nofun
      | some presented =>
          have hauth : Authenticator.authenticate jwt now (some presented)
              (.static current (non_empty cfg.previous_token) : Authenticator δ)
              = authenticate_static current (non_empty cfg.previous_token) presented := rfl
          rw [hauth, authenticate_static_ok, non_empty_eq_some]
          constructor
          · rintro (rfl | ⟨hprevious, hnonempty⟩)
            · exact ⟨⟨presented, rfl, hne, Or.inl hstatic⟩, trivial⟩
            · exact ⟨⟨presented, rfl, hnonempty, Or.inr hprevious⟩, trivial⟩
          · rintro ⟨⟨presented', heq, hnonempty, htoken⟩, -⟩
            obtain rfl : presented = presented' := Option.some.inj heq
            rcases htoken with htoken | htoken
            · exact Or.inl (Option.some.inj (htoken.symm.trans hstatic))
            · exact Or.inr ⟨htoken, hnonempty⟩
  | @sa_token issuer audience verifier hmode hissuer haudience hcached =>
      rw [hmode]
      cases token with
      | none =>
          refine iff_of_false nofun ?_
          rintro ⟨⟨presented, _, _, h, -⟩, -⟩
          exact absurd h nofun
      | some presented =>
          have hauth : Authenticator.authenticate jwt now (some presented) (.sa_token verifier)
              = (verifier.verify jwt now presented).mapError fun err => reject (display err) := rfl
          rw [hauth, Result.mapError_eq_ok, verify_iff hcached]
          constructor
          · rintro ⟨hsound, hverified⟩
            exact ⟨⟨presented, issuer, audience, rfl, hissuer, haudience, hverified⟩, hsound⟩
          · rintro ⟨⟨presented', issuer', audience', heq, hissuer', haudience', hverified⟩, hsound⟩
            obtain rfl : presented = presented' := Option.some.inj heq
            obtain rfl : issuer = issuer' := Option.some.inj (hissuer.symm.trans hissuer')
            obtain rfl : audience = audience' := Option.some.inj (haudience.symm.trans haudience')
            exact ⟨hsound, hverified⟩

end Admits

/-! ## 4. What a session is given -/

/-- A binding under the operator's ceiling on the database timeout. -/
def under_ceiling (ceiling_ms : UInt64) : ResourceBinding → ResourceBinding
  | .db config =>
    if ceiling_ms = 0 then .db config
    else
      .db { config with
        statement_timeout_ms :=
          if config.statement_timeout_ms = 0 then ceiling_ms
          else min config.statement_timeout_ms ceiling_ms }
  | binding => binding

/-- Every slot is that of the configurations, except that the database has the smaller of the two
timeouts. -/
theorem slot_under_ceiling (configs : ResolvedConfigs) (ceiling_ms : UInt64) (k : Kind) :
    (configs.clamp_db_statement_timeout ceiling_ms).slot k
      = (configs.slot k).map (under_ceiling ceiling_ms) := by
  unfold ResolvedConfigs.clamp_db_statement_timeout
  by_cases hzero : ceiling_ms = 0
  · rw [if_pos hzero]
    have hid : under_ceiling ceiling_ms = id := by
      funext binding
      cases binding with
      | db config => exact if_pos hzero
      | _ => rfl
    rw [hid, Option.map_id, id]
  · rw [if_neg hzero]
    cases k with
    | db =>
        cases hdb : configs.db with
        | none => simp [ResolvedConfigs.slot, hdb]
        | some config => simp [ResolvedConfigs.slot, hdb, under_ceiling, hzero]
    | _ => simp [ResolvedConfigs.slot, Option.map_map, Function.comp_def, under_ceiling]

/-- An entry of the operator table that a session may use for a kind: its own tenant's, under the
name the session selected. -/
structure Entry (table : Table) (init : WireInit) (k : Kind) (entry : TenantResourceBinding) : Prop where
  named : ∃ name, init.named k = some name ∧ table.lookup name = some entry
  tenant : entry.tenant = init.tenant
  kind : entry.binding.kind = k

/-- Every backend of a session is an entry of its own. -/
theorem open_backends_entry {table : Table} {ceiling_ms : UInt64} {init : WireInit}
    {set : BackendSet} (h : open_backends table ceiling_ms init = .ok set) {k : Kind}
    {backend : ResourceBinding} (hslot : set.slot k = some backend) :
    ∃ entry, Entry table init k entry ∧ backend = under_ceiling ceiling_ms entry.binding := by
  unfold open_backends at h
  cases hresolve : resolve table init with
  | error err =>
      rw [hresolve] at h
      exact absurd h nofun
  | ok configs =>
      rw [hresolve] at h
      have hset := Except.ok.inj h
      rw [← hset, BackendSet.slot_from_configs, slot_under_ceiling] at hslot
      obtain ⟨binding, hbinding, rfl⟩ := Option.map_eq_some_iff.mp hslot
      obtain ⟨name, entry, hname, hlookup, htenant, rfl, hkind⟩ :=
        (resolve_granted hresolve k).1 binding hbinding
      exact ⟨entry, ⟨⟨name, hname, hlookup⟩, htenant, hkind⟩, rfl⟩

/-- The `Init` a client opens with. -/
def Peer.init (peer : Peer) : Option WireInit :=
  match (Framing.read_frame peer.request peer.stream).result with
  | .ok (some (.init init, _)) => some init
  | _ => none

section Traces

variable {κ δ : Type} {jwt : Jwt κ δ} {d : Daemon δ} {authenticator : Authenticator δ} {peer : Peer}

/-- A session opens with an `Init`, or nothing is done for it. With any other first frame, or
none, all that happens is that frames are read and an answer is written. -/
theorem trace_cases (jwt : Jwt κ δ) (d : Daemon δ) (authenticator : Authenticator δ) (peer : Peer) :
    (peer.init = none ∧ ∀ e ∈ d.trace jwt authenticator peer,
        (∃ request, e = .read request) ∨ ∃ response, e = .write response)
      ∨ ∃ init rest, peer.init = some init ∧ d.trace jwt authenticator peer
        = .read (.init init) :: (open_session (d.session jwt authenticator peer) init rest).effects := by
  have hquiet : ∀ response, ∀ e ∈ (send (d.session jwt authenticator peer) 0 response).effects,
      (∃ request, e = .read request) ∨ ∃ response, e = .write response := by
    intro response e he
    rcases send_last (d.session jwt authenticator peer) 0 response with hlast | hlast
    · rw [hlast] at he
      exact absurd he List.not_mem_nil
    · rw [hlast, List.mem_singleton] at he
      exact Or.inr ⟨response, he⟩
  have hrequest : (d.session jwt authenticator peer).request = peer.request := rfl
  unfold Daemon.trace Peer.init serve
  rw [hrequest]
  cases (Framing.read_frame peer.request peer.stream).result with
  | error err => exact Or.inl ⟨rfl, fun e he => absurd he List.not_mem_nil⟩
  | ok next =>
      cases next with
      | none => exact Or.inl ⟨rfl, fun e he => absurd he List.not_mem_nil⟩
      | some next =>
          obtain ⟨request, rest⟩ := next
          cases request with
          | init init => exact Or.inr ⟨init, rest, rfl, perform_bind_effects _ _⟩
          | call call =>
              refine Or.inl ⟨rfl, ?_⟩
              dsimp only
              rw [perform_bind_effects]
              exact List.forall_mem_cons.mpr ⟨Or.inl ⟨_, rfl⟩, hquiet _⟩
          | drain =>
              refine Or.inl ⟨rfl, ?_⟩
              dsimp only
              rw [perform_bind_effects]
              exact List.forall_mem_cons.mpr ⟨Or.inl ⟨_, rfl⟩, hquiet _⟩

/-- The work for a frame reaches backends of the session, and nothing else. -/
theorem mem_work {set : BackendSet} {request : WireRequest} {work : List SessionEffect}
    (h : Work set request work) {e : SessionEffect} (he : e ∈ work) :
    (∃ call, e = .call set call) ∨ ∃ backend k, e = .reach backend ∧ set.slot k = some backend := by
  cases h with
  | drain => exact absurd he List.not_mem_nil
  | init => exact absurd he List.not_mem_nil
  | @call call reached hreaches =>
      rcases List.mem_cons.mp he with rfl | he
      · exact Or.inl ⟨call, rfl⟩
      · obtain ⟨backend, hbackend, rfl⟩ := List.mem_map.mp he
        obtain ⟨k, -, hslot⟩ := hreaches backend hbackend
        exact Or.inr ⟨backend, k, rfl, hslot⟩

/-- What is done in the turns of an open session: frames in and out, and calls that reach the
session's own backends. -/
theorem mem_turns {x : Session} {set : BackendSet} {i : ℕ} {turns : List SessionEffect}
    (h : Turns x set i turns) {e : SessionEffect} (he : e ∈ turns) :
    (∃ request, e = .read request) ∨ (∃ response, e = .write response)
      ∨ (∃ call, e = .call set call)
      ∨ ∃ backend k, e = .reach backend ∧ set.slot k = some backend := by
  induction h with
  | done => exact absurd he List.not_mem_nil
  | unanswered hwork =>
      rcases List.mem_cons.mp he with rfl | he
      · exact Or.inl ⟨_, rfl⟩
      · exact Or.inr (Or.inr (mem_work hwork he))
  | answered hwork _ _ ih =>
      rcases List.mem_cons.mp he with rfl | he
      · exact Or.inl ⟨_, rfl⟩
      · rcases List.mem_append.mp he with he | he
        · exact Or.inr (Or.inr (mem_work hwork he))
        · rcases List.mem_cons.mp he with rfl | he
          · exact Or.inr (Or.inl ⟨_, rfl⟩)
          · exact ih he

/-- What a session does for its client: the table is consulted for its `Init`, and the backends it
reaches are entries of its own. -/
inductive Done (table : Table) (ceiling_ms : UInt64) (init : WireInit) : SessionEffect → Prop
  | consult : Done table ceiling_ms init (.consult init)
  | reach {k : Kind} {entry : TenantResourceBinding} (h : Entry table init k entry) :
    Done table ceiling_ms init (.reach (under_ceiling ceiling_ms entry.binding))

/-- The session does something for its client: it looks into the table, or reaches a backend. -/
def Works (e : SessionEffect) : Prop :=
  (∃ init, e = .consult init) ∨ ∃ backend, e = .reach backend

/-- A session consults the table and reaches a backend only for a client that was let in. The work
of a session stands behind `open_session`, and that goes on past the authenticator only with its
consent. -/
theorem trace_admitted {e : SessionEffect} (he : e ∈ d.trace jwt authenticator peer)
    (hwork : Works e) :
    ∃ init, peer.init = some init
      ∧ authenticator.authenticate jwt peer.now init.token = .ok ()
      ∧ Done d.table d.max_statement_timeout_ms init e := by
  unfold Works at hwork
  have hquiet : ¬ ((∃ request, e = .read request) ∨ ∃ response, e = .write response) := by
    rintro (⟨_, rfl⟩ | ⟨_, rfl⟩) <;> simp at hwork
  have hlast : ∀ {response tail}, Last response tail → e ∉ tail := by
    rintro response tail (rfl | rfl) hmem
    · exact absurd hmem List.not_mem_nil
    · exact hquiet (Or.inr ⟨response, List.mem_singleton.mp hmem⟩)
  rcases trace_cases jwt d authenticator peer with ⟨-, hall⟩ | ⟨init, rest, hinit, htrace⟩
  · exact absurd (hall e he) hquiet
  have hshape : Trace (d.session jwt authenticator peer) (d.trace jwt authenticator peer) :=
    serve_trace _ _
  refine ⟨init, hinit, ?_⟩
  rw [htrace] at hshape he
  generalize (open_session (d.session jwt authenticator peer) init rest).effects = tail at hshape he
  cases hshape with
  | no_init hnot _ => exact absurd rfl (hnot init)
  | rejected hauth htail =>
      simp only [List.mem_cons] at he
      rcases he with rfl | rfl | rfl | he
      · simp at hwork
      · simp at hwork
      · simp at hwork
      · exact absurd he (hlast htail)
  | unresolved hauth hopen htail =>
      simp only [List.mem_cons] at he
      rcases he with rfl | rfl | rfl | he
      · simp at hwork
      · simp at hwork
      · exact ⟨hauth, .consult⟩
      · exact absurd he (hlast htail)
  | unacknowledged hauth hopen =>
      simp only [List.mem_cons, List.not_mem_nil, or_false] at he
      rcases he with rfl | rfl | rfl | rfl
      · simp at hwork
      · simp at hwork
      · exact ⟨hauth, .consult⟩
      · simp at hwork
  | opened hauth hopen hturns =>
      simp only [List.mem_cons] at he
      rcases he with rfl | rfl | rfl | rfl | rfl | he
      · simp at hwork
      · simp at hwork
      · exact ⟨hauth, .consult⟩
      · simp at hwork
      · simp at hwork
      · refine ⟨hauth, ?_⟩
        rcases mem_turns hturns he with h | h | ⟨call, rfl⟩ | ⟨backend, k, rfl, hslot⟩
        · exact absurd (Or.inl h) hquiet
        · exact absurd (Or.inr h) hquiet
        · simp at hwork
        · obtain ⟨entry, hentry, rfl⟩ := open_backends_entry hopen hslot
          exact .reach hentry

/-- An open session does not look at the table again. -/
theorem serve_loop_table (x : Session) (table : Table) (set : BackendSet) (i : ℕ)
    (s : Framing.Stream) :
    (serve_loop { x with table } set i s).effects = (serve_loop x set i s).effects := by
  by_cases hsome : ∃ next, (Framing.read_frame x.request s).result = .ok (some next)
  · obtain ⟨⟨request, rest⟩, hread⟩ := hsome
    have hshorter := (Framing.read_frame_some hread).shorter
    have hrest := serve_loop_table x table set (i + 1) rest
    have hsend : ∀ response, send { x with table } i response = send x i response := fun _ => rfl
    have hrespond : respond { x with table } set i request = respond x set i request := by
      cases request <;> rfl
    obtain ⟨work, response, hanswer, -, -⟩ := respond_spec x set i request
    have hturn : ∀ y : Session, (Framing.read_frame y.request s).result
          = .ok (some (request, rest)) → respond y set i request = ⟨work, .ok response⟩ →
        (serve_loop y set i s).effects = .read request
          :: (work ++ (send y i response >>= fun _ => serve_loop y set (i + 1) rest).effects) := by
      intro y hy hanswer
      rw [serve_loop_some hy, perform_bind_effects, hanswer, effects_bind rfl]
    rw [hturn x hread hanswer, hturn { x with table } hread (hrespond.trans hanswer), hsend]
    rcases send_cases x i response with ⟨err, hsent⟩ | hsent
    · rw [hsent, bind_error rfl, bind_error rfl]
    · rw [hsent, effects_bind rfl, effects_bind rfl, hrest]
  · push Not at hsome
    rw [serve_loop_stop hsome, serve_loop_stop (x := { x with table }) hsome]
termination_by s.bytes.length

/-- A session depends on the table only by the entries of its own tenant. -/
theorem open_session_table {x : Session} {table : Table} {init : WireInit}
    (h : AgreeOn init.tenant x.table table) (rest : Framing.Stream) :
    (open_session { x with table } init rest).effects = (open_session x init rest).effects := by
  have hopen : open_backends table x.max_statement_timeout_ms init
      = open_backends x.table x.max_statement_timeout_ms init := by
    rw [open_backends, open_backends, resolve_congr h]
  have hsend : ∀ i response, send { x with table } i response = send x i response :=
    fun _ _ => rfl
  unfold open_session
  rw [perform_bind_effects, perform_bind_effects]
  cases hauth : x.authenticate init.token with
  | error reject => rfl
  | ok u =>
      dsimp only
      rw [perform_bind_effects, perform_bind_effects, hopen]
      cases hset : open_backends x.table x.max_statement_timeout_ms init with
      | error err => rfl
      | ok set =>
          dsimp only
          rw [perform_bind_effects, perform_bind_effects, hsend]
          rcases send_cases x 0 .ack with ⟨err, hsent⟩ | hsent
          · rw [hsent, bind_error rfl, bind_error rfl]
          · rw [hsent, effects_bind rfl, effects_bind rfl, serve_loop_table]

/-- **What a client can see of the table** is its own tenant's part of it. The resolver gets the
table and the tenant of the `Init`, and its result is the same for two tables that agree on that
tenant; nothing else in the session looks at the table. -/
theorem trace_table {table : Table}
    (h : ∀ init, peer.init = some init → AgreeOn init.tenant d.table table) :
    ({ d with table } : Daemon δ).trace jwt authenticator peer = d.trace jwt authenticator peer := by
  have hsession : ({ d with table } : Daemon δ).session jwt authenticator peer
      = { d.session jwt authenticator peer with table } := rfl
  have hsend : ∀ response, send { d.session jwt authenticator peer with table } 0 response
      = send (d.session jwt authenticator peer) 0 response := fun _ => rfl
  unfold Daemon.trace serve
  unfold Peer.init at h
  rw [hsession]
  have hrequest : (d.session jwt authenticator peer).request = peer.request := rfl
  rw [hrequest]
  cases hread : (Framing.read_frame peer.request peer.stream).result with
  | error err => rfl
  | ok next =>
      cases next with
      | none => rfl
      | some next =>
          obtain ⟨request, rest⟩ := next
          cases request with
          | init init =>
              dsimp only
              rw [perform_bind_effects, perform_bind_effects, open_session_table]
              exact h init (by rw [hread])
          | call call => rfl
          | drain => rfl

/-- A client that is let in has the table consulted for it. -/
theorem trace_consults {init : WireInit} (hinit : peer.init = some init)
    (hauth : authenticator.authenticate jwt peer.now init.token = .ok ()) :
    .consult init ∈ d.trace jwt authenticator peer := by
  have hshape : Trace (d.session jwt authenticator peer) (d.trace jwt authenticator peer) :=
    serve_trace _ _
  rcases trace_cases jwt d authenticator peer with ⟨hnone, -⟩ | ⟨init', rest, hinit', htrace⟩
  · exact absurd (hnone.symm.trans hinit) nofun
  obtain rfl : init = init' := Option.some.inj (hinit.symm.trans hinit')
  rw [htrace] at hshape ⊢
  generalize (open_session (d.session jwt authenticator peer) init rest).effects = tail at hshape ⊢
  cases hshape with
  | no_init hnot _ => exact absurd rfl (hnot init)
  | rejected hrejected _ =>
      have hboth : Except.error _ = Except.ok () := Eq.trans (Eq.symm hrejected) hauth
      exact absurd hboth nofun
  | unresolved _ _ _ => simp
  | unacknowledged _ _ => simp
  | opened _ _ _ => simp

/-- A session is one rejection when its client opens it and is not let in, and none otherwise. The
rejection is recorded in front of the first answer, and no later frame is authenticated. -/
theorem trace_failures (jwt : Jwt κ δ) (d : Daemon δ) (authenticator : Authenticator δ) (peer : Peer)
    {refused : Prop} [Decidable refused]
    (h : refused ↔ ∃ init, peer.init = some init
      ∧ authenticator.authenticate jwt peer.now init.token ≠ .ok ()) :
    (d.trace jwt authenticator peer).countP (· = .auth_failure) = if refused then 1 else 0 := by
  have hshape : Trace (d.session jwt authenticator peer) (d.trace jwt authenticator peer) :=
    serve_trace _ _
  rcases trace_cases jwt d authenticator peer with ⟨hnone, hall⟩ | ⟨init, rest, hinit, htrace⟩
  · rw [if_neg, List.countP_eq_zero]
    · intro e he
      rcases hall e he with ⟨request, rfl⟩ | ⟨response, rfl⟩
      · exact of_decide_eq_false rfl ∘ of_decide_eq_true
      · exact of_decide_eq_false rfl ∘ of_decide_eq_true
    · intro hrefused
      obtain ⟨init, hsome, -⟩ := h.mp hrefused
      exact absurd (hnone.symm.trans hsome) nofun
  rw [hshape.failures]
  have hiff : refused ↔ authenticator.authenticate jwt peer.now init.token ≠ .ok () := by
    rw [h]
    constructor
    · rintro ⟨init', hinit', hauth⟩
      obtain rfl : init = init' := Option.some.inj (hinit.symm.trans hinit')
      exact hauth
    · exact fun hauth => ⟨init, hinit, hauth⟩
  have haccepted : (d.session jwt authenticator peer).authenticate init.token = .ok () →
      ¬ refused := fun hauth hrefused => hiff.mp hrefused hauth
  rw [htrace] at hshape ⊢
  generalize (open_session (d.session jwt authenticator peer) init rest).effects = tail at hshape ⊢
  cases hshape with
  | no_init hnot _ => exact absurd rfl (hnot init)
  | rejected hauth htail =>
      have hrejected : authenticator.authenticate jwt peer.now init.token = .error _ := hauth
      rw [if_pos (hiff.mpr (by rw [hrejected]; nofun))]
      obtain ⟨-, hrest⟩ := counts_zero (x := d.session jwt authenticator peer) htail.no_token
      simp [is_rejected, hrest, hauth, Except.toOption]
  | unresolved hauth _ htail =>
      rw [if_neg (haccepted hauth)]
      obtain ⟨-, hrest⟩ := counts_zero (x := d.session jwt authenticator peer) htail.no_token
      simp [is_rejected, hrest, hauth, Except.toOption]
  | unacknowledged hauth _ =>
      rw [if_neg (haccepted hauth)]
      simp [is_rejected, hauth, Except.toOption]
  | opened hauth _ hturns =>
      rw [if_neg (haccepted hauth)]
      obtain ⟨-, hrest⟩ := counts_zero (x := d.session jwt authenticator peer) hturns.no_token
      simp [is_rejected, hrest, hauth, Except.toOption]

end Traces

/-! ## 5. Runs -/

section Runs

variable {κ δ : Type}

def Event.of_keys : Event κ → Option (SaToken.Event κ)
  | .keys event => some event
  | .session _ _ => none

/-- What happened to the key cache. -/
def refreshes (events : List (Event κ)) : List (SaToken.Event κ) := events.filterMap Event.of_keys

/-- Whom a listener lets in after a history: anyone on the socket, and on QUIC whom its
configuration admits. -/
def Welcome (jwt : Jwt κ δ) (config : FabricdConfig) (past : List (Event κ)) (now : ℕ)
    (token : Option String) : Listener → Prop
  | .uds => True
  | .quic => ∃ cfg, config.quic = some cfg ∧ Admits jwt cfg (refreshes past) now token

/-- The lock of the key cache was never poisoned. -/
def Unpoisoned (events : List (Event κ)) : Prop := Event.keys .poison ∉ events

/-- The listener verifies service-account tokens, so it needs the key cache. -/
def Verifies (config : FabricdConfig) : Listener → Prop
  | .uds => False
  | .quic => ∃ cfg, config.quic = some cfg ∧ cfg.mode = .sa_token

/-- Whom the daemon lets in after a history: a client that is welcome, unless the lock
of the key cache it is verified against was poisoned. -/
def LetIn (jwt : Jwt κ δ) (config : FabricdConfig) (past : List (Event κ)) (now : ℕ)
    (token : Option String) (listener : Listener) : Prop :=
  Welcome jwt config past now token listener ∧ (Verifies config listener → Unpoisoned past)

/-- A session, with the history before it, whose client is turned away. -/
def Refused (jwt : Jwt κ δ) (config : FabricdConfig) : List (Event κ) × Event κ → Prop
  | (_, .keys _) => False
  | (past, .session listener peer) => ∃ init, peer.init = some init
      ∧ ¬ LetIn jwt config past peer.now init.token listener

open Classical in
/-- How many clients of a run were turned away. -/
noncomputable def turned_away (jwt : Jwt κ δ) (config : FabricdConfig) (events : List (Event κ)) : ℕ :=
  (Machine.moments events).countP fun moment => Refused jwt config moment

/-- A daemon after a history. -/
structure Running (jwt : Jwt κ δ) (env_socket : Option String) (config : FabricdConfig)
    (past : List (Event κ)) (d : Daemon δ) : Prop where
  table : d.table = config.resources
  ceiling : d.max_statement_timeout_ms = config.max_statement_timeout_ms
  uds : d.uds = (uds_path env_socket config).map fun _ => .none
  quic : ∀ authenticator, d.quic = some authenticator → ∃ cfg, config.quic = some cfg
    ∧ Made jwt cfg (refreshes past) authenticator
  lock : ∀ verifier, d.quic = some (.sa_token verifier) →
    (verifier.poisoned = false ↔ Unpoisoned past)
  failures : d.auth_failures.toNat = turned_away jwt config past % 2 ^ 64

/-- A listener has an authenticator if one was configured, and it is the one that was built. -/
theorem quic_auth_some {build_client : Option String → Except String Unit}
    {quic : Option ClientAuthConfig} {made : Option (Authenticator δ)}
    {authenticator : Authenticator δ} (h : quic_auth build_client quic = .ok made)
    (hmade : made = some authenticator) :
    ∃ cfg, quic = some cfg ∧ build build_client cfg = .ok authenticator := by
  cases quic with
  | none =>
      cases h
      exact absurd hmade nofun
  | some cfg =>
      obtain ⟨a, hbuild, h⟩ := Result.bind_eq_ok.mp h
      cases h
      exact ⟨cfg, rfl, Option.some.inj hmade ▸ hbuild⟩

/-- A daemon that was started is running, with nothing behind it. Its table and its ceiling are
the configuration's, its authenticator was made from it, and a cache that was just made is sound.
-/
theorem start_running (jwt : Jwt κ δ) {build_client : Option String → Except String Unit}
    {env_socket : Option String} {config : FabricdConfig} {d : Daemon δ}
    (h : start build_client env_socket config = .ok d) : Running jwt env_socket config [] d := by
  unfold start at h
  obtain ⟨u, -, h⟩ := Result.bind_eq_ok.mp h
  obtain ⟨uds_auth, huds, h⟩ := Result.bind_eq_ok.mp h
  obtain ⟨quic, hquic, h⟩ := Result.bind_eq_ok.mp h
  cases h
  have hopen : uds_auth = .none := (Except.ok.inj huds).symm
  refine ⟨rfl, rfl, by rw [hopen], ?_, ?_, rfl⟩
  · intro authenticator hauth
    obtain ⟨cfg, hcfg, hbuild⟩ := quic_auth_some hquic hauth
    exact ⟨cfg, hcfg, build_made jwt hbuild⟩
  · intro verifier hauth
    obtain ⟨cfg, -, hbuild⟩ := quic_auth_some hquic hauth
    exact iff_of_true (poisoned_build hbuild) List.not_mem_nil

section Step

variable {jwt : Jwt κ δ} {env_socket : Option String} {config : FabricdConfig}
  {past : List (Event κ)} {d : Daemon δ}

theorem unpoisoned_snoc (past : List (Event κ)) (e : Event κ) :
    Unpoisoned (past ++ [e]) ↔ Unpoisoned past ∧ e ≠ .keys .poison := by
  unfold Unpoisoned
  rw [List.mem_append, List.mem_singleton, not_or, eq_comm]

/-- An event of the keys is one more of them. -/
theorem refreshes_keys (past : List (Event κ)) (event : SaToken.Event κ) :
    refreshes (past ++ [.keys event]) = refreshes past ++ [event] := by
  unfold refreshes
  rw [List.filterMap_append]
  rfl

/-- A session is none. -/
theorem refreshes_session (past : List (Event κ)) (listener : Listener) (peer : Peer) :
    refreshes (past ++ [.session listener peer]) = refreshes past := by
  unfold refreshes
  rw [List.filterMap_append]
  exact List.append_nil _

open Classical in
/-- One more event counts if it is a client that is turned away. -/
theorem turned_away_snoc (past : List (Event κ)) (e : Event κ) :
    turned_away jwt config (past ++ [e])
      = turned_away jwt config past + if Refused jwt config (past, e) then 1 else 0 := by
  unfold turned_away
  rw [Machine.moments_snoc, List.countP_append, List.countP_singleton]
  simp only [decide_eq_true_eq]

/-- The authenticator of the moment is sound as long as what it verifies against is. -/
theorem Running.sound_iff (h : Running jwt env_socket config past d)
    {authenticator : Authenticator δ} (hthere : d.quic = some authenticator) :
    authenticator.Sound ↔ (Verifies config .quic → Unpoisoned past) := by
  obtain ⟨cfg, hcfg, hmade⟩ := h.quic authenticator hthere
  have hmode : Verifies config .quic ↔ cfg.mode = .sa_token := by
    constructor
    · rintro ⟨cfg', hcfg', hmode⟩
      obtain rfl : cfg = cfg' := Option.some.inj (hcfg.symm.trans hcfg')
      exact hmode
    · exact fun hmode => ⟨cfg, hcfg, hmode⟩
  cases hmade with
  | none hnone =>
      refine iff_of_true trivial fun hverifies => ?_
      rw [hmode, hnone] at hverifies
      cases hverifies
  | static hstatic =>
      refine iff_of_true trivial fun hverifies => ?_
      rw [hmode, hstatic] at hverifies
      cases hverifies
  | @sa_token _ _ verifier hsa =>
      rw [forall_prop_of_true (hmode.mpr hsa)]
      exact h.lock verifier hthere

/-- **The gate at a moment of a run.** A session is let in exactly when its listener's
configuration admits the token, and the lock it needs for that is not poisoned. -/
theorem Running.authenticate_iff (h : Running jwt env_socket config past d) {listener : Listener}
    {authenticator : Authenticator δ} (hthere : d.listener listener = some authenticator) (now : ℕ)
    (token : Option String) :
    authenticator.authenticate jwt now token = .ok ()
      ↔ LetIn jwt config past now token listener := by
  cases listener with
  | uds =>
      have hopen : authenticator = .none := by
        have huds : d.uds = some authenticator := hthere
        rw [h.uds, Option.map_eq_some_iff] at huds
        obtain ⟨path, -, hnone⟩ := huds
        exact hnone.symm
      rw [hopen]
      exact iff_of_true rfl ⟨trivial, False.elim⟩
  | quic =>
      obtain ⟨cfg, hcfg, hmade⟩ := h.quic authenticator hthere
      rw [Fabricd.authenticate_iff hmade, h.sound_iff hthere]
      refine and_congr_left fun _ => ⟨fun hadmits => ⟨cfg, hcfg, hadmits⟩, ?_⟩
      rintro ⟨cfg', hcfg', hadmits⟩
      obtain rfl : cfg = cfg' := Option.some.inj (hcfg.symm.trans hcfg')
      exact hadmits

/-- An event of the keys goes to the authenticator, and changes nothing else in the daemon. The
history of the keys grows by that event, and so does what the cache stands for. -/
theorem step_keys (h : Running jwt env_socket config past d) (event : SaToken.Event κ) :
    Running jwt env_socket config (past ++ [.keys event])
      { d with quic := d.quic.map (Authenticator.step jwt event) } := by
  have hhad : ∀ authenticator,
      d.quic.map (Authenticator.step jwt event) = some authenticator →
        ∃ old, d.quic = some old ∧ authenticator = old.step jwt event := by
    intro authenticator hauth
    obtain ⟨old, hold, hstep⟩ := Option.map_eq_some_iff.mp hauth
    exact ⟨old, hold, hstep.symm⟩
  refine ⟨h.table, h.ceiling, h.uds, ?_, ?_, ?_⟩
  · intro authenticator hauth
    obtain ⟨old, hold, rfl⟩ := hhad authenticator hauth
    obtain ⟨cfg, hcfg, hmade⟩ := h.quic old hold
    rw [refreshes_keys]
    exact ⟨cfg, hcfg, made_step hmade event⟩
  · intro verifier hauth
    obtain ⟨old, hold, hstep⟩ := hhad _ hauth
    cases old with
    | none => cases hstep
    | static current previous => cases hstep
    | sa_token before =>
        cases hstep
        rw [poisoned_step, h.lock before hold, unpoisoned_snoc]
        refine and_congr_right fun _ => not_congr ?_
        rw [Event.keys.injEq]
  · classical
    have hno : ¬ Refused jwt config (past, .keys event) := fun hrefused => hrefused
    rw [turned_away_snoc, if_neg hno, Nat.add_zero]
    exact h.failures

/-- What a session leaves behind is its rejection. Table, ceiling and authenticators are as
before, and the counter goes up by one exactly where the history counts a client that was turned
away. -/
theorem step_session (h : Running jwt env_socket config past d) {listener : Listener} {peer : Peer}
    {authenticator : Authenticator δ} (hthere : d.listener listener = some authenticator) :
    Running jwt env_socket config (past ++ [.session listener peer])
      { d with auth_failures := d.auth_failures
          + UInt64.ofNat ((d.trace jwt authenticator peer).countP (· = .auth_failure)) } := by
  refine ⟨h.table, h.ceiling, h.uds, ?_, ?_, ?_⟩
  · rw [refreshes_session]
    exact h.quic
  · intro verifier hauth
    rw [h.lock verifier hauth, unpoisoned_snoc]
    exact (and_iff_left nofun).symm
  · classical
    have hrefused : Refused jwt config (past, .session listener peer) ↔ ∃ init,
        peer.init = some init ∧ authenticator.authenticate jwt peer.now init.token ≠ .ok () := by
      refine exists_congr fun init => and_congr_right fun _ => not_congr ?_
      exact (h.authenticate_iff hthere peer.now init.token).symm
    rw [trace_failures jwt d authenticator peer hrefused, turned_away_snoc, UInt64.toNat_add,
      h.failures]
    by_cases hr : Refused jwt config (past, .session listener peer)
    · rw [if_pos hr]
      exact Nat.mod_add_mod _ _ _
    · rw [if_neg hr]
      exact Nat.mod_add_mod _ _ _

/-- **Every state of a run is a running daemon**, with the events so far as its past. By induction
on the events from the last one. -/
theorem run_running (h : Running jwt env_socket config [] d) {es : List (Event κ)} {d' : Daemon δ}
    (hrun : Machine.run (Daemon.step jwt) d es = some d') :
    Running jwt env_socket config es d' := by
  induction es using List.reverseRecOn generalizing d' with
  | nil =>
      obtain rfl : d = d' := Option.some.inj hrun
      exact h
  | append_singleton es e ih =>
      obtain ⟨mid, hmid, hstep⟩ := Machine.run_snoc.mp hrun
      have hrunning := ih hmid
      cases e with
      | keys event =>
          obtain rfl := Option.some.inj hstep
          exact step_keys hrunning event
      | session listener peer =>
          obtain ⟨authenticator, hthere, rfl⟩ := Option.map_eq_some_iff.mp hstep
          exact step_session hrunning hthere

end Step

/-- The trace of a session that opens after a history. -/
def Served (jwt : Jwt κ δ) (d₀ : Daemon δ) (before : List (Event κ)) (listener : Listener)
    (peer : Peer) (trace : List SessionEffect) : Prop :=
  ∃ d authenticator, Machine.run (Daemon.step jwt) d₀ before = some d
    ∧ d.listener listener = some authenticator ∧ trace = d.trace jwt authenticator peer

/-- Two daemons that differ in the table and in the counter. -/
structure SameGates (d d' : Daemon δ) : Prop where
  ceiling : d'.max_statement_timeout_ms = d.max_statement_timeout_ms
  uds : d'.uds = d.uds
  quic : d'.quic = d.quic

/-- Daemons with the same authenticators have them on the same listeners. -/
theorem SameGates.listener {d d' : Daemon δ} (h : SameGates d d') (listener : Listener) :
    d'.listener listener = d.listener listener := by
  cases listener with
  | uds => exact h.uds
  | quic => exact h.quic

/-- Two daemons with the same authenticators take the same step, whatever their tables are. A
session's trace may differ, but what it leaves in the daemon is the count of its rejections, and
that is settled by the authenticator. -/
theorem SameGates.step {jwt : Jwt κ δ} {d d' t : Daemon δ} (h : SameGates d d') {e : Event κ}
    (hstep : d.step jwt e = some t) :
    ∃ t', d'.step jwt e = some t' ∧ SameGates t t' ∧ t'.table = d'.table := by
  cases e with
  | keys event =>
      obtain rfl := Option.some.inj hstep
      exact ⟨_, rfl, ⟨h.ceiling, h.uds, congrArg (Option.map (Authenticator.step jwt event)) h.quic⟩, rfl⟩
  | session listener peer =>
      obtain ⟨authenticator, hthere, rfl⟩ := Option.map_eq_some_iff.mp hstep
      rw [← h.listener] at hthere
      refine ⟨_, congrArg (Option.map _) hthere, ?_, ?_⟩
      · exact ⟨h.ceiling, h.uds, h.quic⟩
      · rfl

/-- So they take the same run: by induction along the events, the authenticators stay the same and
each table stays as it was. -/
theorem SameGates.run {jwt : Jwt κ δ} {d d' t : Daemon δ} (h : SameGates d d')
    {es : List (Event κ)} (hrun : Machine.run (Daemon.step jwt) d es = some t) :
    ∃ t', Machine.run (Daemon.step jwt) d' es = some t' ∧ SameGates t t'
      ∧ t'.table = d'.table := by
  induction es generalizing d d' with
  | nil =>
      obtain rfl : d = t := Option.some.inj hrun
      exact ⟨d', rfl, h, rfl⟩
  | cons e es ih =>
      obtain ⟨mid, hstep, hrest⟩ := Machine.run_cons.mp hrun
      obtain ⟨mid', hstep', hsame, htable⟩ := h.step hstep
      obtain ⟨t', hrun', hsame', htable'⟩ := ih hsame hrest
      exact ⟨t', Machine.run_cons.mpr ⟨mid', hstep', hrun'⟩, hsame', htable'.trans htable⟩

/-- The table has no part in how a daemon starts. -/
theorem start_table {build_client : Option String → Except String Unit}
    {env_socket : Option String} {config : FabricdConfig} {d : Daemon δ}
    (h : start build_client env_socket config = .ok d) (table : Table) :
    start build_client env_socket { config with resources := table } = .ok { d with table } := by
  unfold start at h ⊢
  obtain ⟨u, hlistens, h⟩ := Result.bind_eq_ok.mp h
  obtain ⟨uds_auth, huds, h⟩ := Result.bind_eq_ok.mp h
  obtain ⟨quic, hquic, h⟩ := Result.bind_eq_ok.mp h
  cases h
  refine Result.bind_eq_ok.mpr ⟨u, hlistens, ?_⟩
  refine Result.bind_eq_ok.mpr ⟨uds_auth, huds, ?_⟩
  exact Result.bind_eq_ok.mpr ⟨quic, hquic, rfl⟩

section Sessions

variable {jwt : Jwt κ δ} {build_client : Option String → Except String Unit}
  {env_socket : Option String} {config : FabricdConfig} {d₀ d : Daemon δ}
  {before after : List (Event κ)} {listener : Listener} {peer : Peer} {trace : List SessionEffect}

/-- Every session of a run is served. -/
theorem served_of_run
    (hrun : Machine.run (Daemon.step jwt) d₀ (before ++ .session listener peer :: after) = some d) :
    ∃ trace, Served jwt d₀ before listener peer trace := by
  obtain ⟨mid, hmid, hrest⟩ := Machine.run_append.mp hrun
  obtain ⟨next, hstep, -⟩ := Machine.run_cons.mp hrest
  obtain ⟨authenticator, hthere, -⟩ := Option.map_eq_some_iff.mp hstep
  exact ⟨_, mid, authenticator, hmid, hthere, rfl⟩

/-- Work is done for a client that is let in, and it is the tenant's own. -/
theorem Served.works (h : Served jwt d₀ before listener peer trace)
    (hstart : start build_client env_socket config = .ok d₀) {e : SessionEffect} (he : e ∈ trace)
    (hwork : Works e) :
    ∃ init, peer.init = some init ∧ LetIn jwt config before peer.now init.token listener
      ∧ Done config.resources config.max_statement_timeout_ms init e := by
  obtain ⟨mid, authenticator, hmid, hthere, rfl⟩ := h
  have hrunning := run_running (start_running jwt hstart) hmid
  obtain ⟨init, hinit, hauth, hdone⟩ := trace_admitted he hwork
  rw [hrunning.table, hrunning.ceiling] at hdone
  exact ⟨init, hinit, (hrunning.authenticate_iff hthere _ _).mp hauth, hdone⟩

/-- A client that is let in is served: the table is consulted for its frame. -/
theorem Served.consults (h : Served jwt d₀ before listener peer trace)
    (hstart : start build_client env_socket config = .ok d₀) {init : WireInit}
    (hinit : peer.init = some init)
    (hlet : LetIn jwt config before peer.now init.token listener) : .consult init ∈ trace := by
  obtain ⟨mid, authenticator, hmid, hthere, rfl⟩ := h
  have hrunning := run_running (start_running jwt hstart) hmid
  exact trace_consults hinit ((hrunning.authenticate_iff hthere _ _).mpr hlet)

/-- A daemon with another table serves the same session. -/
theorem Served.other_table (h : Served jwt d₀ before listener peer trace)
    (hstart : start build_client env_socket config = .ok d₀) {table : Table} {d₁ : Daemon δ}
    (hstart₁ : start build_client env_socket { config with resources := table } = .ok d₁)
    (hagree : ∀ init, peer.init = some init → AgreeOn init.tenant config.resources table) :
    Served jwt d₁ before listener peer trace := by
  obtain ⟨mid, authenticator, hmid, hthere, rfl⟩ := h
  have hrunning := run_running (start_running jwt hstart) hmid
  obtain rfl : { d₀ with table } = d₁ := Except.ok.inj ((start_table hstart table).symm.trans hstart₁)
  have hgates : SameGates d₀ { d₀ with table } := ⟨rfl, rfl, rfl⟩
  obtain ⟨mid', hmid', hsame, htable⟩ := hgates.run hmid
  refine ⟨mid', authenticator, hmid', (hsame.listener listener).trans hthere, ?_⟩
  rw [← hrunning.table] at hagree
  have htrace : mid'.trace jwt authenticator peer
      = ({ mid with table } : Daemon δ).trace jwt authenticator peer := by
    unfold Daemon.trace Daemon.session
    rw [htable, hsame.ceiling]
  rw [htrace, trace_table hagree]

end Sessions

/-- **What a daemon hands out.** Take any run of a started daemon, and any session in it. Work is done
in the session exactly for an `Init` whose token its listener admits at that moment, with a lock that
is sound where the listener needs one. That work is the lookup, and backends that are the tenant's own
entries under the selected names, below the operator's ceiling. A daemon with another table serves the
very same session, as long as the tenant's entries are the same, whatever the other sessions do. And
the counter counts the clients that were turned away. -/
theorem daemon_serves (jwt : Jwt κ δ) {build_client : Option String → Except String Unit}
    {env_socket : Option String} {config : FabricdConfig} {d₀ d : Daemon δ} {es : List (Event κ)}
    (hstart : start build_client env_socket config = .ok d₀)
    (hrun : Machine.run (Daemon.step jwt) d₀ es = some d) :
    (∀ before listener peer after, es = before ++ .session listener peer :: after →
      ∃ trace, Served jwt d₀ before listener peer trace
        ∧ (∀ e ∈ trace, Works e → ∃ init, peer.init = some init
          ∧ LetIn jwt config before peer.now init.token listener
          ∧ Done config.resources config.max_statement_timeout_ms init e)
        ∧ (∀ init, peer.init = some init →
          LetIn jwt config before peer.now init.token listener → .consult init ∈ trace)
        ∧ ∀ table d₁, start build_client env_socket { config with resources := table } = .ok d₁ →
          (∀ init, peer.init = some init → AgreeOn init.tenant config.resources table) →
            Served jwt d₁ before listener peer trace)
      ∧ d.auth_failures.toNat = turned_away jwt config es % 2 ^ 64 := by
  refine ⟨?_, (run_running (start_running jwt hstart) hrun).failures⟩
  rintro before listener peer after rfl
  obtain ⟨trace, hserved⟩ := served_of_run hrun
  refine ⟨trace, hserved, fun e he hwork => hserved.works hstart he hwork, ?_, ?_⟩
  · intro init hinit hlet
    exact hserved.consults hstart hinit hlet
  · intro table d₁ hstart₁ hagree
    exact hserved.other_table hstart hstart₁ hagree

end Runs

/-! A rotation of the shared secret: both tokens are let in, the guess between them is counted, and a
poisoned key cache is nothing to a listener that does not use it. -/

def rotating : FabricdConfig where
  quic := some { mode := .static, static_token := some "new", previous_token := some "old" }

def hello (token : String) : WireInit := { timeout_ms := 5000, token := some token }

/-- The text of the frame. -/
def hello_text (token : String) : String :=
  "\x7b\"Init\":\x7b\"timeout_ms\":5000,\"token\":\"" ++ token ++ "\"\x7d\x7d"

/-- A client that opens its session, and leaves. -/
def visitor (token : String) : Peer where
  stream := Framing.ending [to_le_bytes (hello_text token).utf8ByteSize ++ utf8 (hello_text token)]
  now := 0
  request := Sidecar.table_codec [(.init (hello token), hello_text token)]
  response := Sidecar.table_codec [(.ack, "\"Ack\""),
    (.init_error "UNAUTHENTICATED" "client auth token rejected",
      "\x7b\"InitError\":\x7b\"code\":\"UNAUTHENTICATED\","
        ++ "\"message\":\"client auth token rejected\"\x7d\x7d")]
  drivers := fun _ => {
    connect_resource := fun _ => .ok ()
    call := fun _ _ _ => .ok "null"
    unpack := fun _ text => .ok text }
  join_error := fun _ => none
  metrics := fun _ => {}
  write_all := fun _ => .ok ()

def rotation : List (Event String) :=
  [.session .quic (visitor "old"), .keys .poison, .session .quic (visitor "guess"),
    .session .quic (visitor "new")]

def rotating_daemon : Daemon String where
  table := ∅
  max_statement_timeout_ms := 0
  auth_failures := 0
  uds := none
  quic := some (.static "new" (some "old"))

theorem rotation_started : start (fun _ => .ok ()) none rotating = .ok rotating_daemon := rfl

theorem rotation_run :
    (Machine.run (Daemon.step test_jwt) rotating_daemon rotation).map Daemon.auth_failures
      = some 1 := by
  decide +kernel

/-- The previous token opens a session and the new one another, behind the poisoning, and of the three
clients one is turned away. -/
theorem daemon_serves_rotation :
    (∃ trace, Served test_jwt rotating_daemon [] .quic (visitor "old") trace
      ∧ .consult (hello "old") ∈ trace)
      ∧ (∃ trace, Served test_jwt rotating_daemon (rotation.take 3) .quic (visitor "new") trace
        ∧ .consult (hello "new") ∈ trace)
      ∧ turned_away test_jwt rotating rotation % 2 ^ 64 = 1 := by
  obtain ⟨d, hrun, hcount⟩ := Option.map_eq_some_iff.mp rotation_run
  obtain ⟨hsessions, hfailures⟩ := daemon_serves test_jwt rotation_started hrun
  have hunverified : ¬ Verifies rotating .quic := by
    rintro ⟨cfg, hcfg, hmode⟩
    cases hcfg
    cases hmode
  refine ⟨?_, ?_, ?_⟩
  · obtain ⟨trace, hserved, -, hlet, -⟩ := hsessions [] .quic (visitor "old") _ rfl
    refine ⟨trace, hserved, hlet (hello "old") (by decide +kernel) ⟨?_, fun h => absurd h hunverified⟩⟩
    exact ⟨_, rfl, "old", rfl, by decide, Or.inr rfl⟩
  · obtain ⟨trace, hserved, -, hlet, -⟩ := hsessions (rotation.take 3) .quic (visitor "new") [] rfl
    refine ⟨trace, hserved, hlet (hello "new") (by decide +kernel) ⟨?_, fun h => absurd h hunverified⟩⟩
    exact ⟨_, rfl, "new", rfl, by decide, Or.inl rfl⟩
  · rw [← hfailures, hcount]
    rfl

end Runlet.Fabricd
