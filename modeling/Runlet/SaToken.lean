/-
Offline verification of service-account tokens (`crates/fabric-backends/src/sa_token.rs`).

A background task fetches the cluster's key set and swaps it into a cache; `verify` checks
a token against the cache. The HTTP client, the JSON decoders and the JWT library are
parameters. A refresh is one event, the swap; a verification is one event, the read of the
cache (the key is cloned out under the lock and the signature checked after it).

`Accepts` at the end says whom the verifier lets in after any sequence of refreshes.
-/
import Mathlib.Data.List.AList
import Mathlib.Data.List.Induction
import Runlet.Json
import Runlet.Lib.Text

set_option autoImplicit false

namespace Runlet.SaToken

open Runlet.Json

/-! ## 1. What the module is given -/

/-- A `Jwk`: `common.key_id` and the rest of it. -/
structure Jwk (κ : Type) where
  key_id : Option String
  algorithm : κ
  deriving DecidableEq, Repr

inductive Algorithm
  | RS256
  deriving DecidableEq, Repr

/-- The `Validation` of the JWT library, as far as this module sets it. -/
structure Validation where
  algorithms : List Algorithm
  aud : Option (List String)
  iss : Option (List String)
  validate_exp : Bool
  leeway : ℕ
  deriving DecidableEq, Repr

/-- `Validation::new`: expiry enforced, with a minute of leeway. -/
def Validation.new (algorithm : Algorithm) : Validation where
  algorithms := [algorithm]
  aud := none
  iss := none
  validate_exp := true
  leeway := 60

/-- The JWT library; `decode` reads the clock. -/
structure Jwt (κ δ : Type) where
  /-- `decode_header`, of which the `kid` is used. -/
  decode_header : String → Except String (Option String)
  from_jwk : Jwk κ → Except String δ
  decode : (now : ℕ) → (token : String) → δ → Validation → Except String Value

structure Response where
  status : ℕ
  /-- The status with its reason, as it is displayed. -/
  status_text : String
  body : String
  deriving DecidableEq, Repr

def Response.is_success (response : Response) : Bool :=
  200 ≤ response.status && response.status < 300

/-- The HTTP client during one refresh, and the decoders of a response body. -/
structure Client (κ : Type) where
  send : String → Except String Response
  json_value : String → Except String Value
  json_jwk_set : String → Except String (List (Jwk κ))

/-! ## 2. The refresh -/

section Refresh

variable {κ δ α : Type}

/-- `get_json`. -/
def get_json (client : Client κ) (json : String → Except String α) (url : String) :
    Except String α :=
  match client.send url with
  | .error err => .error s!"GET {url} failed: {err}"
  | .ok response =>
    let status := response.status_text
    if response.is_success then
      match json response.body with
      | .error err => .error s!"decode {url} failed: {err}"
      | .ok value => .ok value
    else .error s!"GET {url} returned {status}"

/-- `discover_jwks_url`. -/
def discover_jwks_url (client : Client κ) (issuer : String) : Except String String :=
  let base := String.ofList (Text.trim_end_matches '/' issuer.toList)
  match get_json client client.json_value s!"{base}/.well-known/openid-configuration" with
  | .error err => .error err
  | .ok doc =>
    match ((doc.get_key "jwks_uri").bind Value.as_str).filter (fun text => !text.isEmpty) with
    | some text => .ok text
    | none => .error "discovery document has no jwks_uri"

/-- `fetch_keys` up to the key set. -/
def fetch_set (client : Client κ) (issuer : String) (jwks_url : Option String) :
    Except String (List (Jwk κ)) :=
  match jwks_url with
  | some explicit => get_json client client.json_jwk_set explicit
  | none =>
    match discover_jwks_url client issuer with
    | .error err => .error err
    | .ok url => get_json client client.json_jwk_set url

/-- `KeyMap`. -/
abbrev KeyMap (δ : Type) : Type := AList fun _ : String => δ

/-- One entry of the set: without a `kid` or unusable, it is skipped. -/
def add_jwk (jwt : Jwt κ δ) (map : KeyMap δ) (jwk : Jwk κ) : KeyMap δ :=
  match jwk.key_id with
  | none => map
  | some kid =>
    match jwt.from_jwk jwk with
    | .ok key => map.insert kid key
    | .error _ => map

/-- `build_key_map`. -/
def build_key_map (jwt : Jwt κ δ) (set : List (Jwk κ)) : KeyMap δ := set.foldl (add_jwk jwt) ∅

/-- `fetch_keys`. -/
def fetch_keys (jwt : Jwt κ δ) (client : Client κ) (issuer : String) (jwks_url : Option String) :
    Except String (KeyMap δ) :=
  match fetch_set client issuer jwks_url with
  | .error err => .error err
  | .ok set => .ok (build_key_map jwt set)

end Refresh

/-! ## 3. The verifier -/

inductive VerifyError
  | keys_not_loaded
  | missing_kid
  | unknown_kid
  | invalid (reason : String)
  | internal
  deriving DecidableEq, Repr

/-- `JwksVerifier`, with the source of its keys. The lock is poisoned when a thread has
panicked while it held it. -/
structure JwksVerifier (δ : Type) where
  keys : Option (KeyMap δ)
  poisoned : Bool
  audience : String
  issuer : String
  jwks_url : Option String

/-- `JwksVerifier::spawn`: nothing is loaded yet. -/
def JwksVerifier.spawn (δ : Type) (issuer audience : String) (jwks_url : Option String) :
    JwksVerifier δ where
  keys := none
  poisoned := false
  audience := audience
  issuer := issuer
  jwks_url := jwks_url

section Verify

variable {κ δ : Type}

/-- `JwksVerifier::validation`. -/
def JwksVerifier.validation (verifier : JwksVerifier δ) : Validation :=
  { Validation.new .RS256 with aud := some [verifier.audience], iss := some [verifier.issuer] }

/-- `JwksVerifier::verify` at an instant. -/
def JwksVerifier.verify (jwt : Jwt κ δ) (verifier : JwksVerifier δ) (now : ℕ) (token : String) :
    Except VerifyError Unit :=
  match jwt.decode_header token with
  | .error err => .error (.invalid err)
  | .ok none => .error .missing_kid
  | .ok (some kid) =>
    if verifier.poisoned then .error .internal
    else
      match verifier.keys with
      | none => .error .keys_not_loaded
      | some map =>
        match map.lookup kid with
        | none => .error .unknown_kid
        | some key =>
          match jwt.decode now token key verifier.validation with
          | .error err => .error (.invalid err)
          | .ok _ => .ok ()

/-- One turn of `refresh_loop`: the cache is swapped when the fetch succeeds. -/
def JwksVerifier.refresh (jwt : Jwt κ δ) (verifier : JwksVerifier δ) (client : Client κ) :
    JwksVerifier δ :=
  match fetch_keys jwt client verifier.issuer verifier.jwks_url with
  | .ok map => if verifier.poisoned then verifier else { verifier with keys := some map }
  | .error _ => verifier

/-- What happens to a verifier. -/
inductive Event (κ : Type)
  | refresh (client : Client κ)
  | verify (now : ℕ) (token : String)
  | poison

/-- A verification leaves the verifier as it is. -/
def JwksVerifier.step (jwt : Jwt κ δ) (verifier : JwksVerifier δ) : Event κ → JwksVerifier δ
  | .refresh client => verifier.refresh jwt client
  | .verify _ _ => verifier
  | .poison => { verifier with poisoned := true }

def JwksVerifier.after (jwt : Jwt κ δ) (verifier : JwksVerifier δ) (events : List (Event κ)) :
    JwksVerifier δ :=
  events.foldl (JwksVerifier.step jwt) verifier

/-! ## 4. What a history of refreshes says -/

/-- The set a refresh fetched. -/
def Event.fetched (issuer : String) (jwks_url : Option String) : Event κ → Option (List (Jwk κ))
  | .refresh client => (fetch_set client issuer jwks_url).toOption
  | _ => none

/-- The key set of the most recent refresh that succeeded. -/
def latest_set (issuer : String) (jwks_url : Option String) (events : List (Event κ)) :
    Option (List (Jwk κ)) :=
  (events.filterMap (Event.fetched issuer jwks_url)).getLast?

/-- The key of an entry, where it has a usable one. -/
def usable_key (jwt : Jwt κ δ) (jwk : Jwk κ) : Option δ := (jwt.from_jwk jwk).toOption

/-- The usable keys a set lists for a `kid`, in the set's order. -/
def usable_keys (jwt : Jwt κ δ) (kid : String) (set : List (Jwk κ)) : List δ :=
  (set.filter fun jwk => jwk.key_id = some kid).filterMap (usable_key jwt)

/-! ## 5. The cache is the latest set -/

/-- One more key of a set is usable if it is one of the id. -/
theorem usable_keys_snoc (jwt : Jwt κ δ) (kid : String) (set : List (Jwk κ)) (jwk : Jwk κ) :
    usable_keys jwt kid (set ++ [jwk])
      = usable_keys jwt kid set
        ++ if jwk.key_id = some kid then (usable_key jwt jwk).toList else [] := by
  rw [usable_keys, List.filter_append, List.filterMap_append]
  by_cases hkid : jwk.key_id = some kid
  · rw [if_pos hkid, List.filter_cons, if_pos (decide_eq_true hkid), List.filter_nil]
    cases hkey : usable_key jwt jwk with
    | none =>
        rw [List.filterMap_cons_none hkey]
        rfl
    | some key =>
        rw [List.filterMap_cons_some hkey]
        rfl
  · have hdrop : ¬ decide (jwk.key_id = some kid) = true := by
      rw [decide_eq_true_iff]
      exact hkid
    rw [if_neg hkid, List.filter_cons, if_neg hdrop]
    rfl

/-- The map has the last usable key of every `kid`. By induction from the end of the set: a key
that is usable takes the place of an earlier one, and one that is not is passed over. -/
theorem build_key_map_lookup (jwt : Jwt κ δ) (set : List (Jwk κ)) (kid : String) :
    (build_key_map jwt set).lookup kid = (usable_keys jwt kid set).getLast? := by
  induction set using List.reverseRecOn with
  | nil => exact AList.lookup_empty kid
  | append_singleton set jwk ih =>
      have hsnoc : build_key_map jwt (set ++ [jwk]) = add_jwk jwt (build_key_map jwt set) jwk := by
        rw [build_key_map, List.foldl_append]
        rfl
      rw [hsnoc, usable_keys_snoc, add_jwk, usable_key]
      cases hid : jwk.key_id with
      | none =>
          -- without a `kid` it is skipped
          rw [if_neg (by simp), List.append_nil]
          exact ih
      | some own =>
          cases hkey : jwt.from_jwk jwk with
          | error err =>
              -- and so is a key that cannot be used, whoever's it is
              have hnone : (if some own = some kid
                  then (Except.error err : Except String δ).toOption.toList else []) = [] := by
                split <;> rfl
              rw [hnone, List.append_nil]
              exact ih
          | ok key =>
              by_cases hown : own = kid
              -- the later key of a `kid` takes the earlier one's place
              · rw [hown, if_pos rfl]
                dsimp only
                rw [AList.lookup_insert]
                exact List.getLast?_concat.symm
              · have hne : some own ≠ some kid := fun h => hown (Option.some.inj h)
                rw [if_neg hne, List.append_nil]
                dsimp only
                rw [AList.lookup_insert_ne (Ne.symm hown)]
                exact ih

/-- The keys of a fetch are those of the set that was fetched. -/
theorem fetch_keys_eq (jwt : Jwt κ δ) (client : Client κ) (issuer : String)
    (jwks_url : Option String) :
    (fetch_keys jwt client issuer jwks_url).toOption
      = (fetch_set client issuer jwks_url).toOption.map (build_key_map jwt) := by
  rw [fetch_keys]
  cases fetch_set client issuer jwks_url with
  | error err => rfl
  | ok set => rfl

/-- The configuration stays, and as long as the lock is sound the cache is the latest set. -/
structure Cached (jwt : Jwt κ δ) (issuer audience : String) (jwks_url : Option String)
    (events : List (Event κ)) (verifier : JwksVerifier δ) : Prop where
  same_issuer : verifier.issuer = issuer
  same_audience : verifier.audience = audience
  same_url : verifier.jwks_url = jwks_url
  keys : verifier.poisoned = false →
    verifier.keys = (latest_set issuer jwks_url events).map (build_key_map jwt)

/-- The latest set is that of the last event, if it fetched one. -/
theorem latest_set_snoc (issuer : String) (jwks_url : Option String) (events : List (Event κ))
    (e : Event κ) :
    latest_set issuer jwks_url (events ++ [e])
      = (e.fetched issuer jwks_url).or (latest_set issuer jwks_url events) := by
  rw [latest_set, List.filterMap_append]
  cases hfetched : e.fetched issuer jwks_url with
  | none =>
      rw [List.filterMap_cons_none hfetched, List.filterMap_nil, List.append_nil]
      rfl
  | some set =>
      rw [List.filterMap_cons_some hfetched, List.filterMap_nil]
      exact List.getLast?_concat

/-- A refresh that succeeds replaces the cache, and one that fails leaves it as it was. With a
poisoned lock the keys stay behind, and nothing is said of them any more. -/
theorem cached_refresh {jwt : Jwt κ δ} {issuer audience : String} {jwks_url : Option String}
    {events : List (Event κ)} {verifier : JwksVerifier δ}
    (h : Cached jwt issuer audience jwks_url events verifier) (client : Client κ) :
    Cached jwt issuer audience jwks_url (events ++ [.refresh client])
      (verifier.refresh jwt client) := by
  have hfetch := fetch_keys_eq jwt client issuer jwks_url
  have hlatest : latest_set issuer jwks_url (events ++ [.refresh client])
      = (fetch_set client issuer jwks_url).toOption.or (latest_set issuer jwks_url events) :=
    latest_set_snoc issuer jwks_url events (.refresh client)
  have hown : fetch_keys jwt client verifier.issuer verifier.jwks_url
      = fetch_keys jwt client issuer jwks_url := by
    rw [h.same_issuer, h.same_url]
  rw [JwksVerifier.refresh, hown]
  cases hkeys : fetch_keys jwt client issuer jwks_url with
  | error err =>
      -- a failed fetch: neither the cache nor the latest set changes
      rw [hkeys] at hfetch
      have hnone : (fetch_set client issuer jwks_url).toOption = none :=
        Option.map_eq_none_iff.mp hfetch.symm
      refine ⟨h.same_issuer, h.same_audience, h.same_url, ?_⟩
      intro hsound
      rw [hlatest, hnone]
      exact h.keys hsound
  | ok map =>
      rw [hkeys] at hfetch
      obtain ⟨set, hset, hmap⟩ := Option.map_eq_some_iff.mp hfetch.symm
      dsimp only
      by_cases hpoisoned : verifier.poisoned = true
      · rw [if_pos hpoisoned]
        refine ⟨h.same_issuer, h.same_audience, h.same_url, ?_⟩
        intro hsound
        rw [hpoisoned] at hsound
        cases hsound
      · rw [if_neg hpoisoned]
        refine ⟨h.same_issuer, h.same_audience, h.same_url, ?_⟩
        intro _
        rw [hlatest, hset, Option.some_or, Option.map_some, hmap]

/-- After any events the cache is that of the latest set. By induction from the end, with
`cached_refresh` for the one event that may change it. -/
theorem cached_after (jwt : Jwt κ δ) (issuer audience : String) (jwks_url : Option String)
    (events : List (Event κ)) :
    Cached jwt issuer audience jwks_url events
      ((JwksVerifier.spawn δ issuer audience jwks_url).after jwt events) := by
  induction events using List.reverseRecOn with
  | nil => exact ⟨rfl, rfl, rfl, fun _ => rfl⟩
  | append_singleton events e ih =>
      have hsnoc : (JwksVerifier.spawn δ issuer audience jwks_url).after jwt (events ++ [e])
          = ((JwksVerifier.spawn δ issuer audience jwks_url).after jwt events).step jwt e := by
        rw [JwksVerifier.after, List.foldl_append]
        rfl
      rw [hsnoc]
      cases e with
      | refresh client => exact cached_refresh ih client
      | verify now token =>
          refine ⟨ih.same_issuer, ih.same_audience, ih.same_url, ?_⟩
          rw [latest_set_snoc]
          exact ih.keys
      | poison =>
          -- nothing is claimed of the cache from here on
          refine ⟨ih.same_issuer, ih.same_audience, ih.same_url, ?_⟩
          intro hsound
          cases hsound

/-! ## 6. Who is let in -/

/-- **What a token that is let in has passed**: a known key, its signature, and the claims. Each
check is one line of the code, and the first that fails ends it. -/
theorem verify_ok {jwt : Jwt κ δ} {verifier : JwksVerifier δ} {now : ℕ} {token : String}
    (h : verifier.verify jwt now token = .ok ()) :
    ∃ kid map key claims, jwt.decode_header token = .ok (some kid) ∧ verifier.poisoned = false
      ∧ verifier.keys = some map ∧ map.lookup kid = some key
      ∧ jwt.decode now token key verifier.validation = .ok claims := by
  rw [JwksVerifier.verify] at h
  split at h
  · cases h
  · cases h
  · rename_i kid hkid
    by_cases hpoisoned : verifier.poisoned = true
    · rw [if_pos hpoisoned] at h
      cases h
    · rw [if_neg hpoisoned] at h
      rw [Bool.not_eq_true] at hpoisoned
      split at h
      · cases h
      · rename_i map hmap
        split at h
        · cases h
        · rename_i key hkey
          split at h
          · cases h
          · rename_i claims hdecode
            exact ⟨kid, map, key, claims, hkid, hpoisoned, hmap, hkey, hdecode⟩

/-- A token that passes these checks is let in. -/
theorem verify_of_checks {jwt : Jwt κ δ} {verifier : JwksVerifier δ} {now : ℕ} {token kid : String}
    {map : KeyMap δ} {key : δ} {claims : Value} (hkid : jwt.decode_header token = .ok (some kid))
    (hsound : verifier.poisoned = false) (hmap : verifier.keys = some map)
    (hkey : map.lookup kid = some key)
    (hdecode : jwt.decode now token key verifier.validation = .ok claims) :
    verifier.verify jwt now token = .ok () := by
  rw [JwksVerifier.verify, hkid]
  dsimp only
  rw [hsound, if_neg Bool.false_ne_true, hmap]
  dsimp only
  rw [hkey]
  dsimp only
  rw [hdecode]

end Verify

/-- What the verifier owes after a sequence of refreshes and verifications. -/
structure Accepts {κ δ : Type} (jwt : Jwt κ δ)
    (Validates : (now : ℕ) → (token : String) → δ → Validation → Prop)
    (issuer audience : String) (jwks_url : Option String) (events : List (Event κ))
    (verifier : JwksVerifier δ) : Prop where
  accepts : ∀ now token, verifier.verify jwt now token = .ok () →
    ∃ kid set key, jwt.decode_header token = .ok (some kid)
      ∧ latest_set issuer jwks_url events = some set
      ∧ (usable_keys jwt kid set).getLast? = some key
      ∧ Validates now token key { Validation.new .RS256 with
          aud := some [audience], iss := some [issuer] }
  /-- Fail-closed before the first success. -/
  closed : latest_set issuer jwks_url events = none →
    ∀ now token, verifier.verify jwt now token ≠ .ok ()
  /-- A failed refresh changes no answer. -/
  failed : ∀ client err, fetch_keys jwt client issuer jwks_url = .error err →
    ∀ now token, (verifier.step jwt (.refresh client)).verify jwt now token
      = verifier.verify jwt now token
  /-- A key that has been rotated out lets nobody in. -/
  absent : ∀ set kid, latest_set issuer jwks_url events = some set →
    (∀ jwk ∈ set, jwk.key_id ≠ some kid) →
    ∀ now token, jwt.decode_header token = .ok (some kid) → verifier.verify jwt now token ≠ .ok ()

/-- **Verification across key rotation.** A token is let in only if the latest set that was
fetched has its key, and it is validated under that key for this issuer and audience. What an
outage leaves behind is the set before it. -/
theorem verifier_accepts {κ δ : Type} (jwt : Jwt κ δ)
    (Validates : (now : ℕ) → (token : String) → δ → Validation → Prop)
    (hdecode : ∀ now token key validation claims,
      jwt.decode now token key validation = .ok claims → Validates now token key validation)
    (issuer audience : String) (jwks_url : Option String) (events : List (Event κ)) :
    Accepts jwt Validates issuer audience jwks_url events
      ((JwksVerifier.spawn δ issuer audience jwks_url).after jwt events) := by
  have hcached := cached_after jwt issuer audience jwks_url events
  generalize (JwksVerifier.spawn δ issuer audience jwks_url).after jwt events = verifier at hcached ⊢
  have haccepts : ∀ now token, verifier.verify jwt now token = .ok () →
      ∃ kid set key, jwt.decode_header token = .ok (some kid)
        ∧ latest_set issuer jwks_url events = some set
        ∧ (usable_keys jwt kid set).getLast? = some key
        ∧ Validates now token key { Validation.new .RS256 with
            aud := some [audience], iss := some [issuer] } := by
    intro now token h
    obtain ⟨kid, map, key, claims, hkid, hsound, hmap, hkey, hclaims⟩ := verify_ok h
    rw [hcached.keys hsound] at hmap
    obtain ⟨set, hset, hbuilt⟩ := Option.map_eq_some_iff.mp hmap
    rw [← hbuilt, build_key_map_lookup] at hkey
    refine ⟨kid, set, key, hkid, hset, hkey, ?_⟩
    rw [JwksVerifier.validation, hcached.same_audience, hcached.same_issuer] at hclaims
    exact hdecode now token key _ claims hclaims
  constructor
  · exact haccepts
  · intro hnone now token h
    obtain ⟨kid, set, key, -, hset, -⟩ := haccepts now token h
    rw [hnone] at hset
    cases hset
  · intro client err hfetch now token
    have hsame : verifier.step jwt (.refresh client) = verifier := by
      rw [JwksVerifier.step, JwksVerifier.refresh, hcached.same_issuer, hcached.same_url, hfetch]
    rw [hsame]
  · intro set kid hset habsent now token hkid h
    obtain ⟨kid', set', key, hkid', hset', hkey, -⟩ := haccepts now token h
    rw [hkid, Except.ok.injEq, Option.some.injEq] at hkid'
    rw [hset, Option.some.injEq] at hset'
    rw [← hkid', ← hset'] at hkey
    -- a key of that `kid` comes from an entry of the set
    have hmem := List.mem_of_getLast? hkey
    obtain ⟨jwk, hjwk, -⟩ := List.mem_filterMap.mp hmem
    obtain ⟨hin, hid⟩ := List.mem_filter.mp hjwk
    exact habsent jwk hin (of_decide_eq_true hid)

/-! The throwaway key of the module's tests, and a token signed with it that expires in the
year 2100. -/

def modulus : String :=
  "sLsCd4r0GwDE53kfBP_M5XU-bM1FoybPl9TFn1ZpM9i5TlSa3ZvOSfJ5XH4pW3mfOR4QT4DSL9_lS2p-9oci"
    ++ "3Ui-YihNALSRE-C1IwPOIxHpksbISRC0No4XNpaVhNWTVCEJt3ekYG-CYuRAk7Yo--0wWyZeIPenyTIbqmCG"
    ++ "jA_yTzb_TyTCARvbiWu9qcN77uVCwYMONUZaK--2_937S0JLzFsHtgk4pnbFcJyrc8CyqgDqqDVcSqme6EP6"
    ++ "7wSAZPNSlGIV-PLuapv3YFWVjVYVWu9ZA4HOcHshE8TMCSEUfuBMOix5zMQGRnQiaz5oTepxFv7PfpGi4smS"
    ++ "gIN8Uw"

def signed_token : String :=
  "eyJ0eXAiOiJKV1QiLCJhbGciOiJSUzI1NiIsImtpZCI6InRlc3Qta2V5LTEifQ.eyJhdWQiOiJmYWJyaWNkI"
    ++ "iwiZXhwIjo0MTAyNDQ0ODAwLCJpc3MiOiJodHRwczovL2t1YmVybmV0ZXMuZGVmYXVsdC5zdmMuY2x1c3Rlc"
    ++ "i5sb2NhbCIsInN1YiI6InN5c3RlbTpzZXJ2aWNlYWNjb3VudDpkZWZhdWx0OmJveCJ9.nvXCfgtJaETwEQ22"
    ++ "zU6yJrfr9TJ4qrp15Xh4pbCDGhgE1nltixj-CMszx022ivQokult3-34RKyaWmV6gC8NmEg5EYY1ZerZ6_Bc"
    ++ "ziUxuyw_P-703WC2lvdwUfZQrAh4J6cRaRTkXKh3ouFzoy85hr4SDS4T15eGLZugld2enzvv1PLCNUrRk1rI"
    ++ "Oxz4eYzUgxerx1OeqlhnN0wyf70lRQ-H1k13mi2AhMe1Ajn-Z1mDnQJiOG8NFfrDeyYArx3M5alShQgFKAzk"
    ++ "kpdB45mrROB_CtUe9brKnDts2OqIjOpGQNdWUGUyN3Z5dDSzq1wydsCTY3WxkxncfxX6dI5hLQ"

/-- The token is good for its audience and issuer until it expires. -/
def ValidToken (now : ℕ) (token key : String) (validation : Validation) : Prop :=
  token = signed_token ∧ key = modulus ∧ validation.algorithms = [.RS256]
    ∧ validation.aud = some ["fabricd"]
    ∧ validation.iss = some ["https://kubernetes.default.svc.cluster.local"]
    ∧ now ≤ 4102444800 + validation.leeway

instance (now : ℕ) (token key : String) (validation : Validation) :
    Decidable (ValidToken now token key validation) :=
  inferInstanceAs (Decidable (_ ∧ _))

/-- What the JWT library makes of that key and that token. -/
def test_jwt : Jwt String String where
  decode_header token :=
    if token = signed_token then .ok (some "test-key-1") else .error "InvalidToken"
  from_jwk jwk := .ok jwk.algorithm
  decode now token key validation :=
    if ValidToken now token key validation then
      .ok (.object [("aud", .string "fabricd"), ("exp", of_u64 4102444800),
        ("iss", .string "https://kubernetes.default.svc.cluster.local"),
        ("sub", .string "system:serviceaccount:default:box")])
    else .error "InvalidToken"

/-- An endpoint that answers with the key, after an entry without a `kid`. -/
def key_endpoint : Client String where
  send _ := .ok ⟨200, "200 OK", "keys"⟩
  json_value _ := .error "not a document"
  json_jwk_set _ := .ok [⟨none, "AQAB"⟩, ⟨some "test-key-1", modulus⟩]

/-- An endpoint that is down. -/
def no_endpoint : Client String where
  send _ := .error "connection refused"
  json_value _ := .error "not a document"
  json_jwk_set _ := .error "not a key set"

/-- A token comes before the keys; then they arrive, and the endpoint goes down. -/
def keys_then_outage : List (Event String) :=
  [.verify 0 signed_token, .refresh key_endpoint, .refresh no_endpoint]

def test_verifier : JwksVerifier String :=
  JwksVerifier.spawn String "https://kubernetes.default.svc.cluster.local" "fabricd"
    (some "https://kubernetes.default.svc/openid/v1/jwks")

/-- A signed token, after an outage of the issuer: the keys from before it are still there, and
let the token in. -/
theorem verifier_accepts_signed_token :
    (test_verifier.after test_jwt keys_then_outage).verify test_jwt 1 signed_token = .ok ()
      ∧ Accepts test_jwt ValidToken "https://kubernetes.default.svc.cluster.local" "fabricd"
        (some "https://kubernetes.default.svc/openid/v1/jwks") keys_then_outage
        (test_verifier.after test_jwt keys_then_outage) := by
  constructor
  · have hkeys : (test_verifier.after test_jwt keys_then_outage).keys
        = some (AList.insert "test-key-1" modulus ∅) := rfl
    have hheader : test_jwt.decode_header signed_token = .ok (some "test-key-1") := by
      simp only [test_jwt, if_true]
    have hlookup : (AList.insert "test-key-1" modulus ∅ : KeyMap String).lookup "test-key-1"
        = some modulus := AList.lookup_insert _
    have hvalid : ValidToken 1 signed_token modulus
        (test_verifier.after test_jwt keys_then_outage).validation :=
      ⟨rfl, rfl, rfl, rfl, rfl, by decide⟩
    have hdecode : ∃ claims, test_jwt.decode 1 signed_token modulus
        (test_verifier.after test_jwt keys_then_outage).validation = .ok claims := by
      simp only [test_jwt] at hvalid ⊢
      rw [if_pos hvalid]
      exact ⟨_, rfl⟩
    obtain ⟨claims, hclaims⟩ := hdecode
    exact verify_of_checks hheader rfl hkeys hlookup hclaims
  · apply verifier_accepts
    intro now token key validation claims h
    by_contra hnot
    have herror : test_jwt.decode now token key validation = .error "InvalidToken" := if_neg hnot
    rw [herror] at h
    cases h

end Runlet.SaToken
