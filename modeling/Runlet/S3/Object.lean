/-
How an S3 object key becomes the path of a signed request
(`crates/runlet-core/src/s3.rs`): `do_presign`, `do_presign_post`, the first part of
`do_delete`, and the URI and query builders below them.

`do_presign` and `do_delete` are split where the signature comes in:
`presign_request` and `delete_request` validate the payload and build everything
that is signed, and the rest only renders it (or sends it, `Runlet.S3.Store`). The libraries are an `Env`: the
payload decoder, the JSON writer, the clock and the hashes are functions of it,
with nothing assumed about them.

`object_of` is the store's side: the object a canonical URI names.
`uri_encode_path` strips one leading slash, so the two sides agree exactly on the
keys that have none (`object_addressing_iff`).
-/
import Runlet.Lib.Percent
import Runlet.Lib.Result
import Runlet.S3.Host
import Runlet.Json
import Runlet.Wire

set_option autoImplicit false

namespace Runlet.S3

open Net Text Hex Percent Runlet.Json Runlet.Wire

/-! ## Faults -/

def S3_FALLBACK : Fault := ⟨"S3_ERROR", false, .developer⟩
def S3_UPSTREAM : Fault := ⟨"S3_UPSTREAM", true, .operator⟩
def S3_FORBIDDEN : Fault := ⟨"S3_FORBIDDEN", false, .operator⟩

structure S3Error where
  fault : Fault
  message : String
  details : Option Value := none
  deriving DecidableEq, Repr

/-- Signing, payload and validation failures. -/
def S3Error.signing (message : String) : S3Error := { fault := S3_FALLBACK, message }

def S3Error.upstream (message : String) : S3Error := { fault := S3_UPSTREAM, message }

def S3Error.upstream_status (message : String) (status : UInt16) : S3Error where
  fault := S3_UPSTREAM
  message := message
  details := some (.object [("http_status", .number (.pos_int status.toUInt64))])

def S3Error.forbidden (message : String) : S3Error := { fault := S3_FORBIDDEN, message }

/-! ## Payloads and metrics -/

structure PresignPayload where
  method : String := ""
  key : String := ""
  expires : UInt64 := 0
  deriving DecidableEq, Repr

structure PresignPostPayload where
  key : String := ""
  expires : UInt64 := 0
  deriving DecidableEq, Repr

structure DeletePayload where
  key : String := ""
  deriving DecidableEq, Repr

structure S3Metric where
  action : String
  method : String
  duration_us : ℕ
  expires : UInt64
  bytes : Option UInt64
  objects : Option UInt64
  deriving DecidableEq, Repr

/-- The instant of a signature, in the three forms the code needs. -/
structure Timestamps where
  amz_date : String
  datestamp : String
  unix_secs : ℤ
  deriving DecidableEq, Repr

/-- The libraries: `serde_json`, the clock with `chrono`, `hmac`, `sha2` and
`base64`. -/
structure Env where
  presign_payload : String → Except String PresignPayload
  post_payload : String → Except String PresignPostPayload
  delete_payload : String → Except String DeletePayload
  to_json : Value → String
  current_timestamps : Except String Timestamps
  /-- The ISO 8601 text of a Unix time, where `chrono` has one. -/
  format_timestamp : ℤ → Option String
  sha256 : List UInt8 → List UInt8
  hmac_sha256 : List UInt8 → List UInt8 → Except String (List UInt8)
  base64 : List UInt8 → String

/-! ## Encoding -/

def is_alphanumeric (b : UInt8) : Bool :=
  (0x30 ≤ b && b ≤ 0x39) || (0x41 ≤ b && b ≤ 0x5a) || (0x61 ≤ b && b ≤ 0x7a)

/-- The complement of `SEGMENT_SET`: alphanumerics and `-`, `_`, `.`, `~`. -/
def segment_keep (b : UInt8) : Bool :=
  is_alphanumeric b || b == 0x2d || b == 0x5f || b == 0x2e || b == 0x7e

/-- The complement of `PATH_SET`: the same and `/`. -/
def path_keep (b : UInt8) : Bool := segment_keep b || b == 0x2f

/-- `encode_token`. -/
def encode_token (value : String) : String :=
  String.ofList (utf8_percent_encode segment_keep value)

/-- `strip_prefix('/').unwrap_or(key)`. -/
def strip_slash (key : String) : String :=
  match key.toList with
  | '/' :: rest => String.ofList rest
  | _ => key

/-- `uri_encode_path`: the key with one leading slash. -/
def uri_encode_path (key : String) : String :=
  String.ofList ('/' :: utf8_percent_encode path_keep (strip_slash key))

/-- `build_uri`: the canonical URI of an object. -/
def build_uri (config : S3Config) (key : String) : String :=
  let key_path := uri_encode_path key
  if config.path_style then
    String.ofList ('/' :: utf8_percent_encode segment_keep config.bucket) ++ key_path
  else key_path

/-- `build_canonical_query`. -/
def build_canonical_query (access_key scope amz_date : String) (expires : UInt64) : String :=
  let credential := encode_token (access_key ++ "/" ++ scope)
  let date := encode_token amz_date
  "X-Amz-Algorithm=AWS4-HMAC-SHA256&X-Amz-Credential=" ++ credential ++ "&X-Amz-Date=" ++ date
    ++ "&X-Amz-Expires=" ++ toString expires.toNat ++ "&X-Amz-SignedHeaders=host"

/-- `canonical_query_from_pairs`: encoded, sorted by name, joined. -/
def canonical_query_from_pairs (pairs : List (String × String)) : String :=
  let encoded := pairs.map fun p => (encode_token p.1, encode_token p.2)
  let sorted := encoded.mergeSort fun left right => decide (left.1 ≤ right.1)
  "&".intercalate (sorted.map fun p => p.1 ++ "=" ++ p.2)

/-! ## Signing -/

/-- `SignInput`. -/
structure SignInput where
  secret_key : String
  region : String
  datestamp : String
  amz_date : String
  scope : String
  method : String
  canonical_uri : String
  query : String
  host : String
  deriving DecidableEq, Repr

/-- `derive_signing_key`. -/
def derive_signing_key (env : Env) (secret_key datestamp region : String) :
    Except String (List UInt8) := do
  let k_date ← env.hmac_sha256 (utf8 ("AWS4" ++ secret_key)) (utf8 datestamp)
  let k_region ← env.hmac_sha256 k_date (utf8 region)
  let k_service ← env.hmac_sha256 k_region (utf8 "s3")
  env.hmac_sha256 k_service (utf8 "aws4_request")

/-- `sign`: the signature of a presigned request. -/
def sign (env : Env) (input : SignInput) : Except String String := do
  let canonical_request := input.method ++ "\n" ++ input.canonical_uri ++ "\n" ++ input.query
    ++ "\nhost:" ++ input.host ++ "\n\nhost\nUNSIGNED-PAYLOAD"
  let hashed_request := hex_encode (env.sha256 (utf8 canonical_request))
  let string_to_sign := "AWS4-HMAC-SHA256\n" ++ input.amz_date ++ "\n" ++ input.scope ++ "\n"
    ++ hashed_request
  let signing_key ← derive_signing_key env input.secret_key input.datestamp input.region
  let signature ← env.hmac_sha256 signing_key (utf8 string_to_sign)
  return hex_encode signature

/-- A request about to be signed: the key it is for, and all of its URL but the
signature. -/
structure Signed where
  key : String
  scheme : String
  expires : UInt64
  input : SignInput
  deriving DecidableEq, Repr

/-- The URL of a signed request. -/
def Signed.url (r : Signed) (signature : String) : String :=
  r.scheme ++ "://" ++ r.input.host ++ r.input.canonical_uri ++ "?" ++ r.input.query
    ++ "&X-Amz-Signature=" ++ signature

/-- `normalize_method`. -/
def normalize_method (raw : String) : Except String String :=
  let method := String.ofList (raw.toList.map Char.toUpper)
  if method = "" ∨ method = "PUT" then .ok "PUT"
  else if method = "GET" ∨ method = "HEAD" ∨ method = "DELETE" then .ok method
  else .error ("unsupported s3 method: " ++ method)

/-- `clamp_expires`. -/
def clamp_expires (requested : UInt64) (config : S3Config) : UInt64 :=
  let base := if requested = 0 then config.expires else requested
  max 1 (min base (max config.max_expires 1))

/-! ## Presign -/

section Operations

variable (env : Env) (dns : Dns) (config : S3Config) (allow_private : Bool)

/-- The credential scope of a day. -/
def credential_scope (datestamp : String) : String :=
  datestamp ++ "/" ++ config.region ++ "/s3/aws4_request"

/-- `do_presign` up to the signature. -/
def presign_request (payload_json : String) : Except S3Error Signed := do
  let payload ← (env.presign_payload payload_json).mapError fun err =>
    .signing ("invalid s3 payload: " ++ err)
  let method ← (normalize_method payload.method).mapError .signing
  Result.fail_if (method = "DELETE" ∧ config.allow_delete = false)
    (.forbidden "s3 DELETE is disabled (set config.s3.allow_delete = true to enable)")
  -- `"/"` is a non-empty key here, and an empty one after `strip_slash`
  Result.fail_if (trim payload.key = "") (.signing "s3 sign_url requires a non-empty key")
  let expires := clamp_expires payload.expires config
  let now ← env.current_timestamps.mapError .signing
  let (scheme, host) ← (resolve_host dns config allow_private).mapError .signing
  let scope := credential_scope config now.datestamp
  return {
    key := payload.key, scheme, expires
    input := {
      secret_key := config.secret_key, region := config.region
      datestamp := now.datestamp, amz_date := now.amz_date, scope, method
      canonical_uri := build_uri config payload.key
      query := build_canonical_query config.access_key scope now.amz_date expires
      host } }

/-- What a presign operation hands back, with the figures of its metric. -/
structure PresignOutcome where
  json : String
  method : String
  expires : UInt64
  deriving DecidableEq, Repr

/-- `do_presign`. -/
def do_presign (payload_json : String) : Except S3Error PresignOutcome := do
  let r ← presign_request env dns config allow_private payload_json
  let signature ← (sign env r.input).mapError .signing
  return {
    json := "\x7b\"url\":" ++ env.to_json (.string (r.url signature)) ++ ",\"method\":\""
      ++ r.input.method ++ "\",\"expires\":" ++ toString r.expires.toNat ++ "\x7d"
    method := r.input.method
    expires := r.expires }

/-! ## Delete -/

/-- `do_delete` and `build_delete_url` up to the signature. -/
def delete_request (payload_json : String) : Except S3Error Signed := do
  Result.fail_if (config.allow_delete = false)
    (.forbidden "s3 delete is disabled (set config.s3.allow_delete = true to enable)")
  let payload ← (env.delete_payload payload_json).mapError fun err =>
    .signing ("invalid s3 payload: " ++ err)
  Result.fail_if (trim payload.key = "") (.signing "s3 delete requires a non-empty key")
  let (scheme, host) ← (resolve_host dns config allow_private).mapError .signing
  let now ← env.current_timestamps.mapError .signing
  let scope := credential_scope config now.datestamp
  return {
    key := payload.key, scheme, expires := 60
    input := {
      secret_key := config.secret_key, region := config.region
      datestamp := now.datestamp, amz_date := now.amz_date, scope, method := "DELETE"
      canonical_uri := build_uri config payload.key
      query := canonical_query_from_pairs
        [("X-Amz-Algorithm", "AWS4-HMAC-SHA256"),
          ("X-Amz-Credential", config.access_key ++ "/" ++ scope),
          ("X-Amz-Date", now.amz_date), ("X-Amz-Expires", "60"), ("X-Amz-SignedHeaders", "host")]
      host } }

/-! ## Presign POST -/

/-- `iso8601_expiration`. -/
def iso8601_expiration (now_secs : ℤ) (expires : UInt64) : Except String String :=
  if 2 ^ 63 ≤ expires.toNat then
    .error "expires out of range: out of range integral type conversion attempted"
  else if 2 ^ 63 ≤ now_secs + expires.toNat then .error "expiration overflow"
  else
    match env.format_timestamp (now_secs + expires.toNat) with
    | none => .error "invalid expiration timestamp"
    | some text => .ok text

/-- The browser form of an upload: its policy document, its fields and its
target. -/
structure PostForm where
  key : String
  policy : Value
  fields : List (String × Value)
  url : String
  max_bytes : UInt64
  expires : UInt64
  deriving DecidableEq

/-- `post_url`. -/
def post_url (scheme host : String) : String :=
  if config.path_style then
    scheme ++ "://" ++ host ++ "/" ++ encode_token config.bucket
  else scheme ++ "://" ++ host ++ "/"

/-- `do_presign_post` up to its rendering. -/
def post_request (payload_json : String) : Except S3Error PostForm := do
  let payload ← (env.post_payload payload_json).mapError fun err =>
    .signing ("invalid s3 payload: " ++ err)
  Result.fail_if (trim payload.key = "") (.signing "s3 upload_form requires a non-empty key")
  let max_bytes := config.max_upload_size
  Result.fail_if (max_bytes = 0)
    (.signing "config.s3.max_upload_size is required for upload_form")
  let expires := clamp_expires payload.expires config
  let now ← env.current_timestamps.mapError .signing
  let (scheme, host) ← (resolve_host dns config allow_private).mapError .signing
  let expiration ← (iso8601_expiration env now.unix_secs expires).mapError .signing
  let credential := config.access_key ++ "/" ++ credential_scope config now.datestamp
  -- the policy has the key as it was given, with its slash
  let policy : Value := .object
    [("conditions", .array [
        .object [("bucket", .string config.bucket)],
        .object [("key", .string payload.key)],
        .object [("x-amz-algorithm", .string "AWS4-HMAC-SHA256")],
        .object [("x-amz-credential", .string credential)],
        .object [("x-amz-date", .string now.amz_date)],
        .array [.string "content-length-range", .number (.pos_int 0),
          .number (.pos_int max_bytes)]]),
      ("expiration", .string expiration)]
  let policy_b64 := env.base64 (utf8 (env.to_json policy))
  let signing_key ← (derive_signing_key env config.secret_key now.datestamp config.region).mapError
    .signing
  let signature ← (env.hmac_sha256 signing_key (utf8 policy_b64)).mapError .signing
  return {
    key := payload.key, policy, max_bytes, expires
    fields := [("Policy", .string policy_b64),
      ("X-Amz-Algorithm", .string "AWS4-HMAC-SHA256"), ("X-Amz-Credential", .string credential),
      ("X-Amz-Date", .string now.amz_date),
      ("X-Amz-Signature", .string (hex_encode signature)), ("key", .string payload.key)]
    url := post_url config scheme host }

/-- `do_presign_post`. -/
def do_presign_post (payload_json : String) : Except S3Error PresignOutcome := do
  let form ← post_request env dns config allow_private payload_json
  return {
    json := env.to_json (.object
      [("expires", .number (.pos_int form.expires)), ("fields", .object form.fields),
        ("max_bytes", .number (.pos_int form.max_bytes)), ("url", .string form.url)])
    method := "POST"
    expires := form.expires }

end Operations

/-! ## The object a URI names -/

/-- What stands in front of the object in a canonical URI. -/
def object_root (config : S3Config) : List Char :=
  if config.path_style then '/' :: (utf8_percent_encode segment_keep config.bucket ++ ['/'])
  else ['/']

/-- The bytes of the key a canonical URI names, as a store reads it. -/
def object_of (config : S3Config) (uri : String) : Option (List UInt8) :=
  if (object_root config).isPrefixOf uri.toList then
    some (decode (uri.toList.drop (object_root config).length))
  else none

/-- The key a POST policy allows. -/
def policy_key : Value → Option String
  | .object [("conditions", .array conditions), _] =>
    conditions.findSome? fun
      | .object [("key", .string key)] => some key
      | _ => none
  | _ => none

theorem path_keep_plain : Plain path_keep :=
  plain_of_forall (by decide +kernel)

/-- The path of an object: the root, and its key with each byte kept or escaped. -/
theorem build_uri_toList (config : S3Config) (key : String) :
    (build_uri config key).toList
      = object_root config ++ utf8_percent_encode path_keep (strip_slash key) := by
  rw [build_uri, object_root, uri_encode_path]
  by_cases hstyle : config.path_style = true
  · simp [hstyle]
  · simp [hstyle]

/-- The object a built URI names is the key less one leading slash. -/
theorem object_of_build_uri (config : S3Config) (key : String) :
    object_of config (build_uri config key) = some (utf8 (strip_slash key)) := by
  rw [object_of, build_uri_toList, if_pos (by simp), List.drop_left, utf8_percent_encode,
    decode_encode path_keep_plain]

/-- Stripping leaves a key alone exactly when it has no leading slash. -/
theorem strip_slash_eq_self (key : String) :
    strip_slash key = key ↔ key.toList.head? ≠ some '/' := by
  rw [strip_slash]
  split
  · rename_i rest hkey
    rw [hkey]
    constructor
    · intro h
      have hlen := congrArg (fun s => s.toList.length) h
      simp [hkey] at hlen
    · intro h
      exact absurd rfl h
  · rename_i hkey
    constructor
    · intro _ hhead
      obtain ⟨rest, hrest⟩ := List.head?_eq_some_iff.mp hhead
      exact hkey rest hrest
    · intro _
      rfl

/-! ## What the three operations sign -/

section Signs

variable {env : Env} {dns : Dns} {config : S3Config} {allow_private : Bool}
  {payload_json : String}

/-- A request that is presigned is for its key, which is not blank. -/
theorem presign_request_ok {r : Signed}
    (h : presign_request env dns config allow_private payload_json = .ok r) :
    trim r.key ≠ "" ∧ r.input.canonical_uri = build_uri config r.key := by
  simp only [presign_request, Result.bind_eq_ok, Result.mapError_eq_ok, Result.fail_if_eq_ok,
    Result.pure_eq_ok] at h
  obtain ⟨payload, -, method, -, -, -, -, hkey, now, -, target, -, rfl⟩ := h
  exact ⟨hkey, rfl⟩

/-- So is one for a deletion. -/
theorem delete_request_ok {r : Signed}
    (h : delete_request env dns config allow_private payload_json = .ok r) :
    trim r.key ≠ "" ∧ r.input.canonical_uri = build_uri config r.key := by
  simp only [delete_request, Result.bind_eq_ok, Result.mapError_eq_ok, Result.fail_if_eq_ok,
    Result.pure_eq_ok] at h
  obtain ⟨-, -, payload, -, -, hkey, target, -, now, -, rfl⟩ := h
  exact ⟨hkey, rfl⟩

/-- The form and its policy name the key they were asked for. -/
theorem post_request_ok {form : PostForm}
    (h : post_request env dns config allow_private payload_json = .ok form) :
    policy_key form.policy = some form.key ∧ form.fields.lookup "key" = some (.string form.key) := by
  simp only [post_request, Result.bind_eq_ok, Result.mapError_eq_ok, Result.fail_if_eq_ok,
    Result.pure_eq_ok] at h
  obtain ⟨payload, -, -, -, -, -, now, -, target, -, expiration, -, signing_key, -, signature, -,
    rfl⟩ := h
  refine ⟨?_, ?_⟩
  · simp [policy_key]
  · simp [List.lookup_cons]

end Signs

/-! ## Addressing -/

section Addressing

variable (env : Env) (dns : Dns) (config : S3Config) (allow_private : Bool)

/-- The requests `do_presign` and `do_delete` sign. -/
def Signs (r : Signed) : Prop :=
  (∃ payload_json, presign_request env dns config allow_private payload_json = .ok r)
    ∨ ∃ payload_json, delete_request env dns config allow_private payload_json = .ok r

/-- The forms `do_presign_post` hands out. -/
def Posts (form : PostForm) : Prop :=
  ∃ payload_json, post_request env dns config allow_private payload_json = .ok form

/-- What addressing is for: every signed URI names its key, and no bucket; two
keys have two URIs; and a form for the same key is for the same object. -/
structure AddressesObjects (rs : List Signed) (forms : List PostForm) : Prop where
  named : ∀ r ∈ rs, object_of config r.input.canonical_uri = some (utf8 r.key) ∧ utf8 r.key ≠ []
  distinct : ∀ r ∈ rs, ∀ r' ∈ rs, r.key ≠ r'.key →
    r.input.canonical_uri ≠ r'.input.canonical_uri
  posted : ∀ r ∈ rs, ∀ form ∈ forms, form.key = r.key →
    ∃ key, policy_key form.policy = some key ∧ form.fields.lookup "key" = some (.string key)
      ∧ object_of config r.input.canonical_uri = some (utf8 key)

/-- So is any that is signed. -/
theorem signs_ok {r : Signed} (h : Signs env dns config allow_private r) :
    trim r.key ≠ "" ∧ r.input.canonical_uri = build_uri config r.key := by
  rcases h with ⟨_, h⟩ | ⟨_, h⟩
  · exact presign_request_ok h
  · exact delete_request_ok h

/-- The object a signed request names is its key less one leading slash. -/
theorem object_of_signed {r : Signed} (h : Signs env dns config allow_private r) :
    object_of config r.input.canonical_uri = some (utf8 (strip_slash r.key)) := by
  rw [(signs_ok env dns config allow_private h).2, object_of_build_uri]

/-- **Object addressing.** Whatever requests were signed and forms handed out,
they address the objects they are for if and only if no key signed for begins
with a slash. -/
theorem object_addressing_iff (rs : List Signed) (forms : List PostForm)
    (hrs : ∀ r ∈ rs, Signs env dns config allow_private r)
    (hforms : ∀ form ∈ forms, Posts env dns config allow_private form) :
    AddressesObjects config rs forms ↔ ∀ r ∈ rs, r.key.toList.head? ≠ some '/' := by
  have hobject := fun r hr => object_of_signed env dns config allow_private (hrs r hr)
  constructor
  · intro h r hr
    have hname := (h.named r hr).1
    rw [hobject r hr, Option.some.injEq] at hname
    exact (strip_slash_eq_self r.key).mp (utf8_injective hname)
  · intro h
    have hexact : ∀ r ∈ rs, object_of config r.input.canonical_uri = some (utf8 r.key) := by
      intro r hr
      rw [hobject r hr, (strip_slash_eq_self r.key).mpr (h r hr)]
    refine ⟨?_, ?_, ?_⟩
    · intro r hr
      refine ⟨hexact r hr, ?_⟩
      rw [Ne, utf8_eq_nil]
      intro hempty
      -- an empty key does not pass the validation
      apply (signs_ok env dns config allow_private (hrs r hr)).1
      rw [hempty]
      rfl
    · intro r hr r' hr' hne heq
      apply hne
      have hsame := hexact r hr
      rw [heq, hexact r' hr', Option.some.injEq] at hsame
      exact (utf8_injective hsame).symm
    · intro r hr form hform hkey
      obtain ⟨payload_json, hpost⟩ := hforms form hform
      obtain ⟨hpolicy, hfield⟩ := post_request_ok hpost
      rw [hkey] at hpolicy hfield
      exact ⟨r.key, hpolicy, hfield, hexact r hr⟩

end Addressing

/-! ## One key, and one that is not an object -/

/-- Libraries that decode the payload to a given key; the hashes play no part in
addressing. -/
def keyed_env (key : String) : Env where
  presign_payload _ := .ok { key }
  post_payload _ := .ok { key }
  delete_payload _ := .ok { key }
  to_json _ := ""
  current_timestamps := .ok ⟨"20260604T070000Z", "20260604", 1780556400⟩
  format_timestamp _ := some "2026-06-04T07:15:00.000Z"
  sha256 _ := []
  hmac_sha256 _ _ := .ok []
  base64 _ := ""

/-- A path-style store on a public address, with deletion on. -/
def public_store : S3Config :=
  { store "https://93.184.216.34" "b" true with allow_delete := true, max_upload_size := 1024 }

/-- Libraries for which the payload is the text of its key. -/
def text_env : Env :=
  { keyed_env "" with
    presign_payload := fun key => .ok { key }
    post_payload := fun key => .ok { key }
    delete_payload := fun key => .ok { key } }

/-- A download of the key `a/b c`, a deletion of the key `a/b%20c`, which is another object, and a
form for the first. -/
theorem object_addressing_plain_key :
    ∃ r r' form, Signs text_env zone_dns public_store false r
      ∧ Signs text_env zone_dns public_store false r'
      ∧ Posts text_env zone_dns public_store false form
      ∧ r.input.canonical_uri = "/b/a/b%20c" ∧ r'.input.canonical_uri = "/b/a/b%2520c"
      ∧ form.key = r.key ∧ AddressesObjects public_store [r, r'] [form] := by
  obtain ⟨r, hr, hread⟩ : ∃ r,
      presign_request text_env zone_dns public_store false "a/b c" = .ok r
        ∧ (r.key, r.input.canonical_uri) = ("a/b c", "/b/a/b%20c") :=
    Result.ok_of_map (by decide +kernel)
  obtain ⟨r', hr', hread'⟩ : ∃ r,
      delete_request text_env zone_dns public_store false "a/b%20c" = .ok r
        ∧ (r.key, r.input.canonical_uri) = ("a/b%20c", "/b/a/b%2520c") :=
    Result.ok_of_map (by decide +kernel)
  obtain ⟨form, hform, hposted⟩ : ∃ form,
      post_request text_env zone_dns public_store false "a/b c" = .ok form
        ∧ form.key = "a/b c" := Result.ok_of_map (by decide +kernel)
  obtain ⟨hkey, huri⟩ := Prod.mk.inj hread
  obtain ⟨hkey', huri'⟩ := Prod.mk.inj hread'
  have hsigns : Signs text_env zone_dns public_store false r := Or.inl ⟨_, hr⟩
  have hsigns' : Signs text_env zone_dns public_store false r' := Or.inr ⟨_, hr'⟩
  have hposts : Posts text_env zone_dns public_store false form := ⟨_, hform⟩
  refine ⟨r, r', form, hsigns, hsigns', hposts, huri, huri', hposted.trans hkey.symm, ?_⟩
  apply (object_addressing_iff text_env zone_dns public_store false [r, r'] [form]
    (by simp [hsigns, hsigns']) (by simp [hposts])).mpr
  simp [hkey, hkey']

/-- The key `/` is accepted for deletion, and the request it signs names the
bucket. -/
theorem slash_key_names_bucket :
    ∃ r, Signs (keyed_env "/") zone_dns public_store false r ∧ r.key = "/"
      ∧ r.input.canonical_uri = "/b/" ∧ object_of public_store r.input.canonical_uri = some []
      ∧ ¬ AddressesObjects public_store [r] [] := by
  obtain ⟨r, hr, hread⟩ : ∃ r,
      delete_request (keyed_env "/") zone_dns public_store false "" = .ok r
        ∧ (r.key, r.input.canonical_uri) = ("/", "/b/") := Result.ok_of_map (by decide +kernel)
  obtain ⟨hkey, huri⟩ := Prod.mk.inj hread
  have hsigns : Signs (keyed_env "/") zone_dns public_store false r := Or.inr ⟨"", hr⟩
  have hbucket : object_of public_store r.input.canonical_uri = some [] := by
    rw [huri]
    decide +kernel
  refine ⟨r, hsigns, hkey, huri, hbucket, ?_⟩
  intro h
  obtain ⟨hname, hne⟩ := h.named r (List.mem_singleton_self r)
  rw [hbucket, Option.some.injEq] at hname
  exact hne hname.symm

end Runlet.S3
