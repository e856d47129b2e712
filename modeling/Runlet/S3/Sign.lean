/-
What a signature of the s3 capability is good for (`sign`, `derive_signing_key`, `do_presign`,
`do_delete`, `build_list_url` and `do_presign_post` of `crates/runlet-core/src/s3.rs`).

A signature is five keyed hashes in a chain: over the day, the region, the service, a fixed word and
a message. The message is a request, by the hash of its canonical text, or the policy of an upload
form, in Base64. `one_purpose` says that two equal signatures are for one and the same message, and
for one purpose, unless two texts that can be pointed at are a collision of the hashes. Nothing is
assumed about the hashes.
-/
import Runlet.Lib.Base64
import Runlet.Lib.Collision
import Runlet.S3.Query
import Runlet.Serialize

set_option autoImplicit false

namespace Runlet.S3

open Net Text Hex Percent Lines Collision Runlet.Json

/-! ## 1. The chain of keyed hashes -/

/-- The text of `sign` that is hashed. -/
def canonical_request (input : SignInput) : String :=
  input.method ++ "\n" ++ input.canonical_uri ++ "\n" ++ input.query
    ++ "\nhost:" ++ input.host ++ "\n\nhost\nUNSIGNED-PAYLOAD"

section Chain

variable (env : Env)

def hashed_request (input : SignInput) : String :=
  hex_encode (env.sha256 (utf8 (canonical_request input)))

/-- The text of `sign` that is signed. -/
def string_to_sign (input : SignInput) : String :=
  "AWS4-HMAC-SHA256\n" ++ input.amz_date ++ "\n" ++ input.scope ++ "\n" ++ hashed_request env input

/-- What is signed, and with which key. -/
inductive Message
  | request (input : SignInput)
  | policy (secret_key datestamp region policy_b64 : String)
  deriving DecidableEq, Repr

namespace Message

def key : Message → List UInt8
  | request input => utf8 ("AWS4" ++ input.secret_key)
  | policy secret_key _ _ _ => utf8 ("AWS4" ++ secret_key)

/-- The messages of the chain. -/
def links : Message → List (List UInt8)
  | request input =>
    [utf8 input.datestamp, utf8 input.region, utf8 "s3", utf8 "aws4_request",
      utf8 (string_to_sign env input)]
  | policy _ datestamp region policy_b64 =>
    [utf8 datestamp, utf8 region, utf8 "s3", utf8 "aws4_request", utf8 policy_b64]

theorem links_length (m : Message) : (m.links env).length = 5 := by
  cases m with
  | request input => simp only [links, List.length_cons, List.length_nil]
  | policy _ _ _ _ => simp only [links, List.length_cons, List.length_nil]

/-- The signature is the end of the chain, in hexadecimal. -/
def HasSignature (m : Message) (signature : String) : Prop :=
  ∃ digest, chain env.hmac_sha256 m.key (m.links env) = .ok digest ∧ signature = hex_encode digest

end Message

/-- The signing key is a chain of four. -/
theorem derive_signing_key_ok {secret_key datestamp region : String} {key : List UInt8} :
    derive_signing_key env secret_key datestamp region = .ok key
      ↔ chain env.hmac_sha256 (utf8 ("AWS4" ++ secret_key))
          [utf8 datestamp, utf8 region, utf8 "s3", utf8 "aws4_request"] = .ok key := by
  unfold derive_signing_key
  simp only [chain_cons, chain_nil, Result.bind_eq_ok, exists_eq_right]

/-- `sign` walks the chain of its request. -/
theorem sign_ok {input : SignInput} {signature : String} :
    sign env input = .ok signature ↔ (Message.request input).HasSignature env signature := by
  have hlinks : (Message.request input).links env
      = [utf8 input.datestamp, utf8 input.region, utf8 "s3", utf8 "aws4_request"]
        ++ [utf8 (string_to_sign env input)] := rfl
  unfold sign Message.HasSignature
  simp only [Result.bind_eq_ok, Result.pure_eq_ok]
  constructor
  · rintro ⟨key, hkey, digest, hdigest, rfl⟩
    refine ⟨digest, ?_, rfl⟩
    rw [hlinks, chain_snoc]
    exact ⟨key, (derive_signing_key_ok env).mp hkey, hdigest⟩
  · rintro ⟨digest, hchain, rfl⟩
    rw [hlinks, chain_snoc] at hchain
    obtain ⟨key, hkey, hdigest⟩ := hchain
    exact ⟨key, (derive_signing_key_ok env).mpr hkey, digest, hdigest, rfl⟩

end Chain

/-! ## 2. The parts of a text that is signed -/

theorem digitChar_ne_newline : ∀ n : Fin 16, Nat.digitChar n.val ≠ '\n' := by decide

theorem oneLine_hex (bytes : List UInt8) : OneLine (hex_encode bytes) := by
  intro h
  obtain ⟨n, hn⟩ := mem_hex_encode h
  exact digitChar_ne_newline n hn.symm

/-- A canonical text is read in one way: only the host could have a line break in it, and it is
last. -/
theorem canonical_request_inj {a b : SignInput} (hmethod : OneLine a.method)
    (hmethod' : OneLine b.method) (huri : OneLine a.canonical_uri) (huri' : OneLine b.canonical_uri)
    (hquery : OneLine a.query) (hquery' : OneLine b.query)
    (h : canonical_request a = canonical_request b) :
    a.method = b.method ∧ a.canonical_uri = b.canonical_uri ∧ a.query = b.query
      ∧ a.host = b.host := by
  have hhost : "\nhost:" = "\n" ++ "host:" := by decide
  have hlines : ∀ input : SignInput, canonical_request input = input.method ++ "\n"
      ++ (input.canonical_uri ++ "\n" ++ (input.query ++ "\n" ++ ("host:"
        ++ (input.host ++ "\n\nhost\nUNSIGNED-PAYLOAD")))) := by
    intro input
    rw [canonical_request, hhost]
    simp only [String.append_assoc]
  rw [hlines, hlines] at h
  obtain ⟨hm, h⟩ := first_line_inj hmethod hmethod' h
  obtain ⟨hu, h⟩ := first_line_inj huri huri' h
  obtain ⟨hq, h⟩ := first_line_inj hquery hquery' h
  rw [String.append_right_inj, String.append_left_inj] at h
  exact ⟨hm, hu, hq, h⟩

/-- The text that is signed ends with the hash, and the scope is what stands between. -/
theorem string_to_sign_inj {env : Env} {a b : SignInput}
    (h : string_to_sign env a = string_to_sign env b) :
    hashed_request env a = hashed_request env b ∧ (a.amz_date = b.amz_date → a.scope = b.scope) := by
  obtain ⟨hfront, hhash⟩ := last_line_inj (oneLine_hex _) (oneLine_hex _) h
  refine ⟨hhash, ?_⟩
  intro hdate
  rw [hdate, String.append_right_inj] at hfront
  exact hfront

/-! ## 3. What is signed -/

/-- A query that says when it was signed: the names in it are distinct, and one of its pairs is the
date. -/
def Dated (input : SignInput) (pairs : List (String × String)) : Prop :=
  input.query = canonical_query_from_pairs pairs ∧ (pairs.map Prod.fst).Nodup
    ∧ ("X-Amz-Date", input.amz_date) ∈ pairs

/-- Each name of a query has one value. -/
theorem value_unique {ps qs : List (String × String)} (hnodup : (qs.map Prod.fst).Nodup)
    (hperm : ps.Perm qs) {name value value' : String} (h : (name, value) ∈ ps)
    (h' : (name, value') ∈ qs) : value = value' := by
  have hinj := List.inj_on_of_nodup_map hnodup (hperm.mem_iff.mp h) h' rfl
  exact congrArg Prod.snd hinj

/-- Texts with the same query have the same date. -/
theorem amz_date_eq {a b : SignInput} {ps qs : List (String × String)} (ha : Dated a ps)
    (hb : Dated b qs) (hquery : a.query = b.query) : ps.Perm qs ∧ a.amz_date = b.amz_date := by
  rw [ha.1, hb.1] at hquery
  have hperm := perm_of_canonical_query_eq hquery
  exact ⟨hperm, value_unique hb.2.1 hperm ha.2.2 hb.2.2⟩

/-- The texts of a request that end at a line break have none in them. -/
structure OneLined (input : SignInput) : Prop where
  method : OneLine input.method
  canonical_uri : OneLine input.canonical_uri
  query : OneLine input.query

theorem oneLine_encode_token (value : String) : OneLine (encode_token value) :=
  (escaped_encode_token value).not_mem rfl rfl (by decide)

/-- A query is on one line. -/
theorem oneLine_canonical_query (pairs : List (String × String)) :
    OneLine (canonical_query_from_pairs pairs) := by
  rw [OneLine, canonical_query_toList]
  refine not_mem_intercalate (by decide) fun cs hcs => ?_
  obtain ⟨p, -, rfl⟩ := List.mem_map.mp hcs
  rw [piece, List.mem_append, List.mem_cons, not_or, not_or]
  exact ⟨oneLine_encode_token p.1, by decide, oneLine_encode_token p.2⟩

/-- A path is on one line: a line break would be escaped. -/
theorem oneLine_build_uri (config : S3Config) (key : String) : OneLine (build_uri config key) := by
  have hpath : ∀ text : String, '\n' ∉ utf8_percent_encode path_keep text := fun text =>
    not_mem_encode (by decide +kernel) (by decide) (by decide) _
  have hsegment : ∀ text : String, '\n' ∉ utf8_percent_encode segment_keep text := fun text =>
    not_mem_encode (by decide +kernel) (by decide) (by decide) _
  rw [OneLine, build_uri_toList, object_root, List.mem_append, not_or]
  refine ⟨?_, hpath _⟩
  split
  · rw [List.mem_cons, List.mem_append, not_or, not_or]
    exact ⟨by decide, hsegment _, by decide⟩
  · decide

/-- So is the path of a listing. -/
theorem oneLine_list_uri (config : S3Config) : OneLine (list_uri config) := by
  rw [list_uri]
  split
  · rw [oneLine_append]
    exact ⟨by decide, oneLine_encode_token _⟩
  · decide

/-- The policy document of an upload form. -/
structure UploadTerms where
  bucket : String
  key : String
  credential : String
  amz_date : String
  max_bytes : UInt64
  expiration : String
  deriving DecidableEq, Repr

/-- The document, as `do_presign_post` puts it together. -/
def UploadTerms.policy (terms : UploadTerms) : Value :=
  .object
    [("conditions", .array [
        .object [("bucket", .string terms.bucket)],
        .object [("key", .string terms.key)],
        .object [("x-amz-algorithm", .string "AWS4-HMAC-SHA256")],
        .object [("x-amz-credential", .string terms.credential)],
        .object [("x-amz-date", .string terms.amz_date)],
        .array [.string "content-length-range", .number (.pos_int 0),
          .number (.pos_int terms.max_bytes)]]),
      ("expiration", .string terms.expiration)]

/-- What a signature is for. -/
inductive Purpose
  | object (method key : String) (expires : UInt64)
  | listing (prefix_text : String) (token : Option String)
  | upload (terms : UploadTerms)
  deriving DecidableEq, Repr

/-- The request `build_list_url` signs. -/
def list_request (config : S3Config) (now : Timestamps) (target : ListTarget)
    (token : Option String) : Signed where
  key := target.prefix_text
  scheme := target.scheme
  expires := 60
  input := {
    secret_key := config.secret_key, region := config.region
    datestamp := now.datestamp, amz_date := now.amz_date
    scope := credential_scope config now.datestamp, method := "GET"
    canonical_uri := list_uri config
    query := canonical_query_from_pairs (list_pairs config now target token)
    host := target.host }

/-- The libraries at a moment. -/
def Env.at_moment (env : Env) (now : Timestamps) : Env := { env with current_timestamps := .ok now }

/-- The signatures the capability hands out or sends, whatever is asked of it, at any moment and
under any answers of the resolver: what each signs, and what it is for. -/
inductive Issued (env : Env) (config : S3Config) : String → Message → Purpose → Prop
  | presigned {now : Timestamps} {dns : Dns} {allow_private : Bool} {payload_json : String}
    {r : Signed} {signature : String}
    (h : presign_request (env.at_moment now) dns config allow_private payload_json = .ok r)
    (hsign : sign (env.at_moment now) r.input = .ok signature) :
    Issued env config signature (.request r.input)
      (.object r.input.method (strip_slash r.key) r.expires)
  | deleted {now : Timestamps} {dns : Dns} {allow_private : Bool} {payload_json : String}
    {r : Signed} {signature : String}
    (h : delete_request (env.at_moment now) dns config allow_private payload_json = .ok r)
    (hsign : sign (env.at_moment now) r.input = .ok signature) :
    Issued env config signature (.request r.input)
      (.object r.input.method (strip_slash r.key) r.expires)
  | listed {now : Timestamps} {target : ListTarget} {token : Option String} {signature : String}
    (hsign : sign (env.at_moment now) (list_request config now target token).input
      = .ok signature) :
    Issued env config signature (.request (list_request config now target token).input)
      (.listing target.prefix_text token)
  | posted {now : Timestamps} {dns : Dns} {allow_private : Bool} {payload_json : String}
    {form : PostForm} {terms : UploadTerms} {signature policy_b64 : String}
    (h : post_request (env.at_moment now) dns config allow_private payload_json = .ok form)
    (hterms : form.policy = terms.policy)
    (hpolicy : form.fields.lookup "Policy" = some (.string policy_b64))
    (hsign : form.fields.lookup "X-Amz-Signature" = some (.string signature)) :
    Issued env config signature
      (.policy config.secret_key now.datestamp config.region policy_b64) (.upload terms)

/-! ## 4. Every request that is signed -/

section Requests

variable {env : Env} {config : S3Config} {signature : String} {m : Message} {p : Purpose}

/-- What a request is for can be read off its query and its path. -/
inductive Reads (config : S3Config) (input : SignInput) (pairs : List (String × String)) :
    Purpose → Prop
  | object {key : String} {expires : UInt64}
    (hpairs : ∀ name ∈ pairs.map Prod.fst, name ≠ "list-type")
    (huri : input.canonical_uri = build_uri config key)
    (hexpires : ("X-Amz-Expires", toString expires.toNat) ∈ pairs) :
    Reads config input pairs (.object input.method (strip_slash key) expires)
  | listing {now : Timestamps} {target : ListTarget} {token : Option String}
    (hpairs : pairs = list_pairs config now target token) :
    Reads config input pairs (.listing target.prefix_text token)

/-- A signed request can be taken apart, and is for what it says. -/
structure Readable (config : S3Config) (input : SignInput) (p : Purpose) : Prop where
  lines : OneLined input
  read : ∃ pairs, Dated input pairs ∧ Reads config input pairs p

theorem presign_pairs_names (access_key scope amz_date : String) (expires : UInt64) :
    (presign_pairs access_key scope amz_date expires).map Prod.fst
      = ["X-Amz-Algorithm", "X-Amz-Credential", "X-Amz-Date", "X-Amz-Expires",
        "X-Amz-SignedHeaders"] := rfl

/-- The requests for one object. -/
theorem readable_object {input : SignInput} {access_key key : String} {expires : UInt64}
    (hmethod : OneLine input.method) (huri : input.canonical_uri = build_uri config key)
    (hquery : input.query = canonical_query_from_pairs
      (presign_pairs access_key input.scope input.amz_date expires)) :
    Readable config input (.object input.method (strip_slash key) expires) := by
  refine ⟨⟨hmethod, ?_, ?_⟩, _, ⟨hquery, ?_, ?_⟩, .object ?_ huri ?_⟩
  · rw [huri]
    exact oneLine_build_uri config key
  · rw [hquery]
    exact oneLine_canonical_query _
  · rw [presign_pairs_names]
    decide
  · simp [presign_pairs]
  · rw [presign_pairs_names]
    decide
  · simp [presign_pairs]

/-- So is a method: it is one of four words. -/
theorem oneLine_normalize_method {raw method : String} (h : normalize_method raw = .ok method) :
    OneLine method := by
  unfold normalize_method at h
  dsimp only at h
  split at h
  · rw [← Except.ok.inj h]
    decide
  · split at h
    · rename_i hnamed
      rw [← Except.ok.inj h]
      rcases hnamed with hnamed | hnamed | hnamed <;> rw [hnamed] <;> decide
    · exact absurd h nofun

/-- A request that is presigned can be read back: its text says for what object it is, by what
method and for how long. -/
theorem readable_presigned {dns : Dns} {allow_private : Bool} {payload_json : String} {r : Signed}
    (h : presign_request env dns config allow_private payload_json = .ok r) :
    Readable config r.input (.object r.input.method (strip_slash r.key) r.expires) := by
  simp only [presign_request, Result.bind_eq_ok, Result.mapError_eq_ok, Result.fail_if_eq_ok,
    Result.pure_eq_ok] at h
  obtain ⟨payload, -, method, hmethod, -, -, -, -, now, -, target, -, rfl⟩ := h
  exact readable_object (oneLine_normalize_method hmethod) rfl
    (canonical_query_presign (List.Perm.refl _)).symm

/-- So can a deletion. -/
theorem readable_deleted {dns : Dns} {allow_private : Bool} {payload_json : String} {r : Signed}
    (h : delete_request env dns config allow_private payload_json = .ok r) :
    Readable config r.input (.object r.input.method (strip_slash r.key) r.expires) := by
  simp only [delete_request, Result.bind_eq_ok, Result.mapError_eq_ok, Result.fail_if_eq_ok,
    Result.pure_eq_ok] at h
  obtain ⟨-, -, payload, -, -, -, target, -, now, -, rfl⟩ := h
  have hsixty : toString (60 : UInt64).toNat = "60" := rfl
  refine @readable_object config _ config.access_key payload.key 60
    (show OneLine "DELETE" by decide) rfl ?_
  dsimp only
  rw [presign_pairs, hsixty]

/-- A listing can be read back: its text says for what prefix it is, and from which page on. -/
theorem readable_listed {now : Timestamps} {target : ListTarget} {token : Option String} :
    Readable config (list_request config now target token).input
      (.listing target.prefix_text token) := by
  refine ⟨⟨show OneLine "GET" by decide, oneLine_list_uri config, oneLine_canonical_query _⟩, _,
    ⟨rfl, nodup_list_pairs config now target token, ?_⟩, .listing rfl⟩
  simp [list_pairs, list_request]

/-- The prefix of a listing is a parameter of it, -/
theorem mem_list_pairs_key {now : Timestamps} {target : ListTarget} {token : Option String}
    {value : String} : ("prefix", value) ∈ list_pairs config now target token
      ↔ value = target.prefix_text ∧ target.prefix_text ≠ "" := by
  unfold list_pairs
  by_cases hempty : target.prefix_text = ""
  · simp [hempty]
  · simp [hempty]

/-- and so is the token. -/
theorem mem_list_pairs_token {now : Timestamps} {target : ListTarget} {token : Option String}
    {value : String} : ("continuation-token", value) ∈ list_pairs config now target token
      ↔ token = some value := by
  unfold list_pairs
  by_cases hempty : target.prefix_text = ""
  · simp [hempty]
  · simp [hempty]

/-- A list query says which page of which prefix it asks for. -/
theorem list_pairs_inj {now now' : Timestamps} {target target' : ListTarget}
    {token token' : Option String}
    (h : (list_pairs config now target token).Perm (list_pairs config now' target' token')) :
    target.prefix_text = target'.prefix_text ∧ token = token' := by
  have hkeys := fun value => (@mem_list_pairs_key config now target token value).symm.trans
    (h.mem_iff.trans mem_list_pairs_key)
  have htoken := fun value => (@mem_list_pairs_token config now target token value).symm.trans
    (h.mem_iff.trans mem_list_pairs_token)
  refine ⟨?_, ?_⟩
  · by_cases hempty : target.prefix_text = ""
    · by_contra hne
      have hnone := (hkeys target'.prefix_text).mpr ⟨rfl, fun h => hne (hempty.trans h.symm)⟩
      exact hnone.2 hempty
    · exact ((hkeys target.prefix_text).mp ⟨rfl, hempty⟩).1
  · exact Option.ext htoken

/-- Two requests that can be taken apart and have one text are for one purpose. Method, path,
query and headers are read off the text one behind the other, and each says its part of the
purpose. -/
theorem purpose_eq {input : SignInput} {p' : Purpose} (h : Readable config input p)
    (h' : Readable config input p') : p = p' := by
  obtain ⟨pairs, hdated, hreads⟩ := h.read
  obtain ⟨pairs', hdated', hreads'⟩ := h'.read
  obtain ⟨hperm, -⟩ := amz_date_eq hdated hdated' rfl
  have hlisting : ∀ now target token, ("list-type", "2") ∈ list_pairs config now target token := by
    intro now target token
    simp [list_pairs]
  cases hreads with
  | object hpairs huri hexpires =>
      cases hreads' with
      | object hpairs' huri' hexpires' =>
          have hobject := huri.symm.trans huri' |> congrArg (object_of config)
          rw [object_of_build_uri, object_of_build_uri, Option.some.injEq] at hobject
          have hlifetime := value_unique hdated'.2.1 hperm hexpires hexpires'
          rw [Digits.toString_inj, UInt64.toNat_inj] at hlifetime
          rw [utf8_injective hobject, hlifetime]
      | listing hpairs' =>
          have hmem := hperm.mem_iff.mpr (hpairs' ▸ hlisting _ _ _)
          exact absurd rfl (hpairs _ (List.mem_map_of_mem hmem))
  | listing hpairs =>
      cases hreads' with
      | object hpairs' huri' hexpires' =>
          have hmem := hperm.mem_iff.mp (hpairs ▸ hlisting _ _ _)
          exact absurd rfl (hpairs' _ (List.mem_map_of_mem hmem))
      | listing hpairs' =>
          rw [hpairs, hpairs'] at hperm
          obtain ⟨hkeys, htoken⟩ := list_pairs_inj hperm
          rw [hkeys, htoken]

end Requests

/-! ## 5. Forms -/

/-- The libraries that write the policy of a form: `serde_json` and the `base64` crate. -/
structure Env.Writes (env : Env) (float_text : UInt64 → String) : Prop where
  floats : FloatText float_text
  to_json : env.to_json = Value.write float_text
  base64 : ∀ bytes, env.base64 bytes = String.ofList (Base64.encode .standard bytes)

section Forms

variable {env : Env} {float_text : UInt64 → String}

theorem Env.Writes.base64_inj (hwrites : env.Writes float_text) {as bs : List UInt8}
    (h : env.base64 as = env.base64 bs) : as = bs := by
  rw [hwrites.base64, hwrites.base64] at h
  exact Base64.encode_injective (String.ofList_injective h)

/-- A policy is on one line. -/
theorem Env.Writes.oneLine_base64 (hwrites : env.Writes float_text) (bytes : List UInt8) :
    OneLine (env.base64 bytes) := by
  rw [hwrites.base64, OneLine, String.toList_ofList]
  intro h
  exact absurd (Base64.encode_plain bytes '\n' h) (by decide)

/-- A policy says what it allows. -/
theorem policy_inj (hwrites : env.Writes float_text) {terms terms' : UploadTerms}
    (h : env.to_json terms.policy = env.to_json terms'.policy) : terms = terms' := by
  rw [hwrites.to_json] at h
  have hparse := parse_write hwrites.floats terms.policy
  rw [h, parse_write hwrites.floats, Option.some.injEq] at hparse
  simp only [UploadTerms.policy, Value.tree, Value.tree_items, Value.tree_fields, Number.write,
    JsonText.Tree.object.injEq, JsonText.Tree.array.injEq, JsonText.Tree.string.injEq,
    JsonText.Tree.number.injEq, List.cons.injEq, Prod.mk.injEq, true_and, and_true] at hparse
  obtain ⟨⟨hbucket, hkey, hcredential, hdate, hmax⟩, hexpiration⟩ := hparse
  have hbytes := Digits.toString_inj.mp (utf16_injective hmax)
  cases terms
  cases terms'
  simp only [UploadTerms.mk.injEq]
  exact ⟨(utf16_injective hbucket).symm, (utf16_injective hkey).symm,
    (utf16_injective hcredential).symm, (utf16_injective hdate).symm,
    (UInt64.toNat_inj.mp hbytes).symm, (utf16_injective hexpiration).symm⟩

/-- Every form has a policy and a signature in it. -/
theorem post_request_terms {dns : Dns} {config : S3Config} {allow_private : Bool}
    {payload_json : String} {form : PostForm} {now : Timestamps}
    (hnow : env.current_timestamps = .ok now)
    (h : post_request env dns config allow_private payload_json = .ok form) :
    ∃ (terms : UploadTerms) (policy_b64 signature : String), form.policy = terms.policy
      ∧ policy_b64 = env.base64 (utf8 (env.to_json form.policy))
      ∧ form.fields.lookup "Policy" = some (.string policy_b64)
      ∧ form.fields.lookup "X-Amz-Signature" = some (.string signature)
      ∧ (Message.policy config.secret_key now.datestamp config.region policy_b64).HasSignature env
        signature := by
  simp only [post_request, Result.bind_eq_ok, Result.mapError_eq_ok, Result.fail_if_eq_ok,
    Result.pure_eq_ok] at h
  obtain ⟨payload, -, -, -, -, -, now', hnow', target, -, expiration, -, key, hkey, digest, hdigest,
    rfl⟩ := h
  obtain rfl : now = now' := Except.ok.inj (hnow.symm.trans hnow')
  refine ⟨⟨config.bucket, payload.key, _, _, _, expiration⟩, _, hex_encode digest, rfl, rfl, rfl,
    rfl, digest, ?_, rfl⟩
  have hlinks : ∀ text, (Message.policy config.secret_key now.datestamp config.region text).links env
      = [utf8 now.datestamp, utf8 config.region, utf8 "s3", utf8 "aws4_request"]
        ++ [utf8 text] := fun _ => rfl
  rw [hlinks, chain_snoc]
  exact ⟨key, (derive_signing_key_ok env).mp hkey, hdigest⟩

end Forms

/-! ## 6. One signature, one purpose -/

/-- Texts of two messages that differ and have one digest, or two chains that meet. -/
def Broken (env : Env) (m m' : Message) : Prop :=
  Meet env.hmac_sha256 m.key (m.links env) m'.key (m'.links env)
    ∨ ∃ a b, m = .request a ∧ m' = .request b
      ∧ Collides env.sha256 (utf8 (canonical_request a)) (utf8 (canonical_request b))

section OnePurpose

variable {env : Env} {float_text : UInt64 → String} {config config' : S3Config}
  {signature : String} {m m' : Message} {p p' : Purpose}

/-- What every signature that is issued comes with. -/
inductive Made (env : Env) (config : S3Config) : Message → Purpose → Prop
  | request {input : SignInput} {p : Purpose} (h : Readable config input p) :
    Made env config (.request input) p
  | form {secret_key datestamp region : String} {terms : UploadTerms} :
    Made env config
      (.policy secret_key datestamp region (env.base64 (utf8 (env.to_json terms.policy))))
      (.upload terms)

/-- What was issued carries the signature of its message, and was made for its purpose. -/
theorem issued_ok (h : Issued env config signature m p) :
    m.HasSignature env signature ∧ Made env config m p := by
  cases h with
  | presigned h hsign => exact ⟨(sign_ok _).mp hsign, .request (readable_presigned h)⟩
  | deleted h hsign => exact ⟨(sign_ok _).mp hsign, .request (readable_deleted h)⟩
  | listed hsign => exact ⟨(sign_ok _).mp hsign, .request readable_listed⟩
  | @posted now dns allow_private payload_json form terms _ policy_b64 h hterms hpolicy hsign =>
      obtain ⟨terms', text, signature', hterms', htext, hpolicy', hsign', hchain⟩ :=
        post_request_terms (show (env.at_moment now).current_timestamps = .ok now from rfl) h
      rw [hpolicy', Option.some.injEq, Value.string.injEq] at hpolicy
      rw [hsign', Option.some.injEq, Value.string.injEq] at hsign
      rw [← hpolicy, ← hsign]
      refine ⟨hchain, ?_⟩
      rw [htext, hterms]
      exact .form

/-- Two requests whose chains agree are one, or their canonical texts collide. -/
theorem request_eq {a b : SignInput} (ha : Readable config a p) (hb : Readable config' b p')
    (hkey : (Message.request a).key = (Message.request b).key)
    (hlinks : (Message.request a).links env = (Message.request b).links env) :
    a = b ∨ Collides env.sha256 (utf8 (canonical_request a)) (utf8 (canonical_request b)) := by
  simp only [Message.links, List.cons.injEq, and_true, true_and] at hlinks
  obtain ⟨hdatestamp, hregion, hstring⟩ := hlinks
  obtain ⟨hhash, hscope⟩ := string_to_sign_inj (utf8_injective hstring)
  rcases eq_or_collides (hex_encode_injective hhash) with hcanonical | hcollides
  · obtain ⟨hmethod, huri, hquery, hhost⟩ := canonical_request_inj ha.lines.method hb.lines.method
      ha.lines.canonical_uri hb.lines.canonical_uri ha.lines.query hb.lines.query
      (utf8_injective hcanonical)
    obtain ⟨pairs, hdated, -⟩ := ha.read
    obtain ⟨pairs', hdated', -⟩ := hb.read
    obtain ⟨-, hdate⟩ := amz_date_eq hdated hdated' hquery
    have hsecret := utf8_injective hkey
    rw [String.append_right_inj] at hsecret
    left
    cases a
    cases b
    simp only [SignInput.mk.injEq]
    exact ⟨hsecret, utf8_injective hregion, utf8_injective hdatestamp, hdate, hscope hdate, hmethod,
      huri, hquery, hhost⟩
  · exact Or.inr hcollides

/-- The text a request signs has a line break in it. -/
theorem string_to_sign_lines (input : SignInput) : ¬ OneLine (string_to_sign env input) := by
  have hbreak : ¬ OneLine "\n" := by decide
  intro h
  delta string_to_sign at h
  rw [oneLine_append] at h
  obtain ⟨hfront, -⟩ := h
  rw [oneLine_append] at hfront
  exact hbreak hfront.2

/-- No request signs what a form signs. -/
theorem request_ne_form (hwrites : env.Writes float_text) {input : SignInput}
    {secret_key datestamp region : String} {bytes : List UInt8}
    (h : (Message.request input).links env
      = (Message.policy secret_key datestamp region (env.base64 bytes)).links env) : False := by
  simp only [Message.links, List.cons.injEq, and_true] at h
  have htext := utf8_injective h.2.2.2.2
  have hline := hwrites.oneLine_base64 bytes
  rw [← htext] at hline
  exact string_to_sign_lines input hline

/-- Two forms whose chains agree are one form. -/
theorem form_eq (hwrites : env.Writes float_text)
    {secret_key datestamp region secret_key' datestamp' region' : String}
    {terms terms' : UploadTerms}
    (hkey : (Message.policy secret_key datestamp region (env.base64 (utf8
        (env.to_json terms.policy)))).key
      = (Message.policy secret_key' datestamp' region' (env.base64 (utf8
        (env.to_json terms'.policy)))).key)
    (hlinks : (Message.policy secret_key datestamp region (env.base64 (utf8
        (env.to_json terms.policy)))).links env
      = (Message.policy secret_key' datestamp' region' (env.base64 (utf8
        (env.to_json terms'.policy)))).links env) :
    secret_key = secret_key' ∧ datestamp = datestamp' ∧ region = region' ∧ terms = terms' := by
  simp only [Message.links, List.cons.injEq, and_true, true_and] at hlinks
  obtain ⟨hdatestamp, hregion, htext⟩ := hlinks
  have hsecret := utf8_injective hkey
  rw [String.append_right_inj] at hsecret
  exact ⟨hsecret, utf8_injective hdatestamp, utf8_injective hregion,
    policy_inj hwrites (utf8_injective (hwrites.base64_inj (utf8_injective htext)))⟩

/-- **One signature, one purpose.** The message that is signed determines what it is for, and so
does its signature, unless two texts have one digest or the chain of keys meets with another. -/
theorem one_purpose (hwrites : env.Writes float_text) (h : Issued env config signature m p)
    (h' : Issued env config' signature m' p') :
    (m = m' ∧ (config = config' → p = p')) ∨ Broken env m m' := by
  obtain ⟨⟨digest, hchain, hdigest⟩, hmade⟩ := issued_ok h
  obtain ⟨⟨digest', hchain', hdigest'⟩, hmade'⟩ := issued_ok h'
  have hsame := hex_encode_injective (hdigest.symm.trans hdigest')
  subst hsame
  have hlen := (m.links_length env).trans (m'.links_length env).symm
  rcases chain_eq hlen hchain hchain' with ⟨hkey, hlinks⟩ | hmeet
  · cases hmade with
    | @request a p ha =>
        cases hmade' with
        | @request b p' hb =>
            rcases request_eq ha hb hkey hlinks with rfl | hcollides
            · exact Or.inl ⟨rfl, fun hconfig => purpose_eq ha (hconfig ▸ hb)⟩
            · exact Or.inr (Or.inr ⟨a, b, rfl, rfl, hcollides⟩)
        | form => exact (request_ne_form hwrites hlinks).elim
    | form =>
        cases hmade' with
        | request hb => exact (request_ne_form hwrites hlinks.symm).elim
        | form =>
            obtain ⟨rfl, rfl, rfl, rfl⟩ := form_eq hwrites hkey hlinks
            exact Or.inl ⟨rfl, fun _ => rfl⟩
  · exact Or.inr (Or.inl hmeet)

end OnePurpose

/-! ### One object under two keys -/

/-- Libraries whose payload is the key itself, with hashes that keep all they are given. -/
def plain_env : Env where
  presign_payload key := .ok { key }
  post_payload key := .ok { key }
  delete_payload key := .ok { key }
  to_json := Value.write no_floats
  current_timestamps := .error "system clock error"
  format_timestamp _ := none
  sha256 bytes := bytes
  hmac_sha256 key message := .ok (key ++ message)
  base64 bytes := String.ofList (Base64.encode .standard bytes)

theorem plain_env_writes : plain_env.Writes no_floats := ⟨no_floats_text, rfl, fun _ => rfl⟩

def june_fourth : Timestamps := ⟨"20260604T070000Z", "20260604", 1780556400⟩

/-- The request that uploads the object `a`. -/
def put_a : SignInput where
  secret_key := "secret"
  region := "us-east-1"
  datestamp := "20260604"
  amz_date := "20260604T070000Z"
  scope := "20260604/us-east-1/s3/aws4_request"
  method := "PUT"
  canonical_uri := "/b/a"
  query := "X-Amz-Algorithm=AWS4-HMAC-SHA256&X-Amz-Credential=AKIA%2F20260604%2Fus-east-1%2Fs3"
    ++ "%2Faws4_request&X-Amz-Date=20260604T070000Z&X-Amz-Expires=900&X-Amz-SignedHeaders=host"
  host := "93.184.216.34"

/-- It is signed for a key that is `a` less a leading slash. -/
theorem issued_put_a {key signature : String} (hkey : strip_slash key = "a")
    (hsign : sign plain_env put_a = .ok signature)
    (h : (presign_request (plain_env.at_moment june_fourth) zone_dns public_store false
      key).toOption.map (fun r => (r.key, r.expires, r.input)) = some (key, 900, put_a)) :
    Issued plain_env public_store signature (.request put_a) (.object "PUT" "a" 900) := by
  obtain ⟨r, hr, hfields⟩ := Option.map_eq_some_iff.mp h
  simp only [Prod.mk.injEq] at hfields
  obtain ⟨hk, he, hi⟩ := hfields
  have hpresign : presign_request (plain_env.at_moment june_fourth) zone_dns public_store false key
      = .ok r := by
    cases hout : presign_request (plain_env.at_moment june_fourth) zone_dns public_store false
        key with
    | error err =>
        rw [hout] at hr
        exact absurd hr nofun
    | ok r' =>
        rw [hout] at hr
        exact congrArg Except.ok (Option.some.inj hr)
  have hissued := Issued.presigned hpresign (hi.symm ▸ hsign)
  rw [hi, he, hk, hkey] at hissued
  exact hissued

/-- The keys `a` and `/a` have one signature, which is for one object. -/
theorem one_purpose_slashed_key : ∃ signature,
    Issued plain_env public_store signature (.request put_a) (.object "PUT" "a" 900)
      ∧ (presign_request (plain_env.at_moment june_fourth) zone_dns public_store false
        "/a").toOption.map (fun r => r.input) = some put_a
      ∧ (((Message.request put_a = .request put_a)
          ∧ (public_store = public_store
            → Purpose.object "PUT" "a" 900 = .object "PUT" "a" 900))
        ∨ Broken plain_env (.request put_a) (.request put_a)) := by
  have hsign : ∃ signature, sign plain_env put_a = .ok signature := ⟨_, rfl⟩
  obtain ⟨signature, hsign⟩ := hsign
  have hplain := @issued_put_a "a" _ (by decide) hsign (by decide +kernel)
  have hslashed := @issued_put_a "/a" _ (by decide) hsign (by decide +kernel)
  exact ⟨signature, hplain, by decide +kernel, one_purpose plain_env_writes hplain hslashed⟩

end Runlet.S3
