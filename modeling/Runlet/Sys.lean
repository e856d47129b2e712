/-
`$sys`, the standard library of the sandbox: the native `__sys(domain, op, payload)`
of `crates/runlet-core/src/sys.rs`, with both levels of its dispatcher.

The hash, codec and calendar crates and the JSON library are a `SysLib`. The wall
clock and the random source are an `Ambient`, an argument of every call. Epoch
milliseconds are integers, with the `i64` range checked where the source checks it.

The operator's secrets stay on this side of the bridge. `secrets_use_not_extract`
says what a script can learn of one: the digests it asks for, and nothing else.
-/
import Mathlib.Algebra.Group.Int.Defs
import Runlet.Json
import Runlet.Lib.Interaction
import Runlet.Lib.Percent
import Runlet.Lib.Result

set_option autoImplicit false

namespace Runlet.Sys

open Text Hex Percent Interaction Result Runlet.Json

/-! ## The outside -/

inductive Base64
  | standard
  | url_safe_no_pad
  deriving DecidableEq, Repr

inductive HmacHash
  | sha256
  | sha512
  deriving DecidableEq, Repr

/-- The crates behind the operations; an error is its `Display` text. -/
structure SysLib where
  from_str : String → Except String Value
  to_string : Value → Except String String
  sha256 : List UInt8 → List UInt8
  sha512 : List UInt8 → List UInt8
  /-- `Hmac::new_from_slice(key)`, then `update(msg)` and `finalize`. -/
  hmac : HmacHash → List UInt8 → List UInt8 → Except String (List UInt8)
  base64_encode : Base64 → List UInt8 → String
  base64_decode : Base64 → String → Except String (List UInt8)
  hex_decode : String → Except String (List UInt8)
  from_utf8 : List UInt8 → Except String String
  /-- `DateTime::parse_from_rfc3339`, as epoch milliseconds. -/
  parse_from_rfc3339 : String → Option ℤ
  /-- `NaiveDate::parse_from_str` with `%Y-%m-%d`, as days since the epoch. -/
  parse_ymd : String → Option ℤ
  /-- `DateTime::from_timestamp_millis`, then `to_rfc3339_opts`. -/
  to_rfc3339 : ℤ → Option String

/-- HMAC takes a key of any length: `new_from_slice` never fails. -/
def SysLib.TakesAnyKey (lib : SysLib) : Prop :=
  ∀ hash key msg, ∃ digest, lib.hmac hash key msg = .ok digest

/-- The host at one call: the time since the epoch in milliseconds (an error before
it), and the version 4 UUID the next draw gives. -/
structure Ambient where
  since_epoch : Except String ℕ
  new_v4 : String

/-! ## The secret store -/

/-- `SecretStore`: plaintext by name. -/
abbrev SecretStore := List (String × String)

def SecretStore.get (secrets : SecretStore) (name : String) : Option String :=
  (secrets.find? fun entry => entry.1 == name).map Prod.snd

structure SysConfig where
  env : List (String × Value)
  secrets : List (String × Value)

/-- `SysConfig::secret_store`: a value that is not a string is skipped. -/
def SysConfig.secret_store (config : SysConfig) : SecretStore :=
  config.secrets.filterMap fun entry => entry.2.as_str.map fun plain => (entry.1, plain)

/-- The store of an execution; without `config.sys` it is empty. -/
def secrets_of (config : Option SysConfig) : SecretStore :=
  (config.map SysConfig.secret_store).getD []

/-! ## Payload helpers -/

/-- `payload.get(key).and_then(Value::as_str)`. -/
def get_str (payload : Value) (key : String) : Option String :=
  (payload.get_key key).bind Value.as_str

def field_str (payload : Value) (key : String) : Except String String :=
  match get_str payload key with
  | some s => .ok s
  | none => .error s!"missing string field '{key}'"

def field_i64 (payload : Value) (key : String) : Except String ℤ :=
  match (payload.get_key key).bind Value.as_i64 with
  | some z => .ok z
  | none => .error s!"missing integer field '{key}'"

/-! ## crypto -/

section Crypto

variable (lib : SysLib)

def sha256_hex (data : String) : String := hex_encode (lib.sha256 (utf8 data))

def sha512_hex (data : String) : String := hex_encode (lib.sha512 (utf8 data))

/-- `hmac_sha256` and `hmac_sha512`. -/
def hmac_with (hash : HmacHash) (key msg : List UInt8) : Except String (List UInt8) :=
  (lib.hmac hash key msg).mapError fun err => s!"hmac key error: {err}"

def resolve_key (payload : Value) (secrets : SecretStore) : Except String String :=
  match get_str payload "key_ref" with
  | some name =>
    match secrets.get name with
    | some plain => .ok plain
    | none => .error s!"unknown secret: '{name}'"
  | none => field_str payload "key"

/-- The digest under the algorithm of that name. -/
def hmac_digest (algo key msg : String) : Except String (List UInt8) :=
  match algo with
  | "sha256" => hmac_with lib .sha256 (utf8 key) (utf8 msg)
  | "sha512" => hmac_with lib .sha512 (utf8 key) (utf8 msg)
  | other => .error s!"unsupported hmac algorithm: '{other}'"

def encode_bytes (bytes : List UInt8) (encoding : String) : Except String String :=
  match encoding with
  | "hex" => .ok (hex_encode bytes)
  | "base64" => .ok (lib.base64_encode .standard bytes)
  | "base64url" => .ok (lib.base64_encode .url_safe_no_pad bytes)
  | other => .error s!"unsupported encoding: '{other}'"

/-- `payload.get("encoding").and_then(Value::as_str).unwrap_or("hex")`. -/
def encoding_of (payload : Value) : String := (get_str payload "encoding").getD "hex"

def hmac_op (payload : Value) (secrets : SecretStore) : Except String Value := do
  let algo ← field_str payload "algo"
  let key ← resolve_key payload secrets
  let msg ← field_str payload "msg"
  let encoding := encoding_of payload
  let bytes ← hmac_digest lib algo key msg
  let text ← encode_bytes lib bytes encoding
  .ok (.string text)

def base64_decode (engine : Base64) (data : String) : Except String (List UInt8) :=
  (lib.base64_decode engine data).mapError fun err => s!"invalid base64: {err}"

def decode_utf8 (bytes : List UInt8) : Except String Value :=
  match lib.from_utf8 bytes with
  | .ok text => .ok (.string text)
  | .error err => .error s!"decoded bytes are not valid utf-8: {err}"

def url_decode (data : String) : Except String Value :=
  match lib.from_utf8 (Percent.decode data.toList) with
  | .ok text => .ok (.string text)
  | .error err => .error s!"invalid percent-encoding: {err}"

/-- The bytes `NON_ALPHANUMERIC` leaves alone. -/
def is_alphanumeric (b : UInt8) : Bool := b < 128 && (Char.ofNat b.toNat).isAlphanum

def encoding_dispatch (op : String) (payload : Value) : Except String Value := do
  let data ← field_str payload "data"
  match op with
  | "base64_encode" => .ok (.string (lib.base64_encode .standard (utf8 data)))
  | "base64_decode" => do
    let bytes ← base64_decode lib .standard data
    decode_utf8 lib bytes
  | "base64url_encode" => .ok (.string (lib.base64_encode .url_safe_no_pad (utf8 data)))
  | "base64url_decode" => do
    let bytes ← base64_decode lib .url_safe_no_pad data
    decode_utf8 lib bytes
  | "hex_encode" => .ok (.string (hex_encode (utf8 data)))
  | "hex_decode" => do
    let bytes ← (lib.hex_decode data).mapError fun err => s!"invalid hex: {err}"
    decode_utf8 lib bytes
  | "url_encode" => .ok (.string (String.ofList (utf8_percent_encode is_alphanumeric data)))
  | "url_decode" => url_decode lib data
  | other => .error s!"unknown encoding op: '{other}'"

/-- The operations `crypto_dispatch` hands to `encoding_dispatch`. -/
def encoding_ops : List String :=
  ["base64_encode", "base64_decode", "base64url_encode", "base64url_decode", "hex_encode",
    "hex_decode", "url_encode", "url_decode"]

def crypto_dispatch (now : Ambient) (op : String) (payload : Value) (secrets : SecretStore) :
    Except String Value :=
  match op with
  | "sha256" => do
    let data ← field_str payload "data"
    .ok (.string (sha256_hex lib data))
  | "sha512" => do
    let data ← field_str payload "data"
    .ok (.string (sha512_hex lib data))
  | "hmac" => hmac_op lib payload secrets
  | "uuid" => .ok (.string now.new_v4)
  | other =>
    if other ∈ encoding_ops then encoding_dispatch lib other payload
    else .error s!"unknown crypto op: '{other}'"

end Crypto

/-! ## date -/

def MILLIS_PER_SECOND : ℤ := 1000
def SECONDS_PER_MINUTE : ℕ := 60
def SECONDS_PER_HOUR : ℕ := 3600
def SECONDS_PER_DAY : ℕ := 86400

/-- An `i64` result, `None` on overflow. -/
def checked_i64 (z : ℤ) : Option ℤ := if -2 ^ 63 ≤ z ∧ z < 2 ^ 63 then some z else none

/-- `i64::checked_div`, which truncates toward zero. -/
def checked_div (a b : ℤ) : Option ℤ := if b = 0 then none else checked_i64 (a.tdiv b)

/-- `Option::ok_or_else`. -/
def ok_or {α : Type} (x : Option α) (message : String) : Except String α :=
  match x with
  | some a => .ok a
  | none => .error message

def now_millis (now : Ambient) : Except String ℤ := do
  let elapsed ← now.since_epoch.mapError fun err => s!"system clock error: {err}"
  ok_or (checked_i64 elapsed)
    "timestamp overflow: out of range integral type conversion attempted"

section Date

variable (lib : SysLib)

/-- Midnight UTC of a date-only text; `and_hms_opt(0, 0, 0)` never fails. -/
def parse_date_str (text : String) : Except String ℤ :=
  match lib.parse_from_rfc3339 (trim text) with
  | some millis => .ok millis
  | none =>
    match lib.parse_ymd (trim text) with
    | some days => .ok (days * SECONDS_PER_DAY * MILLIS_PER_SECOND)
    | none => .error s!"cannot parse date: '{text}'"

def parse_input : Value → Except String ℤ
  | .number num => ok_or num.as_i64 "epoch millis must be an integer"
  | .string text => parse_date_str lib text
  | .null | .bool _ | .array _ | .object _ =>
    .error "date input must be an ISO string or epoch millis"

def date_parse (payload : Value) : Except String Value := do
  let input ← ok_or (payload.get_key "input") "missing 'input'"
  let millis ← parse_input lib input
  .ok (of_i64 millis)

def date_add (payload : Value) : Except String Value := do
  let base ← field_i64 payload "ms"
  let delta ← field_i64 payload "delta_ms"
  let out ← ok_or (checked_i64 (base + delta)) "date arithmetic overflow"
  .ok (of_i64 out)

def date_iso (payload : Value) : Except String Value := do
  let millis ← field_i64 payload "ms"
  let text ← ok_or (lib.to_rfc3339 millis) "timestamp out of range"
  .ok (.string text)

def date_unix (payload : Value) : Except String Value := do
  let millis ← field_i64 payload "ms"
  let secs ← ok_or (checked_div millis MILLIS_PER_SECOND) "timestamp overflow"
  .ok (of_i64 secs)

/-- Checked `(value / unit, value % unit)`. -/
def divmod (value unit : ℕ) : Except String (ℕ × ℕ) :=
  if unit = 0 then .error "duration overflow" else .ok (value / unit, value % unit)

def split_duration (total_seconds : ℕ) : Except String (ℕ × ℕ × ℕ × ℕ) := do
  let (days, after_days) ← divmod total_seconds SECONDS_PER_DAY
  let (hours, after_hours) ← divmod after_days SECONDS_PER_HOUR
  let (minutes, seconds) ← divmod after_hours SECONDS_PER_MINUTE
  .ok (days, hours, minutes, seconds)

def date_diff (payload : Value) : Except String Value := do
  let first ← field_i64 payload "a"
  let second ← field_i64 payload "b"
  let total_ms ← ok_or (checked_i64 (first - second)) "date diff overflow"
  let total_seconds ← ok_or (checked_div total_ms MILLIS_PER_SECOND) "timestamp overflow"
  let (days, hours, minutes, seconds) ← split_duration total_seconds.natAbs
  .ok (.object [("days", of_u64 days), ("hours", of_u64 hours), ("minutes", of_u64 minutes),
    ("seconds", of_u64 seconds), ("total_ms", of_i64 total_ms),
    ("total_seconds", of_i64 total_seconds)])

def date_dispatch (now : Ambient) (op : String) (payload : Value) : Except String Value :=
  match op with
  | "now" => do
    let millis ← now_millis now
    .ok (of_i64 millis)
  | "parse" => date_parse lib payload
  | "add" => date_add payload
  | "diff" => date_diff payload
  | "iso" => date_iso lib payload
  | "unix" => date_unix payload
  | other => .error s!"unknown date op: '{other}'"

end Date

/-! ## The bridge -/

section Bridge

variable (lib : SysLib)

def dispatch (now : Ambient) (domain op payload : String) (secrets : SecretStore) :
    Except String Value := do
  let parsed ← (lib.from_str payload).mapError fun err => s!"invalid payload: {err}"
  match domain with
  | "crypto" => crypto_dispatch lib now op parsed secrets
  | "date" => date_dispatch lib now op parsed
  | other => .error s!"unknown sys domain: '{other}'"

/-- The success envelope. -/
def value_json (value : Value) : String :=
  match lib.to_string value with
  | .ok inner => "\x7b\"v\":" ++ inner ++ "\x7d"
  | .error _ => "\x7b\"error\":\"failed to encode result\"\x7d"

structure SysCall where
  domain : String
  op : String
  payload : String
  deriving DecidableEq, Repr

/-- The closure bound to `__sys`. -/
def native_sys (now : Ambient) (secrets : SecretStore) (call : SysCall) : String :=
  match dispatch lib now call.domain call.op call.payload secrets with
  | .ok value => value_json lib value
  | .error err => error_json lib.to_string err

end Bridge

/-! ## Two stores -/

/-- The stores know the same names. -/
def SameNames (s t : SecretStore) : Prop := ∀ name, (s.get name).isSome = (t.get name).isSome

/-- The stores know the same names and differ at most in the value of `n`. -/
def DifferOnlyIn (n : String) (s t : SecretStore) : Prop :=
  SameNames s t ∧ ∀ name, name ≠ n → s.get name = t.get name

/-- The call asks for an HMAC under the secret `n`, and nothing else is wrong with
it: the algorithm and the encoding are supported and the message is a string. -/
structure HmacUnder (lib : SysLib) (call : SysCall) (n algo msg encoding : String) : Prop where
  domain : call.domain = "crypto"
  op : call.op = "hmac"
  payload : ∃ parsed, lib.from_str call.payload = .ok parsed ∧ get_str parsed "key_ref" = some n
    ∧ get_str parsed "algo" = some algo ∧ get_str parsed "msg" = some msg
    ∧ encoding_of parsed = encoding
  algo : algo ∈ ["sha256", "sha512"]
  encoding : encoding ∈ ["hex", "base64", "base64url"]

/-- Where the call asks for a digest under a secret of both stores, it is the same
digest. -/
def DigestsAgree (lib : SysLib) (s t : SecretStore) (call : SysCall) : Prop :=
  ∀ n algo msg encoding, HmacUnder lib call n algo msg encoding →
    ∀ key key', s.get n = some key → t.get n = some key' →
      hmac_digest lib algo key msg = hmac_digest lib algo key' msg

section Extraction

variable {lib : SysLib}

theorem field_str_of_some {payload : Value} {key s : String} (h : get_str payload key = some s) :
    field_str payload key = .ok s := by
  rw [field_str, h]

theorem field_str_of_none {payload : Value} {key : String} (h : get_str payload key = none) :
    field_str payload key = .error s!"missing string field '{key}'" := by
  rw [field_str, h]

/-- A supported algorithm always gives a digest. -/
theorem hmac_digest_total (hany : lib.TakesAnyKey) {algo : String}
    (halgo : algo ∈ ["sha256", "sha512"]) (key msg : String) :
    ∃ digest, hmac_digest lib algo key msg = .ok digest := by
  have hwith : ∀ hash, ∃ digest, hmac_with lib hash (utf8 key) (utf8 msg) = .ok digest := by
    intro hash
    obtain ⟨digest, hdigest⟩ := hany hash (utf8 key) (utf8 msg)
    exact ⟨digest, mapError_eq_ok.mpr hdigest⟩
  rcases List.mem_pair.mp halgo with rfl | rfl
  · exact hwith .sha256
  · exact hwith .sha512

/-- An unsupported one gives an error that does not look at the key. -/
theorem hmac_digest_unsupported {algo : String} (halgo : algo ∉ ["sha256", "sha512"])
    (key msg : String) :
    hmac_digest lib algo key msg = .error s!"unsupported hmac algorithm: '{algo}'" := by
  unfold hmac_digest
  split
  · simp at halgo
  · simp at halgo
  · rfl

/-- The three encodings encode anything. -/
theorem encode_bytes_total {encoding : String} (henc : encoding ∈ ["hex", "base64", "base64url"])
    (bytes : List UInt8) : ∃ text, encode_bytes lib bytes encoding = .ok text := by
  simp only [List.mem_cons, List.not_mem_nil, or_false] at henc
  rcases henc with rfl | rfl | rfl
  · exact ⟨_, rfl⟩
  · exact ⟨_, rfl⟩
  · exact ⟨_, rfl⟩

/-- An encoding that is none of the three is refused by its name. -/
theorem encode_bytes_unsupported {encoding : String}
    (henc : encoding ∉ ["hex", "base64", "base64url"]) (bytes : List UInt8) :
    encode_bytes lib bytes encoding = .error s!"unsupported encoding: '{encoding}'" := by
  unfold encode_bytes
  split
  · simp at henc
  · simp at henc
  · simp at henc
  · rfl

/-- What `hmac_op` does once the key and the message are there. -/
def finish (lib : SysLib) (algo key msg encoding : String) : Except String Value := do
  let bytes ← hmac_digest lib algo key msg
  let text ← encode_bytes lib bytes encoding
  .ok (.string text)

/-- A digest under a key, step by step. -/
theorem hmac_op_eq (payload : Value) (secrets : SecretStore) :
    hmac_op lib payload secrets = (do
      let algo ← field_str payload "algo"
      let key ← resolve_key payload secrets
      let msg ← field_str payload "msg"
      finish lib algo key msg (encoding_of payload)) := rfl

/-- The result of a query: the chosen encoding of the digest. -/
theorem finish_ok (hany : lib.TakesAnyKey) {algo encoding : String}
    (halgo : algo ∈ ["sha256", "sha512"]) (henc : encoding ∈ ["hex", "base64", "base64url"])
    (key msg : String) :
    ∃ digest text, hmac_digest lib algo key msg = .ok digest
      ∧ encode_bytes lib digest encoding = .ok text
      ∧ finish lib algo key msg encoding = .ok (.string text) := by
  obtain ⟨digest, hdigest⟩ := hmac_digest_total hany halgo key msg
  have hencode : ∃ text, encode_bytes lib digest encoding = .ok text :=
    encode_bytes_total henc digest
  obtain ⟨text, htext⟩ := hencode
  refine ⟨digest, text, hdigest, htext, ?_⟩
  rw [finish, hdigest, ok_bind, htext, ok_bind]

/-- Whatever is unsupported is refused without a look at the key. -/
theorem finish_congr_of_unsupported (hany : lib.TakesAnyKey) {algo encoding : String}
    (h : ¬ (algo ∈ ["sha256", "sha512"] ∧ encoding ∈ ["hex", "base64", "base64url"]))
    (key key' msg : String) :
    finish lib algo key msg encoding = finish lib algo key' msg encoding := by
  by_cases halgo : algo ∈ ["sha256", "sha512"]
  -- both keys give a digest, and the encoding is refused after either
  · have henc : encoding ∉ ["hex", "base64", "base64url"] := fun henc => h ⟨halgo, henc⟩
    obtain ⟨digest, hdigest⟩ := hmac_digest_total hany halgo key msg
    obtain ⟨digest', hdigest'⟩ := hmac_digest_total hany halgo key' msg
    rw [finish, finish, hdigest, hdigest', ok_bind, ok_bind]
    rw [encode_bytes_unsupported henc, encode_bytes_unsupported henc]
  · rw [finish, finish, hmac_digest_unsupported halgo, hmac_digest_unsupported halgo]

theorem finish_congr {algo key key' msg : String}
    (h : hmac_digest lib algo key msg = hmac_digest lib algo key' msg) (encoding : String) :
    finish lib algo key msg encoding = finish lib algo key' msg encoding := by
  rw [finish, finish, h]

/-- A name the stores both know, or neither. -/
theorem SameNames.cases {s t : SecretStore} (h : SameNames s t) (name : String) :
    (s.get name = none ∧ t.get name = none)
      ∨ ∃ key key', s.get name = some key ∧ t.get name = some key' := by
  have hname := h name
  cases hs : s.get name with
  | none =>
      rw [hs] at hname
      exact Or.inl ⟨rfl, Option.isSome_eq_false_iff.mp hname.symm |> Option.isNone_iff_eq_none.mp⟩
  | some key =>
      rw [hs] at hname
      obtain ⟨key', hkey'⟩ := Option.isSome_iff_exists.mp hname.symm
      exact Or.inr ⟨key, key', rfl, hkey'⟩

/-- A key that is named is the secret of that name. -/
theorem resolve_key_of_ref {payload : Value} {n key : String} {secrets : SecretStore}
    (href : get_str payload "key_ref" = some n) (hkey : secrets.get n = some key) :
    resolve_key payload secrets = .ok key := by
  rw [resolve_key, href]
  dsimp only
  rw [hkey]

/-- A key is looked up by the one name that the payload gives. -/
theorem resolve_key_congr {payload : Value} {s t : SecretStore}
    (h : ∀ n, get_str payload "key_ref" = some n → s.get n = t.get n) :
    resolve_key payload s = resolve_key payload t := by
  rw [resolve_key, resolve_key]
  cases href : get_str payload "key_ref" with
  | none => rfl
  | some n =>
      dsimp only
      rw [h n href]

/-- **The key stays behind.** On two stores with the same names `hmac_op` answers
alike, unless everything is in place for a digest and the two digests differ. -/
theorem hmac_op_congr (hany : lib.TakesAnyKey) {payload : Value} {s t : SecretStore}
    (hnames : SameNames s t)
    (hagree : ∀ n algo msg, get_str payload "key_ref" = some n →
      get_str payload "algo" = some algo → get_str payload "msg" = some msg →
      algo ∈ ["sha256", "sha512"] → encoding_of payload ∈ ["hex", "base64", "base64url"] →
      ∀ key key', s.get n = some key → t.get n = some key' →
        hmac_digest lib algo key msg = hmac_digest lib algo key' msg) :
    hmac_op lib payload s = hmac_op lib payload t := by
  rw [hmac_op_eq, hmac_op_eq]
  -- the fields are read in the source's order: an error before the key is common to both
  cases halgo : get_str payload "algo" with
  | none => rw [field_str_of_none halgo, error_bind, error_bind]
  | some algo =>
      rw [field_str_of_some halgo, ok_bind, ok_bind]
      by_cases href : ∀ n, get_str payload "key_ref" = some n → s.get n = t.get n
      · rw [resolve_key_congr href]
      · push Not at href
        obtain ⟨n, href, hdiffer⟩ := href
        rcases hnames.cases n with ⟨hs, ht⟩ | ⟨key, key', hs, ht⟩
        · exact absurd (hs.trans ht.symm) hdiffer
        · rw [resolve_key_of_ref href hs, resolve_key_of_ref href ht, ok_bind, ok_bind]
          cases hmsg : get_str payload "msg" with
          | none => rw [field_str_of_none hmsg, error_bind, error_bind]
          | some msg =>
              rw [field_str_of_some hmsg, ok_bind, ok_bind]
              by_cases hsup : algo ∈ ["sha256", "sha512"]
                  ∧ encoding_of payload ∈ ["hex", "base64", "base64url"]
              · have hdigest := hagree n algo msg href halgo hmsg hsup.1 hsup.2 key key' hs ht
                exact finish_congr hdigest _
              · exact finish_congr_of_unsupported hany hsup key key' msg

/-- Only `hmac` looks at the secrets. -/
theorem crypto_dispatch_congr {now : Ambient} {op : String} {payload : Value}
    {s t : SecretStore} (h : op = "hmac" → hmac_op lib payload s = hmac_op lib payload t) :
    crypto_dispatch lib now op payload s = crypto_dispatch lib now op payload t := by
  by_cases hop : op = "hmac"
  · subst hop
    exact h rfl
  · unfold crypto_dispatch
    split
    · rfl
    · rfl
    · exact absurd rfl hop
    · rfl
    · rfl

/-- What a call answers depends on the secrets by their names and by the digests under them, and
by nothing else. -/
theorem dispatch_congr (hany : lib.TakesAnyKey) {now : Ambient} {call : SysCall}
    {s t : SecretStore} (hnames : SameNames s t) (hagree : DigestsAgree lib s t call) :
    dispatch lib now call.domain call.op call.payload s
      = dispatch lib now call.domain call.op call.payload t := by
  rw [dispatch, dispatch]
  cases hparse : lib.from_str call.payload with
  | error err => rfl
  | ok parsed =>
      have hok : (Except.ok parsed : Except String Value).mapError
          (fun err => s!"invalid payload: {err}") = .ok parsed := rfl
      rw [hok, ok_bind, ok_bind]
      -- `crypto` is the one domain that is handed the secrets
      by_cases hdomain : call.domain = "crypto"
      · rw [hdomain]
        apply crypto_dispatch_congr
        intro hop
        apply hmac_op_congr hany hnames
        intro n algo msg href halgo hmsg hsup henc
        exact hagree n algo msg _
          ⟨hdomain, hop, ⟨parsed, hparse, href, halgo, hmsg, rfl⟩, hsup, henc⟩
      · split
        · rename_i heq
          exact absurd heq hdomain
        · rfl
        · rfl

/-- The one case in which a secret is used. -/
theorem dispatch_of_hmac (hany : lib.TakesAnyKey) {call : SysCall} {n algo msg encoding : String}
    (h : HmacUnder lib call n algo msg encoding) {secrets : SecretStore} {key : String}
    (hkey : secrets.get n = some key) (now : Ambient) :
    ∃ digest text, hmac_digest lib algo key msg = .ok digest
      ∧ encode_bytes lib digest encoding = .ok text
      ∧ dispatch lib now call.domain call.op call.payload secrets = .ok (.string text) := by
  obtain ⟨hdomain, hop, ⟨parsed, hparse, href, halgo, hmsg, henc⟩, hsup, hsupenc⟩ := h
  obtain ⟨digest, text, hdigest, htext, hfinish⟩ := finish_ok hany hsup hsupenc key msg
  refine ⟨digest, text, hdigest, htext, ?_⟩
  have hok : (lib.from_str call.payload).mapError (fun err => s!"invalid payload: {err}")
      = .ok parsed := mapError_eq_ok.mpr hparse
  have hmac : hmac_op lib parsed secrets = .ok (.string text) := by
    rw [hmac_op_eq, field_str_of_some halgo, ok_bind, resolve_key_of_ref href hkey, ok_bind,
      field_str_of_some hmsg, ok_bind, henc, hfinish]
  rw [dispatch, hok, ok_bind, hdomain, hop]
  exact hmac

/-- A call that makes no digest under the name does not see what is stored there. -/
theorem digestsAgree_of_not_hmac {n : String} {s t : SecretStore} (h : DifferOnlyIn n s t)
    {call : SysCall} (hnot : ¬ ∃ algo msg encoding, HmacUnder lib call n algo msg encoding) :
    DigestsAgree lib s t call := by
  intro name algo msg encoding hunder key key' hs ht
  by_cases hname : name = n
  · subst hname
    exact absurd ⟨algo, msg, encoding, hunder⟩ hnot
  · rw [h.2 name hname, ht] at hs
    rw [Option.some.inj hs]

theorem DifferOnlyIn.symm {n : String} {s t : SecretStore} (h : DifferOnlyIn n s t) :
    DifferOnlyIn n t s :=
  ⟨fun name => (h.1 name).symm, fun name hne => (h.2 name hne).symm⟩

/-- An error on one store is the same error on the other. -/
theorem dispatch_error (hany : lib.TakesAnyKey) {n : String} {s t : SecretStore}
    (h : DifferOnlyIn n s t) {now : Ambient} {call : SysCall} {err : String}
    (herr : dispatch lib now call.domain call.op call.payload s = .error err) :
    dispatch lib now call.domain call.op call.payload t = .error err := by
  by_cases hunder : ∃ algo msg encoding, HmacUnder lib call n algo msg encoding
  · obtain ⟨algo, msg, encoding, hunder⟩ := hunder
    rcases h.1.cases n with ⟨hs, ht⟩ | ⟨key, key', hs, ht⟩
    -- neither store knows `n`, so they are equal on every name
    · have hagree : DigestsAgree lib s t call := by
        intro name algo msg encoding hunder key key' hs' ht'
        have hname : name ≠ n := by
          intro hname
          rw [hname, hs] at hs'
          cases hs'
        rw [h.2 name hname, ht'] at hs'
        rw [Option.some.inj hs']
      rw [← dispatch_congr hany h.1 hagree]
      exact herr
    -- a known secret is used, and the call does not fail
    · obtain ⟨digest, text, -, -, hok⟩ := dispatch_of_hmac hany hunder hs now
      rw [hok] at herr
      cases herr
  · rw [← dispatch_congr hany h.1 (digestsAgree_of_not_hmac h hunder)]
    exact herr

end Extraction

/-! ## What a script can learn -/

/-- What a call shows of the secret `n` that two stores disagree on. -/
structure UseNotExtract (lib : SysLib) (n : String) (s t : SecretStore) (now : Ambient)
    (call : SysCall) : Prop where
  alike : (¬ ∃ algo msg encoding, HmacUnder lib call n algo msg encoding) →
    dispatch lib now call.domain call.op call.payload s
      = dispatch lib now call.domain call.op call.payload t
  digest_only : ∀ algo msg encoding, HmacUnder lib call n algo msg encoding →
    ∀ key, s.get n = some key → ∃ digest text, hmac_digest lib algo key msg = .ok digest
      ∧ encode_bytes lib digest encoding = .ok text
      ∧ dispatch lib now call.domain call.op call.payload s = .ok (.string text)
  errors_alike : ∀ err, dispatch lib now call.domain call.op call.payload s = .error err
    ↔ dispatch lib now call.domain call.op call.payload t = .error err

/-- The host of a run: the `i`-th call finds the `i`-th ambient. -/
def sys_host (lib : SysLib) (ambient : ℕ → Ambient) (secrets : SecretStore) (i : ℕ)
    (call : SysCall) : String × ℕ :=
  (native_sys lib (ambient i) secrets call, i + 1)

/-- So does what the host answers, call by call. -/
theorem sys_host_congr {lib : SysLib} (hany : lib.TakesAnyKey) {s t : SecretStore}
    (hnames : SameNames s t) {call : SysCall} (hagree : DigestsAgree lib s t call)
    (ambient : ℕ → Ambient) (i : ℕ) :
    sys_host lib ambient s i call = sys_host lib ambient t i call := by
  rw [sys_host, sys_host, native_sys, native_sys, dispatch_congr hany hnames hagree]

/-- **Secrets are use-not-extract.** A call on two stores that differ in one secret
is answered alike unless it asks for an HMAC under that secret, and then the answer
is the encoded digest. A script, however it chooses its calls, does not tell apart
two stores that give it the same digests. -/
theorem secrets_use_not_extract (lib : SysLib) (hany : lib.TakesAnyKey) :
    (∀ n s t, DifferOnlyIn n s t → ∀ now call, UseNotExtract lib n s t now call)
      ∧ ∀ (α : Type) (script : Script SysCall String α) (ambient : ℕ → Ambient)
          (s t : SecretStore), SameNames s t →
          Along (sys_host lib ambient s) (fun _ call => DigestsAgree lib s t call) script 0 →
          run (sys_host lib ambient s) script 0 = run (sys_host lib ambient t) script 0 := by
  constructor
  · intro n s t hdiffer now call
    refine ⟨?_, ?_, ?_⟩
    · intro hnot
      exact dispatch_congr hany hdiffer.1 (digestsAgree_of_not_hmac hdiffer hnot)
    · intro algo msg encoding hunder key hkey
      exact dispatch_of_hmac hany hunder hkey now
    · intro err
      exact ⟨dispatch_error hany hdiffer, dispatch_error hany hdiffer.symm⟩
  · intro α script ambient s t hnames halong
    have hstep : ∀ i j call, i = j → DigestsAgree lib s t call →
        (sys_host lib ambient s i call).1 = (sys_host lib ambient t j call).1
          ∧ (sys_host lib ambient s i call).2 = (sys_host lib ambient t j call).2 := by
      rintro i j call rfl hagree
      rw [sys_host_congr hany hnames hagree]
      exact ⟨rfl, rfl⟩
    obtain ⟨hlog, hout, hfinal⟩ := run_agree hstep rfl halong
    exact Run.ext hlog hout hfinal

/-! ### A signing key -/

/-- The document of `sign_call`. -/
def sign_payload : Value :=
  .object [("algo", .string "sha256"), ("key_ref", .string "signing"), ("msg", .string "hi")]

/-- `__sys("crypto", "hmac", …)` with the handle `$sys.secrets.signing`. -/
def sign_call : SysCall where
  domain := "crypto"
  op := "hmac"
  payload := "\x7b\"algo\":\"sha256\",\"key_ref\":\"signing\",\"msg\":\"hi\"\x7d"

/-- HMAC-SHA-256 of `hi` under `alpha`. -/
def alpha_digest : List UInt8 :=
  [76, 252, 152, 109, 119, 197, 77, 145, 153, 104, 221, 186, 99, 92, 49, 143, 205, 166, 70, 122,
    57, 32, 20, 116, 113, 74, 223, 130, 204, 67, 41, 178]

/-- The libraries, as far as `sign_call` under `alpha` reaches them. -/
def sign_lib : SysLib where
  from_str text := if text = sign_call.payload then .ok sign_payload else .error "expected value"
  to_string _ := .error ""
  sha256 _ := []
  sha512 _ := []
  hmac hash key msg :=
    .ok (if hash = .sha256 ∧ key = utf8 "alpha" ∧ msg = utf8 "hi" then alpha_digest else [])
  base64_encode _ _ := ""
  base64_decode _ _ := .error ""
  hex_decode _ := .error ""
  from_utf8 _ := .error ""
  parse_from_rfc3339 _ := none
  parse_ymd _ := none
  to_rfc3339 _ := none

theorem sign_lib_takes_any_key : sign_lib.TakesAnyKey := fun _ _ _ => ⟨_, rfl⟩

/-- This call makes a digest under that secret. -/
theorem sign_call_under : HmacUnder sign_lib sign_call "signing" "sha256" "hi" "hex" where
  domain := rfl
  op := rfl
  payload := ⟨sign_payload, by simp [sign_lib], by decide, by decide, by decide, by decide⟩
  algo := by decide
  encoding := by decide

/-- A rotated key: two stores that differ in the one secret they hold. -/
theorem rotated_differ : DifferOnlyIn "signing" [("signing", "alpha")] [("signing", "beta")] := by
  constructor
  · intro name
    by_cases hname : "signing" = name
    · simp [SecretStore.get, hname]
    · simp [SecretStore.get, hname]
  · intro name hname
    have hne : ("signing" == name) = false := beq_eq_false_iff_ne.mpr (Ne.symm hname)
    simp [SecretStore.get, hne]

/-- A digest under a secret, for two values of it. -/
theorem secrets_use_not_extract_signing :
    DifferOnlyIn "signing" [("signing", "alpha")] [("signing", "beta")]
      ∧ HmacUnder sign_lib sign_call "signing" "sha256" "hi" "hex"
      ∧ (∃ digest text, hmac_digest sign_lib "sha256" "alpha" "hi" = .ok digest
        ∧ encode_bytes sign_lib digest "hex" = .ok text
        ∧ dispatch sign_lib ⟨.ok 0, ""⟩ "crypto" "hmac" sign_call.payload [("signing", "alpha")]
          = .ok (.string text))
      ∧ hmac_digest sign_lib "sha256" "alpha" "hi" = .ok alpha_digest :=
  ⟨rotated_differ, sign_call_under,
    ((secrets_use_not_extract sign_lib sign_lib_takes_any_key).1 "signing" _ _ rotated_differ
      ⟨.ok 0, ""⟩ sign_call).digest_only _ _ _ sign_call_under "alpha" (by decide), by decide⟩

end Runlet.Sys
