/-
The s3 operations that talk to the store, and the native function behind the `s3`
global (`crates/runlet-core/src/s3.rs`): `do_delete`, `do_usage` with its list
pages, and the closure of `inject_s3`.

An operation is a computation that leaves a trace: the requests it sends and the
metrics it records, in order. What it meets outside is a `Moment`: the libraries
with the clock, the resolver, the client and the store, one moment for each request
of a call.

The operation limit is checked against the number of recorded metrics, so it only
bites where every request is recorded. `s3_metered_iff` says when that is so.
-/
import Runlet.Lib.Effects
import Runlet.Lib.Machine
import Runlet.S3.Object

set_option autoImplicit false

namespace Runlet.S3

open Effects Machine Net Text Percent Runlet.Json Runlet.Wire

/-- The op budget is used up. -/
def S3_OP_LIMIT : Fault := ⟨"S3_OP_LIMIT", false, .developer⟩

structure UsagePayload where
  prefix_text : String := ""
  deriving DecidableEq, Repr

/-- What the store answers a request with: no answer, or a status and a body that
may not arrive. -/
abbrev Send := String → Except String (UInt16 × Except String String)

/-- The outside at one request. -/
structure Moment where
  env : Env
  usage_payload : String → Except String UsagePayload
  dns : Dns
  build_blocking_client : Except String Unit
  send : Send
  duration_us : ℕ

inductive StoreEffect
  | request (method url : String)
  | metric (m : S3Metric)
  deriving DecidableEq, Repr

/-! ## Reading a listing -/

/-- `str::parse::<u64>`. -/
def parse_u64 (text : List Char) : Option UInt64 :=
  let digits := match text with
    | '+' :: rest => rest
    | _ => text
  if digits ≠ [] ∧ digits.all Char.isDigit ∧ digits_value 10 digits < 2 ^ 64 then
    some (.ofNat (digits_value 10 digits))
  else none

def checked_add (a b : UInt64) : Option UInt64 :=
  if a.toNat + b.toNat < 2 ^ 64 then some (a + b) else none

/-- One `<Size>` element more. -/
def add_size (total : UInt64 × UInt64) (segment : List Char) : Except String (UInt64 × UInt64) :=
  let raw := trim_chars ((split "</Size>".toList segment).headD [])
  match parse_u64 raw with
  | none => .error ("malformed S3 <Size> value: " ++ String.ofList raw)
  | some value =>
    match checked_add total.1 value with
    | none => .error "size sum overflow"
    | some bytes =>
      match checked_add total.2 1 with
      | none => .error "object count overflow"
      | some objects => .ok (bytes, objects)

/-- `sum_sizes`: the bytes and the objects of a page. -/
def sum_sizes (xml : String) : Except String (UInt64 × UInt64) :=
  ((split "<Size>".toList xml.toList).drop 1).foldlM add_size (0, 0)

/-- `extract_tag`: the text of the first element. -/
def extract_tag (xml : String) (opening closing : List Char) : Option String :=
  (split opening xml.toList)[1]?.map fun rest =>
    String.ofList (trim_chars ((split closing rest).headD []))

/-- The token of the next page; an empty one is none. -/
def next_token (body : String) : Option String :=
  (extract_tag body "<NextContinuationToken>".toList "</NextContinuationToken>".toList).filter
    (· ≠ "")

/-! ## Operations -/

structure ListTarget where
  scheme : String
  host : String
  prefix_text : String
  deriving DecidableEq, Repr

/-- One list page: its bytes, its objects, and the token of the next. -/
structure Page where
  bytes : UInt64
  objects : UInt64
  next : Option String
  deriving DecidableEq, Repr

section Operations

variable (config : S3Config) (allow_private : Bool)

/-- `list_uri`. -/
def list_uri : String := if config.path_style then "/" ++ encode_token config.bucket else "/"

/-- `build_list_url`. -/
def build_list_url (env : Env) (target : ListTarget) (token : Option String) :
    Except String String := do
  let now ← env.current_timestamps
  let scope := credential_scope config now.datestamp
  let query := canonical_query_from_pairs
    ([("X-Amz-Algorithm", "AWS4-HMAC-SHA256"),
      ("X-Amz-Credential", config.access_key ++ "/" ++ scope),
      ("X-Amz-Date", now.amz_date), ("X-Amz-Expires", "60"), ("X-Amz-SignedHeaders", "host"),
      ("list-type", "2"), ("max-keys", "1000")]
    ++ (if target.prefix_text = "" then [] else [("prefix", target.prefix_text)])
    ++ token.toList.map fun continuation => ("continuation-token", continuation))
  let signature ← sign env {
    secret_key := config.secret_key, region := config.region
    datestamp := now.datestamp, amz_date := now.amz_date, scope, method := "GET"
    canonical_uri := list_uri config, query, host := target.host }
  return target.scheme ++ "://" ++ target.host ++ list_uri config ++ "?" ++ query
    ++ "&X-Amz-Signature=" ++ signature

/-- `StatusCode::is_success`. -/
def is_success (status : UInt16) : Prop := 200 ≤ status ∧ status ≤ 299

instance (status : UInt16) : Decidable (is_success status) :=
  inferInstanceAs (Decidable (_ ∧ _))

/-- The page of an answer to a list request. -/
def read_page (answer : Except String (UInt16 × Except String String)) : Except String Page := do
  let (status, body) ← answer.mapError fun err => "s3 list request failed: " ++ err
  let text ← body.mapError fun err => "s3 list read failed: " ++ err
  Result.fail_if (¬ is_success status)
    ("s3 list returned HTTP " ++ toString status.toNat ++ ": "
      ++ String.ofList (text.toList.take 200))
  let (bytes, objects) ← sum_sizes text
  return { bytes, objects, next := next_token text }

/-- `fetch_list_page`. -/
def fetch_list_page (t : Moment) (target : ListTarget) (token : Option String) :
    Eff StoreEffect String Page := do
  let url ← lift (build_list_url config t.env target token)
  perform (.request "GET" url)
  lift (read_page (t.send url))

def op_limit (message : String) : S3Error := { fault := S3_OP_LIMIT, message }

/-- The loop of `do_usage`: `recorded` metrics are in the collector, and `page` pages
have been read. Each round checks the limit, asks for a page and records it. -/
def usage_loop (max_ops : ℕ) (moments : ℕ → Moment) (target : ListTarget)
    (recorded page : ℕ) (total_bytes total_objects : UInt64) (token : Option String) :
    Eff StoreEffect S3Error (UInt64 × UInt64) :=
  if _hlimit : max_ops ≤ recorded then
    leave (op_limit ("too many operations: limit is " ++ toString max_ops ++ " per execution"))
  else do
    let t := moments page
    let got ← handle (fetch_list_page config t target token) fun err => leave (.upstream err)
    perform (.metric ⟨"usage", "GET", t.duration_us, 0, some got.bytes, some got.objects⟩)
    match checked_add total_bytes got.bytes, checked_add total_objects got.objects, got.next with
    | none, _, _ => leave (.signing "usage byte total overflow")
    | some _, none, _ => leave (.signing "usage object total overflow")
    | some bytes, some objects, none => return (bytes, objects)
    | some bytes, some objects, some next =>
      usage_loop max_ops moments target (recorded + 1) (page + 1) bytes objects (some next)
termination_by max_ops - recorded

/-- What `do_usage` has before it lists: the target. -/
def usage_target (t : Moment) (payload_json : String) : Except S3Error ListTarget := do
  let payload ← (t.usage_payload payload_json).mapError fun err =>
    .signing ("invalid s3 payload: " ++ err)
  let (scheme, host) ← (resolve_host t.dns config allow_private).mapError .signing
  t.build_blocking_client.mapError .signing
  return { scheme, host, prefix_text := payload.prefix_text }

/-- `do_usage`. -/
def do_usage (max_ops recorded : ℕ) (moments : ℕ → Moment) (payload_json : String) :
    Eff StoreEffect S3Error String := do
  let target ← lift (usage_target config allow_private (moments 0) payload_json)
  let (bytes, objects) ← usage_loop config max_ops moments target recorded 0 0 0 none
  return (moments 0).env.to_json (.object
    [("bytes", .number (.pos_int bytes)), ("objects", .number (.pos_int objects)),
      ("prefix", .string target.prefix_text)])

/-- What `do_delete` has before it sends: the key and the URL. -/
def delete_target (t : Moment) (payload_json : String) : Except S3Error (String × String) := do
  let r ← delete_request t.env t.dns config allow_private payload_json
  let signature ← (sign t.env r.input).mapError .signing
  t.build_blocking_client.mapError .signing
  return (r.key, r.url signature)

/-- `do_delete`. The metric is recorded once an answer is there. -/
def do_delete (t : Moment) (payload_json : String) : Eff StoreEffect S3Error String := do
  let (key, url) ← lift (delete_target config allow_private t payload_json)
  perform (.request "DELETE" url)
  let (status, body) ← lift ((t.send url).mapError fun err =>
    S3Error.upstream ("s3 delete request failed: " ++ err))
  perform (.metric ⟨"delete", "DELETE", t.duration_us, 0, none, none⟩)
  if is_success status then
    return t.env.to_json (.object [("deleted", .bool true), ("key", .string key)])
  else do
    let text ← lift (body.mapError fun err => S3Error.upstream ("s3 delete read failed: " ++ err))
    leave (.upstream_status ("s3 delete returned HTTP " ++ toString status.toNat ++ ": "
      ++ String.ofList (text.toList.take 200)) status)

/-- `dispatch`. -/
def dispatch (t : Moment) (action payload_json : String) : Except S3Error PresignOutcome :=
  if action = "presign" then do_presign t.env t.dns config allow_private payload_json
  else if action = "presign_post" then do_presign_post t.env t.dns config allow_private payload_json
  else .error (.signing ("unknown s3 action: " ++ action))

/-- `build_metric`. -/
def build_metric (action : String) (outcome : Except S3Error PresignOutcome) (duration_us : ℕ) :
    S3Metric :=
  match outcome with
  | .ok out => ⟨action, out.method, duration_us, out.expires, none, none⟩
  | .error _ => ⟨action, "", duration_us, 0, none, none⟩

/-- One call of `__s3`. -/
structure S3Call where
  action : String
  payload_json : String
  /-- The outside when the call has sent so many requests. -/
  moments : ℕ → Moment

/-- The native `__s3`, with `recorded` metrics in the collector. -/
def native_s3 (max_ops recorded : ℕ) (call : S3Call) : Eff StoreEffect S3Error String := do
  lift ((check_op_limit recorded max_ops).mapError op_limit)
  if call.action = "usage" then
    do_usage config allow_private max_ops recorded call.moments call.payload_json
  else if call.action = "delete" then
    do_delete config allow_private (call.moments 0) call.payload_json
  else do
    let result := dispatch config allow_private (call.moments 0) call.action call.payload_json
    perform (.metric (build_metric call.action result (call.moments 0).duration_us))
    lift (result.map PresignOutcome.json)

end Operations

/-! ## Requests and metrics -/

def StoreEffect.is_request : StoreEffect → Bool
  | request _ _ => true
  | metric _ => false

/-- The metric an effect records. -/
def StoreEffect.recorded : StoreEffect → Option S3Metric
  | request _ _ => none
  | metric m => some m

/-- The requests sent in a trace. -/
def requests (trace : List StoreEffect) : ℕ := trace.countP StoreEffect.is_request

/-- The collector after a trace. -/
def metrics (trace : List StoreEffect) : List S3Metric := trace.filterMap StoreEffect.recorded

/-- Every request of the trace is followed by the metric that stands for it. -/
inductive Metered : List StoreEffect → Prop
  | nil : Metered []
  | metric (m : S3Metric) {rest : List StoreEffect} (h : Metered rest) :
    Metered (.metric m :: rest)
  | request (url : String) (m : S3Metric) {rest : List StoreEffect} (h : Metered rest) :
    Metered (.request m.method url :: .metric m :: rest)

theorem metrics_append (t₁ t₂ : List StoreEffect) : metrics (t₁ ++ t₂) = metrics t₁ ++ metrics t₂ :=
  List.filterMap_append

@[simp] theorem metrics_nil : metrics [] = [] := rfl

@[simp] theorem metrics_request (method url : String) (rest : List StoreEffect) :
    metrics (.request method url :: rest) = metrics rest := rfl

@[simp] theorem metrics_metric (m : S3Metric) (rest : List StoreEffect) :
    metrics (.metric m :: rest) = m :: metrics rest := rfl

@[simp] theorem requests_nil : requests [] = 0 := rfl

@[simp] theorem requests_request (method url : String) (rest : List StoreEffect) :
    requests (.request method url :: rest) = requests rest + 1 := List.countP_cons_of_pos rfl

@[simp] theorem requests_metric (m : S3Metric) (rest : List StoreEffect) :
    requests (.metric m :: rest) = requests rest :=
  List.countP_cons_of_neg (by simp [StoreEffect.is_request])

/-- Two traces that record their requests are one. -/
theorem Metered.append {t₁ t₂ : List StoreEffect} (h₁ : Metered t₁) (h₂ : Metered t₂) :
    Metered (t₁ ++ t₂) := by
  induction h₁ with
  | nil => exact h₂
  | metric m _ ih => exact .metric m ih
  | request url m _ ih => exact .request url m ih

/-- After a request and its metric the trace is metered again. -/
theorem Metered.tail {method url : String} {m : S3Metric} {rest : List StoreEffect}
    (h : Metered (.request method url :: .metric m :: rest)) : Metered rest := by
  generalize htrace : StoreEffect.request method url :: .metric m :: rest = trace at h
  cases h with
  | nil => simp at htrace
  | metric _ _ => simp at htrace
  | request _ _ hrest =>
      simp only [List.cons.injEq] at htrace
      exact htrace.2.2 ▸ hrest

/-- A request alone is not recorded. -/
theorem not_metered_request (method url : String) : ¬ Metered [.request method url] := by
  intro h
  generalize htrace : [StoreEffect.request method url] = trace at h
  cases h with
  | nil => simp at htrace
  | metric _ _ => simp at htrace
  | request _ _ _ => simp at htrace

/-- In a metered trace there are no more requests than metrics: each request has a metric of its
own behind it. -/
theorem Metered.requests_le {trace : List StoreEffect} (h : Metered trace) :
    requests trace ≤ (metrics trace).length := by
  induction h with
  | nil => simp
  | metric m _ ih =>
      rw [requests_metric, metrics_metric, List.length_cons]
      omega
  | request url m _ ih =>
      rw [requests_request, requests_metric, metrics_request, metrics_metric, List.length_cons]
      omega

/-! ## When a call is metered -/

section Calls

variable {config : S3Config} {allow_private : Bool} {max_ops : ℕ}

/-- The list request at this moment is answered with a page. -/
def Listed (config : S3Config) (t : Moment) (target : ListTarget) (token : Option String)
    (page : Page) : Prop :=
  ∃ url, build_list_url config t.env target token = .ok url ∧ read_page (t.send url) = .ok page

/-- The pages a scan comes to ask for: it goes on from a page that is within the budget and
names another, while the totals do not overflow. -/
inductive Reached (config : S3Config) (max_ops recorded : ℕ) (moments : ℕ → Moment)
    (target : ListTarget) : ℕ → UInt64 → UInt64 → Option String → Prop
  | first : Reached config max_ops recorded moments target 0 0 0 none
  | next {page : ℕ} {bytes objects : UInt64} {token : Option String} {got : Page}
    {bytes' objects' : UInt64} {token' : String}
    (h : Reached config max_ops recorded moments target page bytes objects token)
    (hbudget : recorded + page < max_ops)
    (hgot : Listed config (moments page) target token got)
    (hbytes : checked_add bytes got.bytes = some bytes')
    (hobjects : checked_add objects got.objects = some objects')
    (hnext : got.next = some token') :
    Reached config max_ops recorded moments target (page + 1) bytes' objects' (some token')

/-- A request for a page, if it is sent at this moment, is answered with a well-formed
listing. -/
def ListAnswered (config : S3Config) (t : Moment) (target : ListTarget) (token : Option String) :
    Prop :=
  ∀ url, build_list_url config t.env target token = .ok url →
    ∃ got, read_page (t.send url) = .ok got

/-- A usage scan that gets as far as its first list request, and every list request it
sends is answered. -/
def UsageAnswered (config : S3Config) (allow_private : Bool) (max_ops recorded : ℕ)
    (moments : ℕ → Moment) (payload_json : String) : Prop :=
  ∃ target url, usage_target config allow_private (moments 0) payload_json = .ok target
    ∧ build_list_url config (moments 0).env target none = .ok url
    ∧ ∀ page bytes objects token,
      Reached config max_ops recorded moments target page bytes objects token →
      recorded + page < max_ops → ListAnswered config (moments page) target token

/-- A delete that gets as far as sending, and is answered. -/
def DeleteAnswered (config : S3Config) (allow_private : Bool) (t : Moment)
    (payload_json : String) : Prop :=
  ∃ key url answer, delete_target config allow_private t payload_json = .ok (key, url)
    ∧ t.send url = .ok answer

/-- Every request the call sends is answered; it need not send one. -/
def RequestsAnswered (config : S3Config) (allow_private : Bool) (max_ops recorded : ℕ)
    (call : S3Call) : Prop :=
  (call.action = "usage" → ∀ target,
    usage_target config allow_private (call.moments 0) call.payload_json = .ok target →
    ∀ page bytes objects token,
      Reached config max_ops recorded call.moments target page bytes objects token →
      recorded + page < max_ops → ListAnswered config (call.moments page) target token)
  ∧ (call.action = "delete" → ∀ key url,
    delete_target config allow_private (call.moments 0) call.payload_json = .ok (key, url) →
    ∃ answer, (call.moments 0).send url = .ok answer)

/-- The condition on a call: what connects to the store is let through, and answered. -/
def Answered (config : S3Config) (allow_private : Bool) (max_ops recorded : ℕ) (call : S3Call) :
    Prop :=
  recorded < max_ops →
    (call.action = "usage" →
      UsageAnswered config allow_private max_ops recorded call.moments call.payload_json)
    ∧ (call.action = "delete" →
      DeleteAnswered config allow_private (call.moments 0) call.payload_json)

/-- A page that is listed took one request. -/
theorem effects_fetch_list_page {t : Moment} {target : ListTarget} {token : Option String}
    {got : Page} (h : Listed config t target token got) :
    ∃ url, (fetch_list_page config t target token).effects = [.request "GET" url]
      ∧ (fetch_list_page config t target token).result = .ok got := by
  obtain ⟨url, hurl, hpage⟩ := h
  have hlift : (lift (build_list_url config t.env target token)
      : Eff StoreEffect String String).result = .ok url := hurl
  refine ⟨url, ?_, ?_⟩
  · rw [fetch_list_page, effects_bind hlift, effects_bind result_perform]
    rfl
  · rw [fetch_list_page, result_bind hlift, result_bind result_perform]
    exact hpage

/-- One round of the loop: the request, its metric, and the rounds after it. There are more rounds
only where both totals fit and the page has a token. -/
theorem effects_usage_loop {moments : ℕ → Moment} {target : ListTarget} {recorded page : ℕ}
    {token : Option String} {got : Page} (bytes objects : UInt64) (hbudget : recorded < max_ops)
    (hgot : Listed config (moments page) target token got) :
    ∃ url, (usage_loop config max_ops moments target recorded page bytes objects token).effects
      = .request "GET" url
        :: .metric ⟨"usage", "GET", (moments page).duration_us, 0, some got.bytes, some got.objects⟩
        :: match checked_add bytes got.bytes, checked_add objects got.objects, got.next with
          | some bytes, some objects, some next =>
            (usage_loop config max_ops moments target (recorded + 1) (page + 1) bytes objects
              (some next)).effects
          | _, _, _ => [] := by
  obtain ⟨url, heffects, hresult⟩ := effects_fetch_list_page hgot
  refine ⟨url, ?_⟩
  rw [usage_loop, dif_neg (Nat.not_le.mpr hbudget)]
  dsimp only
  rw [effects_bind (ok_handle.mpr (Or.inl hresult)), effects_handle hresult, heffects,
    effects_bind result_perform]
  cases checked_add bytes got.bytes with
  | none => rfl
  | some bytes =>
      cases checked_add objects got.objects with
      | none => rfl
      | some objects =>
          cases got.next with
          | none => rfl
          | some next => rfl

/-- A round whose URL cannot be built sends nothing. -/
theorem effects_usage_loop_unsent {moments : ℕ → Moment} {target : ListTarget} {recorded page : ℕ}
    {bytes objects : UInt64} {token : Option String} (hbudget : recorded < max_ops) {err : String}
    (hurl : build_list_url config (moments page).env target token = .error err) :
    (usage_loop config max_ops moments target recorded page bytes objects token).effects = [] := by
  have hfetch : (fetch_list_page config (moments page) target token) = ⟨[], .error err⟩ := by
    rw [fetch_list_page, bind_error hurl]
    rfl
  rw [usage_loop, dif_neg (Nat.not_le.mpr hbudget)]
  dsimp only
  rw [hfetch]
  rfl

/-- A round whose request is not answered with a page leaves the request unrecorded. -/
theorem effects_usage_loop_unanswered {moments : ℕ → Moment} {target : ListTarget}
    {recorded page : ℕ} {bytes objects : UInt64} {token : Option String}
    (hbudget : recorded < max_ops) {url err : String}
    (hurl : build_list_url config (moments page).env target token = .ok url)
    (hpage : read_page ((moments page).send url) = .error err) :
    (usage_loop config max_ops moments target recorded page bytes objects token).effects
      = [.request "GET" url] := by
  have hlift : (lift (build_list_url config (moments page).env target token)
      : Eff StoreEffect String String).result = .ok url := hurl
  have hfetch : (fetch_list_page config (moments page) target token)
      = ⟨[.request "GET" url], .error err⟩ := by
    rw [fetch_list_page]
    simp only [bind, lift, hurl, perform, hpage]
    rfl
  rw [usage_loop, dif_neg (Nat.not_le.mpr hbudget)]
  dsimp only
  rw [hfetch]
  rfl

/-- What a round can be, by the URL and the answer. -/
theorem usage_round (config : S3Config) (t : Moment) (target : ListTarget)
    (token : Option String) :
    (∃ err, build_list_url config t.env target token = .error err)
    ∨ (∃ url err, build_list_url config t.env target token = .ok url
      ∧ read_page (t.send url) = .error err)
    ∨ ∃ got, Listed config t target token got := by
  cases hurl : build_list_url config t.env target token with
  | error err => exact Or.inl ⟨err, rfl⟩
  | ok url =>
      cases hpage : read_page (t.send url) with
      | error err => exact Or.inr (Or.inl ⟨url, err, rfl, hpage⟩)
      | ok got => exact Or.inr (Or.inr ⟨got, url, hurl, hpage⟩)

/-- Where every list request is answered, every one is metered. The induction is on the
budget that is left. -/
theorem metered_usage_loop {recorded : ℕ} {moments : ℕ → Moment} {target : ListTarget}
    (hpages : ∀ page bytes objects token,
      Reached config max_ops recorded moments target page bytes objects token →
      recorded + page < max_ops → ListAnswered config (moments page) target token)
    {page : ℕ} {bytes objects : UInt64} {token : Option String}
    (hreached : Reached config max_ops recorded moments target page bytes objects token) :
    Metered (usage_loop config max_ops moments target (recorded + page) page bytes objects
      token).effects := by
  induction hleft : max_ops - (recorded + page) generalizing page bytes objects token with
  | zero =>
      have hspent : max_ops ≤ recorded + page := by omega
      rw [usage_loop, dif_pos hspent]
      exact .nil
  | succ left ih =>
      have hbudget : recorded + page < max_ops := by omega
      have hanswered := hpages page bytes objects token hreached hbudget
      rcases usage_round config (moments page) target token with
        ⟨err, hurl⟩ | ⟨url, err, hurl, hpage⟩ | ⟨got, hgot⟩
      · rw [effects_usage_loop_unsent hbudget hurl]
        exact .nil
      -- sent and not answered: excluded
      · obtain ⟨got, hgot⟩ := hanswered url hurl
        rw [hpage] at hgot
        cases hgot
      · obtain ⟨url, heffects⟩ := effects_usage_loop bytes objects hbudget hgot
        rw [heffects]
        refine Metered.request url ⟨"usage", "GET", _, 0, some got.bytes, some got.objects⟩ ?_
        split
        · rename_i bytes' objects' token' hbytes hobjects hnext
          exact ih (.next hreached hbudget hgot hbytes hobjects hnext) (by omega)
        · exact .nil

/-- A metered scan is metered from every page it comes to. By induction on the pages: what is left
of a metered trace behind a request and its metric is metered. -/
theorem Metered.of_reached {recorded : ℕ} {moments : ℕ → Moment} {target : ListTarget}
    (hmetered : Metered (usage_loop config max_ops moments target recorded 0 0 0 none).effects)
    {page : ℕ} {bytes objects : UInt64} {token : Option String}
    (hreached : Reached config max_ops recorded moments target page bytes objects token) :
    Metered (usage_loop config max_ops moments target (recorded + page) page bytes objects
      token).effects := by
  induction hreached with
  | first => exact hmetered
  | next hprev hbudget hgot hbytes hobjects hnext ih =>
      obtain ⟨url, heffects⟩ := effects_usage_loop _ _ hbudget hgot
      rw [heffects, hbytes, hobjects, hnext] at ih
      exact ih.tail

/-- A scan never records past the limit, nor past a limit of which `spent` is used up, where
every check it passes is within that too. The induction is on the budget that is left. -/
theorem metrics_usage_loop_le {recorded spent : ℕ}
    {moments : ℕ → Moment} {target : ListTarget}
    (hpages : ∀ page bytes objects token,
      Reached config max_ops recorded moments target page bytes objects token →
      recorded + page < max_ops → spent + page < max_ops)
    {page : ℕ} {bytes objects : UInt64} {token : Option String}
    (hreached : Reached config max_ops recorded moments target page bytes objects token)
    (hspent : spent + page ≤ max_ops) :
    spent + page + (metrics (usage_loop config max_ops moments target (recorded + page) page bytes
      objects token).effects).length ≤ max_ops := by
  induction hleft : max_ops - (recorded + page) generalizing page bytes objects token with
  | zero =>
      rw [usage_loop, dif_pos (by omega)]
      exact hspent
  | succ left ih =>
      have hbudget : recorded + page < max_ops := by omega
      have hshared := hpages page bytes objects token hreached hbudget
      rcases usage_round config (moments page) target token with
        ⟨err, hurl⟩ | ⟨url, err, hurl, hpage⟩ | ⟨got, hgot⟩
      · rw [effects_usage_loop_unsent hbudget hurl]
        exact hspent
      · rw [effects_usage_loop_unanswered hbudget hurl hpage]
        exact hspent
      · obtain ⟨url, heffects⟩ := effects_usage_loop bytes objects hbudget hgot
        rw [heffects, metrics_request, metrics_metric, List.length_cons]
        split
        · rename_i bytes' objects' token' hbytes hobjects hnext
          -- the next page is scanned with one operation less
          have hrest := ih (.next hreached hbudget hgot hbytes hobjects hnext) (by omega) (by omega)
          have hpage : recorded + (page + 1) = recorded + page + 1 := by omega
          rw [hpage] at hrest
          omega
        · simp only [metrics_nil, List.length_nil]
          omega

/-! ### The three kinds of call -/

/-- What is asked of a call that passes the limit check: its requests are metered, and it
adds a metric. -/
def Accounts (trace : List StoreEffect) : Prop := Metered trace ∧ metrics trace ≠ []

/-- A scan whose target is there does what its loop does. -/
theorem effects_do_usage {recorded : ℕ} {moments : ℕ → Moment} {payload_json : String}
    {target : ListTarget}
    (htarget : usage_target config allow_private (moments 0) payload_json = .ok target) :
    (do_usage config allow_private max_ops recorded moments payload_json).effects
      = (usage_loop config max_ops moments target recorded 0 0 0 none).effects := by
  have hlift : (lift (usage_target config allow_private (moments 0) payload_json)
      : Eff StoreEffect S3Error ListTarget).result = .ok target := htarget
  rw [do_usage, effects_bind hlift]
  cases hresult : (usage_loop config max_ops moments target recorded 0 0 0 none).result with
  | ok totals =>
      rw [effects_bind hresult]
      exact List.append_nil _
  | error err =>
      rw [bind_error hresult]
      rfl

/-- A usage call without a target sends nothing. -/
theorem effects_do_usage_error {recorded : ℕ} {moments : ℕ → Moment} {payload_json : String}
    {err : S3Error}
    (htarget : usage_target config allow_private (moments 0) payload_json = .error err) :
    (do_usage config allow_private max_ops recorded moments payload_json).effects = [] := by
  rw [do_usage, bind_error htarget]
  rfl

/-- Nor does a deletion. -/
theorem effects_do_delete_error {t : Moment} {payload_json : String} {err : S3Error}
    (htarget : delete_target config allow_private t payload_json = .error err) :
    (do_delete config allow_private t payload_json).effects = [] := by
  rw [do_delete, bind_error htarget]
  rfl

/-- A usage call records all its requests exactly if each is answered with a page. The page that
fails is the request without a record. -/
theorem usage_accounts_iff {recorded : ℕ} {moments : ℕ → Moment} {payload_json : String}
    (hbudget : recorded < max_ops) :
    Accounts (do_usage config allow_private max_ops recorded moments payload_json).effects
      ↔ UsageAnswered config allow_private max_ops recorded moments payload_json := by
  cases htarget : usage_target config allow_private (moments 0) payload_json with
  | error err =>
      refine iff_of_false ?_ ?_
      · rw [effects_do_usage_error htarget]
        exact fun h => h.2 rfl
      · rintro ⟨target, url, htarget', -⟩
        rw [htarget] at htarget'
        cases htarget'
  | ok target =>
      rw [effects_do_usage htarget]
      constructor
      · rintro ⟨hmetered, hadds⟩
        -- the first round sent its request, or there would be no metric
        obtain ⟨url, hurl⟩ : ∃ url, build_list_url config (moments 0).env target none = .ok url := by
          cases hurl : build_list_url config (moments 0).env target none with
          | ok url => exact ⟨url, rfl⟩
          | error err =>
              rw [effects_usage_loop_unsent hbudget hurl] at hadds
              exact absurd rfl hadds
        refine ⟨target, url, htarget, hurl, ?_⟩
        intro page bytes objects token hreached hleft url' hurl'
        have hrest := hmetered.of_reached hreached
        cases hpage : read_page ((moments page).send url') with
        | ok got => exact ⟨got, rfl⟩
        | error err =>
            rw [effects_usage_loop_unanswered hleft hurl' hpage] at hrest
            exact absurd hrest (not_metered_request _ _)
      · rintro ⟨target', url, htarget', hurl, hpages⟩
        obtain rfl : target = target' := Except.ok.inj (htarget.symm.trans htarget')
        refine ⟨metered_usage_loop hpages .first, ?_⟩
        obtain ⟨got, hgot⟩ := hpages 0 0 0 none .first hbudget url hurl
        obtain ⟨url', heffects⟩ := effects_usage_loop 0 0 hbudget
          ⟨url, hurl, hgot⟩
        rw [heffects, metrics_request, metrics_metric]
        exact List.cons_ne_nil _ _

/-- A delete records its metric when it is answered, whatever the answer. A request without an
answer leaves nothing behind it. -/
theorem effects_do_delete {t : Moment} {payload_json key url : String}
    (htarget : delete_target config allow_private t payload_json = .ok (key, url)) :
    (do_delete config allow_private t payload_json).effects
      = .request "DELETE" url :: match t.send url with
        | .error _ => []
        | .ok _ => [.metric ⟨"delete", "DELETE", t.duration_us, 0, none, none⟩] := by
  have hlift : (lift (delete_target config allow_private t payload_json)
      : Eff StoreEffect S3Error (String × String)).result = .ok (key, url) := htarget
  rw [do_delete, effects_bind hlift]
  dsimp only
  rw [effects_bind result_perform]
  cases hsend : t.send url with
  | error err => rfl
  | ok answer =>
      obtain ⟨status, body⟩ := answer
      refine congrArg (StoreEffect.request "DELETE" url :: ·) ?_
      have hanswer : (lift ((Except.ok (status, body) : Except String _).mapError fun err =>
          S3Error.upstream ("s3 delete request failed: " ++ err))
          : Eff StoreEffect S3Error _).result = .ok (status, body) := rfl
      rw [effects_bind hanswer]
      dsimp only
      rw [effects_bind result_perform]
      -- the metric is recorded before the status is looked at
      by_cases hstatus : is_success status
      · rw [if_pos hstatus]
        rfl
      · rw [if_neg hstatus]
        cases body with
        | ok text => rfl
        | error err => rfl

/-- A deletion records its request exactly if it is answered. Without an answer there is a request
and no metric, which no metered trace has. -/
theorem delete_accounts_iff {t : Moment} {payload_json : String} :
    Accounts (do_delete config allow_private t payload_json).effects
      ↔ DeleteAnswered config allow_private t payload_json := by
  cases htarget : delete_target config allow_private t payload_json with
  | error err =>
      refine iff_of_false ?_ ?_
      · rw [effects_do_delete_error htarget]
        exact fun h => h.2 rfl
      · rintro ⟨key, url, answer, htarget', -⟩
        rw [htarget] at htarget'
        cases htarget'
  | ok target =>
      obtain ⟨key, url⟩ := target
      rw [effects_do_delete htarget]
      cases hsend : t.send url with
      | error err =>
          -- the request went out, and `?` leaves before the metric
          refine iff_of_false (fun h => not_metered_request _ _ h.1) ?_
          rintro ⟨key', url', answer, htarget', hanswer⟩
          rw [htarget, Except.ok.injEq, Prod.mk.injEq] at htarget'
          rw [← htarget'.2, hsend] at hanswer
          cases hanswer
      | ok answer =>
          refine iff_of_true ⟨?_, List.cons_ne_nil _ _⟩ ⟨key, url, answer, htarget, hsend⟩
          exact Metered.request url ⟨"delete", "DELETE", t.duration_us, 0, none, none⟩ .nil

/-- A call beyond the budget is refused before it sends anything. -/
theorem native_s3_refused {recorded : ℕ} (hspent : max_ops ≤ recorded) (call : S3Call) :
    native_s3 config allow_private max_ops recorded call
      = leave (op_limit ("too many operations: limit is " ++ toString max_ops
          ++ " per execution")) := by
  rw [native_s3, check_op_limit, if_pos hspent]
  rfl

/-- Past the limit check, a call is the operation it names. -/
theorem effects_native_s3 {recorded : ℕ} (hbudget : recorded < max_ops) (call : S3Call) :
    (native_s3 config allow_private max_ops recorded call).effects
      = if call.action = "usage" then
          (do_usage config allow_private max_ops recorded call.moments call.payload_json).effects
        else if call.action = "delete" then
          (do_delete config allow_private (call.moments 0) call.payload_json).effects
        else [.metric (build_metric call.action
          (dispatch config allow_private (call.moments 0) call.action call.payload_json)
          (call.moments 0).duration_us)] := by
  rw [native_s3, check_op_limit, if_neg (Nat.not_le.mpr hbudget)]
  have hlift : (lift ((Except.ok () : Except String Unit).mapError op_limit)
      : Eff StoreEffect S3Error Unit).result = .ok () := rfl
  rw [effects_bind hlift]
  by_cases husage : call.action = "usage"
  · rw [if_pos husage, if_pos husage]
    rfl
  rw [if_neg husage, if_neg husage]
  by_cases hdelete : call.action = "delete"
  · rw [if_pos hdelete, if_pos hdelete]
    rfl
  rw [if_neg hdelete, if_neg hdelete]
  rfl

/-- The same for any call of the global that the budget lets through. -/
theorem native_accounts_iff {recorded : ℕ} (hbudget : recorded < max_ops) (call : S3Call) :
    Accounts (native_s3 config allow_private max_ops recorded call).effects
      ↔ Answered config allow_private max_ops recorded call := by
  rw [effects_native_s3 hbudget, Answered]
  by_cases husage : call.action = "usage"
  · rw [if_pos husage, usage_accounts_iff hbudget]
    have hne : call.action ≠ "delete" := by
      rw [husage]
      decide
    simp [hbudget, husage]
  rw [if_neg husage]
  by_cases hdelete : call.action = "delete"
  · rw [if_pos hdelete, delete_accounts_iff]
    simp [hbudget, hdelete]
  · rw [if_neg hdelete]
    refine iff_of_true ⟨.metric _ .nil, List.cons_ne_nil _ _⟩ ?_
    exact fun _ => ⟨fun h => absurd h husage, fun h => absurd h hdelete⟩

/-- A call whose requests are answered meters them, kind by kind: the presigned ones send nothing,
a deletion sends one, and a scan one for each page. -/
theorem metered_native_s3 {recorded : ℕ} {call : S3Call}
    (h : recorded < max_ops → RequestsAnswered config allow_private max_ops recorded call) :
    Metered (native_s3 config allow_private max_ops recorded call).effects := by
  by_cases hbudget : recorded < max_ops
  case neg =>
    rw [native_s3_refused (Nat.not_lt.mp hbudget)]
    exact .nil
  obtain ⟨husage, hdelete⟩ := h hbudget
  rw [effects_native_s3 hbudget]
  split
  · rename_i haction
    cases htarget : usage_target config allow_private (call.moments 0) call.payload_json with
    | error err =>
        rw [effects_do_usage_error htarget]
        exact .nil
    | ok target =>
        rw [effects_do_usage htarget]
        exact metered_usage_loop (husage haction target htarget) .first
  · split
    · rename_i haction
      cases htarget : delete_target config allow_private (call.moments 0) call.payload_json with
      | error err =>
          rw [effects_do_delete_error htarget]
          exact .nil
      | ok target =>
          obtain ⟨answer, hanswer⟩ := hdelete haction target.1 target.2 htarget
          rw [effects_do_delete htarget, hanswer]
          exact Metered.request target.2 ⟨"delete", "DELETE", _, 0, none, none⟩ .nil
    · exact .metric _ .nil

/-- No call records past the limit. A call below it records one metric, and the rounds of a scan
check the limit before each page. -/
theorem metrics_native_s3_le {recorded : ℕ} (hrecorded : recorded ≤ max_ops) (call : S3Call) :
    recorded + (metrics (native_s3 config allow_private max_ops recorded call).effects).length
      ≤ max_ops := by
  by_cases hbudget : recorded < max_ops
  case neg =>
    rw [native_s3_refused (Nat.not_lt.mp hbudget)]
    exact hrecorded
  rw [effects_native_s3 hbudget]
  split
  · cases htarget : usage_target config allow_private (call.moments 0) call.payload_json with
    | error err =>
        rw [effects_do_usage_error htarget]
        exact hrecorded
    | ok target =>
        rw [effects_do_usage htarget]
        exact metrics_usage_loop_le (fun _ _ _ _ _ h => h) .first hrecorded
  · split
    · cases htarget : delete_target config allow_private (call.moments 0) call.payload_json with
      | error err =>
          rw [effects_do_delete_error htarget]
          exact hrecorded
      | ok target =>
          rw [effects_do_delete htarget]
          cases (call.moments 0).send target.2 with
          | error err => exact hrecorded
          | ok answer => exact hbudget
    · exact hbudget

end Calls

/-! ## Executions -/

section Runs

variable (config : S3Config) (allow_private : Bool) (max_ops : ℕ)

/-- One call of an execution, on the trace of the calls before it. -/
def s3_step (trace : List StoreEffect) (call : S3Call) : Option (List StoreEffect) :=
  some (trace ++ (native_s3 config allow_private max_ops (metrics trace).length call).effects)

/-- What is asked of every call of an execution: if it passes the limit check, each of
its requests has its own metric, and there is at least one. -/
def CallAccounts (trace : List StoreEffect) (call : S3Call) : Prop :=
  (metrics trace).length < max_ops →
    Accounts (native_s3 config allow_private max_ops (metrics trace).length call).effects

/-- The invariant of an execution: what was sent is recorded, within the limit. -/
def WithinLimit (trace : List StoreEffect) : Prop :=
  Metered trace ∧ (metrics trace).length ≤ max_ops

/-- A call that accounts keeps it: what it adds is metered, and its metrics stay within the limit,
which bounds its requests. -/
theorem withinLimit_step (before : List StoreEffect) (call : S3Call) (after : List StoreEffect)
    (h : WithinLimit max_ops before) (haccounts : CallAccounts config allow_private max_ops before call)
    (hstep : s3_step config allow_private max_ops before call = some after) :
    WithinLimit max_ops after := by
  obtain rfl := Option.some.inj hstep
  obtain ⟨hmetered, hmetrics⟩ := h
  constructor
  · refine hmetered.append ?_
    by_cases hbudget : (metrics before).length < max_ops
    · exact (haccounts hbudget).1
    · rw [native_s3_refused (Nat.not_lt.mp hbudget)]
      exact .nil
  · rw [metrics_append, List.length_append]
    exact metrics_native_s3_le hmetrics call

/-- **Metering.** In an execution, every call that passes the limit check has a metric for
each request it sends and adds at least one, and no more than `max_ops` requests are sent,
exactly when every `usage` and `delete` that passes the check is let through to the store
and has its requests answered. -/
theorem s3_metered_iff (calls : List S3Call) (trace : List StoreEffect)
    (hrun : run (s3_step config allow_private max_ops) [] calls = some trace) :
    (requests trace ≤ max_ops ∧ Metered trace
      ∧ Guarded (s3_step config allow_private max_ops) (CallAccounts config allow_private max_ops)
          [] calls)
      ↔ Guarded (s3_step config allow_private max_ops)
          (fun before call => Answered config allow_private max_ops (metrics before).length call)
          [] calls := by
  have hiff : ∀ before call, CallAccounts config allow_private max_ops before call
      ↔ Answered config allow_private max_ops (metrics before).length call := by
    intro before call
    by_cases hbudget : (metrics before).length < max_ops
    · rw [CallAccounts, ← native_accounts_iff hbudget]
      exact ⟨fun h => h hbudget, fun h _ => h⟩
    · exact iff_of_true (fun h => absurd h hbudget) (fun h => absurd h hbudget)
  rw [← guarded_congr hiff]
  constructor
  · exact fun h => h.2.2
  · intro hguard
    have hinit : WithinLimit max_ops [] := ⟨.nil, Nat.zero_le _⟩
    obtain ⟨hmetered, hmetrics⟩ := run_inv_of_guarded
      (withinLimit_step config allow_private max_ops) hinit hguard hrun
    exact ⟨Nat.le_trans hmetered.requests_le hmetrics, hmetered, hguard⟩

end Runs

/-! ### A store that answers, and one that does not -/

/-- The object `a` is deleted at a store that answers with `send`. -/
def delete_call (send : Send) : S3Call where
  action := "delete"
  payload_json := "\x7b\"key\":\"a\"\x7d"
  moments _ :=
    { env := keyed_env "a", usage_payload := fun _ => .ok {}, dns := zone_dns
      build_blocking_client := .ok (), send, duration_us := 5 }

/-- `204 No Content`. -/
def no_content : Send := fun _ => .ok (204, .ok "")

def unreachable : Send := fun _ => .error "connection refused"

/-- Two deletes at a store that answers, with a budget of one: the second is refused. -/
theorem s3_metered_two_deletes :
    ∃ trace, run (s3_step public_store false 1) [] [delete_call no_content, delete_call no_content]
        = some trace
      ∧ requests trace ≤ 1 ∧ Metered trace := by
  refine ⟨_, rfl, ?_⟩
  have hanswered : Guarded (s3_step public_store false 1)
      (fun before call => Answered public_store false 1 (metrics before).length call) []
      [delete_call no_content, delete_call no_content] := by
    refine guarded_of_forall ?_ []
    intro call hcall before _
    have hcall : call = delete_call no_content := by simpa using hcall
    subst hcall
    refine ⟨fun h => absurd h (by decide), fun _ => ?_⟩
    have htarget : (delete_target public_store false ((delete_call no_content).moments 0)
        (delete_call no_content).payload_json).isOk = true := by decide +kernel
    cases hok : delete_target public_store false ((delete_call no_content).moments 0)
        (delete_call no_content).payload_json with
    | error err =>
        rw [hok] at htarget
        cases htarget
    | ok target => exact ⟨target.1, target.2, _, hok, rfl⟩
  obtain ⟨hrequests, hmetered, -⟩ := (s3_metered_iff public_store false 1 _ _ rfl).mpr hanswered
  exact ⟨hrequests, hmetered⟩

/-- The same at a store that does not answer: both are sent, and none is recorded. -/
theorem unreachable_store_is_unmetered :
    ∃ trace, run (s3_step public_store false 1) [] [delete_call unreachable, delete_call unreachable]
        = some trace
      ∧ requests trace = 2 ∧ metrics trace = []
      ∧ ¬ (requests trace ≤ 1 ∧ Metered trace
        ∧ Guarded (s3_step public_store false 1) (CallAccounts public_store false 1) []
            [delete_call unreachable, delete_call unreachable]) := by
  have hsent : ∀ trace, run (s3_step public_store false 1) []
      [delete_call unreachable, delete_call unreachable] = some trace →
      requests trace = 2 ∧ metrics trace = [] := by
    have hboth : (run (s3_step public_store false 1) []
        [delete_call unreachable, delete_call unreachable]).map
        (fun trace => (requests trace, metrics trace)) = some (2, []) := by decide +kernel
    intro trace htrace
    rw [htrace, Option.map_some, Option.some.injEq, Prod.mk.injEq] at hboth
    exact hboth
  obtain ⟨hrequests, hmetrics⟩ := hsent _ rfl
  refine ⟨_, rfl, hrequests, hmetrics, ?_⟩
  intro h
  rw [hrequests] at h
  exact absurd h.1 (by decide)

end Runlet.S3
