/-
The operation budget of an execution: `api`, `s3` and `io.call` together.

Each of the three native functions checks `max_ops` against a counter of its own:
the metrics of `__http`, the metrics of `__s3`, and the `used` of `__io`. What the
limit is for is the number of operations all three carry out, and that is the limit
only where the three checks agree with one check of the sum (`one_budget`).

The native `__http` is modelled here (`crates/runlet-core/src/http.rs`); the other
two are `Runlet.S3.native_s3` and `Runlet.Io.native_io`.
-/
import Runlet.Handler
import Runlet.Http
import Runlet.Io
import Runlet.S3.Store

set_option autoImplicit false

namespace Runlet.Budget

open Effects Machine Net Text Runlet.Json Runlet.Wire Runlet.Http Runlet.S3 Runlet.Io
open Runlet.Handler (HttpMetric)

/-! ## The native `__http` -/

def HTTP_FALLBACK : Fault := ⟨"HTTP_ERROR", true, .operator⟩
def HTTP_OP_LIMIT : Fault := ⟨"HTTP_OP_LIMIT", false, .developer⟩
def HTTP_SSRF_BLOCKED : Fault := ⟨"HTTP_SSRF_BLOCKED", false, .developer⟩
def HTTP_BODY_TOO_LARGE : Fault := ⟨"HTTP_BODY_TOO_LARGE", false, .developer⟩

/-- Maximum HTTP response body size. -/
def MAX_RESPONSE_BYTES : ℕ := 10 * 1024 * 1024

/-- Headers users cannot override. -/
def PROTECTED_HEADERS : List String :=
  ["content-type", "content-length", "host", "transfer-encoding"]

structure HttpError where
  fault : Fault
  message : String
  deriving DecidableEq, Repr

/-- What `reqwest` says of a request that got no answer. -/
inductive TransportError
  | timeout (message : String)
  | connect (message : String)
  | other (message : String)
  deriving DecidableEq, Repr

def TransportError.message : TransportError → String
  | timeout message | connect message | other message => message

def classify : TransportError → Fault
  | .timeout _ => ⟨"HTTP_TIMEOUT", true, .operator⟩
  | .connect _ => ⟨"HTTP_CONNECT", true, .operator⟩
  | .other _ => HTTP_FALLBACK

structure HttpAnswer where
  status : UInt16
  content_length : Option ℕ
  text : Except String String

/-- One call of `__http`, and what it meets: the resolver of the pre-check, the
libraries, and the server. -/
structure ApiCall where
  method : String
  url : String
  body : String
  headers_json : String
  dns : Dns
  /-- `reqwest::Method::from_str`. -/
  parse_method : String → Except String Unit
  /-- `serde_json::from_str` to a map, sorted by key. -/
  decode_headers : String → Option (List (String × String))
  send : List (String × String) → Except TransportError HttpAnswer
  /-- `serde_json::to_string` of a text. -/
  to_json : String → Except String String
  duration_us : ℕ

/-- The effects of an execution's operations. -/
inductive OpEffect
  | http_request (method url : String) (headers : List (String × String)) (body : String)
  | http_metric (m : HttpMetric)
  | store (e : StoreEffect)
  | signed (action : String)
  | forwarded (name action payload : String)
  deriving DecidableEq, Repr

/-- `parse_headers`. -/
def parse_headers (g : Guard) (call : ApiCall) : List (String × String) :=
  if call.headers_json = "" then []
  else ((call.decode_headers call.headers_json).getD []).filter fun header =>
    !PROTECTED_HEADERS.contains (g.to_lowercase header.1)

/-- What is read of an answer, or why it is not. -/
def read_response (call : ApiCall) (answer : HttpAnswer) :
    Except HttpError (UInt16 × ℕ × String) := do
  Result.fail_if (MAX_RESPONSE_BYTES < answer.content_length.getD 0)
    ⟨HTTP_BODY_TOO_LARGE, "response too large: " ++ toString (answer.content_length.getD 0)
      ++ " bytes (max " ++ toString MAX_RESPONSE_BYTES ++ ")"⟩
  let text ← answer.text.mapError fun err =>
    ⟨HTTP_FALLBACK, "failed to read response body: " ++ err⟩
  let response_bytes := (utf8 text).length
  Result.fail_if (MAX_RESPONSE_BYTES < response_bytes)
    ⟨HTTP_BODY_TOO_LARGE, "response too large: " ++ toString response_bytes ++ " bytes (max "
      ++ toString MAX_RESPONSE_BYTES ++ ")"⟩
  let escaped_body ← (call.to_json text).mapError fun err =>
    ⟨HTTP_FALLBACK, "failed to serialize response: " ++ err⟩
  return (answer.status, response_bytes, "\x7b\"status\":" ++ toString answer.status.toNat
    ++ ",\"body\":" ++ escaped_body ++ "\x7d")

/-- The headers of a request; a body is always JSON. -/
def request_headers (call : ApiCall) (headers : List (String × String)) : List (String × String) :=
  if call.body = "" then headers else headers ++ [("Content-Type", "application/json")]

/-- `execute_http`. -/
def execute_http (call : ApiCall) (headers : List (String × String)) :
    Eff OpEffect HttpError (UInt16 × ℕ × String) := do
  lift ((call.parse_method call.method).mapError fun err =>
    HttpError.mk HTTP_FALLBACK ("invalid HTTP method '" ++ call.method ++ "': " ++ err))
  perform (.http_request call.method call.url (request_headers call headers) call.body)
  let answer ← lift ((call.send (request_headers call headers)).mapError fun err =>
    HttpError.mk (classify err) ("HTTP " ++ call.method ++ " " ++ call.url ++ ": " ++ err.message))
  lift (read_response call answer)

/-- `extract_host`. -/
def extract_host (g : Guard) (url : String) : String :=
  (((g.parse url).toOption.bind Url.host_str).getD "unknown")

/-- `MetricCtx::finish`. -/
def finish (call : ApiCall) (host : String) (status response_bytes : ℕ) : HttpMetric where
  method := call.method
  host := host
  status := status
  request_bytes := (utf8 call.body).length
  response_bytes := response_bytes
  duration_us := call.duration_us

/-- The native `__http`, with `recorded` metrics in the collector. -/
def native_api (g : Guard) (max_ops recorded : ℕ) (call : ApiCall) :
    Eff OpEffect HttpError String := do
  lift ((check_op_limit recorded max_ops).mapError (HttpError.mk HTTP_OP_LIMIT))
  match g.validate_url call.dns call.url with
  | .error err => do
    -- a blocked call is recorded, and counts
    perform (.http_metric (finish call (extract_host g call.url) 0 0))
    leave ⟨HTTP_SSRF_BLOCKED, err⟩
  | .ok host => do
    let (status, response_bytes, json) ← handle (execute_http call (parse_headers g call))
      fun err => do
        perform (.http_metric (finish call host 0 0))
        leave err
    perform (.http_metric (finish call host status.toNat response_bytes))
    return json

/-! ## Executions -/

/-- What an execution's capabilities are configured with. -/
structure Setup where
  guard : Guard
  s3_config : S3Config
  allow_private : Bool
  lib : JsonLib
  max_ops : ℕ

/-- An operation a script performs, with what it meets. -/
inductive Op
  | api (call : ApiCall)
  | s3 (call : S3Call)
  | io (name action payload : String) (egress : Egress)

/-- What comes back from the native function. -/
inductive Answer
  | api (result : Except HttpError String)
  | s3 (result : Except S3Error String)
  | io (raw : String)

def OpEffect.is_http_metric : OpEffect → Bool
  | http_metric _ => true
  | http_request _ _ _ _ | store _ | signed _ | forwarded _ _ _ => false

def OpEffect.is_s3_metric : OpEffect → Bool
  | store (.metric _) => true
  | store (.request _ _) | http_request _ _ _ _ | http_metric _ | signed _ | forwarded _ _ _ => false

def OpEffect.is_forwarded : OpEffect → Bool
  | forwarded _ _ _ => true
  | http_request _ _ _ _ | http_metric _ | store _ | signed _ => false

/-- The effects that are an operation carried out: a request sent to a server or to the
store, a URL signed, a call forwarded. -/
def OpEffect.is_carried : OpEffect → Bool
  | http_request _ _ _ _ | store (.request _ _) | signed _ | forwarded _ _ _ => true
  | http_metric _ | store (.metric _) => false

/-- The counter of `__http`. -/
def http_used (trace : List OpEffect) : ℕ := trace.countP OpEffect.is_http_metric

/-- The counter of `__s3`. -/
def s3_used (trace : List OpEffect) : ℕ := trace.countP OpEffect.is_s3_metric

/-- The counter of `__io`. -/
def io_used (trace : List OpEffect) : ℕ := trace.countP OpEffect.is_forwarded

/-- The three counters together. -/
def used (trace : List OpEffect) : ℕ := http_used trace + s3_used trace + io_used trace

/-- The operations carried out. -/
def carried (trace : List OpEffect) : ℕ := trace.countP OpEffect.is_carried

/-- The action of a presign that produced its URL or form. -/
def signed_action (call : S3Call) (result : Except S3Error String) : Option String :=
  if call.action = "usage" ∨ call.action = "delete" then none
  else result.toOption.map fun _ => call.action

/-- One operation, with the counters of the trace before it. -/
def perform_op (x : Setup) (trace : List OpEffect) : Op → List OpEffect × Answer
  | .api call =>
    let m := native_api x.guard x.max_ops (http_used trace) call
    (m.effects, .api m.result)
  | .s3 call =>
    let m := native_s3 x.s3_config x.allow_private x.max_ops (s3_used trace) call
    (m.effects.map .store ++ (signed_action call m.result).toList.map .signed, .s3 m.result)
  | .io name action payload egress =>
    let (raw, used) := native_io x.lib egress x.max_ops (io_used trace) name action payload
    (if used = io_used trace then [] else [.forwarded name action payload], .io raw)

def op_step (x : Setup) (trace : List OpEffect) (op : Op) : Option (List OpEffect) :=
  some (trace ++ (perform_op x trace op).1)

/-! ### Counting -/

theorem http_used_append (t₁ t₂ : List OpEffect) :
    http_used (t₁ ++ t₂) = http_used t₁ + http_used t₂ := List.countP_append

theorem s3_used_append (t₁ t₂ : List OpEffect) :
    s3_used (t₁ ++ t₂) = s3_used t₁ + s3_used t₂ := List.countP_append

theorem io_used_append (t₁ t₂ : List OpEffect) :
    io_used (t₁ ++ t₂) = io_used t₁ + io_used t₂ := List.countP_append

theorem carried_append (t₁ t₂ : List OpEffect) :
    carried (t₁ ++ t₂) = carried t₁ + carried t₂ := List.countP_append

theorem used_append (t₁ t₂ : List OpEffect) : used (t₁ ++ t₂) = used t₁ + used t₂ := by
  rw [used, used, used, http_used_append, s3_used_append, io_used_append]
  omega

/-- The store's part of a trace counts on the `__s3` counter only, one for each metric, by
induction on its effects. -/
theorem used_store (effects : List StoreEffect) :
    used (effects.map .store) = (metrics effects).length := by
  induction effects with
  | nil => rfl
  | cons e effects ih =>
      rw [List.map_cons, ← List.singleton_append, used_append, ih]
      cases e with
      | request method url =>
          rw [metrics_request]
          exact Nat.zero_add _
      | metric m =>
          rw [metrics_metric, List.length_cons]
          exact Nat.add_comm _ _

/-- The operations of the store are its requests. -/
theorem carried_store (effects : List StoreEffect) :
    carried (effects.map .store) = requests effects := by
  rw [carried, requests, List.countP_map]
  refine List.countP_congr fun e _ => ?_
  cases e <;> exact Iff.rfl

/-! ### The three native functions -/

def limit_message (max_ops : ℕ) : String :=
  "too many operations: limit is " ++ toString max_ops ++ " per execution"

section Natives

variable {x : Setup} {before : List OpEffect}

/-- A call beyond the budget is refused before it sends anything. -/
theorem native_api_refused {g : Guard} {max_ops recorded : ℕ} (hspent : max_ops ≤ recorded)
    (call : ApiCall) :
    native_api g max_ops recorded call = leave ⟨HTTP_OP_LIMIT, limit_message max_ops⟩ := by
  rw [native_api, check_op_limit, if_pos hspent]
  rfl

/-- A request goes out when the method is one. -/
theorem effects_execute_http (call : ApiCall) (headers : List (String × String)) :
    (execute_http call headers).effects = []
      ∨ ∃ method url headers' body,
        (execute_http call headers).effects = [.http_request method url headers' body] := by
  rw [execute_http]
  cases call.parse_method call.method with
  | error err => exact Or.inl rfl
  | ok u =>
      refine Or.inr ⟨call.method, call.url, request_headers call headers, call.body, ?_⟩
      cases call.send (request_headers call headers) with
      | error err => rfl
      | ok answer => rfl

/-- Past the limit check a call records one metric, after at most one request. -/
theorem effects_native_api {g : Guard} {max_ops recorded : ℕ} (hbudget : recorded < max_ops)
    (call : ApiCall) :
    ∃ sent metric, (native_api g max_ops recorded call).effects = sent ++ [.http_metric metric]
      ∧ (sent = [] ∨ ∃ method url headers body, sent = [.http_request method url headers body]) := by
  have hlift : (lift ((Except.ok () : Except String Unit).mapError (HttpError.mk HTTP_OP_LIMIT))
      : Eff OpEffect HttpError Unit).result = .ok () := rfl
  have hsent := effects_execute_http call (parse_headers g call)
  rw [native_api, check_op_limit, if_neg (Nat.not_le.mpr hbudget), effects_bind hlift]
  cases hurl : g.validate_url call.dns call.url with
  | error err => exact ⟨[], _, rfl, Or.inl rfl⟩
  | ok host =>
      dsimp only
      cases hresult : (execute_http call (parse_headers g call)).result with
      | ok got =>
          rw [effects_bind (ok_handle.mpr (Or.inl hresult)), effects_handle hresult]
          exact ⟨_, _, rfl, hsent⟩
      | error err =>
          rw [bind_error (by rw [result_handle hresult]; rfl), effects_handle_error hresult]
          exact ⟨_, _, rfl, hsent⟩

/-- The counter an operation is checked against. -/
def own_used (before : List OpEffect) : Op → ℕ
  | .api _ => http_used before
  | .s3 _ => s3_used before
  | .io _ _ _ _ => io_used before

/-- The answer is the operation-limit error of its capability. -/
def Answer.IsLimit (x : Setup) : Answer → Prop
  | .api result => result = .error ⟨HTTP_OP_LIMIT, limit_message x.max_ops⟩
  | .s3 result => result = .error (op_limit (limit_message x.max_ops))
  | .io raw => raw = dynamic_fault_json x.lib (dynamic_fault (limit_message x.max_ops)
      "IO_OP_LIMIT" false .developer "engine" none)

/-- With its own counter used up, an operation is refused and does nothing. -/
theorem perform_op_refused {op : Op} (hspent : x.max_ops ≤ own_used before op) :
    (perform_op x before op).1 = [] ∧ (perform_op x before op).2.IsLimit x := by
  cases op with
  | api call =>
      rw [own_used] at hspent
      rw [perform_op, native_api_refused hspent]
      exact ⟨rfl, rfl⟩
  | s3 call =>
      rw [own_used] at hspent
      rw [perform_op, native_s3_refused hspent]
      refine ⟨?_, rfl⟩
      dsimp only
      rw [signed_action]
      split <;> rfl
  | io name action payload egress =>
      have hio : native_io x.lib egress x.max_ops (io_used before) name action payload
          = (dynamic_fault_json x.lib (dynamic_fault (limit_message x.max_ops) "IO_OP_LIMIT" false
              .developer "engine" none), io_used before) := if_pos hspent
      rw [perform_op, hio]
      exact ⟨if_pos rfl, rfl⟩

/-! ### Sharing the budget -/

/-- Every limit check the operation passes against its own counter is one that the three
counters together pass too; a scan makes one for each page. -/
structure ChecksAgree (x : Setup) (before : List OpEffect) (op : Op) : Prop where
  call : own_used before op < x.max_ops → used before < x.max_ops
  pages : ∀ s3_call target, op = .s3 s3_call → s3_call.action = "usage" →
    usage_target x.s3_config x.allow_private (s3_call.moments 0) s3_call.payload_json = .ok target →
    ∀ page bytes objects token,
      Reached x.s3_config x.max_ops (s3_used before) s3_call.moments target page bytes objects
        token →
      s3_used before + page < x.max_ops → used before + page < x.max_ops

/-- The condition on an operation: the checks agree, and no request to the store goes
unanswered. -/
structure SharesBudget (x : Setup) (before : List OpEffect) (op : Op) : Prop extends
    ChecksAgree x before op where
  answered : ∀ s3_call, op = .s3 s3_call → s3_used before < x.max_ops →
    RequestsAnswered x.s3_config x.allow_private x.max_ops (s3_used before) s3_call

/-- What the budget is for: once `max_ops` operations were carried out, an operation is
refused and does nothing, and so is the next page of a scan. -/
structure ObeysLimit (x : Setup) (before : List OpEffect) (op : Op) : Prop where
  refused : x.max_ops ≤ carried before →
    (perform_op x before op).1 = [] ∧ (perform_op x before op).2.IsLimit x
  pages : ∀ s3_call target, op = .s3 s3_call → s3_call.action = "usage" →
    usage_target x.s3_config x.allow_private (s3_call.moments 0) s3_call.payload_json = .ok target →
    ∀ page bytes objects token,
      Reached x.s3_config x.max_ops (s3_used before) s3_call.moments target page bytes objects
        token →
      x.max_ops ≤ carried before + page →
      usage_loop x.s3_config x.max_ops s3_call.moments target (s3_used before + page) page bytes
        objects token = leave (op_limit (limit_message x.max_ops))

/-- The invariant of an execution. -/
structure WithinBudget (x : Setup) (trace : List OpEffect) : Prop where
  counted : carried trace ≤ used trace
  bounded : used trace ≤ x.max_ops

/-- An s3 call that is let through: a scan, a delete, or a presign. What it carries out is counted
when the store answers, and a scan checks its own counter before each page. -/
theorem spent_native_s3 {call : S3Call} (hshares : SharesBudget x before (.s3 call))
    (hbudget : s3_used before < x.max_ops) :
    carried (perform_op x before (.s3 call)).1 ≤ used (perform_op x before (.s3 call)).1
      ∧ used before + used (perform_op x before (.s3 call)).1 ≤ x.max_ops := by
  have hshared : used before < x.max_ops := hshares.call hbudget
  have hmetered : Metered (native_s3 x.s3_config x.allow_private x.max_ops (s3_used before)
      call).effects := metered_native_s3 (hshares.answered call rfl)
  have hle := hmetered.requests_le
  rw [perform_op]
  dsimp only
  rw [carried_append, used_append, carried_store, used_store]
  -- a signed URL is counted by the metric of its call
  have hsigned : ∀ actions : List String, used (actions.map .signed) = 0
      ∧ carried (actions.map .signed) = actions.length := by
    intro actions
    induction actions with
    | nil => exact ⟨rfl, rfl⟩
    | cons action actions ih =>
        rw [List.map_cons, ← List.singleton_append, used_append, carried_append, ih.1, ih.2,
          List.length_cons]
        exact ⟨rfl, Nat.add_comm _ _⟩
  rw [(hsigned _).1, (hsigned _).2]
  rw [effects_native_s3 hbudget] at hle ⊢
  by_cases husage : call.action = "usage"
  · rw [if_pos husage] at hle ⊢
    rw [signed_action, if_pos (Or.inl husage)]
    have hloop : used before + (metrics (do_usage x.s3_config x.allow_private x.max_ops
        (s3_used before) call.moments call.payload_json).effects).length ≤ x.max_ops := by
      cases htarget : usage_target x.s3_config x.allow_private (call.moments 0)
          call.payload_json with
      | error err =>
          rw [effects_do_usage_error htarget]
          exact Nat.le_of_lt hshared
      | ok target =>
          rw [effects_do_usage htarget]
          exact metrics_usage_loop_le (hshares.pages call target rfl husage htarget) .first
            (Nat.le_of_lt hshared)
    simp only [Option.toList_none, List.length_nil]
    omega
  rw [if_neg husage] at hle ⊢
  by_cases hdelete : call.action = "delete"
  · rw [if_pos hdelete] at hle ⊢
    rw [signed_action, if_pos (Or.inr hdelete)]
    have hone : (metrics (do_delete x.s3_config x.allow_private (call.moments 0)
        call.payload_json).effects).length ≤ 1 := by
      cases htarget : delete_target x.s3_config x.allow_private (call.moments 0)
          call.payload_json with
      | error err =>
          rw [effects_do_delete_error htarget]
          exact Nat.zero_le 1
      | ok target =>
          rw [effects_do_delete htarget]
          cases (call.moments 0).send target.2 with
          | error err => exact Nat.zero_le 1
          | ok answer => exact Nat.le_refl 1
    simp only [Option.toList_none, List.length_nil]
    omega
  · rw [if_neg hdelete]
    have hone : ((signed_action call (native_s3 x.s3_config x.allow_private x.max_ops
        (s3_used before) call).result).toList).length ≤ 1 := Option.length_toList_le
    rw [requests_metric, requests_nil, metrics_metric, metrics_nil, List.length_singleton]
    omega

/-- An operation that is let through carries out no more than it counts, and counts no more
than is left. -/
theorem spent_perform_op {op : Op} (hshares : SharesBudget x before op)
    (hbudget : own_used before op < x.max_ops) :
    carried (perform_op x before op).1 ≤ used (perform_op x before op).1
      ∧ used before + used (perform_op x before op).1 ≤ x.max_ops := by
  have hshared := hshares.call hbudget
  cases op with
  | api call =>
      rw [own_used] at hbudget
      -- one metric always, and a request only if the call got that far
      obtain ⟨sent, metric, heffects, hsent⟩ := effects_native_api (g := x.guard) hbudget call
      rw [perform_op]
      dsimp only
      rw [heffects, carried_append, used_append]
      have hmetric : used [.http_metric metric] = 1 ∧ carried [.http_metric metric] = 0 := ⟨rfl, rfl⟩
      have hnone : used sent = 0 ∧ carried sent ≤ 1 := by
        rcases hsent with rfl | ⟨method, url, headers, body, rfl⟩
        · exact ⟨rfl, Nat.zero_le 1⟩
        · exact ⟨rfl, Nat.le_refl 1⟩
      omega
  | io name action payload egress =>
      have hio : native_io x.lib egress x.max_ops (io_used before) name action payload
          = (raw_answer x.lib (egress name action payload), io_used before + 1) :=
        if_neg (Nat.not_le.mpr hbudget)
      rw [perform_op, hio]
      dsimp only
      rw [if_neg (Nat.succ_ne_self _)]
      have hforwarded : used [.forwarded name action payload] = 1
          ∧ carried [.forwarded name action payload] = 1 := ⟨rfl, rfl⟩
      omega
  | s3 call =>
      rw [own_used] at hbudget
      exact spent_native_s3 hshares hbudget

/-- An operation that shares the budget keeps it. One that is refused adds nothing, and one that
is let through was below the limit with all it may count. -/
theorem withinBudget_step (before : List OpEffect) (op : Op) (after : List OpEffect)
    (h : WithinBudget x before) (hshares : SharesBudget x before op)
    (hstep : op_step x before op = some after) : WithinBudget x after := by
  obtain rfl := Option.some.inj hstep
  obtain ⟨hcounted, hbounded⟩ := h
  by_cases hbudget : own_used before op < x.max_ops
  · obtain ⟨hless, hleft⟩ := spent_perform_op hshares hbudget
    constructor
    · rw [carried_append, used_append]
      omega
    · rw [used_append]
      exact hleft
  · rw [(perform_op_refused (Nat.not_lt.mp hbudget)).1, List.append_nil]
    exact ⟨hcounted, hbounded⟩

/-- Within the budget, an operation whose checks agree obeys the limit. -/
theorem obeysLimit_of_checksAgree {op : Op} (h : WithinBudget x before)
    (hagree : ChecksAgree x before op) : ObeysLimit x before op := by
  have hcounted := h.counted
  constructor
  · intro hspent
    apply perform_op_refused
    by_contra hbudget
    have hshared := hagree.call (Nat.not_le.mp hbudget)
    omega
  · intro call target hop husage htarget page bytes objects token hreached hspent
    by_cases hbudget : s3_used before + page < x.max_ops
    · have hshared := hagree.pages call target hop husage htarget page bytes objects token hreached
        hbudget
      omega
    · rw [usage_loop, dif_pos (Nat.not_lt.mp hbudget)]
      rfl

/-- An execution whose operations share the budget obeys the limit at every one of them: by
induction, the budget is kept up to each operation, and so its check sees all that was used. -/
theorem guarded_obeysLimit {ops : List Op} (h : WithinBudget x before)
    (hguard : Guarded (op_step x) (SharesBudget x) before ops) :
    Guarded (op_step x) (ObeysLimit x) before ops := by
  induction ops generalizing before with
  | nil => trivial
  | cons op ops ih =>
      refine ⟨obeysLimit_of_checksAgree h hguard.1.toChecksAgree, ?_⟩
      intro after hafter
      exact ih (withinBudget_step before op after h hguard.1 hafter) (hguard.2 after hafter)

end Natives

/-- **One budget.** In an execution whose limit checks all agree with a check of the three
counters together, and whose requests to the store are all answered, no more than `max_ops`
operations are carried out by the three capabilities together; and every operation, and
every page of a scan, that comes after that many is refused and does nothing. -/
theorem one_budget (x : Setup) (ops : List Op) (trace : List OpEffect)
    (hrun : run (op_step x) [] ops = some trace)
    (hguard : Guarded (op_step x) (SharesBudget x) [] ops) :
    carried trace ≤ x.max_ops ∧ Guarded (op_step x) (ObeysLimit x) [] ops := by
  have hinit : WithinBudget x [] := ⟨Nat.le_refl 0, Nat.zero_le _⟩
  have hfinal : WithinBudget x trace := run_inv_of_guarded withinBudget_step hinit hguard hrun
  exact ⟨Nat.le_trans hfinal.counted hfinal.bounded, guarded_obeysLimit hinit hguard⟩

/-! ### Three operations -/

/-- A request to a public host, answered with an empty object. -/
def public_call : ApiCall where
  method := "GET"
  url := "https://api.example.com/"
  body := ""
  headers_json := ""
  dns := example_dns [.v4 ⟨8, 8, 8, 8⟩]
  parse_method _ := .ok ()
  decode_headers _ := none
  send _ := .ok ⟨200, some 2, .ok "\x7b\x7d"⟩
  to_json text := .ok ("\"" ++ text ++ "\"")
  duration_us := 5

/-- A URL for the object `a`. -/
def presign_call : S3Call := { delete_call no_content with action := "presign" }

/-- An execution with a budget of one. -/
def single_setup : Setup where
  guard := example_guard
  s3_config := public_store
  allow_private := false
  lib := answer_lib
  max_ops := 1

/-- Two requests under a budget of one: the second is refused. -/
theorem one_budget_two_requests :
    ∃ trace, run (op_step single_setup) [] [.api public_call, .api public_call] = some trace
      ∧ carried trace ≤ 1 := by
  have hshares : ∀ before, (http_used before < 1 → used before < 1) →
      SharesBudget single_setup before (.api public_call) := by
    intro before hcall
    refine ⟨⟨hcall, ?_⟩, ?_⟩
    · intro call target hop
      cases hop
    · intro call hop
      cases hop
  have hguard : Guarded (op_step single_setup) (SharesBudget single_setup) []
      [.api public_call, .api public_call] := by
    refine ⟨hshares [] (by decide), fun after hafter => ⟨hshares after ?_, fun _ _ => trivial⟩⟩
    obtain rfl := Option.some.inj hafter
    decide +kernel
  exact ⟨_, rfl, (one_budget single_setup _ _ rfl hguard).1⟩

/-- One operation of each capability: all three are carried out. -/
theorem three_counters_carry_out_three :
    ∃ trace, run (op_step single_setup) []
        [.api public_call, .s3 presign_call, .io "db" "query" "\x7b\x7d" fun _ _ _ => .ok "null"]
        = some trace
      ∧ carried trace = 3
      ∧ ¬ (carried trace ≤ single_setup.max_ops
        ∧ Guarded (op_step single_setup) (ObeysLimit single_setup) []
          [.api public_call, .s3 presign_call,
            .io "db" "query" "\x7b\x7d" fun _ _ _ => .ok "null"]) := by
  have hcarried : ∀ trace, run (op_step single_setup) []
      [.api public_call, .s3 presign_call, .io "db" "query" "\x7b\x7d" fun _ _ _ => .ok "null"]
      = some trace → carried trace = 3 := by
    have hthree : (run (op_step single_setup) []
        [.api public_call, .s3 presign_call,
          .io "db" "query" "\x7b\x7d" fun _ _ _ => .ok "null"]).map carried = some 3 := by
      decide +kernel
    intro trace htrace
    rw [htrace, Option.map_some, Option.some.injEq] at hthree
    exact hthree
  refine ⟨_, rfl, hcarried _ rfl, ?_⟩
  rintro ⟨hle, -⟩
  rw [hcarried _ rfl] at hle
  exact absurd hle (by decide)

end Runlet.Budget
