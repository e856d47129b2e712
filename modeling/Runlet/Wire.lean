/-
The box↔`fabricd` wire contract (`crates/fabric-wire/src/wire.rs`,
`egress.rs`, `errors.rs`): the session protocol's messages and the
length-prefixed framing.

The messages are plain data, modelled field by field. `serde_json` is a
parameter: a `Codec` is the pair of `to_vec` and `from_slice` at one message
type, and the only thing ever assumed of it is that decoding undoes encoding
(`Codec.RoundTrips`).

`write_frame` is modelled by the bytes it puts on the stream. `read_frame` is
modelled by what it does **with the bytes it has taken so far**
(`read_frame_poll`): still waiting inside one of its two `read_exact`s, or
finished. That is the form a session in which a read can be dropped half-way
needs, since the bytes a dropped `read_exact` has consumed are gone.
-/
import Runlet.Json
import Mathlib.Tactic.Ring

set_option autoImplicit false

namespace Runlet.Wire

open Runlet.Json

/-! ## The error vocabulary (`errors.rs`, `egress.rs`) -/

/-- Who should act on an error. -/
inductive ErrorOwner
  | caller
  | developer
  | operator
  deriving DecidableEq, Repr

/-- The lowercase name `serde` writes for an owner. -/
def ErrorOwner.as_str : ErrorOwner → String
  | .caller => "caller"
  | .developer => "developer"
  | .operator => "operator"

/-- `ErrorOwner::parse`. -/
def ErrorOwner.parse : String → Option ErrorOwner
  | "caller" => some .caller
  | "developer" => some .developer
  | "operator" => some .operator
  | _ => none

@[simp] theorem ErrorOwner.parse_as_str (owner : ErrorOwner) :
    ErrorOwner.parse owner.as_str = some owner := by
  cases owner <;> rfl

/-- A classified fault: a stable code, a retry hint and an owner. -/
structure Fault where
  code : String
  retryable : Bool
  owner : ErrorOwner
  deriving DecidableEq, Repr

/-- A failed `Egress::call`. -/
structure EgressError where
  code : String
  message : String
  source : String
  details : Option Value
  retryable : Bool
  owner : ErrorOwner
  deriving DecidableEq, Repr

/-- `EgressError::new`: not retryable, owned by the operator, no details. -/
def EgressError.new (source code message : String) : EgressError where
  code := code
  message := message
  source := source
  details := none
  retryable := false
  owner := .operator

/-! ## Per-capability metrics -/

structure DbMetric where
  action : String
  duration_us : ℕ
  rows_returned : ℕ
  rows_affected : ℕ
  truncated : Bool
  deriving DecidableEq, Repr

structure MongoMetric where
  action : String
  duration_us : ℕ
  docs_returned : ℕ
  docs_affected : ℕ
  truncated : Bool
  deriving DecidableEq, Repr

structure MailMetric where
  action : String
  duration_us : ℕ
  recipients : ℕ
  bytes : ℕ
  accepted : Bool
  deriving DecidableEq, Repr

structure RedisMetric where
  action : String
  duration_us : ℕ
  bytes : ℕ
  hit : Bool
  deriving DecidableEq, Repr

structure AmqMetric where
  action : String
  duration_us : ℕ
  messages : ℕ
  bytes : ℕ
  published : Bool
  deriving DecidableEq, Repr

structure AuthMetric where
  action : String
  host : String
  status : ℕ
  duration_us : ℕ
  deriving DecidableEq, Repr

/-- `check_op_limit` (`metrics.rs`), for a collector that holds `recorded` metrics. -/
def check_op_limit (recorded max_ops : ℕ) : Except String Unit :=
  if max_ops ≤ recorded then
    .error ("too many operations: limit is " ++ toString max_ops ++ " per execution")
  else .ok ()

/-- The driver-backed capability metrics drained from one session. -/
structure BackendMetrics where
  db : List DbMetric := []
  mongo : List MongoMetric := []
  mail : List MailMetric := []
  redis : List RedisMetric := []
  amq : List AmqMetric := []
  auth : List AuthMetric := []
  deriving DecidableEq, Repr

/-! ## The session protocol -/

/-- The session-open message: the resource name selected per kind, the
deadline, the trusted tenant and the client-auth token. -/
structure WireInit where
  db : Option String := none
  mongo : Option String := none
  mail : Option String := none
  redis : Option String := none
  amq : Option String := none
  auth : Option String := none
  timeout_ms : ℕ := 0
  tenant : Option String := none
  token : Option String := none
  deriving DecidableEq, Repr

/-- The six driver kinds served by the daemon. -/
inductive Kind
  | db
  | mongo
  | mail
  | redis
  | amq
  | auth
  deriving DecidableEq, Repr

/-- The name a kind goes by in `io.call`, in a resource table and in a metric. -/
def Kind.as_str : Kind → String
  | .db => "db"
  | .mongo => "mongo"
  | .mail => "mail"
  | .redis => "redis"
  | .amq => "amq"
  | .auth => "auth"

/-- The resource name a session selects for one kind. -/
def WireInit.named (init : WireInit) : Kind → Option String
  | .db => init.db
  | .mongo => init.mongo
  | .mail => init.mail
  | .redis => init.redis
  | .amq => init.amq
  | .auth => init.auth

/-- One egress call: kind, action, and the script's JSON payload. -/
structure WireCall where
  name : String
  action : String
  payload : String
  deriving DecidableEq, Repr

/-- A request frame from the box to the daemon. -/
inductive WireRequest
  | init (init : WireInit)
  | call (call : WireCall)
  | drain
  deriving DecidableEq, Repr

/-- A response frame from the daemon to the box. -/
inductive WireResponse
  | ack
  | init_error (code message : String)
  | reply (result : Except EgressError String)
  | metrics (metrics : BackendMetrics)
  | protocol_error (message : String)
  deriving DecidableEq

/-! ## Framing -/

/-- The `std::io::ErrorKind`s the framing and the transport produce. -/
inductive ErrorKind
  | invalid_data
  | unexpected_eof
  | broken_pipe
  deriving DecidableEq, Repr

/-- `std::io::Error`. -/
structure IoError where
  kind : ErrorKind
  message : String
  deriving DecidableEq, Repr

/-- `serde_json::to_vec` and `serde_json::from_slice` at one message type. -/
structure Codec (α : Type) where
  to_vec : α → Except String (List UInt8)
  from_slice : List UInt8 → Except String α

/-- Decoding undoes encoding: what `serde_json` documents for the derived
impls of the message types. -/
def Codec.RoundTrips {α : Type} (codec : Codec α) : Prop :=
  ∀ value bytes, codec.to_vec value = .ok bytes → codec.from_slice bytes = .ok value

/-- Hard cap on a single frame's payload (64 MiB). -/
def MAX_FRAME_BYTES : ℕ := 64 * 1024 * 1024

/-- `u32::to_le_bytes`. -/
def to_le_bytes (n : ℕ) : List UInt8 :=
  [UInt8.ofNat n, UInt8.ofNat (n / 256), UInt8.ofNat (n / 65536), UInt8.ofNat (n / 16777216)]

/-- `u32::from_le_bytes`. -/
def from_le_bytes : List UInt8 → ℕ
  | [] => 0
  | b :: bs => b.toNat + 256 * from_le_bytes bs

variable {α : Type}

/-- The bytes `write_frame` puts on the stream, or the error it returns before
it has written any. -/
def write_frame (codec : Codec α) (value : α) : Except IoError (List UInt8) :=
  match codec.to_vec value with
  | .error err => .error ⟨.invalid_data, err⟩
  | .ok bytes =>
    if 2 ^ 32 ≤ bytes.length then .error ⟨.invalid_data, "frame too large to encode"⟩
    else if MAX_FRAME_BYTES < bytes.length then .error ⟨.invalid_data, "frame exceeds size cap"⟩
    else .ok (to_le_bytes bytes.length ++ bytes)

/-- `read_frame` with `buf` taken off the stream so far: `none` while one of
the two `read_exact`s is still waiting for bytes. -/
def read_frame_poll (codec : Codec α) (buf : List UInt8) : Option (Except IoError α) :=
  if buf.length < 4 then none
  else
    let len := from_le_bytes (buf.take 4)
    if MAX_FRAME_BYTES < len then some (.error ⟨.invalid_data, "frame exceeds size cap"⟩)
    else if buf.length < 4 + len then none
    else
      match codec.from_slice (buf.drop 4) with
      | .error err => some (.error ⟨.invalid_data, err⟩)
      | .ok value => some (.ok value)

/-- `read_frame` when the stream ends with `buf` taken so far. An end inside the
header is the clean `Ok(None)`; only an end inside the body is an error. -/
def read_frame_eof (buf : List UInt8) : Except IoError (Option α) :=
  if buf.length < 4 then .ok none
  else .error ⟨.unexpected_eof, "early eof"⟩

theorem to_le_bytes_length (n : ℕ) : (to_le_bytes n).length = 4 := rfl

/-- The header survives the trip for every `u32`. -/
theorem from_le_bytes_to_le_bytes (n : ℕ) (hn : n < 2 ^ 32) :
    from_le_bytes (to_le_bytes n) = n := by
  simp only [to_le_bytes, from_le_bytes, UInt8.toNat_ofNat']
  omega

/-- What a successful `write_frame` wrote. -/
theorem write_frame_ok {codec : Codec α} {value : α} {frame : List UInt8} :
    write_frame codec value = .ok frame
      ↔ ∃ bytes, codec.to_vec value = .ok bytes ∧ bytes.length ≤ MAX_FRAME_BYTES
          ∧ frame = to_le_bytes bytes.length ++ bytes := by
  unfold write_frame
  cases hv : codec.to_vec value with
  | error err => simp
  | ok bytes =>
      have hcap : MAX_FRAME_BYTES < 2 ^ 32 := by decide
      dsimp only
      by_cases hlen : bytes.length ≤ MAX_FRAME_BYTES
      · rw [if_neg (by omega), if_neg (by omega)]
        simp [hlen, eq_comm]
      -- over the cap: one of the two refusals, whichever comes first
      · have hmid : MAX_FRAME_BYTES < bytes.length := by omega
        rw [if_pos hmid]
        split <;> simp [hlen]

/-- The reader is still waiting on every proper prefix of a frame. -/
theorem read_frame_poll_take {codec : Codec α} {value : α} {frame : List UInt8}
    (hw : write_frame codec value = .ok frame) {n : ℕ} (hn : n < frame.length) :
    read_frame_poll codec (frame.take n) = none := by
  obtain ⟨bytes, -, hcap, rfl⟩ := write_frame_ok.mp hw
  have hlen : (to_le_bytes bytes.length ++ bytes).length = 4 + bytes.length := by
    rw [List.length_append, to_le_bytes_length]
  have htake : ((to_le_bytes bytes.length ++ bytes).take n).length = n := by
    rw [List.length_take]; omega
  unfold read_frame_poll
  by_cases h4 : n < 4
  · rw [if_pos (by rw [htake]; exact h4)]
  -- past the header: the length read is the body's, and the body is not all there
  · have hhead : ((to_le_bytes bytes.length ++ bytes).take n).take 4
        = to_le_bytes bytes.length := by
      rw [List.take_take, min_eq_left (Nat.not_lt.mp h4),
        List.take_append_of_le_length (by rw [to_le_bytes_length]), List.take_of_length_le]
      rw [to_le_bytes_length]
    have hfrom : from_le_bytes (to_le_bytes bytes.length) = bytes.length := by
      refine from_le_bytes_to_le_bytes _ (lt_of_le_of_lt hcap (by decide))
    rw [if_neg (by rw [htake]; exact h4)]
    simp only [hhead, hfrom, htake]
    rw [if_neg (by omega), if_pos (by omega)]

/-- The reader finishes on a whole frame, with the value written. -/
theorem read_frame_poll_frame {codec : Codec α} (hrt : codec.RoundTrips) {value : α}
    {frame : List UInt8} (hw : write_frame codec value = .ok frame) :
    read_frame_poll codec frame = some (.ok value) := by
  obtain ⟨bytes, hbytes, hcap, rfl⟩ := write_frame_ok.mp hw
  have hhead : (to_le_bytes bytes.length ++ bytes).take 4 = to_le_bytes bytes.length :=
    List.take_left' (to_le_bytes_length _)
  have hbody : (to_le_bytes bytes.length ++ bytes).drop 4 = bytes :=
    List.drop_left' (to_le_bytes_length _)
  have hfrom : from_le_bytes (to_le_bytes bytes.length) = bytes.length := by
    refine from_le_bytes_to_le_bytes _ (lt_of_le_of_lt hcap (by decide))
  unfold read_frame_poll
  simp only [hhead, hbody, hfrom, List.length_append, to_le_bytes_length, hrt value bytes hbytes]
  rw [if_neg (by omega), if_neg (by omega), if_neg (by omega)]

/-- A frame is never empty. -/
theorem write_frame_pos {codec : Codec α} {value : α} {frame : List UInt8}
    (hw : write_frame codec value = .ok frame) : 0 < frame.length := by
  obtain ⟨bytes, -, -, rfl⟩ := write_frame_ok.mp hw
  rw [List.length_append, to_le_bytes_length]
  omega

end Runlet.Wire
