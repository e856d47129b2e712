/-
One box-request session between `SidecarEgress` (`crates/runlet/src/sidecar.rs`)
and `fabricd`'s serve loop (`crates/fabricd/src/main.rs`), after the handshake.

The two byte streams are FIFO queues. Both parties move one byte at a time, so
every split of a `write_all` or a `read_exact` into several polls is a run of
this machine, and so is every interleaving of the two parties. The box side of
one operation is `roundtrip`: write the request frame, then read one response
frame. `SidecarEgress::call` wraps it in `tokio::time::timeout`, which may drop
it at any of its await points; what is then lost is exactly what the dropped
future owned: the unwritten rest of the request frame, or the response bytes
its `read_exact` had already taken. `drain_metrics` has no timeout.

Nothing on the wire says which operation a frame belongs to. The model adds two
ghosts to be able to ask: every request byte carries the number of the
operation that wrote it, and `answers` records the daemon's response to a frame
all of whose bytes one operation wrote, once the response is on the stream in
full. `settled` records what each operation's `roundtrip` came back with.

The result is `session_pairs_replies`: as long as no timeout fires once the
first byte of its request is on the stream, every operation gets the answer to
its own request. `late_reply_is_taken` is what happens otherwise.
-/
import Runlet.Lib.Machine
import Runlet.Lib.Result
import Runlet.Lib.Text
import Runlet.Wire

set_option autoImplicit false

namespace Runlet.Sidecar

open Runlet.Wire Machine

/-! ## The box's side of one operation -/

/-- What the script side asks of a session: `SidecarEgress::call`, or the final
`drain_metrics`. -/
inductive Op
  | call (call : WireCall)
  | drain
  deriving DecidableEq

/-- The frame an operation sends. -/
def Op.request : Op → WireRequest
  | .call c => .call c
  | .drain => .drain

/-- How `roundtrip` ended: dropped by the timeout, an I/O error, or one response
frame. -/
inductive Roundtrip
  | elapsed
  | io (err : IoError)
  | response (response : WireResponse)
  deriving DecidableEq

/-- `transport_error`: a retryable error tagged to the calling capability. -/
def transport_error (source code message : String) : EgressError :=
  { EgressError.new source code message with retryable := true, owner := .operator }

/-- What `SidecarEgress::call` returns for each end of its roundtrip. -/
def call_result (source : String) : Roundtrip → Except EgressError String
  | .response (.reply result) => result
  | .response (.protocol_error msg) => .error (transport_error source "IO_PROTOCOL" msg)
  | .response .ack | .response (.init_error _ _) | .response (.metrics _) =>
    .error (transport_error source "IO_PROTOCOL" "unexpected daemon response")
  | .io err => .error (transport_error source "IO_TRANSPORT" err.message)
  | .elapsed => .error
      (transport_error source "IO_TIMEOUT" "fabricd call exceeded the execution deadline")

/-- What `drain_metrics` returns: a failed drain is empty metrics, never an
error. -/
def drain_result : Roundtrip → BackendMetrics
  | .response (.metrics metrics) => metrics
  | .response .ack | .response (.init_error _ _) | .response (.reply _)
  | .response (.protocol_error _) | .io _ | .elapsed => {}

/-! ## The daemon's side -/

/-- What the backends make of one request: the joined `spawn_blocking` call (or
the join error of a panicked one), and the metrics collected so far. -/
structure Backend where
  joined : Except String (Except EgressError String)
  metrics : BackendMetrics

/-- The response of the serve loop to one request frame. -/
def serve_response (backend : Backend) : WireRequest → WireResponse
  | .call _ =>
    match backend.joined with
    | .ok result => .reply result
    | .error join_err => .protocol_error ("backend task failed: " ++ join_err)
  | .drain => .metrics backend.metrics
  | .init _ => .protocol_error "Init already received for this session"

/-! ## The session -/

/-- The box: between operations, inside `write_frame` with `sent` bytes of the
frame written, or inside `read_frame` with `buf` taken. -/
inductive BoxPhase
  | idle
  | writing (frame : List UInt8) (sent : ℕ)
  | reading (buf : List UInt8)
  deriving DecidableEq

/-- The serve loop: inside `read_frame`, running the request (`op` is the ghost
origin of its frame), inside `write_frame`, or ended. -/
inductive DaemonPhase
  | reading (buf : List (UInt8 × ℕ))
  | serving (request : WireRequest) (op : Option ℕ)
  | responding (op : Option ℕ) (response : WireResponse) (frame : List UInt8) (sent : ℕ)
  | closed
  deriving DecidableEq

structure Session where
  /-- The operations begun so far; operation `k` is the `k`-th of them. -/
  ops : List Op
  box : BoxPhase
  /-- Request bytes in flight, each with the operation that wrote it. -/
  requests : List (UInt8 × ℕ)
  daemon : DaemonPhase
  /-- Response bytes in flight. -/
  responses : List UInt8
  /-- The daemon's answers, by operation. -/
  answers : List (ℕ × WireResponse)
  /-- What each finished operation's roundtrip came back with. -/
  settled : List (ℕ × Roundtrip)
  deriving DecidableEq

/-- A freshly handshaked session: both streams are empty and the daemon is at
the top of its loop. -/
def Session.opened : Session where
  ops := []
  box := .idle
  requests := []
  daemon := .reading []
  responses := []
  answers := []
  settled := []

/-- The number of the operation begun last. -/
def Session.current (s : Session) : ℕ := s.ops.length - 1

/-- The current roundtrip ends. -/
def Session.settle (s : Session) (outcome : Roundtrip) : Session :=
  { s with box := .idle, settled := s.settled ++ [(s.current, outcome)] }

/-- The operation that wrote every one of these bytes, if there is one. -/
def origin : List (UInt8 × ℕ) → Option ℕ
  | [] => none
  | byte :: rest => if rest.all fun b => b.2 == byte.2 then some byte.2 else none

/-- `serde_json` at the two message types of the session. -/
structure Link where
  request : Codec WireRequest
  response : Codec WireResponse

inductive Event
  | start (op : Op)
  | box_write
  | box_read
  | box_eof
  | box_broken_pipe
  | timeout
  | daemon_read
  | daemon_serve (backend : Backend)
  | daemon_write
  | daemon_close

variable (link : Link)

/-- An operation begins. `write_frame` refuses an oversized request before its
first await. -/
def start (s : Session) (op : Op) : Option Session :=
  match s.box with
  | .idle =>
    match write_frame link.request op.request with
    | .error err => some ({ s with ops := s.ops ++ [op] }.settle (.io err))
    | .ok frame => some { s with ops := s.ops ++ [op], box := .writing frame 0 }
  | .writing _ _ | .reading _ => none

/-- One more byte of the request frame reaches the stream. -/
def box_write (s : Session) : Option Session :=
  match s.box with
  | .writing frame sent =>
    frame[sent]?.map fun b =>
      { s with
        requests := s.requests ++ [(b, s.current)]
        box := if sent + 1 = frame.length then .reading [] else .writing frame (sent + 1) }
  | .idle | .reading _ => none

/-- One more byte of the response stream is taken by the box. -/
def box_read (s : Session) : Option Session :=
  match s.box, s.responses with
  | .reading buf, b :: rest =>
    match read_frame_poll link.response (buf ++ [b]) with
    | none => some { s with responses := rest, box := .reading (buf ++ [b]) }
    | some (.ok response) => some ({ s with responses := rest }.settle (.response response))
    | some (.error err) => some ({ s with responses := rest }.settle (.io err))
  | _, _ => none

/-- The box reads the end of the response stream: `Ok(None)` becomes the
unexpected-close error of `roundtrip`. -/
def box_eof (s : Session) : Option Session :=
  match s.box, s.responses, s.daemon with
  | .reading buf, [], .closed =>
    match (read_frame_eof buf : Except IoError (Option WireResponse)) with
    | .ok _ => some (s.settle (.io ⟨.unexpected_eof, "fabricd closed the connection"⟩))
    | .error err => some (s.settle (.io err))
  | _, _, _ => none

/-- A write to a stream whose reader is gone fails. -/
def box_broken_pipe (s : Session) : Option Session :=
  match s.box, s.daemon with
  | .writing _ _, .closed => some (s.settle (.io ⟨.broken_pipe, "broken pipe"⟩))
  | _, _ => none

/-- `tokio::time::timeout` drops the roundtrip of a call, wherever it stands. -/
def timeout (s : Session) : Option Session :=
  match s.box, s.ops.getLast? with
  | .writing _ _, some (.call _) | .reading _, some (.call _) => some (s.settle .elapsed)
  | _, _ => none

/-- One more byte of the request stream is taken by the daemon; a frame that does
not decode ends `serve` with an error. -/
def daemon_read (s : Session) : Option Session :=
  match s.daemon, s.requests with
  | .reading buf, b :: rest =>
    match read_frame_poll link.request ((buf ++ [b]).map Prod.fst) with
    | none => some { s with requests := rest, daemon := .reading (buf ++ [b]) }
    | some (.ok request) =>
      some { s with requests := rest, daemon := .serving request (origin (buf ++ [b])) }
    | some (.error _) => some { s with requests := rest, daemon := .closed }
  | _, _ => none

/-- The backends finish the request in hand. -/
def daemon_serve (s : Session) (backend : Backend) : Option Session :=
  match s.daemon with
  | .serving request op =>
    match write_frame link.response (serve_response backend request) with
    | .error _ => some { s with daemon := .closed }
    | .ok frame =>
      some { s with daemon := .responding op (serve_response backend request) frame 0 }
  | .reading _ | .responding _ _ _ _ | .closed => none

/-- One more byte of the response frame reaches the stream. -/
def daemon_write (s : Session) : Option Session :=
  match s.daemon with
  | .responding op response frame sent =>
    frame[sent]?.map fun b =>
      if sent + 1 = frame.length then
        { s with
          responses := s.responses ++ [b]
          daemon := .reading []
          answers := s.answers ++ (op.map fun k => (k, response)).toList }
      else
        { s with
          responses := s.responses ++ [b]
          daemon := .responding op response frame (sent + 1) }
  | .reading _ | .serving _ _ | .closed => none

/-- The daemon goes away, at any point. -/
def daemon_close (s : Session) : Option Session := some { s with daemon := .closed }

def step (s : Session) : Event → Option Session
  | .start op => start link s op
  | .box_write => box_write s
  | .box_read => box_read link s
  | .box_eof => box_eof s
  | .box_broken_pipe => box_broken_pipe s
  | .timeout => timeout s
  | .daemon_read => daemon_read link s
  | .daemon_serve backend => daemon_serve link s backend
  | .daemon_write => daemon_write s
  | .daemon_close => daemon_close s

/-! ## What pairing means -/

/-- Replies are paired with their calls in `s`: a call that returned the content
of a `Reply` returned the daemon's answer to that call; and if the daemon
answered a drain, then `drain_metrics` returned that answer's metrics, or it is
still reading and its own reads alone finish it with them. -/
structure Paired (s : Session) : Prop where
  call : ∀ k result, (∃ c, s.ops[k]? = some (.call c)) →
    (k, .response (.reply result)) ∈ s.settled → (k, .reply result) ∈ s.answers
  drain : ∀ k metrics, s.ops[k]? = some .drain → (k, .metrics metrics) ∈ s.answers →
    (∀ outcome, (k, outcome) ∈ s.settled → drain_result outcome = metrics)
    ∧ ((∃ outcome, (k, outcome) ∈ s.settled)
      ∨ ∃ n t, run (step link) s (List.replicate n .box_read) = some t
          ∧ (k, .response (.metrics metrics)) ∈ t.settled)

/-- A timeout fires only before the first byte of its request is on the stream. -/
def CleanTimeout (s : Session) : Event → Prop
  | .timeout => match s.box with
    | .writing _ sent => sent = 0
    | .idle | .reading _ => False
  | _ => True

instance (s : Session) : ∀ e, Decidable (CleanTimeout s e)
  | .timeout => by unfold CleanTimeout; cases s.box <;> infer_instance
  | .start _ | .box_write | .box_read | .box_eof | .box_broken_pipe | .daemon_read
  | .daemon_serve _ | .daemon_write | .daemon_close => isTrue trivial

/-! ## The ledger

What the two ghost records say about each other, independently of where the
bytes are: every settled operation has the daemon's answer exactly when the
daemon answered it. -/

structure Ledger (s : Session) : Prop where
  answers_lt : ∀ k r, (k, r) ∈ s.answers → k < s.ops.length
  settled_lt : ∀ k o, (k, o) ∈ s.settled → k < s.ops.length
  settled_lt_current : ∀ k o, (k, o) ∈ s.settled → s.box ≠ .idle → k < s.current
  matched : ∀ k o r, (k, o) ∈ s.settled → (o = .response r ↔ (k, r) ∈ s.answers)
  busy : s.box ≠ .idle → s.ops ≠ []
  /-- Between operations, every one of them has settled. -/
  all_settled : ∀ k, k < s.ops.length → (s.box = .idle ∨ k < s.current) →
    ∃ o, (k, o) ∈ s.settled

/-- The ledger only looks at four fields, and at the box's phase only for
being idle. -/
theorem Ledger.congr {s t : Session} (h : Ledger s) (hops : t.ops = s.ops)
    (hans : t.answers = s.answers) (hset : t.settled = s.settled)
    (hbox : t.box = .idle ↔ s.box = .idle) : Ledger t := by
  obtain ⟨h1, h2, h3, h4, h5, h6⟩ := h
  have hcur : t.current = s.current := by rw [Session.current, Session.current, hops]
  refine ⟨?_, ?_, ?_, ?_, ?_, ?_⟩
  · rw [hans, hops]; exact h1
  · rw [hset, hops]; exact h2
  · intro k o hko hne
    rw [hset] at hko
    rw [hcur]
    exact h3 k o hko (fun hs => hne (hbox.mpr hs))
  · rw [hans, hset]; exact h4
  · intro hne
    rw [hops]
    exact h5 (fun hs => hne (hbox.mpr hs))
  · intro k hk hor
    rw [hset]
    rw [hops] at hk
    rw [hbox, hcur] at hor
    exact h6 k hk hor

/-- A roundtrip may settle with `outcome` when the daemon's answer to the
current operation, if any, is that outcome. -/
theorem Ledger.settle {s : Session} (h : Ledger s) (hbusy : s.box ≠ .idle) (outcome : Roundtrip)
    (hout : ∀ r, outcome = .response r ↔ (s.current, r) ∈ s.answers) :
    Ledger (s.settle outcome) := by
  obtain ⟨h1, h2, h3, h4, h5, h6⟩ := h
  have hpos : 0 < s.ops.length := List.length_pos_of_ne_nil (h5 hbusy)
  have hcur : s.current < s.ops.length := by rw [Session.current]; omega
  refine ⟨h1, ?_, ?_, ?_, ?_, ?_⟩
  · intro k o hko
    rcases List.mem_append.mp hko with hko | hko
    · exact h2 k o hko
    · simp only [List.mem_singleton, Prod.mk.injEq] at hko
      rw [hko.1]
      exact hcur
  · intro k o _ hne
    exact absurd rfl hne
  · intro k o r hko
    rcases List.mem_append.mp hko with hko | hko
    · exact h4 k o r hko
    · simp only [List.mem_singleton, Prod.mk.injEq] at hko
      rw [hko.1, hko.2]
      exact hout r
  · intro hne
    exact absurd rfl hne
  · intro k hk _
    by_cases hkc : k < s.current
    · obtain ⟨o, ho⟩ := h6 k hk (Or.inr hkc)
      exact ⟨o, List.mem_append_left _ ho⟩
    -- the only operation not settled before is the one settling now
    · have : k = s.current := by
        have hk' : k < s.ops.length := hk
        rw [Session.current] at hkc ⊢
        omega
      exact ⟨outcome, by rw [this]; exact List.mem_append_right _ (List.mem_singleton_self _)⟩

/-- Starting an operation: nothing is settled or answered under its number. -/
theorem Ledger.begin {s : Session} (h : Ledger s) (hidle : s.box = .idle) (op : Op)
    (frame : List UInt8) :
    Ledger { s with ops := s.ops ++ [op], box := .writing frame 0 } := by
  obtain ⟨h1, h2, -, h4, -, h6⟩ := h
  have hlen : (s.ops ++ [op]).length = s.ops.length + 1 := by simp
  refine ⟨?_, ?_, ?_, h4, ?_, ?_⟩
  · intro k r hkr
    have := h1 k r hkr
    simp only [hlen]; omega
  · intro k o hko
    have := h2 k o hko
    simp only [hlen]; omega
  · intro k o hko _
    have := h2 k o hko
    simp only [Session.current, hlen]; omega
  · intro _
    simp
  · intro k hk hor
    simp only [hlen] at hk
    have hkc : k < s.ops.length := by
      rcases hor with hor | hor
      · simp at hor
      · simp only [Session.current, hlen] at hor; omega
    exact h6 k hkc (Or.inl hidle)

/-- The daemon's answer to the current, unsettled operation reaches the
stream. -/
theorem Ledger.answer {s : Session} (h : Ledger s) (hbusy : s.box ≠ .idle)
    (response : WireResponse) {t : Session} (hops : t.ops = s.ops)
    (hans : t.answers = s.answers ++ [(s.current, response)]) (hset : t.settled = s.settled)
    (hbox : t.box = s.box) : Ledger t := by
  obtain ⟨h1, h2, h3, h4, h5, h6⟩ := h
  have hcur : t.current = s.current := by rw [Session.current, Session.current, hops]
  have hpos : 0 < s.ops.length := List.length_pos_of_ne_nil (h5 hbusy)
  refine ⟨?_, ?_, ?_, ?_, ?_, ?_⟩
  · intro k r hkr
    rw [hans] at hkr
    rw [hops]
    rcases List.mem_append.mp hkr with hkr | hkr
    · exact h1 k r hkr
    · simp only [List.mem_singleton, Prod.mk.injEq] at hkr
      rw [hkr.1, Session.current]
      omega
  · rw [hset, hops]; exact h2
  · rw [hset, hbox, hcur]; exact h3
  · intro k o r hko
    rw [hset] at hko
    rw [h4 k o r hko, hans, List.mem_append]
    have hk := h3 k o hko hbusy
    constructor
    · exact Or.inl
    · rintro (hr | hr)
      · exact hr
      · simp only [List.mem_singleton, Prod.mk.injEq] at hr
        omega
  · rw [hbox, hops]; exact h5
  · rw [hset, hbox, hops, hcur]; exact h6

/-! ## Where the bytes are

`InSync` is the other half of the invariant, phase by phase. In every phase the
streams hold bytes of the current operation only; that is what a timeout that
fires later than `CleanTimeout` allows destroys. A daemon that went away leaves
whatever it had written, and never more. -/

/-- The bytes of one frame as operation `k` writes them. -/
def tag (k : ℕ) (bytes : List UInt8) : List (UInt8 × ℕ) := bytes.map fun b => (b, k)

@[simp] theorem tag_length (k : ℕ) (bytes : List UInt8) : (tag k bytes).length = bytes.length := by
  rw [tag, List.length_map]

@[simp] theorem tag_append (k : ℕ) (as bs : List UInt8) : tag k (as ++ bs) = tag k as ++ tag k bs :=
  List.map_append

/-- A prefix of a tagged frame is a tagged prefix of the frame. -/
theorem eq_tag_take {k : ℕ} {bytes : List UInt8} {p q : List (UInt8 × ℕ)}
    (h : p ++ q = tag k bytes) : p = tag k (bytes.take p.length) := by
  rw [tag, List.map_take, ← tag, ← h, List.take_left' rfl]

theorem map_fst_tag (k : ℕ) (bytes : List UInt8) : (tag k bytes).map Prod.fst = bytes := by
  simp [tag, Function.comp_def]

/-- A whole frame of operation `k` originates in `k`. -/
theorem origin_tag {k : ℕ} {bytes : List UInt8} (h : 0 < bytes.length) :
    origin (tag k bytes) = some k := by
  cases bytes with
  | nil => simp at h
  | cons b bs =>
      simp only [tag, List.map_cons, origin]
      rw [if_pos (by simp)]

inductive InSync (s : Session) : Prop
  /-- Between operations nothing is in flight towards the box. -/
  | idle (hbox : s.box = .idle) (hresp : s.responses = [])
      (hd : s.daemon = .closed ∨ s.daemon = .reading [] ∧ s.requests = [])
  /-- Part of the request is on its way. -/
  | writing (op : Op) (frame : List UInt8) (sent : ℕ) (hop : s.ops.getLast? = some op)
      (hw : write_frame link.request op.request = .ok frame)
      (hbox : s.box = .writing frame sent) (hsent : sent < frame.length)
      (hresp : s.responses = []) (hun : ∀ r, (s.current, r) ∉ s.answers)
      (hd : s.daemon = .closed ∨ ∃ buf, s.daemon = .reading buf
        ∧ buf ++ s.requests = tag s.current (frame.take sent))
  /-- The request is written; the daemon has not begun to answer. -/
  | asked (op : Op) (frame : List UInt8) (hop : s.ops.getLast? = some op)
      (hw : write_frame link.request op.request = .ok frame)
      (hbox : s.box = .reading []) (hresp : s.responses = [])
      (hun : ∀ r, (s.current, r) ∉ s.answers)
      (hd : s.daemon = .closed
        ∨ (∃ buf, s.daemon = .reading buf ∧ buf ++ s.requests = tag s.current frame
            ∧ buf.length < frame.length)
        ∨ s.daemon = .serving op.request (some s.current) ∧ s.requests = [])
  /-- The daemon is writing its answer, or went away while it did. -/
  | answering (response : WireResponse) (frame : List UInt8) (sent : ℕ) (buf : List UInt8)
      (hw : write_frame link.response response = .ok frame)
      (hbox : s.box = .reading buf) (hsent : sent < frame.length)
      (hbytes : buf ++ s.responses = frame.take sent)
      (hun : ∀ r, (s.current, r) ∉ s.answers)
      (hd : s.daemon = .closed
        ∨ s.daemon = .responding (some s.current) response frame sent ∧ s.requests = [])
  /-- The answer is on the stream in full; the box is reading it. -/
  | answered (response : WireResponse) (frame : List UInt8) (buf : List UInt8)
      (hw : write_frame link.response response = .ok frame)
      (hbox : s.box = .reading buf) (hlt : buf.length < frame.length)
      (hbytes : buf ++ s.responses = frame)
      (hans : ∀ r, (s.current, r) ∈ s.answers ↔ r = response)
      (hd : s.daemon = .closed ∨ s.daemon = .reading [] ∧ s.requests = [])

/-- The invariant of a session. -/
structure Inv (s : Session) : Prop where
  ledger : Ledger s
  sync : InSync link s

theorem inv_opened : Inv link Session.opened where
  ledger := by
    refine ⟨?_, ?_, ?_, ?_, ?_, ?_⟩ <;> simp [Session.opened]
  sync := .idle rfl rfl (Or.inr ⟨rfl, rfl⟩)

variable {link}

/-- Every phase of `InSync` other than `idle` has a busy box. -/
theorem InSync.idle_of {s : Session} (h : InSync link s) (hbox : s.box = .idle) :
    s.responses = [] ∧ (s.daemon = .closed ∨ s.daemon = .reading [] ∧ s.requests = []) := by
  cases h with
  | idle _ hresp hd => exact ⟨hresp, hd⟩
  | writing _ _ _ _ _ hb => rw [hbox] at hb; cases hb
  | asked _ _ _ _ hb => rw [hbox] at hb; cases hb
  | answering _ _ _ _ _ hb => rw [hbox] at hb; cases hb
  | answered _ _ _ _ hb => rw [hbox] at hb; cases hb

/-- An operation the daemon has not answered may end without a response, once
nothing of it is left on the streams. -/
theorem inv_settle_unanswered {s : Session} (hl : Ledger s) (hbusy : s.box ≠ .idle)
    (hresp : s.responses = []) (hun : ∀ r, (s.current, r) ∉ s.answers)
    (hd : s.daemon = .closed ∨ s.daemon = .reading [] ∧ s.requests = []) {outcome : Roundtrip}
    (hout : ∀ r, outcome ≠ .response r) : Inv link (s.settle outcome) := by
  refine ⟨hl.settle hbusy outcome ?_, .idle rfl hresp hd⟩
  intro r
  exact iff_of_false (hout r) (hun r)

/-! ## One lemma per event -/

/-- An operation begins when the one before it has settled, so the streams are empty. A request
that is over the cap settles at once, with nothing on them. -/
theorem start_inv {s t : Session} {op : Op} (hinv : Inv link s) (h : start link s op = some t) :
    Inv link t := by
  obtain ⟨hl, hs⟩ := hinv
  unfold start at h
  cases hbox : s.box with
  | writing _ _ => simp [hbox] at h
  | reading _ => simp [hbox] at h
  | idle =>
      simp only [hbox] at h
      obtain ⟨hresp, hd⟩ := hs.idle_of hbox
      have hcur : (s.ops ++ [op]).length - 1 = s.ops.length := by simp
      have hun : ∀ r, (s.ops.length, r) ∉ s.answers := by
        intro r hr
        exact absurd (hl.answers_lt _ r hr) (lt_irrefl _)
      cases hw : write_frame link.request op.request with
      | error err =>
          -- refused before the first byte: settled at once, nothing in flight
          simp only [hw, Option.some.injEq] at h
          subst h
          refine ⟨?_, .idle rfl hresp hd⟩
          refine (hl.begin hbox op []).settle (by simp) (.io err) ?_
          intro r
          simp only [Session.current, hcur, hun r, reduceCtorEq]
      | ok frame =>
          simp only [hw, Option.some.injEq] at h
          subst h
          refine ⟨hl.begin hbox op frame, ?_⟩
          refine .writing op frame 0 (by simp) hw rfl (write_frame_pos hw) hresp ?_ ?_
          · simpa only [Session.current, hcur] using hun
          · rcases hd with hd | ⟨hd, hreq⟩
            · exact Or.inl hd
            · exact Or.inr ⟨[], hd, by simp [hreq, tag]⟩

/-- One more byte of the request: the daemon's buffer and the bytes in flight are the beginning of
the frame, one longer. With the last byte the request is asked. -/
theorem box_write_inv {s t : Session} (hinv : Inv link s) (h : box_write s = some t) :
    Inv link t := by
  obtain ⟨hl, hs⟩ := hinv
  unfold box_write at h
  cases hs with
  | idle hbox => simp [hbox] at h
  | asked _ _ _ _ hbox => simp [hbox] at h
  | answering _ _ _ _ _ hbox => simp [hbox] at h
  | answered _ _ _ _ hbox => simp [hbox] at h
  | writing op frame sent hop hw hbox hsent hresp hun hd =>
      simp only [hbox, List.getElem?_eq_getElem hsent, Option.map_some, Option.some.injEq] at h
      subst h
      have hbusy : s.box ≠ .idle := by rw [hbox]; nofun
      -- one more byte of the same frame, with the same tag
      have hgrow : ∀ buf, buf ++ s.requests = tag s.current (frame.take sent) →
          buf ++ (s.requests ++ [(frame[sent], s.current)])
            = tag s.current (frame.take (sent + 1)) := by
        intro buf hb
        rw [← List.append_assoc, hb, List.take_succ_eq_append_getElem hsent, tag_append]
        rfl
      by_cases hlast : sent + 1 = frame.length
      · refine ⟨hl.congr rfl rfl rfl (by simp [hlast, hbox]), ?_⟩
        refine .asked op frame hop hw (by simp [hlast]) hresp hun ?_
        rcases hd with hd | ⟨buf, hd, hb⟩
        · exact Or.inl hd
        · refine Or.inr (Or.inl ⟨buf, hd, ?_, ?_⟩)
          · have := hgrow buf hb
            rwa [hlast, List.take_of_length_le (le_refl _)] at this
          · have := congrArg List.length hb
            simp only [List.length_append, tag_length, List.length_take] at this
            omega
      · refine ⟨hl.congr rfl rfl rfl (by simp [hlast, hbox]), ?_⟩
        refine .writing op frame (sent + 1) hop hw (by simp [hlast]) (by omega) hresp hun ?_
        rcases hd with hd | ⟨buf, hd, hb⟩
        · exact Or.inl hd
        · exact Or.inr ⟨buf, hd, hgrow buf hb⟩

/-- What taking one more byte does while a frame is being read: with
`buf ++ b :: rest` a prefix of the frame, the read goes on unless `b` is the
frame's last byte. -/
theorem poll_prefix {α : Type} {codec : Codec α} {value : α} {frame : List UInt8}
    (hw : write_frame codec value = .ok frame) {n : ℕ} {buf rest : List UInt8} {b : UInt8}
    (hbytes : buf ++ b :: rest = frame.take n) (hlt : buf.length + 1 < frame.length) :
    read_frame_poll codec (buf ++ [b]) = none := by
  have hpre : buf ++ [b] = frame.take (buf.length + 1) := by
    have hlen := congrArg List.length hbytes
    simp only [List.length_append, List.length_cons, List.length_take] at hlen
    have : (frame.take n).take (buf.length + 1) = buf ++ [b] := by
      rw [← hbytes, List.append_cons, List.take_left' (by simp)]
    rw [← this, List.take_take, min_eq_left (by omega)]
  rw [hpre]
  exact read_frame_poll_take hw hlt

/-- Short of its last byte a frame is not decoded: the read goes on. -/
theorem poll_more {α : Type} {codec : Codec α} {value : α} {frame : List UInt8}
    (hw : write_frame codec value = .ok frame) {buf rest : List UInt8} {b : UInt8}
    (hframe : buf ++ b :: rest = frame) (hrest : rest ≠ []) :
    read_frame_poll codec (buf ++ [b]) = none := by
  have hpre : buf ++ b :: rest = frame.take frame.length := by
    rw [hframe, List.take_of_length_le (le_refl _)]
  have hlt : buf.length + 1 < frame.length := by
    have hpos := List.length_pos_of_ne_nil hrest
    rw [← hframe, List.length_append, List.length_cons]
    omega
  exact poll_prefix hw hpre hlt

/-- One more byte of a response. The box waits on each beginning of the frame and decodes the
whole of it, so it settles on the daemon's answer, and nothing is left behind it. -/
theorem box_read_inv {s t : Session} (hrt : link.response.RoundTrips) (hinv : Inv link s)
    (h : box_read link s = some t) : Inv link t := by
  obtain ⟨hl, hs⟩ := hinv
  unfold box_read at h
  cases hs with
  | idle hbox => simp [hbox] at h
  | writing _ _ _ _ _ hbox => simp [hbox] at h
  | asked _ _ _ _ hbox hresp => simp [hbox, hresp] at h
  | answering response frame sent buf hw hbox hsent hbytes hun hd =>
      cases hresp : s.responses with
      | nil => simp [hbox, hresp] at h
      | cons b rest =>
          rw [hresp] at hbytes
          have hlen := congrArg List.length hbytes
          simp only [List.length_append, List.length_cons, List.length_take] at hlen
          simp only [hbox, hresp, poll_prefix hw hbytes (by omega), Option.some.injEq] at h
          subst h
          refine ⟨hl.congr rfl rfl rfl (by simp [hbox]), ?_⟩
          refine .answering response frame sent (buf ++ [b]) hw rfl hsent ?_ hun hd
          simpa using hbytes
  | answered response frame buf hw hbox hlt hbytes hans hd =>
      cases hresp : s.responses with
      | nil =>
          rw [hresp, List.append_nil] at hbytes
          rw [hbytes] at hlt
          exact absurd hlt (lt_irrefl _)
      | cons b rest =>
          rw [hresp] at hbytes
          have hlen := congrArg List.length hbytes
          simp only [List.length_append, List.length_cons] at hlen
          have hbytes' : buf ++ b :: rest = frame.take frame.length := by
            rw [hbytes, List.take_of_length_le (le_refl _)]
          by_cases hlast : buf.length + 1 < frame.length
          · simp only [hbox, hresp, poll_prefix hw hbytes' hlast, Option.some.injEq] at h
            subst h
            refine ⟨hl.congr rfl rfl rfl (by simp [hbox]), ?_⟩
            refine .answered response frame (buf ++ [b]) hw rfl (by simpa using hlast) ?_ hans hd
            simpa using hbytes
          -- the last byte: the frame decodes to the daemon's own answer
          · have hrest : rest = [] := List.length_eq_zero_iff.mp (by omega)
            subst hrest
            simp only [hbox, hresp, hbytes, read_frame_poll_frame hrt hw, Option.some.injEq] at h
            subst h
            refine ⟨?_, .idle rfl rfl hd⟩
            have hl' : Ledger { s with responses := [] } := hl.congr rfl rfl rfl Iff.rfl
            refine hl'.settle (by simp [hbox]) (.response response) ?_
            intro r
            rw [show (Session.current { s with responses := [] }) = s.current from rfl]
            rw [hans r]
            constructor
            · intro hr; injection hr with hr; exact hr.symm
            · intro hr; rw [hr]

/-- The end of the stream is read only behind an unfinished answer: it settles an
operation the daemon has not answered. -/
theorem box_eof_inv {s t : Session} (hinv : Inv link s) (h : box_eof s = some t) :
    Inv link t := by
  obtain ⟨hl, hs⟩ := hinv
  have hpick : ∀ buf, s.box = .reading buf → s.responses = [] → s.daemon = .closed →
      (∀ r, (s.current, r) ∉ s.answers) → Inv link t := by
    intro buf hbox hresp hd hun
    have hbusy : s.box ≠ .idle := by rw [hbox]; nofun
    unfold box_eof at h
    simp only [hbox, hresp, hd, read_frame_eof] at h
    -- a clean end (before the length is in) and a cut-off frame differ in the error only
    by_cases h4 : buf.length < 4
    · simp only [h4, if_true, Option.some.injEq] at h
      exact h ▸ inv_settle_unanswered hl hbusy hresp hun (Or.inl hd) nofun
    · simp only [h4, if_false, Option.some.injEq] at h
      exact h ▸ inv_settle_unanswered hl hbusy hresp hun (Or.inl hd) nofun
  have hclosed : s.daemon = .closed := by
    unfold box_eof at h
    split at h
    · assumption
    · cases h
  have hnil : s.responses = [] := by
    unfold box_eof at h
    split at h
    · assumption
    · cases h
  cases hs with
  | idle hbox => simp [box_eof, hbox] at h
  | writing _ _ _ _ _ hbox => simp [box_eof, hbox] at h
  | asked _ _ _ _ hbox _ hun => exact hpick _ hbox hnil hclosed hun
  | answering _ _ _ _ _ hbox _ _ hun => exact hpick _ hbox hnil hclosed hun
  | answered _ _ _ _ _ hlt hbytes =>
      rw [hnil, List.append_nil] at hbytes
      rw [hbytes] at hlt
      exact absurd hlt (lt_irrefl _)

/-- A write fails once the daemon is gone. The operation settles without a response, and was not
answered. -/
theorem box_broken_pipe_inv {s t : Session} (hinv : Inv link s)
    (h : box_broken_pipe s = some t) : Inv link t := by
  obtain ⟨hl, hs⟩ := hinv
  unfold box_broken_pipe at h
  cases hs with
  | idle hbox => simp [hbox] at h
  | asked _ _ _ _ hbox => simp [hbox] at h
  | answering _ _ _ _ _ hbox => simp [hbox] at h
  | answered _ _ _ _ hbox => simp [hbox] at h
  | writing op frame sent hop hw hbox hsent hresp hun hd =>
      rcases hd with hd | ⟨buf, hd, -⟩
      · simp only [hbox, hd, Option.some.injEq] at h
        subst h
        have hbusy : s.box ≠ .idle := by rw [hbox]; nofun
        exact inv_settle_unanswered hl hbusy hresp hun (Or.inl hd) nofun
      · simp [hbox, hd] at h

/-- A clean timeout finds both streams empty. The box has written no byte of its request, so the
daemon has none to wait for, and the operation settles without an answer. -/
theorem timeout_inv {s t : Session} (hinv : Inv link s) (hclean : CleanTimeout s .timeout)
    (h : timeout s = some t) : Inv link t := by
  obtain ⟨hl, hs⟩ := hinv
  simp only [CleanTimeout] at hclean
  cases hs with
  | idle hbox => rw [hbox] at hclean; exact hclean.elim
  | asked _ _ _ _ hbox => rw [hbox] at hclean; exact hclean.elim
  | answering _ _ _ _ _ hbox => rw [hbox] at hclean; exact hclean.elim
  | answered _ _ _ _ hbox => rw [hbox] at hclean; exact hclean.elim
  | writing op frame sent hop hw hbox hsent hresp hun hd =>
      have hzero : sent = 0 := by simpa only [hbox] using hclean
      subst hzero
      have ht : t = s.settle .elapsed := by
        unfold timeout at h
        cases op with
        | call c => simpa only [hbox, hop, Option.some.injEq, eq_comm] using h
        | drain => simp [hbox, hop] at h
      subst ht
      have hbusy : s.box ≠ .idle := by rw [hbox]; nofun
      refine inv_settle_unanswered hl hbusy hresp hun ?_ nofun
      rcases hd with hd | ⟨buf, hd, hb⟩
      · exact Or.inl hd
      -- no byte of the frame was written, so the daemon has none and waits for none
      · have hb' : buf ++ s.requests = [] := hb
        obtain ⟨rfl, hreq⟩ := List.append_eq_nil_iff.mp hb'
        exact Or.inr ⟨hd, hreq⟩

/-- One more byte of the request. Every byte that the daemon has or has yet to take was written by
the operation under way, so what it decodes is that operation's request. -/
theorem daemon_read_inv {s t : Session} (hrt : link.request.RoundTrips) (hinv : Inv link s)
    (h : daemon_read link s = some t) : Inv link t := by
  obtain ⟨hl, hs⟩ := hinv
  unfold daemon_read at h
  -- a byte to read is there only while a request is on its way
  cases hs with
  | idle hbox hresp hd =>
      rcases hd with hd | ⟨hd, hreq⟩
      · simp [hd] at h
      · simp [hd, hreq] at h
  | answering _ _ _ _ _ _ _ _ _ hd =>
      rcases hd with hd | ⟨hd, -⟩ <;> simp [hd] at h
  | answered _ _ _ _ _ _ _ _ hd =>
      rcases hd with hd | ⟨hd, hreq⟩
      · simp [hd] at h
      · simp [hd, hreq] at h
  | writing op frame sent hop hw hbox hsent hresp hun hd =>
      rcases hd with hd | ⟨buf, hd, hb⟩
      · simp [hd] at h
      · cases hreq : s.requests with
        | nil => simp [hd, hreq] at h
        | cons b rest =>
            rw [hreq, List.append_cons] at hb
            have hlen := congrArg List.length hb
            simp only [List.length_append, List.length_singleton, tag_length,
              List.length_take] at hlen
            -- only part of the frame is on the stream, so the daemon keeps waiting
            have hpoll : read_frame_poll link.request ((buf ++ [b]).map Prod.fst) = none := by
              rw [eq_tag_take hb, map_fst_tag, List.take_take, min_eq_left (by simp; omega)]
              exact read_frame_poll_take hw (by simp; omega)
            simp only [hd, hreq, hpoll, Option.some.injEq] at h
            subst h
            refine ⟨hl.congr rfl rfl rfl Iff.rfl, ?_⟩
            exact .writing op frame sent hop hw hbox hsent hresp hun (Or.inr ⟨_, rfl, hb⟩)
  | asked op frame hop hw hbox hresp hun hd =>
      rcases hd with hd | ⟨buf, hd, hb, hlt⟩ | ⟨hd, -⟩
      · simp [hd] at h
      · cases hreq : s.requests with
        | nil => simp [hd, hreq] at h
        | cons b rest =>
            rw [hreq, List.append_cons] at hb
            have hlen := congrArg List.length hb
            simp only [List.length_append, List.length_singleton, tag_length] at hlen
            by_cases hlast : buf.length + 1 < frame.length
            · have hpoll : read_frame_poll link.request ((buf ++ [b]).map Prod.fst) = none := by
                rw [eq_tag_take hb, map_fst_tag]
                exact read_frame_poll_take hw (by simpa using hlast)
              simp only [hd, hreq, hpoll, Option.some.injEq] at h
              subst h
              refine ⟨hl.congr rfl rfl rfl Iff.rfl, ?_⟩
              refine .asked op frame hop hw hbox hresp hun (Or.inr (Or.inl ⟨_, rfl, hb, ?_⟩))
              simpa using hlast
            -- the request's last byte: the daemon has exactly the box's request
            · have hrest : rest = [] := List.length_eq_zero_iff.mp (by omega)
              subst hrest
              rw [List.append_nil] at hb
              simp only [hd, hreq, hb, map_fst_tag, read_frame_poll_frame hrt hw,
                origin_tag (write_frame_pos hw), Option.some.injEq] at h
              subst h
              refine ⟨hl.congr rfl rfl rfl Iff.rfl, ?_⟩
              exact .asked op frame hop hw hbox hresp hun (Or.inr (Or.inr ⟨rfl, rfl⟩))
      · simp [hd] at h

/-- The daemon has the response to the request in hand, and begins to write it. The response is
the backend's answer to that very request, and nothing of it is on the stream yet. -/
theorem daemon_serve_inv {s t : Session} {backend : Backend} (hinv : Inv link s)
    (h : daemon_serve link s backend = some t) : Inv link t := by
  obtain ⟨hl, hs⟩ := hinv
  unfold daemon_serve at h
  cases hs with
  | idle _ _ hd =>
      rcases hd with hd | ⟨hd, -⟩ <;> simp [hd] at h
  | writing _ _ _ _ _ _ _ _ _ hd =>
      rcases hd with hd | ⟨buf, hd, -⟩ <;> simp [hd] at h
  | answering _ _ _ _ _ _ _ _ _ hd =>
      rcases hd with hd | ⟨hd, -⟩ <;> simp [hd] at h
  | answered _ _ _ _ _ _ _ _ hd =>
      rcases hd with hd | ⟨hd, -⟩ <;> simp [hd] at h
  | asked op frame hop hw hbox hresp hun hd =>
      rcases hd with hd | ⟨buf, hd, -⟩ | ⟨hd, hreq⟩
      · simp [hd] at h
      · simp [hd] at h
      · simp only [hd] at h
        cases hresponse : write_frame link.response (serve_response backend op.request) with
        | error err =>
            -- a response too large to frame ends the serve loop; nothing is written
            simp only [hresponse, Option.some.injEq] at h
            subst h
            refine ⟨hl.congr rfl rfl rfl Iff.rfl, ?_⟩
            exact .asked op frame hop hw hbox hresp hun (Or.inl rfl)
        | ok rframe =>
            simp only [hresponse, Option.some.injEq] at h
            subst h
            refine ⟨hl.congr rfl rfl rfl Iff.rfl, ?_⟩
            refine .answering _ rframe 0 [] hresponse hbox (write_frame_pos hresponse) ?_ hun
              (Or.inr ⟨rfl, hreq⟩)
            simpa using hresp

/-- One more byte of the response. The answer counts as given with the last byte: up to then an
end of the stream leaves the operation unanswered. -/
theorem daemon_write_inv {s t : Session} (hinv : Inv link s) (h : daemon_write s = some t) :
    Inv link t := by
  obtain ⟨hl, hs⟩ := hinv
  unfold daemon_write at h
  cases hs with
  | idle _ _ hd =>
      rcases hd with hd | ⟨hd, -⟩ <;> simp [hd] at h
  | writing _ _ _ _ _ _ _ _ _ hd =>
      rcases hd with hd | ⟨buf, hd, -⟩ <;> simp [hd] at h
  | asked _ _ _ _ _ _ _ hd =>
      rcases hd with hd | ⟨buf, hd, -⟩ | ⟨hd, -⟩ <;> simp [hd] at h
  | answered _ _ _ _ _ _ _ _ hd =>
      rcases hd with hd | ⟨hd, -⟩ <;> simp [hd] at h
  | answering response frame sent buf hw hbox hsent hbytes hun hd =>
      rcases hd with hd | ⟨hd, hreq⟩
      · simp [hd] at h
      · have hbusy : s.box ≠ .idle := by rw [hbox]; nofun
        have hgrow : buf ++ (s.responses ++ [frame[sent]]) = frame.take (sent + 1) := by
          rw [← List.append_assoc, hbytes, List.take_succ_eq_append_getElem hsent]
        simp only [hd, List.getElem?_eq_getElem hsent, Option.map_some, Option.some.injEq] at h
        -- the answer counts from its last byte on
        by_cases hlast : sent + 1 = frame.length
        · simp only [hlast, if_true] at h
          subst h
          refine ⟨hl.answer hbusy response rfl rfl rfl rfl, ?_⟩
          have hlen := congrArg List.length hbytes
          simp only [List.length_append, List.length_take] at hlen
          refine .answered response frame buf hw hbox (by omega) ?_ ?_ (Or.inr ⟨rfl, hreq⟩)
          · rw [hgrow, hlast, List.take_of_length_le (le_refl _)]
          · intro r
            show (s.current, r) ∈ s.answers ++ [(s.current, response)] ↔ r = response
            simp [hun r]
        · simp only [hlast, if_false] at h
          subst h
          refine ⟨hl.congr rfl rfl rfl Iff.rfl, ?_⟩
          exact .answering response frame (sent + 1) buf hw hbox (by omega) hgrow hun
            (Or.inr ⟨rfl, hreq⟩)

/-- The daemon may go away in any phase. What it wrote stays on the stream, so the prefix that the
invariant speaks of is still there, and no more will come behind it. -/
theorem daemon_close_inv {s t : Session} (hinv : Inv link s) (h : daemon_close s = some t) :
    Inv link t := by
  obtain ⟨hl, hs⟩ := hinv
  simp only [daemon_close, Option.some.injEq] at h
  subst h
  refine ⟨hl.congr rfl rfl rfl Iff.rfl, ?_⟩
  cases hs with
  | idle hbox hresp _ => exact .idle hbox hresp (Or.inl rfl)
  | writing op frame sent hop hw hbox hsent hresp hun _ =>
      exact .writing op frame sent hop hw hbox hsent hresp hun (Or.inl rfl)
  | asked op frame hop hw hbox hresp hun _ =>
      exact .asked op frame hop hw hbox hresp hun (Or.inl rfl)
  | answering response frame sent buf hw hbox hsent hbytes hun _ =>
      exact .answering response frame sent buf hw hbox hsent hbytes hun (Or.inl rfl)
  | answered response frame buf hw hbox hlt hbytes hans _ =>
      exact .answered response frame buf hw hbox hlt hbytes hans (Or.inl rfl)

/-- Every step preserves the invariant, timeouts under `CleanTimeout`. One lemma for each event of
the two parties. -/
theorem step_inv (hreq : link.request.RoundTrips) (hresp : link.response.RoundTrips)
    (s : Session) (e : Event) (t : Session) (hinv : Inv link s) (hclean : CleanTimeout s e)
    (h : step link s e = some t) : Inv link t := by
  cases e with
  | start op => exact start_inv hinv h
  | box_write => exact box_write_inv hinv h
  | box_read => exact box_read_inv hresp hinv h
  | box_eof => exact box_eof_inv hinv h
  | box_broken_pipe => exact box_broken_pipe_inv hinv h
  | timeout => exact timeout_inv hinv hclean h
  | daemon_read => exact daemon_read_inv hreq hinv h
  | daemon_serve backend => exact daemon_serve_inv hinv h
  | daemon_write => exact daemon_write_inv hinv h
  | daemon_close => exact daemon_close_inv hinv h

/-! ## Whole frames

What a run of one party's moves does when it moves one frame, from the first byte
to the last. Each induction is on the bytes still to be moved. -/

section Frames

/-- The box writes a frame to its end, byte by byte. By induction on what is left of the frame;
the step that writes the last byte goes on to wait for the response. -/
theorem run_box_writes {frame : List UInt8} (bytes : List UInt8) :
    ∀ (s : Session) (sent : ℕ), s.box = .writing frame sent → frame.drop sent = bytes →
      bytes ≠ [] → run (step link) s (List.replicate bytes.length .box_write)
        = some { s with requests := s.requests ++ tag s.current bytes, box := .reading [] } := by
  induction bytes with
  | nil =>
      intro s sent _ _ hne
      exact absurd rfl hne
  | cons b rest ih =>
      intro s sent hbox hdrop _
      have hlen := congrArg List.length hdrop
      rw [List.length_drop, List.length_cons] at hlen
      have hbyte : frame[sent]? = some b := by rw [← List.head?_drop, hdrop]; rfl
      rw [List.length_cons, List.replicate_succ, run_cons]
      by_cases hnil : rest = []
      -- the last byte
      · subst hnil
        have hlast : sent + 1 = frame.length := by rw [List.length_nil] at hlen; omega
        refine ⟨_, ?_, rfl⟩
        simp only [step, box_write, hbox, hbyte, hlast, Option.map_some, if_true]
        rfl
      · have hmore : sent + 1 ≠ frame.length := by
          have := List.length_pos_of_ne_nil hnil
          omega
        have hrest : frame.drop (sent + 1) = rest := by
          rw [← List.tail_drop, hdrop, List.tail_cons]
        refine ⟨{ s with requests := s.requests ++ [(b, s.current)]
                         box := .writing frame (sent + 1) }, ?_, ?_⟩
        · simp only [step, box_write, hbox, hbyte, hmore, Option.map_some, if_false]
        · rw [ih _ (sent + 1) rfl hrest hnil, List.append_assoc]
          rfl

/-- The daemon takes the bytes that its poll decodes, one after the other, as long as the poll waits
on every shorter beginning of them. -/
theorem run_daemon_polls {request : WireRequest} {frame : List (UInt8 × ℕ)}
    (hwait : ∀ n < frame.length, read_frame_poll link.request ((frame.take n).map Prod.fst) = none)
    (hdone : read_frame_poll link.request (frame.map Prod.fst) = some (.ok request))
    (behind bytes : List (UInt8 × ℕ)) :
    ∀ (s : Session) (buf : List (UInt8 × ℕ)), s.daemon = .reading buf →
      s.requests = bytes ++ behind → buf ++ bytes = frame → bytes ≠ [] →
      run (step link) s (List.replicate bytes.length .daemon_read)
        = some { s with requests := behind, daemon := .serving request (origin frame) } := by
  induction bytes with
  | nil =>
      intro s buf _ _ _ hne
      exact absurd rfl hne
  | cons b rest ih =>
      intro s buf hd hreq hframe _
      have hreq' : s.requests = b :: (rest ++ behind) := hreq
      rw [List.length_cons, List.replicate_succ, run_cons]
      by_cases hnil : rest = []
      -- the last byte: the request is decoded
      · subst hnil
        refine ⟨_, ?_, rfl⟩
        simp only [step, daemon_read, hd, hreq', hframe, hdone]
        rfl
      · have htake : frame.take (buf ++ [b]).length = buf ++ [b] := by
          rw [← hframe, List.append_cons buf b rest, List.take_left' rfl]
        have hlt : (buf ++ [b]).length < frame.length := by
          have hpos := List.length_pos_of_ne_nil hnil
          rw [← hframe, List.append_cons buf b rest]
          simp only [List.length_append]
          omega
        have hmore := hwait _ hlt
        rw [htake] at hmore
        refine ⟨{ s with requests := rest ++ behind, daemon := .reading (buf ++ [b]) }, ?_, ?_⟩
        · simp only [step, daemon_read, hd, hreq', hmore]
        · rw [ih _ (buf ++ [b]) rfl rfl (by simpa using hframe) hnil]

/-- The daemon reads a frame that was written to it, and has its request. The bytes carry the
number of the operation, so that it is known whose request it is. -/
theorem run_daemon_reads (hrt : link.request.RoundTrips) {request : WireRequest}
    {frame : List UInt8} (hw : write_frame link.request request = .ok frame) {k : ℕ}
    {behind : List (UInt8 × ℕ)} {s : Session} (hd : s.daemon = .reading [])
    (hreq : s.requests = tag k frame ++ behind) :
    run (step link) s (List.replicate frame.length .daemon_read)
      = some { s with requests := behind, daemon := .serving request (some k) } := by
  have hpos := write_frame_pos hw
  have hwait : ∀ n < (tag k frame).length,
      read_frame_poll link.request (((tag k frame).take n).map Prod.fst) = none := by
    intro n hn
    rw [List.map_take, map_fst_tag]
    exact read_frame_poll_take hw (tag_length k frame ▸ hn)
  have hdone : read_frame_poll link.request ((tag k frame).map Prod.fst) = some (.ok request) := by
    rw [map_fst_tag]
    exact read_frame_poll_frame hrt hw
  have hne : tag k frame ≠ [] := List.ne_nil_of_length_pos (tag_length k frame ▸ hpos)
  have hpolls := run_daemon_polls hwait hdone behind (tag k frame) s [] hd hreq rfl hne
  rwa [tag_length, origin_tag hpos] at hpolls

/-- The daemon writes a response to its end, and has answered. By induction on what is left of the
frame; with the last byte the answer is entered under the number of its operation. -/
theorem run_daemon_writes {response : WireResponse} {frame : List UInt8} (k : ℕ)
    (bytes : List UInt8) :
    ∀ (s : Session) (sent : ℕ), s.daemon = .responding (some k) response frame sent →
      frame.drop sent = bytes → bytes ≠ [] →
      run (step link) s (List.replicate bytes.length .daemon_write)
        = some { s with
            responses := s.responses ++ bytes
            daemon := .reading []
            answers := s.answers ++ [(k, response)] } := by
  induction bytes with
  | nil =>
      intro s sent _ _ hne
      exact absurd rfl hne
  | cons b rest ih =>
      intro s sent hd hdrop _
      have hlen := congrArg List.length hdrop
      rw [List.length_drop, List.length_cons] at hlen
      have hbyte : frame[sent]? = some b := by rw [← List.head?_drop, hdrop]; rfl
      rw [List.length_cons, List.replicate_succ, run_cons]
      by_cases hnil : rest = []
      -- the last byte: the answer is on the stream
      · subst hnil
        have hlast : sent + 1 = frame.length := by rw [List.length_nil] at hlen; omega
        refine ⟨_, ?_, rfl⟩
        simp only [step, daemon_write, hd, hbyte, hlast, Option.map_some, if_true]
        rfl
      · have hmore : sent + 1 ≠ frame.length := by
          have := List.length_pos_of_ne_nil hnil
          omega
        have hrest : frame.drop (sent + 1) = rest := by
          rw [← List.tail_drop, hdrop, List.tail_cons]
        refine ⟨{ s with responses := s.responses ++ [b]
                         daemon := .responding (some k) response frame (sent + 1) }, ?_, ?_⟩
        · simp only [step, daemon_write, hd, hbyte, hmore, Option.map_some, if_false]
        · rw [ih _ (sent + 1) rfl hrest hnil, List.append_assoc]
          rfl

/-- The box reads a response to its end, and settles on it. By induction on what is left of the
frame; before the last byte the reader finds it incomplete and waits. -/
theorem run_box_reads (hrt : link.response.RoundTrips) {response : WireResponse}
    {frame : List UInt8} (hw : write_frame link.response response = .ok frame)
    (behind : List UInt8) (bytes : List UInt8) :
    ∀ (s : Session) (buf : List UInt8), s.box = .reading buf → s.responses = bytes ++ behind →
      buf ++ bytes = frame → bytes ≠ [] →
      run (step link) s (List.replicate bytes.length .box_read)
        = some ({ s with responses := behind }.settle (.response response)) := by
  induction bytes with
  | nil =>
      intro s buf _ _ _ hne
      exact absurd rfl hne
  | cons b rest ih =>
      intro s buf hbox hresp hframe _
      have hresp' : s.responses = b :: (rest ++ behind) := hresp
      rw [List.length_cons, List.replicate_succ, run_cons]
      by_cases hnil : rest = []
      -- the last byte: the response is decoded
      · subst hnil
        refine ⟨_, ?_, rfl⟩
        simp only [step, box_read, hbox, hresp', hframe, read_frame_poll_frame hrt hw]
        rfl
      · have hmore : read_frame_poll _ (buf ++ [b]) = none := poll_more hw hframe hnil
        refine ⟨{ s with responses := rest ++ behind, box := .reading (buf ++ [b]) }, ?_, ?_⟩
        · simp only [step, box_read, hbox, hresp', hmore]
        · rw [ih _ (buf ++ [b]) rfl rfl (by simpa using hframe) hnil]
          rfl

end Frames

/-! ## From the invariant to pairing -/

/-- The invariant is more than pairing. What a call settled on is the response that the daemon
gave under its number; and a response that was given is settled, or lies on the stream, where the
box has only to read on. -/
theorem Inv.paired (hrt : link.response.RoundTrips) {s : Session} (hinv : Inv link s) :
    Paired link s := by
  obtain ⟨hl, hs⟩ := hinv
  refine ⟨?_, ?_⟩
  · intro k result _ hset
    exact (hl.matched k _ _ hset).mp rfl
  · intro k metrics _ hans
    refine ⟨?_, ?_⟩
    · intro outcome hset
      rw [(hl.matched k outcome _ hset).mpr hans]
      rfl
    · have hk := hl.answers_lt k _ hans
      by_cases hdone : s.box = .idle ∨ k < s.current
      · exact Or.inl (hl.all_settled k hk hdone)
      -- `k` is the operation under way, and it is answered: the box is reading
      · right
        obtain ⟨hbusy, hcur⟩ := not_or.mp hdone
        have hkc : k = s.current := by
          rw [Session.current] at hcur ⊢
          omega
        subst hkc
        cases hs with
        | idle hbox => exact absurd hbox hbusy
        | writing _ _ _ _ _ _ _ _ hun => exact absurd hans (hun _)
        | asked _ _ _ _ _ _ hun => exact absurd hans (hun _)
        | answering _ _ _ _ _ _ _ _ hun => exact absurd hans (hun _)
        | answered response frame buf hw hbox hlt hbytes hmem =>
            have hne : s.responses ≠ [] := by
              intro hnil
              rw [hnil, List.append_nil] at hbytes
              rw [hbytes] at hlt
              exact absurd hlt (lt_irrefl _)
            have hreads := run_box_reads hrt hw [] s.responses s buf hbox (by simp) hbytes hne
            refine ⟨_, _, hreads, ?_⟩
            rw [(hmem _).mp hans]
            exact List.mem_append_right _ (List.mem_singleton_self _)

/-- **What a call returns**, where replies are paired: the daemon's answer to this very call, or else
an error of the transport that the capability may try again. -/
theorem call_returns {s : Session} (hpaired : Paired link s) {k : ℕ} {c : WireCall}
    {outcome : Roundtrip} (hop : s.ops[k]? = some (.call c)) (hset : (k, outcome) ∈ s.settled) :
    (∃ result, (k, .reply result) ∈ s.answers ∧ call_result c.name outcome = result)
      ∨ ∃ code message, call_result c.name outcome = .error (transport_error c.name code message)
        ∧ (transport_error c.name code message).retryable = true := by
  cases outcome with
  | elapsed => exact Or.inr ⟨_, _, rfl, rfl⟩
  | io err => exact Or.inr ⟨_, _, rfl, rfl⟩
  | response response =>
      cases response with
      | reply result => exact Or.inl ⟨result, hpaired.call k result ⟨c, hop⟩ hset, rfl⟩
      | protocol_error msg => exact Or.inr ⟨_, _, rfl, rfl⟩
      | ack => exact Or.inr ⟨_, _, rfl, rfl⟩
      | init_error code message => exact Or.inr ⟨_, _, rfl, rfl⟩
      | metrics metrics => exact Or.inr ⟨_, _, rfl, rfl⟩

/-- **Pairing.** In every state of every run in which no timeout fires once the
first byte of its request is on the stream, each operation has the answer to its
own request. -/
theorem session_pairs_replies (link : Link) (hreq : link.request.RoundTrips)
    (hresp : link.response.RoundTrips) (events : List Event) (s : Session)
    (hclean : Guarded (step link) CleanTimeout Session.opened events)
    (hrun : run (step link) Session.opened events = some s) : Paired link s :=
  (run_inv_of_guarded (step_inv hreq hresp) (inv_opened link) hclean hrun).paired hresp

/-! ## A late reply

`serde_json`'s text for the handful of messages below; every other message is
outside these two runs. -/

/-- The call a slow backend answers late. -/
def slow_call : WireCall := ⟨"db", "query", "[]"⟩

/-- The call made after the first one timed out. -/
def next_call : WireCall := ⟨"redis", "get", "[]"⟩

/-- The metrics the daemon drains. -/
def drained : BackendMetrics := { db := [⟨"query", 9, 1, 0, false⟩] }

/-- A codec that knows the messages of a table. -/
def table_codec {α : Type} [DecidableEq α] (table : List (α × String)) : Codec α where
  to_vec value :=
    match table.find? fun m => m.1 = value with
    | some m => .ok (Text.utf8 m.2)
    | none => .error "unknown message"
  from_slice bytes :=
    match table.find? fun m => Text.utf8 m.2 = bytes with
    | some m => .ok m.1
    | none => .error "unknown text"

/-- Such a codec round-trips when every text finds its own message. -/
theorem table_codec_round_trips {α : Type} [DecidableEq α] (table : List (α × String))
    (h : ∀ m ∈ table, table.find? (fun m' => Text.utf8 m'.2 = Text.utf8 m.2) = some m) :
    (table_codec table).RoundTrips := by
  intro value bytes hv
  simp only [table_codec] at hv ⊢
  cases hfind : table.find? fun m => m.1 = value with
  | none => simp [hfind] at hv
  | some m =>
      have hm : m.1 = value := by simpa using List.find?_some hfind
      simp only [hfind, Except.ok.injEq] at hv
      rw [← hv, h m (List.mem_of_find?_eq_some hfind)]
      simp only [hm]

/-- The text `serde_json` writes for each message of the two runs below. -/
def messages : Link where
  request := table_codec
    [(.call slow_call,
        "\x7b\"Call\":\x7b\"name\":\"db\",\"action\":\"query\",\"payload\":\"[]\"\x7d\x7d"),
      (.call next_call,
        "\x7b\"Call\":\x7b\"name\":\"redis\",\"action\":\"get\",\"payload\":\"[]\"\x7d\x7d"),
      (.drain, "\"Drain\"")]
  response := table_codec
    [(.reply (.ok "1"), "\x7b\"Reply\":\x7b\"Ok\":\"1\"\x7d\x7d"),
      (.reply (.ok "null"), "\x7b\"Reply\":\x7b\"Ok\":\"null\"\x7d\x7d"),
      (.metrics drained,
        "\x7b\"Metrics\":\x7b\"db\":[\x7b\"action\":\"query\",\"duration_us\":9,"
        ++ "\"rows_returned\":1,\"rows_affected\":0,\"truncated\":false\x7d],"
        ++ "\"mongo\":[],\"mail\":[],\"redis\":[],\"amq\":[],\"auth\":[]\x7d\x7d")]

theorem messages_request_round_trips : messages.request.RoundTrips :=
  table_codec_round_trips _ (by decide +kernel)

theorem messages_response_round_trips : messages.response.RoundTrips :=
  table_codec_round_trips _ (by decide +kernel)

/-- The daemon takes one request of `n` bytes, and puts its answer of `m` bytes
on the stream. -/
def serve_one (n m : ℕ) (backend : Backend) : List Event :=
  List.replicate n Event.daemon_read
    ++ Event.daemon_serve backend :: List.replicate m Event.daemon_write

/-- The box sends a request of `n` bytes. -/
def send_one (op : Op) (n : ℕ) : List Event := .start op :: List.replicate n .box_write

section Moves

variable {s : Session} {n m : ℕ}

/-- An operation that begins and sends its request: one event to begin, and one for each byte of
the frame. -/
theorem run_send_one (hbox : s.box = .idle) {op : Op} {frame : List UInt8}
    (hw : write_frame link.request op.request = .ok frame) (hn : frame.length = n) :
    run (step link) s (send_one op n)
      = some { s with
          ops := s.ops ++ [op]
          box := .reading []
          requests := s.requests ++ tag s.ops.length frame } := by
  subst hn
  rw [send_one, run_cons]
  refine ⟨{ s with ops := s.ops ++ [op], box := .writing frame 0 }, ?_, ?_⟩
  · simp only [step, start, hbox, hw]
  · have hcur : Session.current { s with ops := s.ops ++ [op], box := .writing frame 0 }
        = s.ops.length := by simp [Session.current]
    rw [run_box_writes frame _ 0 rfl rfl (List.ne_nil_of_length_pos (write_frame_pos hw)), hcur]

/-- The daemon's part in one operation: it reads the request, serves it, and answers. Three runs
one behind the other, each with as many events as its frame has bytes. -/
theorem run_serve_one (hreq : link.request.RoundTrips) {request : WireRequest}
    {frame answer : List UInt8} {backend : Backend} {k : ℕ} {behind : List (UInt8 × ℕ)}
    (hd : s.daemon = .reading []) (hbytes : s.requests = tag k frame ++ behind)
    (hw : write_frame link.request request = .ok frame)
    (ha : write_frame link.response (serve_response backend request) = .ok answer)
    (hn : frame.length = n) (hm : answer.length = m) :
    run (step link) s (serve_one n m backend)
      = some { s with
          requests := behind
          daemon := .reading []
          responses := s.responses ++ answer
          answers := s.answers ++ [(k, serve_response backend request)] } := by
  subst hn hm
  refine run_trans (run_daemon_reads hreq hw hd hbytes) ?_
  rw [run_cons]
  refine ⟨{ s with requests := behind
                   daemon := .responding (some k) (serve_response backend request) answer 0 },
    ?_, ?_⟩
  · simp only [step, daemon_serve, ha]
  · exact run_daemon_writes k answer _ 0 rfl rfl (List.ne_nil_of_length_pos (write_frame_pos ha))

/-- The box's part behind it: it reads the response, and the operation settles. What lies behind
the response on the stream stays there. -/
theorem run_read_one (hresp : link.response.RoundTrips) {response : WireResponse}
    {frame behind : List UInt8} (hbox : s.box = .reading [])
    (hbytes : s.responses = frame ++ behind)
    (hw : write_frame link.response response = .ok frame) (hn : frame.length = n) :
    run (step link) s (List.replicate n .box_read)
      = some ({ s with responses := behind }.settle (.response response)) := by
  subst hn
  exact run_box_reads hresp hw behind frame s [] hbox hbytes rfl
    (List.ne_nil_of_length_pos (write_frame_pos hw))

end Moves

theorem slow_call_frame :
    ∃ frame, write_frame messages.request (.call slow_call) = .ok frame ∧ frame.length = 58 :=
  Result.ok_of_map (by decide +kernel)

theorem next_call_frame :
    ∃ frame, write_frame messages.request (.call next_call) = .ok frame ∧ frame.length = 59 :=
  Result.ok_of_map (by decide +kernel)

theorem drain_frame :
    ∃ frame, write_frame messages.request .drain = .ok frame ∧ frame.length = 11 :=
  Result.ok_of_map (by decide +kernel)

theorem late_reply_frame :
    ∃ frame, write_frame messages.response (.reply (.ok "1")) = .ok frame ∧ frame.length = 24 :=
  Result.ok_of_map (by decide +kernel)

theorem null_reply_frame :
    ∃ frame, write_frame messages.response (.reply (.ok "null")) = .ok frame ∧ frame.length = 27 :=
  Result.ok_of_map (by decide +kernel)

theorem metrics_frame :
    ∃ frame, write_frame messages.response (.metrics drained) = .ok frame ∧ frame.length = 164 :=
  Result.ok_of_map (by decide +kernel)

theorem cleanTimeout_of_ne {e : Event} (h : e ≠ .timeout) (s : Session) : CleanTimeout s e := by
  cases e with
  | timeout => exact absurd rfl h
  | _ => trivial

/-- A call times out before it sends anything; the next one and the drain run
through. -/
def clean_events : List Event :=
  [Event.start (Op.call slow_call), Event.timeout]
    ++ send_one (Op.call slow_call) 58 ++ serve_one 58 24 ⟨.ok (.ok "1"), {}⟩
    ++ List.replicate 24 Event.box_read
    ++ send_one Op.drain 11 ++ serve_one 11 164 ⟨.ok (.ok ""), drained⟩
    ++ List.replicate 164 Event.box_read

/-- The run `clean_events` meets the condition, and its drain returns the
daemon's metrics. -/
theorem session_pairs_replies_clean :
    ∃ s, run (step messages) Session.opened clean_events = some s ∧ Paired messages s
      ∧ s.settled = [(0, .elapsed), (1, .response (.reply (.ok "1"))),
          (2, .response (.metrics drained))] := by
  have hreq := messages_request_round_trips
  have hresp := messages_response_round_trips
  obtain ⟨slow, hslow, hslow_len⟩ := slow_call_frame
  obtain ⟨drain, hdrain, hdrain_len⟩ := drain_frame
  obtain ⟨one, hone, hone_len⟩ := late_reply_frame
  obtain ⟨metrics, hmetrics, hmetrics_len⟩ := metrics_frame
  have hstart : step messages Session.opened (.start (.call slow_call))
      = some { Session.opened with ops := [.call slow_call], box := .writing slow 0 } := by
    simp only [step, start, Session.opened, Op.request, hslow, List.nil_append]
  have htimeout : run (step messages) Session.opened [.start (.call slow_call), .timeout]
      = some { Session.opened with ops := [.call slow_call], settled := [(0, .elapsed)] } :=
    run_cons.mpr ⟨_, hstart, rfl⟩
  have hrun : run (step messages) Session.opened clean_events = some _ :=
    run_trans (run_trans (run_trans (run_trans (run_trans (run_trans htimeout
      (run_send_one rfl hslow hslow_len))
      (run_serve_one hreq rfl (List.append_nil _).symm hslow hone hslow_len hone_len))
      (run_read_one hresp rfl (List.append_nil _).symm hone hone_len))
      (run_send_one rfl hdrain hdrain_len))
      (run_serve_one hreq rfl (List.append_nil _).symm hdrain hmetrics hdrain_len hmetrics_len))
      (run_read_one hresp rfl (List.append_nil _).symm hmetrics hmetrics_len)
  have hclean : Guarded (step messages) CleanTimeout Session.opened clean_events := by
    simp only [clean_events, List.append_assoc, List.cons_append, List.nil_append]
    refine ⟨trivial, fun t ht => ⟨?_, fun u _ => guarded_of_forall ?_ u⟩⟩
    · rw [hstart, Option.some.injEq] at ht
      subst ht
      rfl
    · intro e he
      refine cleanTimeout_of_ne ?_
      rintro rfl
      simp only [send_one, serve_one, List.mem_append, List.mem_cons, List.mem_replicate,
        reduceCtorEq, and_false, or_false] at he
  exact ⟨_, hrun, session_pairs_replies messages hreq hresp clean_events _ hclean hrun, rfl⟩

/-- The first call times out while it waits for its reply; the reply comes late;
a second call and the drain follow. -/
def late_events : List Event :=
  send_one (Op.call slow_call) 58 ++ [Event.timeout] ++ serve_one 58 24 ⟨.ok (.ok "1"), {}⟩
    ++ send_one (Op.call next_call) 59 ++ List.replicate 24 Event.box_read
    ++ serve_one 59 27 ⟨.ok (.ok "null"), {}⟩
    ++ send_one Op.drain 11 ++ List.replicate 27 Event.box_read
    ++ serve_one 11 164 ⟨.ok (.ok ""), drained⟩

/-- **A late reply is taken by the next operation.** The second call returns the
first call's reply, and the drain, finding the second call's reply in front of
the metrics, returns none although the daemon sent them. -/
theorem late_reply_is_taken :
    ∃ s, run (step messages) Session.opened late_events = some s ∧ ¬ Paired messages s
      ∧ s.answers = [(0, .reply (.ok "1")), (1, .reply (.ok "null")), (2, .metrics drained)]
      ∧ s.settled = [(0, .elapsed), (1, .response (.reply (.ok "1"))),
          (2, .response (.reply (.ok "null")))] := by
  have hreq := messages_request_round_trips
  have hresp := messages_response_round_trips
  obtain ⟨slow, hslow, hslow_len⟩ := slow_call_frame
  obtain ⟨next, hnext, hnext_len⟩ := next_call_frame
  obtain ⟨drain, hdrain, hdrain_len⟩ := drain_frame
  obtain ⟨one, hone, hone_len⟩ := late_reply_frame
  obtain ⟨null, hnull, hnull_len⟩ := null_reply_frame
  obtain ⟨metrics, hmetrics, hmetrics_len⟩ := metrics_frame
  have hrun : run (step messages) Session.opened late_events = some _ :=
    run_trans (run_trans (run_trans (run_trans (run_trans (run_trans (run_trans (run_trans
      (run_send_one rfl hslow hslow_len)
      (run_cons.mpr ⟨_, rfl, rfl⟩))
      (run_serve_one hreq rfl (List.append_nil _).symm hslow hone hslow_len hone_len))
      (run_send_one rfl hnext hnext_len))
      -- the second call reads the first call's reply
      (run_read_one hresp rfl (List.append_nil _).symm hone hone_len))
      (run_serve_one hreq rfl (List.append_nil _).symm hnext hnull hnext_len hnull_len))
      (run_send_one rfl hdrain hdrain_len))
      (run_read_one hresp rfl (List.append_nil _).symm hnull hnull_len))
      (run_serve_one hreq rfl (List.append_nil _).symm hdrain hmetrics hdrain_len hmetrics_len)
  obtain ⟨s, hs, hops, hans, hset⟩ : ∃ s, run (step messages) Session.opened late_events = some s
      ∧ s.ops = [.call slow_call, .call next_call, .drain]
      ∧ s.answers = [(0, .reply (.ok "1")), (1, .reply (.ok "null")), (2, .metrics drained)]
      ∧ s.settled = [(0, .elapsed), (1, .response (.reply (.ok "1"))),
          (2, .response (.reply (.ok "null")))] := ⟨_, hrun, rfl, rfl, rfl⟩
  refine ⟨s, hs, ?_, hans, hset⟩
  intro hpaired
  have hcall := hpaired.call 1 (.ok "1") ⟨next_call, by rw [hops]; rfl⟩ (by rw [hset]; simp)
  rw [hans] at hcall
  revert hcall
  decide

end Runlet.Sidecar
