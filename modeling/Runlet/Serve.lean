/-
One session of the daemon: `serve` and `dispatch` (`crates/fabricd/src/main.rs`).

The client sends what it likes: the stream of a session is any `Framing.Stream`, with
frames in any order, frames that do not decode, and an end at any byte. The writer may
fail at any frame. The authenticator, the operator table and the backends are
parameters; what they are asked, and what goes out, is the trace of the session.

`Trace` is the shape every session has; what the protocol owes the operator
(`SessionSafe`) is read off it. What it owes the client (`SessionAnswers`) needs a
writer that works.
-/
import Runlet.Backends
import Runlet.Framing
import Runlet.Sidecar

set_option autoImplicit false

namespace Runlet.Serve

open Effects Runlet.Wire Runlet.Resources Runlet.Backends Runlet.Framing

/-- `AuthReject` (`auth.rs`). -/
structure AuthReject where
  code : String
  message : String
  deriving DecidableEq, Repr

/-- Everything a session meets. What may change with time is given for the number of
the frame that is answered. -/
structure Session where
  request : Codec WireRequest
  response : Codec WireResponse
  authenticate : Option String → Except AuthReject Unit
  table : Table
  max_statement_timeout_ms : UInt64
  drivers : ℕ → Drivers
  /-- The `JoinError` of a backend task that panics. -/
  join_error : ℕ → Option String
  metrics : ℕ → BackendMetrics
  /-- Whether a frame reaches the client. -/
  write_all : ℕ → Except IoError Unit

inductive SessionEffect
  | read (request : WireRequest)
  | authenticate (token : Option String)
  /-- `record_auth_failure`. -/
  | auth_failure
  /-- `resolve` on the operator table. -/
  | consult (init : WireInit)
  /-- `BackendSet::from_configs`. -/
  | build (set : BackendSet)
  | call (set : BackendSet) (call : WireCall)
  | reach (backend : ResourceBinding)
  | write (response : WireResponse)
  deriving DecidableEq

section Serve

variable (x : Session)

/-- `write_frame(&mut writer, &response).await?`. -/
def send (i : ℕ) (response : WireResponse) : Eff SessionEffect IoError Unit := do
  let _ ← lift (write_frame x.response response)
  lift (x.write_all i)
  perform (.write response)

/-- `BackendSet::call`, with the backends it reaches. -/
def call_backend (set : BackendSet) (i : ℕ) (call : WireCall) :
    Eff SessionEffect IoError (Except EgressError String) :=
  let outcome := Backends.call (x.drivers i) set call.name call.action call.payload
  ⟨outcome.effects.map .reach, .ok outcome.result⟩

def dispatch (set : BackendSet) (i : ℕ) (call : WireCall) :
    Eff SessionEffect IoError WireResponse := do
  perform (.call set call)
  let result ← call_backend x set i call
  match x.join_error i with
  | none => pure (.reply result)
  | some join_err => pure (.protocol_error s!"backend task failed: {join_err}")

/-- The response to a frame after the first. -/
def respond (set : BackendSet) (i : ℕ) : WireRequest → Eff SessionEffect IoError WireResponse
  | .call call => dispatch x set i call
  | .drain => pure (.metrics (x.metrics i))
  | .init _ => pure (.protocol_error "Init already received for this session")

/-- The loop of `serve`. -/
def serve_loop (set : BackendSet) (i : ℕ) (s : Stream) : Eff SessionEffect IoError Unit :=
  match h : (read_frame x.request s).result with
  | .error err => leave err
  | .ok none => pure ()
  | .ok (some (request, rest)) => do
    have := (read_frame_some h).shorter
    perform (.read request)
    let response ← respond x set i request
    send x i response
    serve_loop set (i + 1) rest
termination_by s.bytes.length

/-- `serve` once the first frame is an `Init`. -/
def open_session (init : WireInit) (rest : Stream) : Eff SessionEffect IoError Unit := do
  perform (.authenticate init.token)
  match x.authenticate init.token with
  | .error reject => do
    perform .auth_failure
    send x 0 (.init_error reject.code reject.message)
  | .ok () => do
    perform (.consult init)
    match open_backends x.table x.max_statement_timeout_ms init with
    | .error err => send x 0 (.init_error err.code err.message)
    | .ok set => do
      perform (.build set)
      send x 0 .ack
      serve_loop x set 1 rest

def serve (s : Stream) : Eff SessionEffect IoError Unit :=
  match (read_frame x.request s).result with
  | .error err => leave err
  | .ok none => pure ()
  | .ok (some (.init init, rest)) => do
    perform (.read (.init init))
    open_session x init rest
  | .ok (some (request, _)) => do
    perform (.read request)
    send x 0 (.protocol_error "expected Init as the first frame")

end Serve

/-! ## The shape of a session -/

/-- The backends a dispatched call reached, each through its slot. -/
def Reaches (set : BackendSet) (call : WireCall) (reached : List ResourceBinding) : Prop :=
  ∀ backend ∈ reached, ∃ k, call.name = k.as_str ∧ set.slot k = some backend

/-- What is done for a frame after the first, before its answer is written. -/
inductive Work (set : BackendSet) : WireRequest → List SessionEffect → Prop
  | call {call : WireCall} {reached : List ResourceBinding} : Reaches set call reached →
      Work set (.call call) (.call set call :: reached.map .reach)
  | drain : Work set .drain []
  | init {init : WireInit} : Work set (.init init) []

/-- The response frame `i` is answered with, `i ≠ 0`: the reply to a call is the outcome of
that call. -/
inductive Answers (x : Session) (set : BackendSet) (i : ℕ) : WireRequest → WireResponse → Prop
  | reply {call : WireCall} : x.join_error i = none →
      Answers x set i (.call call)
        (.reply (Backends.call (x.drivers i) set call.name call.action call.payload).result)
  | task_failed {call : WireCall} {join_err : String} : x.join_error i = some join_err →
      Answers x set i (.call call) (.protocol_error s!"backend task failed: {join_err}")
  | metrics : Answers x set i .drain (.metrics (x.metrics i))
  | late_init {init : WireInit} :
      Answers x set i (.init init) (.protocol_error "Init already received for this session")

/-- The frames from number `i` on, in turn. The last one may stay without an answer. -/
inductive Turns (x : Session) (set : BackendSet) : ℕ → List SessionEffect → Prop
  | done {i : ℕ} : Turns x set i []
  | unanswered {i : ℕ} {request : WireRequest} {work : List SessionEffect} :
      Work set request work → Turns x set i (.read request :: work)
  | answered {i : ℕ} {request : WireRequest} {work rest : List SessionEffect}
      {response : WireResponse} : Work set request work → Answers x set i request response →
      Turns x set (i + 1) rest →
      Turns x set i (.read request :: (work ++ .write response :: rest))

/-- The end of a session that wrote its last frame, or failed to. -/
def Last (response : WireResponse) (tail : List SessionEffect) : Prop :=
  tail = [] ∨ tail = [.write response]

/-- The trace of a session. -/
inductive Trace (x : Session) : List SessionEffect → Prop
  | silent : Trace x []
  | no_init {request : WireRequest} {tail : List SessionEffect} : (∀ init, request ≠ .init init) →
      Last (.protocol_error "expected Init as the first frame") tail →
      Trace x (.read request :: tail)
  | rejected {init : WireInit} {reject : AuthReject} {tail : List SessionEffect} :
      x.authenticate init.token = .error reject →
      Last (.init_error reject.code reject.message) tail →
      Trace x (.read (.init init) :: .authenticate init.token :: .auth_failure :: tail)
  | unresolved {init : WireInit} {err : ResolveError} {tail : List SessionEffect} :
      x.authenticate init.token = .ok () →
      open_backends x.table x.max_statement_timeout_ms init = .error err →
      Last (.init_error err.code err.message) tail →
      Trace x (.read (.init init) :: .authenticate init.token :: .consult init :: tail)
  | unacknowledged {init : WireInit} {set : BackendSet} : x.authenticate init.token = .ok () →
      open_backends x.table x.max_statement_timeout_ms init = .ok set →
      Trace x [.read (.init init), .authenticate init.token, .consult init, .build set]
  | opened {init : WireInit} {set : BackendSet} {turns : List SessionEffect} :
      x.authenticate init.token = .ok () →
      open_backends x.table x.max_statement_timeout_ms init = .ok set → Turns x set 1 turns →
      Trace x (.read (.init init) :: .authenticate init.token :: .consult init :: .build set
        :: .write .ack :: turns)

section Shape

variable {x : Session}

/-- A frame goes out, or the session fails before it. -/
theorem send_cases (x : Session) (i : ℕ) (response : WireResponse) :
    (∃ err, send x i response = ⟨[], .error err⟩)
      ∨ send x i response = ⟨[.write response], .ok ()⟩ := by
  rw [send]
  cases hframe : write_frame x.response response with
  | error err => exact Or.inl ⟨err, rfl⟩
  | ok frame =>
      cases hwrite : x.write_all i with
      | error err => exact Or.inl ⟨err, rfl⟩
      | ok u => exact Or.inr rfl

/-- The last frame of a session goes out, or does not. -/
theorem send_last (x : Session) (i : ℕ) (response : WireResponse) :
    Last response (send x i response).effects := by
  rcases send_cases x i response with ⟨err, hsend⟩ | hsend
  · rw [hsend]
    exact Or.inl rfl
  · rw [hsend]
    exact Or.inr rfl

/-- One effect in front of the rest. -/
theorem perform_bind_effects {α : Type} (e : SessionEffect)
    (f : Unit → Eff SessionEffect IoError α) :
    (perform e >>= f).effects = e :: (f ()).effects := by
  rw [effects_bind rfl]
  rfl

/-- Every frame after the first gets a response of its kind, with its own work. A call has its
backend's effects for work; a drain and a second `Init` have none, and the latter is refused. -/
theorem respond_spec (x : Session) (set : BackendSet) (i : ℕ) (request : WireRequest) :
    ∃ work response, respond x set i request = ⟨work, .ok response⟩ ∧ Work set request work
      ∧ Answers x set i request response := by
  cases request with
  | init init => exact ⟨[], _, rfl, .init, .late_init⟩
  | drain => exact ⟨[], _, rfl, .drain, .metrics⟩
  | call call =>
      -- the backend is reached before it is known whether its task panics
      have hreaches : Reaches set call
          (Backends.call (x.drivers i) set call.name call.action call.payload).effects :=
        fun backend hmem => mem_call hmem
      have hdispatch : respond x set i (.call call) = ⟨.call set call
          :: (Backends.call (x.drivers i) set call.name call.action call.payload).effects.map .reach
            ++ [], .ok (match x.join_error i with
              | none =>
                .reply (Backends.call (x.drivers i) set call.name call.action call.payload).result
              | some join_err => .protocol_error s!"backend task failed: {join_err}")⟩ := by
        cases hjoin : x.join_error i with
        | none => simp only [respond, dispatch, hjoin]; rfl
        | some join_err => simp only [respond, dispatch, hjoin]; rfl
      rw [List.append_nil] at hdispatch
      refine ⟨_, _, hdispatch, .call hreaches, ?_⟩
      cases hjoin : x.join_error i with
      | none => exact .reply hjoin
      | some join_err => exact .task_failed hjoin

/-- One turn of the loop, where there is a frame to read. -/
theorem serve_loop_some {set : BackendSet} {i : ℕ} {s rest : Stream} {request : WireRequest}
    (h : (read_frame x.request s).result = .ok (some (request, rest))) :
    serve_loop x set i s = (do
      perform (.read request)
      let response ← respond x set i request
      send x i response
      serve_loop x set (i + 1) rest) := by
  rw [serve_loop]
  split
  · rename_i heq
    rw [h] at heq
    cases heq
  · rename_i heq
    rw [h] at heq
    cases heq
  · rename_i heq
    rw [h, Except.ok.injEq, Option.some.injEq, Prod.mk.injEq] at heq
    obtain ⟨rfl, rfl⟩ := heq
    rfl

/-- The loop does nothing more at the end of the stream, or at a frame that is not read. -/
theorem serve_loop_stop {set : BackendSet} {i : ℕ} {s : Stream}
    (h : ∀ next, (read_frame x.request s).result ≠ .ok (some next)) :
    (serve_loop x set i s).effects = [] := by
  rw [serve_loop]
  split
  · rfl
  · rfl
  · rename_i request rest heq
    exact absurd heq (h (request, rest))

/-- One turn of the loop, and the turns after it. -/
theorem serve_loop_turns (x : Session) (set : BackendSet) (i : ℕ) (s : Stream) :
    Turns x set i (serve_loop x set i s).effects := by
  by_cases hsome : ∃ next, (read_frame x.request s).result = .ok (some next)
  · obtain ⟨⟨request, rest⟩, hread⟩ := hsome
    have hshorter := (read_frame_some hread).shorter
    have hrest := serve_loop_turns x set (i + 1) rest
    obtain ⟨work, response, hrespond, hwork, hanswers⟩ := respond_spec x set i request
    rw [serve_loop_some hread, perform_bind_effects, hrespond, effects_bind rfl]
    rcases send_cases x i response with ⟨err, hsend⟩ | hsend
    -- the writer fails: the frame stays without an answer
    · rw [hsend, bind_error rfl, List.append_nil]
      exact .unanswered hwork
    · rw [hsend, effects_bind rfl]
      exact .answered hwork hanswers hrest
  · push Not at hsome
    rw [serve_loop_stop hsome]
    exact .done
termination_by s.bytes.length

/-- The loop and the daemon of `Sidecar` answer a request alike: that daemon has any backend behind
it, and this one is among them. -/
theorem respond_serve_response {set : BackendSet} {i : ℕ} {request : WireRequest}
    {response : WireResponse} (h : (respond x set i request).result = .ok response) :
    ∃ backend, response = Sidecar.serve_response backend request := by
  obtain ⟨work, response', hrespond, -, hanswers⟩ := respond_spec x set i request
  rw [hrespond] at h
  cases h
  cases hanswers with
  | @reply call hjoin => exact ⟨⟨.ok _, x.metrics i⟩, rfl⟩
  | @task_failed call join_err hjoin => exact ⟨⟨.error join_err, x.metrics i⟩, rfl⟩
  | metrics => exact ⟨⟨.error "", x.metrics i⟩, rfl⟩
  | late_init => exact ⟨⟨.error "", x.metrics i⟩, rfl⟩

/-- **A turn of the loop is a turn of the daemon of `Sidecar`.** On the bytes of the stream that
daemon takes the frame which `read_frame` takes, leaves the bytes behind it, and has the response of
this loop to write. -/
theorem sidecar_turn {set : BackendSet} {i : ℕ} {s rest : Stream} {request : WireRequest}
    {response : WireResponse} {frame : List UInt8}
    (hread : (read_frame x.request s).result = .ok (some (request, rest)))
    (hrespond : (respond x set i request).result = .ok response)
    (hframe : write_frame x.response response = .ok frame) {session : Sidecar.Session}
    (hdaemon : session.daemon = .reading []) (hbytes : session.requests.map Prod.fst = s.bytes) :
    ∃ backend taken behind, session.requests = taken ++ behind ∧ behind.map Prod.fst = rest.bytes
      ∧ Machine.run (Sidecar.step ⟨x.request, x.response⟩) session
          (List.replicate taken.length .daemon_read ++ [.daemon_serve backend])
        = some { session with
            requests := behind
            daemon := .responding (Sidecar.origin taken) response frame 0 } := by
  obtain ⟨backend, rfl⟩ := respond_serve_response hrespond
  have htaken := read_frame_some hread
  have hwhole := htaken.whole
  have hlen : session.requests.length = s.bytes.length := by
    rw [← hbytes, List.length_map]
  have hlength : (session.requests.take (4 + announced s.bytes)).length = 4 + announced s.bytes := by
    rw [List.length_take]
    omega
  have hfirst : ∀ n ≤ 4 + announced s.bytes,
      ((session.requests.take (4 + announced s.bytes)).take n).map Prod.fst = s.bytes.take n := by
    intro n hn
    rw [List.take_take, min_eq_left hn, List.map_take, hbytes]
  refine ⟨backend, session.requests.take (4 + announced s.bytes),
    session.requests.drop (4 + announced s.bytes), (List.take_append_drop _ _).symm, ?_, ?_⟩
  · rw [List.map_drop, hbytes, htaken.rest_bytes]
  · have hwait : ∀ n < (session.requests.take (4 + announced s.bytes)).length, read_frame_poll
        x.request (((session.requests.take (4 + announced s.bytes)).take n).map Prod.fst) = none := by
      intro n hn
      rw [hlength] at hn
      rw [hfirst n (le_of_lt hn)]
      exact read_frame_poll_of_lt hread hn
    have hdone := hfirst _ (le_refl _)
    rw [List.take_of_length_le (le_of_eq hlength)] at hdone
    have hdecoded : read_frame_poll x.request
        ((session.requests.take (4 + announced s.bytes)).map Prod.fst) = some (.ok request) := by
      rw [hdone]
      exact read_frame_poll_of_some hread
    refine Machine.run_trans (@Sidecar.run_daemon_polls ⟨x.request, x.response⟩ _ _ hwait hdecoded
      (session.requests.drop (4 + announced s.bytes)) _ session [] hdaemon
      (List.take_append_drop _ _).symm rfl (List.ne_nil_of_length_pos (by omega))) ?_
    rw [Machine.run_cons]
    refine ⟨_, ?_, rfl⟩
    simp only [Sidecar.step, Sidecar.daemon_serve, hframe]

/-- **Every session has the shape.** The first frame settles which: none, a refusal, or an open
session; in an open one the loop appends its turns to it, one for each frame that is read. -/
theorem serve_trace (x : Session) (s : Stream) : Trace x (serve x s).effects := by
  rw [serve]
  split
  -- no first frame: a broken stream, or a client that closed
  · exact .silent
  · exact .silent
  · rename_i init rest _
    rw [perform_bind_effects, open_session, perform_bind_effects]
    cases hauth : x.authenticate init.token with
    | error reject =>
        dsimp only
        rw [perform_bind_effects]
        exact .rejected hauth (send_last x 0 _)
    | ok u =>
        dsimp only
        rw [perform_bind_effects]
        cases hopen : open_backends x.table x.max_statement_timeout_ms init with
        | error err =>
            dsimp only
            exact .unresolved hauth hopen (send_last x 0 _)
        | ok set =>
            dsimp only
            rw [perform_bind_effects]
            rcases send_cases x 0 .ack with ⟨err, hsend⟩ | hsend
            · rw [hsend, bind_error rfl]
              exact .unacknowledged hauth hopen
            · rw [hsend, effects_bind rfl]
              exact .opened hauth hopen (serve_loop_turns x set 1 rest)
  · rename_i request rest hnot _
    rw [perform_bind_effects]
    exact .no_init hnot (send_last x 0 _)

end Shape

/-! ## What a session owes the operator -/

def SessionEffect.as_read : SessionEffect → Option WireRequest
  | read request => some request
  | _ => none

def SessionEffect.as_write : SessionEffect → Option WireResponse
  | write response => some response
  | _ => none

/-- The frames read. -/
def reads (t : List SessionEffect) : List WireRequest := t.filterMap SessionEffect.as_read

/-- The frames written. -/
def writes (t : List SessionEffect) : List WireResponse := t.filterMap SessionEffect.as_write

/-- The response the first frame is answered with. -/
inductive FirstAnswers (x : Session) : WireRequest → WireResponse → Prop
  | ack {init : WireInit} {set : BackendSet} : x.authenticate init.token = .ok () →
      open_backends x.table x.max_statement_timeout_ms init = .ok set →
      FirstAnswers x (.init init) .ack
  | rejected {init : WireInit} {reject : AuthReject} : x.authenticate init.token = .error reject →
      FirstAnswers x (.init init) (.init_error reject.code reject.message)
  | unresolved {init : WireInit} {err : ResolveError} : x.authenticate init.token = .ok () →
      open_backends x.table x.max_statement_timeout_ms init = .error err →
      FirstAnswers x (.init init) (.init_error err.code err.message)
  | no_init {request : WireRequest} : (∀ init, request ≠ .init init) →
      FirstAnswers x request (.protocol_error "expected Init as the first frame")

/-- How a session opens. -/
def opening (init : WireInit) (set : BackendSet) : List SessionEffect :=
  [.read (.init init), .authenticate init.token, .consult init, .build set, .write .ack]

/-- The first frame was an `Init` whose token was accepted, and it resolved to this
set of backends. -/
def Opened (x : Session) (past : List SessionEffect) (set : BackendSet) : Prop :=
  ∃ init, opening init set <+: past ∧ x.authenticate init.token = .ok ()
    ∧ open_backends x.table x.max_statement_timeout_ms init = .ok set

/-- What must have happened before an effect. -/
def Lawful (x : Session) (past : List SessionEffect) : SessionEffect → Prop
  -- a frame is the first one, or the session is open
  | .read _ => past = [] ∨ ∃ set, Opened x past set
  | .authenticate token => ∃ init, past = [.read (.init init)] ∧ token = init.token
  | .auth_failure => ∃ init reject, past = [.read (.init init), .authenticate init.token]
      ∧ x.authenticate init.token = .error reject
  -- the table is touched for the first frame only, behind the authenticator
  | .consult init => past = [.read (.init init), .authenticate init.token]
      ∧ x.authenticate init.token = .ok ()
  | .build set => ∃ init, past = [.read (.init init), .authenticate init.token, .consult init]
      ∧ x.authenticate init.token = .ok ()
      ∧ open_backends x.table x.max_statement_timeout_ms init = .ok set
  -- every call goes to the set of the first frame
  | .call set _ => Opened x past set
  | .reach backend => ∃ set call k, Opened x past set ∧ .call set call ∈ past
      ∧ call.name = k.as_str ∧ set.slot k = some backend
  -- a response answers the frame just read
  | .write response => (reads past).length = (writes past).length + 1
      ∧ ∃ request, (reads past).getLast? = some request
        ∧ (writes past = [] → FirstAnswers x request response)
        ∧ (writes past ≠ [] → ∃ set, Opened x past set
          ∧ Answers x set (writes past).length request response)

/-- The token was presented and turned down. -/
def is_rejected (x : Session) : SessionEffect → Bool
  | .authenticate token => (x.authenticate token).toOption.isNone
  | _ => false

structure SessionSafe (x : Session) (t : List SessionEffect) : Prop where
  lawful : ∀ before e after, t = before ++ e :: after → Lawful x before e
  /-- The `i`-th frame written answers the `i`-th frame read. -/
  answered : ∀ i response, (writes t)[i]? = some response → ∃ request, (reads t)[i]? = some request
    ∧ (i = 0 → FirstAnswers x request response)
    ∧ (i ≠ 0 → ∃ set, Opened x t set ∧ Answers x set i request response)
  /-- The counter grows by one for each rejected token. -/
  failures : t.countP (· = .auth_failure) = t.countP (is_rejected x)

section Safe

variable {x : Session}

theorem Opened.append {past : List SessionEffect} {set : BackendSet} (h : Opened x past set)
    (more : List SessionEffect) : Opened x (past ++ more) set := by
  obtain ⟨init, hfirst, hauth, hopen⟩ := h
  exact ⟨init, hfirst.trans (List.prefix_append _ _), hauth, hopen⟩

theorem reads_append (t u : List SessionEffect) : reads (t ++ u) = reads t ++ reads u :=
  List.filterMap_append

theorem writes_append (t u : List SessionEffect) : writes (t ++ u) = writes t ++ writes u :=
  List.filterMap_append

/-- The work for a frame neither reads nor writes one. -/
theorem Work.quiet {set : BackendSet} {request : WireRequest} {work : List SessionEffect}
    (h : Work set request work) : reads work = [] ∧ writes work = [] := by
  cases h with
  | drain => exact ⟨rfl, rfl⟩
  | init => exact ⟨rfl, rfl⟩
  | @call call reached _ =>
      have hreach : ∀ backend : ResourceBinding,
          SessionEffect.as_read (.reach backend) = none
            ∧ SessionEffect.as_write (.reach backend) = none := fun _ => ⟨rfl, rfl⟩
      constructor
      · rw [reads, List.filterMap_cons_none rfl, List.filterMap_map, List.filterMap_eq_nil_iff]
        exact fun backend _ => (hreach backend).1
      · rw [writes, List.filterMap_cons_none rfl, List.filterMap_map, List.filterMap_eq_nil_iff]
        exact fun backend _ => (hreach backend).2

/-- In an open session the work for a frame is lawful. The session was opened for an `Init` that
was accepted, and what is reached is what that `Init` was resolved to. -/
theorem Work.lawful {set : BackendSet} {request : WireRequest} {work : List SessionEffect}
    (h : Work set request work) {past : List SessionEffect} (hopen : Opened x past set) :
    Each (Lawful x) past work := by
  cases h with
  | drain => trivial
  | init => trivial
  | @call call reached hreaches =>
      refine ⟨hopen, ?_⟩
      -- each backend reached comes behind the call it was reached by
      have hmem : SessionEffect.call set call ∈ past ++ [.call set call] :=
        List.mem_append_right _ (List.mem_singleton_self _)
      have hopen' := hopen.append [.call set call]
      generalize past ++ [.call set call] = sofar at hmem hopen'
      induction reached generalizing sofar with
      | nil => trivial
      | cons backend reached ih =>
          obtain ⟨k, hname, hslot⟩ := hreaches backend List.mem_cons_self
          refine ⟨⟨set, call, k, hopen', hmem, hname, hslot⟩, ?_⟩
          exact ih (fun b hb => hreaches b (List.mem_cons_of_mem _ hb)) _
            (List.mem_append_left _ hmem) (hopen'.append _)

/-- **The turns are lawful**, in an open session whose frames are all answered. By induction on
the turns: each reads one frame when none is owed an answer, works for it, and answers it, so that
the next turn finds the same balance. -/
theorem Turns.lawful {set : BackendSet} {i : ℕ} {turns : List SessionEffect}
    (h : Turns x set i turns) {past : List SessionEffect} (hopen : Opened x past set)
    (hread : (reads past).length = i) (hwritten : (writes past).length = i) (hacked : i ≠ 0) :
    Each (Lawful x) past turns := by
  induction h generalizing past with
  | done => trivial
  | unanswered hwork => exact ⟨Or.inr ⟨set, hopen⟩, hwork.lawful (hopen.append _)⟩
  | @answered i request work rest response hwork hanswers _ ih =>
      refine ⟨Or.inr ⟨set, hopen⟩, ?_⟩
      rw [each_append]
      refine ⟨hwork.lawful (hopen.append _), ?_⟩
      -- behind the work: the frame is read, and not yet answered
      obtain ⟨hquietr, hquietw⟩ := hwork.quiet
      have hreads : reads (past ++ [.read request] ++ work) = reads past ++ [request] := by
        rw [reads_append, reads_append, hquietr, List.append_nil]
        rfl
      have hwrites : writes (past ++ [.read request] ++ work) = writes past := by
        rw [writes_append, writes_append, hquietw, List.append_nil]
        exact List.append_nil _
      have hopen' : Opened x (past ++ [.read request] ++ work) set := (hopen.append _).append _
      constructor
      · refine ⟨?_, request, ?_, ?_, ?_⟩
        · rw [hreads, hwrites, List.length_append, hread, hwritten, List.length_singleton]
        · rw [hreads, List.getLast?_concat]
        · intro hnone
          rw [hwrites] at hnone
          rw [hnone, List.length_nil] at hwritten
          exact absurd hwritten.symm hacked
        · intro _
          rw [hwrites, hwritten]
          exact ⟨set, hopen', hanswers⟩
      · apply ih (hopen'.append _)
        · rw [reads_append, hreads, List.length_append, List.length_append, hread]
          rfl
        · rw [writes_append, hwrites, List.length_append, hwritten]
          rfl
        · exact Nat.succ_ne_zero i

/-- The one answer of a session that does not open. -/
theorem Last.lawful {response : WireResponse} {tail past : List SessionEffect}
    (h : Last response tail) {request : WireRequest} (hreads : reads past = [request])
    (hwrites : writes past = []) (hfirst : FirstAnswers x request response) :
    Each (Lawful x) past tail := by
  rcases h with rfl | rfl
  · trivial
  · refine ⟨⟨?_, request, ?_, fun _ => hfirst, ?_⟩, trivial⟩
    · rw [hreads, hwrites]
      rfl
    · rw [hreads]
      rfl
    · intro hne
      exact absurd hwrites hne

/-- **Every trace is lawful.** -/
theorem Trace.lawful {t : List SessionEffect} (h : Trace x t) : Each (Lawful x) [] t := by
  cases h with
  | silent => trivial
  | no_init hnot hlast => exact ⟨Or.inl rfl, hlast.lawful rfl rfl (.no_init hnot)⟩
  | @rejected init reject tail hauth hlast =>
      exact ⟨Or.inl rfl, ⟨init, rfl, rfl⟩, ⟨init, reject, rfl, hauth⟩,
        hlast.lawful rfl rfl (.rejected hauth)⟩
  | @unresolved init err tail hauth hopen hlast =>
      exact ⟨Or.inl rfl, ⟨init, rfl, rfl⟩, ⟨rfl, hauth⟩,
        hlast.lawful rfl rfl (.unresolved hauth hopen)⟩
  | @unacknowledged init set hauth hopen =>
      exact ⟨Or.inl rfl, ⟨init, rfl, rfl⟩, ⟨rfl, hauth⟩, ⟨init, rfl, hauth, hopen⟩, trivial⟩
  | @opened init set turns hauth hopen hturns =>
      refine ⟨Or.inl rfl, ⟨init, rfl, rfl⟩, ⟨rfl, hauth⟩, ⟨init, rfl, hauth, hopen⟩, ?_, ?_⟩
      · exact ⟨rfl, .init init, rfl, fun _ => .ack hauth hopen, fun hne => absurd rfl hne⟩
      · exact hturns.lawful ⟨init, List.prefix_refl _, hauth, hopen⟩ rfl rfl Nat.one_ne_zero

/-! ### The counter -/

/-- A turn presents no token. Only the first frame is authenticated, and the refusal of a second
`Init` is an error of the protocol and no rejection. -/
theorem Turns.no_token {set : BackendSet} {i : ℕ} {turns : List SessionEffect}
    (h : Turns x set i turns) :
    ∀ e ∈ turns, e ≠ .auth_failure ∧ is_rejected x e = false := by
  have hwork : ∀ {request work}, Work set request work →
      ∀ e ∈ work, e ≠ .auth_failure ∧ is_rejected x e = false := by
    intro request work hwork e he
    cases hwork with
    | drain => cases he
    | init => cases he
    | call _ =>
        rcases List.mem_cons.mp he with rfl | he
        · exact ⟨by simp, rfl⟩
        · obtain ⟨backend, -, rfl⟩ := List.mem_map.mp he
          exact ⟨by simp, rfl⟩
  induction h with
  | done => simp
  | unanswered hw =>
      intro e he
      rcases List.mem_cons.mp he with rfl | he
      · exact ⟨by simp, rfl⟩
      · exact hwork hw e he
  | answered hw _ _ ih =>
      intro e he
      rcases List.mem_cons.mp he with rfl | he
      · exact ⟨by simp, rfl⟩
      · rcases List.mem_append.mp he with he | he
        · exact hwork hw e he
        · rcases List.mem_cons.mp he with rfl | he
          · exact ⟨by simp, rfl⟩
          · exact ih e he

/-- The last frame presents no token. -/
theorem Last.no_token {response : WireResponse} {tail : List SessionEffect}
    (h : Last response tail) : ∀ e ∈ tail, e ≠ .auth_failure ∧ is_rejected x e = false := by
  rcases h with rfl | rfl
  · simp
  · intro e he
    rw [List.mem_singleton.mp he]
    exact ⟨by simp, rfl⟩

/-- Where no token is presented, nothing is counted. -/
theorem counts_zero {t : List SessionEffect}
    (h : ∀ e ∈ t, e ≠ .auth_failure ∧ is_rejected x e = false) :
    t.countP (· = .auth_failure) = 0 ∧ t.countP (is_rejected x) = 0 := by
  constructor
  · rw [List.countP_eq_zero]
    intro e he
    simpa using (h e he).1
  · rw [List.countP_eq_zero]
    intro e he
    rw [(h e he).2]
    exact Bool.false_ne_true

/-- Only a rejected token is counted, and each once: of the shapes of a session one has the
counter in it. -/
theorem Trace.failures {t : List SessionEffect} (h : Trace x t) :
    t.countP (· = .auth_failure) = t.countP (is_rejected x) := by
  cases h with
  | silent => rfl
  | no_init _ hlast =>
      obtain ⟨hfail, hrej⟩ := counts_zero (x := x) hlast.no_token
      simp [is_rejected, hfail, hrej]
  | rejected hauth hlast =>
      obtain ⟨hfail, hrej⟩ := counts_zero (x := x) hlast.no_token
      simp [is_rejected, hfail, hrej, hauth, Except.toOption]
  | unresolved hauth _ hlast =>
      obtain ⟨hfail, hrej⟩ := counts_zero (x := x) hlast.no_token
      simp [is_rejected, hfail, hrej, hauth, Except.toOption]
  | unacknowledged hauth _ => simp [is_rejected, hauth, Except.toOption]
  | opened hauth _ hturns =>
      obtain ⟨hfail, hrej⟩ := counts_zero (x := x) hturns.no_token
      simp [is_rejected, hfail, hrej, hauth, Except.toOption]

end Safe

/-- **The session protocol.** Whatever the client sends, and wherever the stream or
the writer fails: every effect of the session is allowed by what came before it, the
frames written answer the frames read one by one, and the failure counter counts the
rejected tokens. -/
theorem session_protocol (x : Session) (s : Stream) : SessionSafe x (serve x s).effects := by
  have htrace := serve_trace x s
  have hlawful : ∀ before e after, (serve x s).effects = before ++ e :: after →
      Lawful x before e := by
    intro before e after hsplit
    have heach := each_split htrace.lawful hsplit
    rw [List.nil_append] at heach
    exact heach
  refine ⟨hlawful, ?_, htrace.failures⟩
  intro i response hresponse
  -- the answer is read off the rule for the effect that wrote it
  obtain ⟨before, e, after, hsplit, he, hi⟩ := filterMap_split hresponse
  have hwrite : e = .write response := by
    cases e with
    | write r => rw [Option.some.inj he]
    | read r => cases he
    | authenticate token => cases he
    | auth_failure => cases he
    | consult init => cases he
    | build set => cases he
    | call set call => cases he
    | reach backend => cases he
  subst hwrite
  obtain ⟨hlen, request, hlast, hfirst, hlater⟩ := hlawful before _ after hsplit
  have hcount : (writes before).length = i := hi
  refine ⟨request, ?_, ?_, ?_⟩
  -- the last frame read before the response is the `i`-th
  · rw [hsplit, reads_append, List.getElem?_append_left (by omega), ← hlast,
      List.getLast?_eq_getElem?, hlen, hcount, Nat.add_sub_cancel]
  · intro hzero
    apply hfirst
    rw [hzero] at hcount
    exact List.length_eq_zero_iff.mp hcount
  · intro hpos
    have hnil : writes before ≠ [] := by
      intro hnil
      rw [hnil] at hcount
      exact hpos hcount.symm
    obtain ⟨set, hopen, hanswers⟩ := hlater hnil
    rw [hcount] at hanswers
    rw [hsplit]
    exact ⟨set, hopen.append _, hanswers⟩

/-! ## What a session owes the client

`SessionSafe` holds of a session that writes nothing. With a writer that works no frame stays
without its answer, and an `Init` that passes opens the session. -/

/-- The writer works: every response these requests may get is a frame, and gets out. -/
structure WriterWorks (x : Session) (requests : List WireRequest) : Prop where
  first : ∀ request response, requests[0]? = some request → FirstAnswers x request response →
    send x 0 response = ⟨[.write response], .ok ()⟩
  later : ∀ i set request response, i ≠ 0 → requests[i]? = some request →
    Answers x set i request response → send x i response = ⟨[.write response], .ok ()⟩

structure SessionAnswers (x : Session) (s : Stream) (t : List SessionEffect) : Prop where
  /-- Each frame that is read is answered. -/
  answered : (writes t).length = (reads t).length
  /-- An `Init` that is accepted and resolves is acknowledged, and each frame behind it is read. -/
  opened : ∀ init set more, (read_frames x.request s).1 = .init init :: more →
    x.authenticate init.token = .ok () →
    open_backends x.table x.max_statement_timeout_ms init = .ok set →
    opening init set <+: t ∧ reads t = .init init :: more

section Answers

variable {x : Session}

/-- **The loop leaves nothing behind.** It reads the frames of its stream to the end and writes an
answer to each. The induction is along the recursion of the loop, whose first frame has the number
`i`. -/
theorem serve_loop_answers (set : BackendSet) (i : ℕ) (s : Stream)
    (hworks : ∀ j request response, (read_frames x.request s).1[j]? = some request →
      Answers x set (i + j) request response →
        send x (i + j) response = ⟨[.write response], .ok ()⟩) :
    reads (serve_loop x set i s).effects = (read_frames x.request s).1
      ∧ (writes (serve_loop x set i s).effects).length = (read_frames x.request s).1.length := by
  cases hread : (read_frame x.request s).result with
  | error err =>
      have hstop : ∀ next, (read_frame x.request s).result ≠ .ok (some next) := by
        intro next hnext
        rw [hread] at hnext
        cases hnext
      rw [serve_loop_stop hstop, read_frames_error hread]
      exact ⟨rfl, rfl⟩
  | ok next =>
      cases next with
      | none =>
          have hstop : ∀ next, (read_frame x.request s).result ≠ .ok (some next) := by
            intro next hnext
            rw [hread] at hnext
            cases hnext
          rw [serve_loop_stop hstop, read_frames_none hread]
          exact ⟨rfl, rfl⟩
      | some next =>
          obtain ⟨request, rest⟩ := next
          have hshorter := (read_frame_some hread).shorter
          rw [read_frames_some hread] at hworks ⊢
          -- the frames behind this one have the numbers from `i + 1` on
          have hrest : ∀ j request response, (read_frames x.request rest).1[j]? = some request →
              Answers x set (i + 1 + j) request response →
                send x (i + 1 + j) response = ⟨[.write response], .ok ()⟩ := by
            intro j request' response hj hanswers
            rw [Nat.add_right_comm] at hanswers ⊢
            exact hworks (j + 1) request' response hj hanswers
          obtain ⟨hreads, hwrites⟩ := serve_loop_answers set (i + 1) rest hrest
          obtain ⟨work, response, hrespond, hwork, hanswers⟩ := respond_spec x set i request
          obtain ⟨hquietr, hquietw⟩ := hwork.quiet
          have hsend : send x i response = ⟨[.write response], .ok ()⟩ :=
            hworks 0 request response rfl hanswers
          have hturn : (serve_loop x set i s).effects = .read request
              :: (work ++ .write response :: (serve_loop x set (i + 1) rest).effects) := by
            rw [serve_loop_some hread, perform_bind_effects, hrespond, effects_bind rfl, hsend,
              effects_bind rfl]
            rfl
          rw [hturn]
          constructor
          · rw [← hreads, ← List.singleton_append, reads_append, reads_append, hquietr]
            rfl
          · rw [← List.singleton_append, writes_append, writes_append, hquietw]
            exact congrArg Nat.succ hwrites
termination_by s.bytes.length

/-- The first frame of the stream is the first that is read. -/
theorem read_frames_first {s rest : Stream} {request : WireRequest}
    (hread : (read_frame x.request s).result = .ok (some (request, rest))) :
    (read_frames x.request s).1[0]? = some request := by
  rw [read_frames_some hread]
  rfl

/-- A first frame that is no `Init` gets the one answer of its session. -/
theorem serve_no_init {s rest : Stream} {request : WireRequest}
    (hworks : WriterWorks x (read_frames x.request s).1)
    (hread : (read_frame x.request s).result = .ok (some (request, rest)))
    (hnot : ∀ init, request ≠ .init init) :
    (serve x s).effects
      = [.read request, .write (.protocol_error "expected Init as the first frame")] := by
  have hsend := hworks.first request _ (read_frames_first hread) (.no_init hnot)
  rw [serve, hread]
  cases request with
  | init init => exact absurd rfl (hnot init)
  | call call =>
      dsimp only
      rw [perform_bind_effects, hsend]
  | drain =>
      dsimp only
      rw [perform_bind_effects, hsend]

/-- An `Init` that passes is acknowledged, and the loop goes on behind it. -/
theorem serve_opened {s rest : Stream} {init : WireInit} {set : BackendSet}
    (hworks : WriterWorks x (read_frames x.request s).1)
    (hread : (read_frame x.request s).result = .ok (some (.init init, rest)))
    (hauth : x.authenticate init.token = .ok ())
    (hopen : open_backends x.table x.max_statement_timeout_ms init = .ok set) :
    (serve x s).effects = opening init set ++ (serve_loop x set 1 rest).effects := by
  have hsend := hworks.first (.init init) _ (read_frames_first hread) (.ack hauth hopen)
  rw [serve, hread]
  dsimp only
  rw [perform_bind_effects, open_session, perform_bind_effects, hauth]
  dsimp only
  rw [perform_bind_effects, hopen]
  dsimp only
  rw [perform_bind_effects, hsend, effects_bind rfl]
  rfl

/-- One that does not pass is told why. -/
theorem serve_refused {s rest : Stream} {init : WireInit}
    (hworks : WriterWorks x (read_frames x.request s).1)
    (hread : (read_frame x.request s).result = .ok (some (.init init, rest)))
    (hnot : ∀ set, x.authenticate init.token = .ok () →
      open_backends x.table x.max_statement_timeout_ms init ≠ .ok set) :
    reads (serve x s).effects = [.init init] ∧ (writes (serve x s).effects).length = 1 := by
  rw [serve, hread]
  dsimp only
  rw [perform_bind_effects, open_session, perform_bind_effects]
  cases hauth : x.authenticate init.token with
  | error reject =>
      dsimp only
      rw [perform_bind_effects, hworks.first (.init init) _ (read_frames_first hread) (.rejected hauth)]
      exact ⟨rfl, rfl⟩
  | ok u =>
      dsimp only
      rw [perform_bind_effects]
      cases hopen : open_backends x.table x.max_statement_timeout_ms init with
      | ok set => exact absurd hopen (hnot set hauth)
      | error err =>
          dsimp only
          rw [hworks.first (.init init) _ (read_frames_first hread)
            (.unresolved hauth hopen)]
          exact ⟨rfl, rfl⟩

/-- **The session answers**, as long as its writer works: by what the first frame is. No first
frame ends it without an answer; one that is no `Init`, or is not accepted, has its refusal for an
answer; and behind an accepted one every frame is answered, by the loop. -/
theorem session_answers {s : Stream} (hworks : WriterWorks x (read_frames x.request s).1) :
    SessionAnswers x s (serve x s).effects := by
  cases hread : (read_frame x.request s).result with
  | error err =>
      rw [serve, hread]
      refine ⟨rfl, ?_⟩
      intro init set more hframes
      rw [read_frames_error hread] at hframes
      cases hframes
  | ok next =>
      cases next with
      | none =>
          rw [serve, hread]
          refine ⟨rfl, ?_⟩
          intro init set more hframes
          rw [read_frames_none hread] at hframes
          cases hframes
      | some next =>
          obtain ⟨request, rest⟩ := next
          by_cases hopens : ∃ init set, request = .init init ∧ x.authenticate init.token = .ok ()
              ∧ open_backends x.table x.max_statement_timeout_ms init = .ok set
          · obtain ⟨init, set, rfl, hauth, hopen⟩ := hopens
            have heffects := serve_opened hworks hread hauth hopen
            have hlater : ∀ j request response,
                (read_frames x.request rest).1[j]? = some request →
                Answers x set (1 + j) request response →
                  send x (1 + j) response = ⟨[.write response], .ok ()⟩ := by
              intro j request response hj hanswers
              refine hworks.later (1 + j) set request response (by omega) ?_ hanswers
              rw [read_frames_some hread, Nat.add_comm]
              exact hj
            obtain ⟨hreads, hwrites⟩ := serve_loop_answers set 1 rest hlater
            have hall : reads (serve x s).effects = .init init :: (read_frames x.request rest).1 := by
              rw [heffects, reads_append, hreads]
              rfl
            refine ⟨?_, ?_⟩
            · rw [hall, heffects, writes_append, List.length_append, hwrites, List.length_cons,
                Nat.add_comm]
              rfl
            · intro init' set' more hframes hauth' hopen'
              rw [read_frames_some hread] at hframes
              cases hframes
              rw [hopen] at hopen'
              cases hopen'
              exact ⟨heffects ▸ List.prefix_append _ _, hall⟩
          · have hone : (writes (serve x s).effects).length = (reads (serve x s).effects).length := by
              by_cases hinit : ∃ init, request = .init init
              · obtain ⟨init, rfl⟩ := hinit
                obtain ⟨hreads, hwrites⟩ := serve_refused hworks hread
                  fun set hauth hopen => hopens ⟨init, set, rfl, hauth, hopen⟩
                rw [hreads, hwrites]
                rfl
              · rw [serve_no_init hworks hread fun init heq => hinit ⟨init, heq⟩]
                rfl
            refine ⟨hone, ?_⟩
            intro init set more hframes hauth hopen
            rw [read_frames_some hread] at hframes
            cases hframes
            exact absurd ⟨init, set, rfl, hauth, hopen⟩ hopens

end Answers

/-! A client that opens its session and drains it, over a daemon without a backend. -/

def greeting : WireInit := { timeout_ms := 5000 }

def greeting_text : String := "\x7b\"Init\":\x7b\"timeout_ms\":5000\x7d\x7d"

def no_metrics_text : String :=
  "\x7b\"Metrics\":\x7b\"db\":[],\"mongo\":[],\"mail\":[],\"redis\":[],\"amq\":[],"
    ++ "\"auth\":[]\x7d\x7d"

def bare_session : Session where
  request := Sidecar.table_codec [(.init greeting, greeting_text), (.drain, "\"Drain\"")]
  response := Sidecar.table_codec [(.ack, "\"Ack\""), (.metrics {}, no_metrics_text)]
  authenticate := fun _ => .ok ()
  table := ∅
  max_statement_timeout_ms := 30000
  drivers := fun _ => {
    connect_resource := fun _ => .ok ()
    call := fun _ _ _ => .ok "null"
    unpack := fun _ text => .ok text }
  join_error := fun _ => none
  metrics := fun _ => {}
  write_all := fun _ => .ok ()

theorem bare_request_round_trips : bare_session.request.RoundTrips :=
  Sidecar.table_codec_round_trips _ (by decide +kernel)

/-- The two requests are within the cap. -/
theorem bare_request_within_cap : ∀ request ∈ [WireRequest.init greeting, .drain], ∃ body,
    bare_session.request.to_vec request = .ok body ∧ body.length ≤ MAX_FRAME_BYTES := by
  intro request hmem
  rcases List.mem_cons.mp hmem with rfl | hmem
  · exact ⟨Text.utf8 greeting_text, rfl, by decide +kernel⟩
  · rw [List.mem_singleton.mp hmem]
    exact ⟨Text.utf8 "\"Drain\"", rfl, by decide +kernel⟩

/-- The responses of this session are in the table of its codec. -/
theorem bare_writer_works : WriterWorks bare_session [.init greeting, .drain] := by
  constructor
  · intro request response hfirst hanswers
    cases hfirst
    cases hanswers with
    | ack _ _ => rfl
    | rejected hauth => cases hauth
    | unresolved _ hopen => cases hopen
    | no_init hnot => exact absurd rfl (hnot greeting)
  · intro i set request response hi hlater hanswers
    match i, hlater with
    | 1, hlater =>
        cases hlater
        cases hanswers with
        | metrics => rfl

/-- The session opens, and both frames are answered, wherever the transport cuts them. -/
theorem session_answers_drain : ∃ bytes,
    write_frames bare_session.request [] [.init greeting, .drain] = (.ok (), bytes)
      ∧ ∀ pieces, pieces.flatten = bytes → ∃ set,
        opening greeting set <+: (serve bare_session (ending pieces)).effects
          ∧ reads (serve bare_session (ending pieces)).effects = [.init greeting, .drain]
          ∧ (writes (serve bare_session (ending pieces)).effects).length = 2 := by
  obtain ⟨bytes, hwrite, hcomplete⟩ :=
    write_frames_complete bare_request_round_trips bare_request_within_cap []
  refine ⟨bytes, hwrite, ?_⟩
  intro pieces hpieces
  have hframes := read_frames_ending hcomplete hpieces
  have hworks : WriterWorks bare_session (read_frames bare_session.request (ending pieces)).1 := by
    rw [hframes]
    exact bare_writer_works
  obtain ⟨hanswered, hopened⟩ := session_answers hworks
  obtain ⟨set, hset⟩ : ∃ set, open_backends bare_session.table
      bare_session.max_statement_timeout_ms greeting = .ok set := ⟨_, rfl⟩
  obtain ⟨hfirst, hreads⟩ := hopened greeting set [.drain] (by rw [hframes]) rfl hset
  refine ⟨set, hfirst, hreads, ?_⟩
  rw [hanswered, hreads]
  rfl

end Runlet.Serve
