/-
The event pipeline (`crates/runlet/src/events.rs`): the sink requests record into, a bounded
channel, and the writer task that prints one JSON line for each event.

A step is one thing that happens in the process: a request records an event, the writer takes the
next one or prints the one it holds, the last sink is dropped, the writer ends. `println!` panics
when the stream is gone, and may by then have written the front of the line; the task ends with it
and everything behind is refused.

The stream is what the writer prints. The log of the process goes to the same standard output and
is no part of it.

`stream_accounts` is the account of a whole run: what is on the stream, read line by line, is what
was recorded and not dropped, in the order it was recorded, up to a bounded rest that the writer has
not come to; and there is no rest once it has ended.
-/
import Runlet.Handler
import Runlet.Lib.Channel
import Runlet.Serialize

set_option autoImplicit false

namespace Runlet.Events

open Text Lines Runlet.Json Runlet.Handler

/-! ## The envelope -/

def EVENT_SCHEMA_VERSION : ℕ := 1

/-- `Event::new`: what a request reports, with a fresh id and a time. -/
structure Stamped where
  /-- `Uuid::new_v4`. -/
  id : String
  /-- `now_unix_millis`. -/
  ts : ℕ
  event : Event
  deriving DecidableEq

def Decision.as_str : Decision → String
  | .allowed => "allowed"
  | .denied => "denied"

/-- A field that is left out when it is `None`. -/
def optional_field (name : String) (text : Option String) : List (String × String) :=
  text.toList.map fun text => (name, text)

def CapabilityOps.members (ops : CapabilityOps) : List (String × ℕ) :=
  [("db", ops.db), ("mongo", ops.mongo), ("http", ops.http), ("mail", ops.mail), ("s3", ops.s3),
    ("redis", ops.redis), ("amq", ops.amq), ("auth", ops.auth)]

section Write

-- how `serde_json` writes a float in a detail
variable (float_text : UInt64 → String)

/-- The payload, flattened into the envelope behind its `type`. -/
def body_members : EventBody → List (String × String)
  | .usage body =>
    [("type", JsonText.quote "usage"), ("outcome", JsonText.quote body.outcome),
      ("exec_time_us", toString body.exec_time_us), ("input_bytes", toString body.input_bytes),
      ("ops", JsonText.write_object
        ((CapabilityOps.members body.ops).map fun op => (op.1, toString op.2)))]
  | .audit body =>
    [("type", JsonText.quote "audit"),
        ("decision", JsonText.quote (Decision.as_str body.decision))]
      ++ optional_field "reason" (body.reason.map JsonText.quote)
      ++ optional_field "detail" (body.detail.map (Value.write float_text))

def Stamped.members (e : Stamped) : List (String × String) :=
  [("v", toString EVENT_SCHEMA_VERSION), ("event_id", JsonText.quote e.id), ("ts", toString e.ts)]
    ++ optional_field "tenant" (e.event.tenant.map JsonText.quote)
    ++ optional_field "user" (e.event.user.map JsonText.quote)
    ++ optional_field "plan" (e.event.plan.map JsonText.quote)
    ++ [("trace_id", JsonText.quote e.event.trace_id)]
    ++ body_members float_text e.event.body

/-- `serde_json::to_string` of an event. -/
def Stamped.to_line (e : Stamped) : String := JsonText.write_object (e.members float_text)

end Write

/-! ## The pipeline -/

inductive Writer
  | running
  | ended
  | panicked
  deriving DecidableEq

structure Pipeline where
  chan : Channel.Chan Stamped := {}
  /-- A sink is alive. -/
  sink : Bool := true
  /-- What the writer has taken and not printed. -/
  in_hand : Option Stamped := none
  writer : Writer := .running
  /-- What the writer has printed. The process's standard output also has the lines of the log
  (`telemetry.rs`). -/
  event_stream : String := ""
  /-- `runlet_events_dropped_total`. -/
  dropped : UInt64 := 0

inductive Action
  /-- `LogSink::record`. -/
  | record (e : Stamped)
  /-- `rx.recv()`. -/
  | recv
  /-- `println!`. -/
  | print
  /-- `println!` panics; so many characters of the line are out. -/
  | print_fails (written : ℕ)
  | drop_sink
  /-- `rx.recv()` is `None`. -/
  | finish

/-- The capacity of the channel of `EventPipeline::spawn`. -/
def capacity (bound : ℕ) : ℕ := max bound 1

/-- What an action does to the channel. -/
def Action.on_channel : Action → Option (Channel.Act Stamped)
  | record e => some (.offer e)
  | recv => some .take
  | print_fails _ => some .hang_up
  | print | drop_sink | finish => none

def Action.recorded : Action → Option Stamped
  | record e => some e
  | recv | print | print_fails _ | drop_sink | finish => none

def Pipeline.step (float_text : UInt64 → String) (bound : ℕ) (s : Pipeline) :
    Action → Option Pipeline
  | .record e =>
    if s.sink then do
      let chan ← s.chan.step (capacity bound) (.offer e)
      -- `try_send` failed
      let dropped := if s.chan.Open (capacity bound) then s.dropped else s.dropped + 1
      return { s with chan, dropped }
    else none
  | .recv =>
    if s.writer = .running ∧ s.in_hand = none then do
      let chan ← s.chan.step (capacity bound) .take
      return { s with chan, in_hand := s.chan.queue.head? }
    else none
  | .print =>
    match s.in_hand with
    | some e =>
      if s.writer = .running then
        some { s with
          in_hand := none
          event_stream := s.event_stream ++ (e.to_line float_text ++ "\n") }
      else none
    | none => none
  | .print_fails written =>
    match s.in_hand with
    | some e =>
      if s.writer = .running then do
        let chan ← s.chan.step (capacity bound) .hang_up
        return { s with
          chan
          writer := .panicked
          event_stream :=
            s.event_stream ++ String.ofList ((e.to_line float_text).toList.take written) }
      else none
    | none => none
  | .drop_sink => some { s with sink := false }
  | .finish =>
    if s.writer = .running ∧ s.in_hand = none ∧ s.chan.queue = [] ∧ s.sink = false then
      some { s with writer := .ended }
    else none

/-! ## A line -/

section Line

variable {float_text : UInt64 → String}

/-- A field that may be absent. -/
def optional_member (name : String) (v : Option JsonText.Tree) :
    List (List UInt16 × JsonText.Tree) := v.toList.map fun v => (utf16 name, v)

def number_tree (n : ℕ) : JsonText.Tree := .number (utf16 (toString n))

def string_tree (s : String) : JsonText.Tree := .string (utf16 s)

def body_tree (float_text : UInt64 → String) : EventBody → List (List UInt16 × JsonText.Tree)
  | .usage body =>
    [(utf16 "type", string_tree "usage"), (utf16 "outcome", string_tree body.outcome),
      (utf16 "exec_time_us", number_tree body.exec_time_us),
      (utf16 "input_bytes", number_tree body.input_bytes),
      (utf16 "ops", .object
        ((CapabilityOps.members body.ops).map fun op => (utf16 op.1, number_tree op.2)))]
  | .audit body =>
    [(utf16 "type", string_tree "audit"),
        (utf16 "decision", string_tree (Decision.as_str body.decision))]
      ++ optional_member "reason" (body.reason.map string_tree)
      ++ optional_member "detail" (body.detail.map (Value.tree float_text))

/-- What the line of an event is to say. -/
def Stamped.tree (float_text : UInt64 → String) (e : Stamped) :
    List (List UInt16 × JsonText.Tree) :=
  [(utf16 "v", number_tree EVENT_SCHEMA_VERSION), (utf16 "event_id", string_tree e.id),
      (utf16 "ts", number_tree e.ts)]
    ++ optional_member "tenant" (e.event.tenant.map string_tree)
    ++ optional_member "user" (e.event.user.map string_tree)
    ++ optional_member "plan" (e.event.plan.map string_tree)
    ++ [(utf16 "trace_id", string_tree e.event.trace_id)]
    ++ body_tree float_text e.event.body

/-- A field that may be absent is written as what it is. -/
theorem are_optional {α : Type} (name : String) (value : Option α) {text : α → String}
    {tree : α → JsonText.Tree} (h : ∀ a, JsonText.parse (utf16 (text a)) = some (tree a)) :
    JsonText.AreMembers (optional_field name (value.map text))
      (optional_member name (value.map tree)) := by
  cases value with
  | none => exact .nil
  | some a => exact .cons ⟨rfl, h a⟩ .nil

theorem are_append {as bs : List (String × String)} {vs ws : List (List UInt16 × JsonText.Tree)}
    (ha : JsonText.AreMembers as vs) (hb : JsonText.AreMembers bs ws) :
    JsonText.AreMembers (as ++ bs) (vs ++ ws) := List.rel_append ha hb

/-- So are the counts of operations. -/
theorem are_ops (ops : List (String × ℕ)) :
    JsonText.AreMembers (ops.map fun op => (op.1, toString op.2))
      (ops.map fun op => (utf16 op.1, number_tree op.2)) := by
  induction ops with
  | nil => exact .nil
  | cons op ops ih => exact .cons ⟨rfl, JsonText.parse_toString op.2⟩ ih

/-- The body of an event is written as the members it has. -/
theorem are_body (hfloat : FloatText float_text) (body : EventBody) :
    JsonText.AreMembers (body_members float_text body) (body_tree float_text body) := by
  cases body with
  | usage body =>
      exact .cons ⟨rfl, JsonText.parse_quote _⟩ (.cons ⟨rfl, JsonText.parse_quote _⟩
        (.cons ⟨rfl, JsonText.parse_toString _⟩ (.cons ⟨rfl, JsonText.parse_toString _⟩
          (.cons ⟨rfl, JsonText.parse_write_object (are_ops _)⟩ .nil))))
  | audit body =>
      apply are_append
      · apply are_append
        · exact .cons ⟨rfl, JsonText.parse_quote _⟩ (.cons ⟨rfl, JsonText.parse_quote _⟩ .nil)
        · exact are_optional "reason" body.reason JsonText.parse_quote
      · exact are_optional "detail" body.detail (parse_write hfloat)

/-- A line is the object it is to be. -/
theorem parse_to_line (hfloat : FloatText float_text) (e : Stamped) :
    JsonText.parse (utf16 (e.to_line float_text)) = some (.object (e.tree float_text)) := by
  have htrace : JsonText.AreMembers [("trace_id", JsonText.quote e.event.trace_id)]
      [(utf16 "trace_id", string_tree e.event.trace_id)] :=
    .cons ⟨rfl, JsonText.parse_quote _⟩ .nil
  apply JsonText.parse_write_object
  unfold Stamped.members Stamped.tree
  apply are_append ?_ (are_body hfloat e.event.body)
  apply are_append ?_ htrace
  apply are_append ?_ (are_optional "plan" e.event.plan JsonText.parse_quote)
  apply are_append ?_ (are_optional "user" e.event.user JsonText.parse_quote)
  apply are_append ?_ (are_optional "tenant" e.event.tenant JsonText.parse_quote)
  exact .cons ⟨rfl, JsonText.parse_toString EVENT_SCHEMA_VERSION⟩
    (.cons ⟨rfl, JsonText.parse_quote e.id⟩ (.cons ⟨rfl, JsonText.parse_toString e.ts⟩ .nil))

/-- A field that may be absent breaks no line. -/
theorem oneLine_optional {α : Type} (name : String) (value : Option α) {text : α → String}
    (h : ∀ a, OneLine (text a)) :
    ∀ m ∈ optional_field name (value.map text), OneLine m.2 := by
  cases value with
  | none => nofun
  | some a => exact List.forall_mem_singleton.mpr (h a)

/-- No member of a body breaks the line. -/
theorem oneLine_body (hfloat : FloatText float_text) (body : EventBody) :
    ∀ m ∈ body_members float_text body, OneLine m.2 := by
  cases body with
  | usage body =>
      simp only [body_members, List.forall_mem_cons]
      refine ⟨JsonText.oneLine_quote _, JsonText.oneLine_quote _, JsonText.oneLine_toString _,
        JsonText.oneLine_toString _, JsonText.oneLine_write_object ?_, nofun⟩
      intro m hm
      obtain ⟨op, -, rfl⟩ := List.mem_map.mp hm
      exact JsonText.oneLine_toString op.2
  | audit body =>
      simp only [body_members, List.forall_mem_append, List.forall_mem_cons]
      exact ⟨⟨⟨JsonText.oneLine_quote _, JsonText.oneLine_quote _, nofun⟩,
        oneLine_optional "reason" body.reason JsonText.oneLine_quote⟩,
        oneLine_optional "detail" body.detail (oneLine_write hfloat)⟩

/-- An event is one line. -/
theorem oneLine_to_line (hfloat : FloatText float_text) (e : Stamped) :
    OneLine (e.to_line float_text) := by
  apply JsonText.oneLine_write_object
  simp only [Stamped.members, List.forall_mem_append, List.forall_mem_cons]
  exact ⟨⟨⟨⟨⟨⟨JsonText.oneLine_toString _, JsonText.oneLine_quote _, JsonText.oneLine_toString _,
    nofun⟩, oneLine_optional "tenant" e.event.tenant JsonText.oneLine_quote⟩,
    oneLine_optional "user" e.event.user JsonText.oneLine_quote⟩,
    oneLine_optional "plan" e.event.plan JsonText.oneLine_quote⟩, JsonText.oneLine_quote _, nofun⟩,
    oneLine_body hfloat e.event.body⟩

/-- The names of the envelope. -/
def ENVELOPE_NAMES : List String := ["v", "event_id", "ts", "tenant", "user", "plan", "trace_id"]

/-- The names a payload may add. -/
def body_names : EventBody → List String
  | .usage _ => ["type", "outcome", "exec_time_us", "input_bytes", "ops"]
  | .audit _ => ["type", "decision", "reason", "detail"]

/-- It has its own name, or none. -/
theorem names_optional (name : String) (text : Option String) :
    ((optional_field name text).map Prod.fst).Sublist [name] := by
  cases text with
  | none => exact List.nil_sublist _
  | some text => exact List.Sublist.refl _

/-- The flattened payload has no name of the envelope, and no name is there twice. -/
theorem nodup_names (e : Stamped) : ((e.members float_text).map Prod.fst).Nodup := by
  have hbody : ((body_members float_text e.event.body).map Prod.fst).Sublist
      (body_names e.event.body) := by
    cases e.event.body with
    | usage body => exact List.Sublist.refl _
    | audit body =>
        rw [body_members, List.map_append, List.map_append]
        exact ((List.Sublist.refl _).append (names_optional "reason" _)).append
          (names_optional "detail" _)
  have hnames : ((e.members float_text).map Prod.fst).Sublist
      (ENVELOPE_NAMES ++ body_names e.event.body) := by
    simp only [Stamped.members, List.map_append]
    exact ((((((List.Sublist.refl _).append (names_optional "tenant" _)).append
      (names_optional "user" _)).append (names_optional "plan" _)).append
      (List.Sublist.refl _)).append hbody)
  have hnodup : (ENVELOPE_NAMES ++ body_names e.event.body).Nodup := by
    cases e.event.body with
    | usage body =>
        simp only [body_names]
        decide
    | audit body =>
        simp only [body_names]
        decide
  exact hnames.nodup hnodup

end Line

/-! ## Runs -/

section Runs

variable {float_text : UInt64 → String} {bound : ℕ} {s t : Pipeline}

/-- Every action is one of the channel, or leaves it as it is. This is what lets the account of
the channel be used for the pipeline. -/
theorem step_on_channel {a : Action} (h : s.step float_text bound a = some t) :
    (a.on_channel).elim (t.chan = s.chan) fun act =>
      s.chan.step (capacity bound) act = some t.chan := by
  cases a with
  | record e =>
      rw [Pipeline.step, Option.ite_none_right_eq_some] at h
      obtain ⟨chan, hchan, ht⟩ := Option.bind_eq_some_iff.mp h.2
      cases ht
      exact hchan
  | recv =>
      rw [Pipeline.step, Option.ite_none_right_eq_some] at h
      obtain ⟨chan, hchan, ht⟩ := Option.bind_eq_some_iff.mp h.2
      cases ht
      exact hchan
  | print =>
      rw [Pipeline.step] at h
      split at h
      · rw [Option.ite_none_right_eq_some, Option.some.injEq] at h
        rw [← h.2]
        rfl
      · cases h
  | print_fails written =>
      rw [Pipeline.step] at h
      split at h
      · rw [Option.ite_none_right_eq_some] at h
        obtain ⟨chan, hchan, ht⟩ := Option.bind_eq_some_iff.mp h.2
        cases ht
        exact hchan
      · cases h
  | drop_sink =>
      cases h
      rfl
  | finish =>
      rw [Pipeline.step, Option.ite_none_right_eq_some, Option.some.injEq] at h
      rw [← h.2]
      rfl

theorem offered_on_channel (a : Action) :
    a.on_channel.bind Channel.Act.offered = a.recorded := by
  cases a <;> rfl

theorem offered_eq_recorded (es : List Action) :
    (es.filterMap Action.on_channel).filterMap Channel.Act.offered = es.filterMap Action.recorded := by
  rw [List.filterMap_filterMap]
  exact congrArg (fun f => es.filterMap f) (funext offered_on_channel)

/-- The pipeline between two actions: the stream has what was printed, and perhaps the front of a
line. -/
structure Holds (float_text : UInt64 → String) (s : Pipeline) : Prop where
  dropped : s.dropped = UInt64.ofNat s.chan.refused
  stream : ∃ printed cut, s.chan.taken = printed ++ s.in_hand.toList
    ∧ s.event_stream = unlines (printed.map (Stamped.to_line float_text)) ++ cut ∧ OneLine cut
    ∧ (s.writer = .running → cut = "")
  ended : s.writer = .ended → s.in_hand = none ∧ s.chan.queue = [] ∧ s.sink = false

theorem holds_init : Holds float_text {} where
  dropped := rfl
  stream := ⟨[], "", rfl, rfl, by decide, fun _ => rfl⟩
  ended := nofun

theorem oneLine_take {line : String} (h : OneLine line) (n : ℕ) :
    OneLine (String.ofList (line.toList.take n)) := by
  rw [OneLine, String.toList_ofList]
  exact fun hmem => h (List.mem_of_mem_take hmem)

/-- A request records an event: it is queued, or counted as dropped. The stream is as it was. -/
theorem holds_record {e : Stamped} (hs : Holds float_text s)
    (h : s.step float_text bound (.record e) = some t) : Holds float_text t := by
  rw [Pipeline.step, Option.ite_none_right_eq_some] at h
  obtain ⟨hsink, h⟩ := h
  obtain ⟨chan, hchan, ht⟩ := Option.bind_eq_some_iff.mp h
  cases ht
  have hended : s.writer ≠ .ended := by
    intro hw
    rw [(hs.ended hw).2.2] at hsink
    cases hsink
  rw [Channel.Chan.step] at hchan
  by_cases hopen : s.chan.Open (capacity bound)
  · rw [if_pos hopen, Option.some.injEq] at hchan
    rw [← hchan]
    refine ⟨?_, hs.stream, fun hw => absurd hw hended⟩
    show (if _ then _ else _) = _
    rw [if_pos hopen]
    exact hs.dropped
  · rw [if_neg hopen, Option.some.injEq] at hchan
    rw [← hchan]
    refine ⟨?_, hs.stream, fun hw => absurd hw hended⟩
    show (if _ then _ else _) = UInt64.ofNat (s.chan.refused + 1)
    rw [if_neg hopen, hs.dropped, UInt64.ofNat_add]
    rfl

/-- The writer takes the next event. It has left the queue and is not printed yet. -/
theorem holds_recv (hs : Holds float_text s) (h : s.step float_text bound .recv = some t) :
    Holds float_text t := by
  rw [Pipeline.step, Option.ite_none_right_eq_some] at h
  obtain ⟨⟨hwriter, hhand⟩, h⟩ := h
  obtain ⟨chan, hchan, ht⟩ := Option.bind_eq_some_iff.mp h
  cases ht
  rw [Channel.Chan.step] at hchan
  cases hqueue : s.chan.queue with
  | nil =>
      rw [hqueue] at hchan
      cases hchan
  | cons e rest =>
      rw [hqueue] at hchan
      simp only [Option.ite_none_left_eq_some, Option.some.injEq] at hchan
      obtain ⟨-, rfl⟩ := hchan
      obtain ⟨printed, cut, htaken, hevents, hcut, hrunning⟩ := hs.stream
      refine ⟨hs.dropped, ⟨printed, cut, ?_, hevents, hcut, hrunning⟩, ?_⟩
      · rw [hhand, Option.toList_none, List.append_nil] at htaken
        show s.chan.taken ++ [e] = _
        rw [htaken]
        rfl
      · intro hw
        rw [show s.writer = .ended from hw] at hwriter
        cases hwriter

/-- The event in hand is printed, and is the last line of the stream. -/
theorem holds_print (hs : Holds float_text s)
    (h : s.step float_text bound .print = some t) : Holds float_text t := by
  rw [Pipeline.step] at h
  split at h
  case h_2 => cases h
  case h_1 e hhand =>
      rw [Option.ite_none_right_eq_some, Option.some.injEq] at h
      obtain ⟨hwriter, rfl⟩ := h
      obtain ⟨printed, cut, htaken, hevents, hcut, hrunning⟩ := hs.stream
      refine ⟨hs.dropped, ⟨printed ++ [e], "", ?_, ?_, by decide, fun _ => rfl⟩, ?_⟩
      · rw [hhand] at htaken
        show s.chan.taken = _
        rw [htaken, Option.toList_none, List.append_nil]
        rfl
      · show s.event_stream ++ _ = _
        rw [hevents, hrunning hwriter, List.map_append, unlines_append, String.append_empty,
          String.append_empty]
        show _ = _ ++ (e.to_line float_text ++ "\n" ++ "")
        rw [String.append_empty]
      · intro hw
        rw [show s.writer = .ended from hw] at hwriter
        cases hwriter

/-- The stream breaks in the middle of a line. What is out of it is the front of one line, and no
line follows it. -/
theorem holds_print_fails (hfloat : FloatText float_text) {written : ℕ} (hs : Holds float_text s)
    (h : s.step float_text bound (.print_fails written) = some t) : Holds float_text t := by
  rw [Pipeline.step] at h
  split at h
  case h_2 => cases h
  case h_1 e hhand =>
      rw [Option.ite_none_right_eq_some] at h
      obtain ⟨hwriter, h⟩ := h
      obtain ⟨chan, hchan, ht⟩ := Option.bind_eq_some_iff.mp h
      cases ht
      cases hchan
      obtain ⟨printed, cut, htaken, hevents, hcut, hrunning⟩ := hs.stream
      refine ⟨hs.dropped, ⟨printed, _, htaken, ?_, oneLine_take (oneLine_to_line hfloat e) written,
        nofun⟩, nofun⟩
      show s.event_stream ++ _ = _
      rw [hevents, hrunning hwriter, String.append_empty]

/-- What one action preserves. A record may add to the queue, a receive moves an event from there
to the writer, and only a print adds a line, of the event that the writer has. -/
theorem holds_step (hfloat : FloatText float_text) {a : Action} (hs : Holds float_text s)
    (h : s.step float_text bound a = some t) : Holds float_text t := by
  cases a with
  | record e => exact holds_record hs h
  | recv => exact holds_recv hs h
  | print => exact holds_print hs h
  | print_fails written => exact holds_print_fails hfloat hs h
  | drop_sink =>
      cases h
      exact ⟨hs.dropped, hs.stream, fun hw => ⟨(hs.ended hw).1, (hs.ended hw).2.1, rfl⟩⟩
  | finish =>
      rw [Pipeline.step, Option.ite_none_right_eq_some, Option.some.injEq] at h
      obtain ⟨⟨hwriter, hhand, hqueue, hsink⟩, rfl⟩ := h
      obtain ⟨printed, cut, htaken, hevents, hcut, hrunning⟩ := hs.stream
      exact ⟨hs.dropped, ⟨printed, cut, htaken, hevents, hcut, fun _ => hrunning hwriter⟩,
        fun _ => ⟨hhand, hqueue, hsink⟩⟩

/-- Every record finds room, and the writer there. -/
def NeverFull (float_text : UInt64 → String) (bound : ℕ) (es : List Action) : Prop :=
  Machine.Guarded (Pipeline.step float_text bound)
    (fun s a => a.recorded.isSome → s.chan.Open (capacity bound)) {} es

/-- **The account of the event stream.** Read line by line, the stream has some of the events
recorded, each as a JSON object that says what the event does; with the rest the writer has not come
to, which is bounded, and none once it has ended, these are the events recorded except for those
that are counted as dropped, in the order they were recorded. None is dropped if every record finds
room. -/
theorem stream_accounts (hfloat : FloatText float_text) {es : List Action}
    (hrun : Machine.run (Pipeline.step float_text bound) {} es = some s) :
    ∃ printed pending,
      (printed ++ pending).Sublist (es.filterMap Action.recorded)
      ∧ s.dropped = UInt64.ofNat
          ((es.filterMap Action.recorded).length - (printed ++ pending).length)
      ∧ lines s.event_stream = printed.map (Stamped.to_line float_text)
      ∧ (∀ e : Stamped, JsonText.parse (utf16 (e.to_line float_text))
            = some (.object (e.tree float_text))
          ∧ ((e.members float_text).map Prod.fst).Nodup)
      ∧ pending.length ≤ capacity bound + 1
      ∧ (s.writer = .ended → pending = [])
      ∧ (NeverFull float_text bound es →
          s.dropped = 0 ∧ printed ++ pending = es.filterMap Action.recorded) := by
  have hholds : Holds float_text s :=
    Machine.run_inv (fun _ _ _ hs ht => holds_step hfloat hs ht) holds_init hrun
  have hchan := Machine.run_inside Pipeline.chan Action.on_channel
    (fun _ _ _ ht => step_on_channel ht) hrun
  have hlength : s.chan.queue.length ≤ capacity bound :=
    Channel.run_length (Nat.zero_le _) hchan
  obtain ⟨new, hsub, haccepted, hcount⟩ := Channel.run_accounts hchan
  rw [offered_eq_recorded] at hsub hcount
  obtain ⟨printed, cut, htaken, hevents, hcut, -⟩ := hholds.stream
  have hnew : new = printed ++ (s.in_hand.toList ++ s.chan.queue) := by
    rw [← List.append_assoc, ← htaken]
    exact haccepted.symm
  have hcount' : s.chan.refused + new.length = (es.filterMap Action.recorded).length := by
    rw [hcount]
    exact Nat.zero_add _
  have hone : ∀ line ∈ printed.map (Stamped.to_line float_text), OneLine line := by
    intro line hline
    obtain ⟨e, -, rfl⟩ := List.mem_map.mp hline
    exact oneLine_to_line hfloat e
  rw [hnew] at hsub hcount'
  refine ⟨printed, s.in_hand.toList ++ s.chan.queue, hsub, ?_, ?_, ?_, ?_, ?_, ?_⟩
  · rw [hholds.dropped, ← hcount', Nat.add_sub_cancel]
  · rw [hevents, lines_unlines hone hcut]
  · exact fun e => ⟨parse_to_line hfloat e, nodup_names e⟩
  · have hhand : s.in_hand.toList.length ≤ 1 := by
      cases s.in_hand with
      | none => exact Nat.zero_le 1
      | some e => exact Nat.le_refl 1
    rw [List.length_append]
    omega
  · intro hw
    obtain ⟨hhand, hqueue, -⟩ := hholds.ended hw
    rw [hhand, hqueue]
    rfl
  · intro hroom
    have hrefused : s.chan.refused = 0 := by
      refine Channel.run_open hchan (Machine.guarded_inside (fun _ _ _ ht => step_on_channel ht)
        ?_ hrun hroom)
      intro s a act hact hopen hoffered
      apply hopen
      rw [← offered_on_channel, hact]
      exact hoffered
    rw [hrefused, Nat.zero_add] at hcount'
    refine ⟨by rw [hholds.dropped, hrefused]; rfl, ?_⟩
    exact hsub.eq_of_length hcount'

end Runs

/-! ### A channel of one place -/

def denied_event (id : String) : Stamped where
  id := id
  ts := 0
  event :=
    { tenant := some "ws_acme", user := none, plan := none, trace_id := "trace-xyz"
      body := .audit ⟨.denied, some "QUOTA_EXCEEDED", none⟩ }

/-- The second event finds the channel full. -/
def full_run : List Action :=
  [.record (denied_event "1"), .record (denied_event "2"), .recv, .print, .drop_sink, .finish]

/-- A channel of one place, and three events of which one is dropped: one line is printed, and one
event is still on its way. -/
theorem stream_accounts_full_run : ∃ (s : Pipeline) (printed : List Stamped),
    Machine.run (Pipeline.step no_floats 1) {} full_run = some s ∧ s.dropped = 1
      ∧ lines s.event_stream = printed.map (Stamped.to_line no_floats)
      ∧ printed.Sublist [denied_event "1", denied_event "2"] ∧ printed.length = 1 := by
  obtain ⟨s, hrun, hdropped, hwriter⟩ : ∃ s,
      Machine.run (Pipeline.step no_floats 1) {} full_run = some s ∧ s.dropped = 1
        ∧ s.writer = .ended := ⟨_, rfl, rfl, rfl⟩
  obtain ⟨printed, pending, hsub, hcount, hlines, -, -, hended, -⟩ :=
    stream_accounts no_floats_text hrun
  rw [hended hwriter, List.append_nil] at hsub hcount
  refine ⟨s, printed, hrun, hdropped, hlines, hsub, ?_⟩
  have hle : printed.length ≤ 2 := hsub.length_le
  have hrecorded : (full_run.filterMap Action.recorded).length = 2 := rfl
  rw [hdropped, hrecorded] at hcount
  have hnat := congrArg UInt64.toNat hcount
  interval_cases printed.length
  · cases hnat
  · rfl
  · cases hnat

end Runlet.Events
