/-
The books of a server: the ten outcome counters, the execution-latency count and
the events, over any sequence of requests.

A request leaves the pipeline at one of about a dozen exits. Some of them count
and record in a helper, some at the call site, and one helper does half of it.
Every step is therefore given one property, `Gate`: past it nothing has been
written yet, and a request that left there has one count to its name, and one
denial where there is a sink for events. `tallied` sums the counts over whole
sequences, and `accounting_conserved` the events with them.
-/
import Runlet.Trusted

set_option autoImplicit false

namespace Runlet.Handler

open Effects Text Runlet.Json Runlet.Wire Runlet.Errors Runlet.Identity Runlet.Capabilities
open Runlet.Quota Runlet.Concurrency

/-! ## The books -/

/-- What the process keeps: the counters, how many latencies the execution
histogram has seen, and the events handed to the sink. -/
structure Books where
  counters : Counter → ℕ := fun _ => 0
  exec_latency : ℕ := 0
  events : List Event := []

/-- What an effect writes. -/
def Books.enter (b : Books) : Effect → Books
  | .count counter =>
    { b with counters := Function.update b.counters counter (b.counters counter + 1) }
  | .observe .exec_latency _ => { b with exec_latency := b.exec_latency + 1 }
  | .record event => { b with events := b.events ++ [event] }
  | .observe .http _ | .observe .s3 _ | .observe (.driver _) _ | .span _ _ | .ask_quota _ _ | .dial
  | .open_session _ | .ask_permits _ | .execute _ => b

def books (trace : List Effect) : Books := trace.foldl Books.enter {}

/-- The ten counters together. -/
def Books.total (b : Books) : ℕ :=
  b.counters .success + b.counters .script_error + b.counters .capability_error
    + b.counters .timeout + b.counters .memory_limit + b.counters .malformed_response
    + b.counters .internal_error + b.counters .rejections + b.counters .overload_global
    + b.counters .overload_partition

def Event.is_usage (event : Event) : Bool :=
  match event.body with
  | .usage _ => true
  | .audit _ => false

/-- The decision of an audit event. -/
def Event.decision (event : Event) : Option Decision :=
  match event.body with
  | .audit body => some body.decision
  | .usage _ => none

/-- One line of the books, and the start of an execution. -/
inductive Entry
  | counted (counter : Counter)
  | latency
  | usage
  | audit (decision : Decision)
  | executed
  deriving DecidableEq, Repr

def Effect.entry : Effect → Option Entry
  | .count counter => some (.counted counter)
  | .observe .exec_latency _ => some .latency
  | .record event =>
    match event.body with
    | .usage _ => some .usage
    | .audit body => some (.audit body.decision)
  | .execute _ => some .executed
  | .observe .http _ | .observe .s3 _ | .observe (.driver _) _ | .span _ _ | .ask_quota _ _ | .dial
  | .open_session _ | .ask_permits _ => none

/-- The lines a trace writes. -/
def entries (effects : List Effect) : List Entry := effects.filterMap Effect.entry

def Entry.is_counted : Entry → Bool
  | counted _ => true
  | latency | usage | audit _ | executed => false

/-! ### What the books say of a trace -/

theorem entries_append (t₁ t₂ : List Effect) : entries (t₁ ++ t₂) = entries t₁ ++ entries t₂ :=
  List.filterMap_append

/-- A number kept in the books that every effect raises by the lines of one kind
it writes, is the number of such lines. -/
theorem books_count {μ : Books → ℕ} {p : Entry → Bool} (hzero : μ {} = 0)
    (henter : ∀ b e, μ (b.enter e) = μ b + (entries [e]).countP p) (trace : List Effect) :
    μ (books trace) = (entries trace).countP p := by
  have hfold : ∀ b, μ (trace.foldl Books.enter b) = μ b + (entries trace).countP p := by
    induction trace with
    | nil => exact fun b => rfl
    | cons e trace ih =>
        intro b
        have hsplit : entries (e :: trace) = entries [e] ++ entries trace := entries_append [e] trace
        rw [List.foldl_cons, ih, henter, hsplit, List.countP_append]
        omega
  rw [books, hfold, hzero, Nat.zero_add]

/-- The effects by what they write: four kinds do, the others leave the books alone. -/
@[elab_as_elim]
theorem Effect.entry_cases {motive : Effect → Prop} (e : Effect)
    (count : ∀ counter, motive (.count counter))
    (latency : ∀ micros, motive (.observe .exec_latency micros))
    (record : ∀ event, motive (.record event)) (execute : ∀ inv, motive (.execute inv))
    (quiet : ∀ e : Effect, e.entry = none → (∀ b : Books, b.enter e = b) → motive e) :
    motive e := by
  cases e with
  | count counter => exact count counter
  | record event => exact record event
  | execute invocation => exact execute invocation
  | observe histogram micros =>
      cases histogram with
      | exec_latency => exact latency micros
      | http => exact quiet _ rfl fun _ => rfl
      | s3 => exact quiet _ rfl fun _ => rfl
      | driver kind => exact quiet _ rfl fun _ => rfl
  | span field value => exact quiet _ rfl fun _ => rfl
  | ask_quota tenant plan => exact quiet _ rfl fun _ => rfl
  | dial => exact quiet _ rfl fun _ => rfl
  | open_session init => exact quiet _ rfl fun _ => rfl
  | ask_permits partition => exact quiet _ rfl fun _ => rfl

theorem entries_quiet {e : Effect} (h : e.entry = none) : entries [e] = [] := by
  rw [entries, List.filterMap_cons_none h, List.filterMap_nil]

/-- An event is a line of the usage trail or of the audit trail. -/
theorem entries_record (event : Event) :
    ∃ entry, entries [.record event] = [entry] ∧ entry.is_counted = false ∧ entry ≠ .latency
      ∧ (entry = .usage ↔ event.is_usage = true)
      ∧ ∀ decision, entry = .audit decision ↔ event.decision = some decision := by
  obtain ⟨tenant, user, plan, trace_id, body⟩ := event
  cases body with
  | usage body => exact ⟨.usage, rfl, rfl, by simp, by simp [Event.is_usage], by simp [Event.decision]⟩
  | audit body =>
      refine ⟨.audit body.decision, rfl, rfl, by simp, by simp [Event.is_usage], ?_⟩
      simp [Event.decision]

/-- What one effect adds to a counter is the number of its entries for that counter. The books are
only ever read through lemmas of this kind, so a run of effects is counted by counting entries. -/
theorem counters_enter (counter : Counter) (b : Books) (e : Effect) :
    (b.enter e).counters counter
      = b.counters counter + (entries [e]).countP (· = .counted counter) := by
  induction e using Effect.entry_cases with
  | count counter' =>
      by_cases hsame : counter' = counter
      · simp [Books.enter, entries, Effect.entry, hsame]
      · simp [Books.enter, entries, Effect.entry, hsame, Ne.symm hsame]
  | latency micros => rfl
  | record event =>
      obtain ⟨entry, hentry, hcounted, -⟩ := entries_record event
      have hne : entry ≠ .counted counter := by
        rintro rfl
        exact absurd hcounted (by simp [Entry.is_counted])
      simp [hentry, hne, Books.enter]
  | execute inv => rfl
  | quiet e he hbooks => rw [hbooks, entries_quiet he, List.countP_nil, Nat.add_zero]

/-- The total grows with each effect that ends a request, as often as there is such an entry. -/
theorem total_enter (b : Books) (e : Effect) :
    (b.enter e).total = b.total + (entries [e]).countP Entry.is_counted := by
  induction e using Effect.entry_cases with
  | count counter =>
      -- one of the ten summands
      cases counter <;> simp [Books.enter, Books.total, entries, Effect.entry, Entry.is_counted,
        Function.update] <;> omega
  | latency micros => rfl
  | record event =>
      obtain ⟨entry, hentry, hcounted, -⟩ := entries_record event
      simp [hentry, hcounted, Books.enter, Books.total]
  | execute inv => rfl
  | quiet e he hbooks => rw [hbooks, entries_quiet he, List.countP_nil, Nat.add_zero]

/-- The latency histogram takes one observation for each entry `.latency`. -/
theorem exec_latency_enter (b : Books) (e : Effect) :
    (b.enter e).exec_latency = b.exec_latency + (entries [e]).countP (· = .latency) := by
  induction e using Effect.entry_cases with
  | count counter => rfl
  | latency micros => rfl
  | record event =>
      obtain ⟨entry, hentry, -, hlatency, -⟩ := entries_record event
      simp [hentry, hlatency, Books.enter]
  | execute inv => rfl
  | quiet e he hbooks => rw [hbooks, entries_quiet he, List.countP_nil, Nat.add_zero]

/-- Events of one kind are lines of one kind: the record of such an event is the only effect that
makes such a line, so the one is counted by the other. -/
theorem events_enter {q : Event → Bool} {line : Entry}
    (hrecord : ∀ event entry, entries [.record event] = [entry] → (entry = line ↔ q event = true))
    (hcounted : ∀ counter, .counted counter ≠ line) (hlatency : .latency ≠ line)
    (hexecuted : .executed ≠ line) (b : Books) (e : Effect) :
    (b.enter e).events.countP q = b.events.countP q + (entries [e]).countP (· = line) := by
  induction e using Effect.entry_cases with
  | count counter => simp [Books.enter, entries, Effect.entry, hcounted]
  | latency micros => simp [Books.enter, entries, Effect.entry, hlatency]
  | record event =>
      obtain ⟨entry, hentry, -⟩ := entries_record event
      rw [Books.enter, hentry, List.countP_append, List.countP_singleton, List.countP_singleton]
      simp only [decide_eq_true_eq, hrecord event entry hentry]
  | execute inv => simp [Books.enter, entries, Effect.entry, hexecuted]
  | quiet e he hbooks => rw [hbooks, entries_quiet he, List.countP_nil, Nat.add_zero]

theorem total_books (trace : List Effect) :
    (books trace).total = (entries trace).countP Entry.is_counted :=
  books_count rfl total_enter trace

theorem counters_books (counter : Counter) (trace : List Effect) :
    (books trace).counters counter = (entries trace).countP (· = .counted counter) :=
  books_count (μ := fun b => b.counters counter) rfl (counters_enter counter) trace

theorem exec_latency_books (trace : List Effect) :
    (books trace).exec_latency = (entries trace).countP (· = .latency) :=
  books_count rfl exec_latency_enter trace

/-- The usage events in the books are the entries of usage in the trace. -/
theorem usage_books (trace : List Effect) :
    (books trace).events.countP Event.is_usage = (entries trace).countP (· = .usage) := by
  refine books_count (μ := fun b => b.events.countP Event.is_usage) rfl ?_ trace
  refine events_enter ?_ (by simp) (by simp) (by simp)
  intro event entry hentry
  obtain ⟨entry', hentry', -, -, husage, -⟩ := entries_record event
  rw [hentry, List.cons.injEq] at hentry'
  rw [hentry'.1, husage]

/-- The audit events of one decision in the books are the audit entries of that decision. -/
theorem audit_books (decision : Decision) (trace : List Effect) :
    (books trace).events.countP (·.decision = some decision)
      = (entries trace).countP (· = .audit decision) := by
  refine books_count (μ := fun b => b.events.countP (·.decision = some decision)) rfl ?_ trace
  refine events_enter ?_ (by simp) (by simp) (by simp)
  intro event entry hentry
  obtain ⟨entry', hentry', -, -, -, haudit⟩ := entries_record event
  rw [hentry, List.cons.injEq] at hentry'
  rw [hentry'.1, haudit, decide_eq_true_eq]

/-! ## One request

The reading `Effect.entry` of a computation is the list of lines it writes. -/

section Gates

variable {w : World} {state : AppState} {headers : HeaderMap}
  {payload : Except String ExecRequest} {α β δ : Type}

/-- The event of a denial, where there is a sink for events. -/
def denial (events : Bool) : List Entry := if events then [.audit .denied] else []

/-- The events of an execution. -/
def trail (events : Bool) : List Entry := if events then [.usage, .audit .allowed] else []

/-- The lines of a request that was turned away: one count, and a denial. -/
def Denied (events : Bool) (lines : List Entry) : Prop :=
  ∃ counter, lines.Perm (.counted counter :: denial events)

/-- The lines of a request that was executed. -/
def Executed (events : Bool) (lines : List Entry) : Prop :=
  ∃ counter, lines = .executed :: .latency :: (trail events ++ [.counted counter])

variable {events : Bool}

/-- A step of the pipeline behind the bearer: past it nothing is written, and a
request that leaves there is denied. The counts do not depend on the events: with
no sink the lines are the same without them. -/
structure Gate (events : Bool) (m : Eff Effect Response α) : Prop where
  passes : ∀ a, m.result = .ok a → reading Effect.entry m = []
  leaves : ∀ response, m.result = .error response → Denied events (reading Effect.entry m)

/-- A helper that writes the denial and leaves the count to its caller. -/
structure Refusal (events : Bool) (m : Eff Effect Response α) : Prop where
  passes : ∀ a, m.result = .ok a → reading Effect.entry m = []
  leaves : ∀ response, m.result = .error response → reading Effect.entry m = denial events

theorem gate_pure (a : α) : Gate events (pure a : Eff Effect Response α) where
  passes _ _ := rfl
  leaves _ h := by simp [pure] at h

theorem refusal_pure (a : α) : Refusal events (pure a : Eff Effect Response α) where
  passes _ _ := rfl
  leaves _ h := by simp [pure] at h

/-- Gates are put behind one another. The first that refuses leaves its entries and no others; one
that lets the request through leaves none, so the entries are those of the gate that decides. -/
theorem gate_bind {m : Eff Effect Response α} {f : α → Eff Effect Response β} (hm : Gate events m)
    (hf : ∀ a, m.result = .ok a → Gate events (f a)) : Gate events (m >>= f) := by
  cases hresult : m.result with
  | ok a =>
      -- past `m` nothing is written, so the lines are those of `f a`
      have hlines : reading Effect.entry (m >>= f) = reading Effect.entry (f a) := by
        rw [reading_bind hresult, hm.passes a hresult, List.nil_append]
      constructor
      · intro b hb
        rw [result_bind hresult] at hb
        rw [hlines]
        exact (hf a hresult).passes b hb
      · intro response hleft
        rw [result_bind hresult] at hleft
        rw [hlines]
        exact (hf a hresult).leaves response hleft
  | error response =>
      constructor
      · intro b hb
        rw [result_bind_error hresult] at hb
        exact absurd hb (by simp)
      · intro response' _
        rw [reading_bind_error hresult]
        exact hm.leaves response hresult

/-- An effect that is no entry of the books does not change what a refusal leaves in them. -/
theorem refusal_perform {e : Effect} (he : e.entry = none) {f : Unit → Eff Effect Response β}
    (hf : Refusal events (f ())) : Refusal events (perform e >>= f) := by
  have hlines : reading Effect.entry (perform e >>= f) = reading Effect.entry (f ()) := by
    rw [reading_bind result_perform, reading_perform, he, Option.toList_none, List.nil_append]
  constructor
  · intro b hb
    rw [hlines]
    exact hf.passes b hb
  · intro response hleft
    rw [hlines]
    exact hf.leaves response hleft

/-- A gate in front of a computation that is denied or executes. -/
theorem gate_then {m : Eff Effect Response α} {f : α → Eff Effect Response β} (hm : Gate events m)
    (hf : ∀ a, m.result = .ok a →
      Denied events (reading Effect.entry (f a)) ∨ Executed events (reading Effect.entry (f a))) :
    Denied events (reading Effect.entry (m >>= f))
      ∨ Executed events (reading Effect.entry (m >>= f)) := by
  cases hresult : m.result with
  | ok a =>
      rw [reading_bind hresult, hm.passes a hresult, List.nil_append]
      exact hf a hresult
  | error response =>
      rw [reading_bind_error hresult]
      exact Or.inl (hm.leaves response hresult)

/-- The caller of a helper adds the count. -/
theorem Refusal.reject {m : Eff Effect Response α} (hm : Refusal events m) :
    Gate events (handle m Handler.reject) := by
  cases hresult : m.result with
  | ok a =>
      constructor
      · intro b _
        rw [reading_handle hresult]
        exact hm.passes a hresult
      · intro response hleft
        rw [ok_handle.mpr (Or.inl hresult)] at hleft
        exact absurd hleft (by simp)
  | error response =>
      constructor
      · intro b hb
        rw [result_handle hresult] at hb
        exact absurd hb (by simp)
      · intro response' _
        rw [reading_handle_error hresult, hm.leaves response hresult]
        exact ⟨.rejections, (List.perm_append_singleton _ _)⟩

/-! ### The pipeline -/

/-- A denied request has one audit event when events are on, and none when they are off. -/
theorem lines_emit_denied {ρ : Type} (identity : Option TrustedIdentity)
    (trace_id reason : String) (detail : Option Value) :
    reading Effect.entry (emit_denied state identity trace_id reason detail : Eff Effect ρ Unit)
      = denial state.events := by
  rw [emit_denied, denial]
  by_cases hevents : state.events = true
  · rw [if_pos hevents, if_pos hevents, reading_perform]
    rfl
  · rw [if_neg hevents, if_neg hevents]
    rfl

/-- An executed request has its usage event and its audit event, when events are on. -/
theorem lines_emit_executed {ρ : Type} (identity : Option TrustedIdentity) (info : Meta)
    (outcome : String) :
    reading Effect.entry (emit_executed state identity info outcome : Eff Effect ρ Unit)
      = trail state.events := by
  rw [emit_executed, trail]
  by_cases hevents : state.events = true
  · rw [if_pos hevents, if_pos hevents]
    rfl
  · rw [if_neg hevents, if_neg hevents]
    rfl

/-- A helper's refusal: the event, then the response. -/
theorem refusal_of_denied (identity : Option TrustedIdentity) (trace_id reason : String)
    (detail : Option Value) (response : Response) :
    Refusal state.events (do emit_denied state identity trace_id reason detail; leave response
      : Eff Effect Response α) where
  passes a h := by simp at h
  leaves _ _ := by
    rw [reading_bind result_emit_denied, lines_emit_denied, reading_leave, List.append_nil]

/-- A step that writes nothing, and whose failure the pipeline itself denies. -/
theorem gate_deny {m : Eff Effect δ α} (hquiet : reading Effect.entry m = [])
    (identity : Option TrustedIdentity) (trace_id reason : String) (answer : δ → Response) :
    Gate state.events (handle m fun d => deny state identity trace_id reason (answer d)) := by
  cases hresult : m.result with
  | ok a =>
      constructor
      · intro b _
        rw [reading_handle hresult, hquiet]
      · intro response hleft
        rw [ok_handle.mpr (Or.inl hresult)] at hleft
        exact absurd hleft (by simp)
  | error d =>
      constructor
      · intro b hb
        rw [result_handle hresult] at hb
        exact absurd hb (by simp)
      · intro response _
        rw [reading_handle_error hresult, hquiet, deny, reading_bind result_perform,
          reading_bind result_emit_denied, lines_emit_denied, reading_leave, List.append_nil]
        exact ⟨.rejections, List.Perm.refl _⟩

/-- Each way in which the identity of a caller is refused leaves what a refusal leaves. -/
theorem refusal_resolve_identity (trace_id : String) :
    Refusal state.events (resolve_identity state headers trace_id) := by
  unfold resolve_identity
  split
  · exact refusal_pure none
  have hrefuse : ∀ identity code message, Refusal state.events (refuse_identity state identity trace_id code
      message : Eff Effect Response (Option TrustedIdentity)) :=
    fun identity code message => refusal_of_denied _ _ _ _ _
  dsimp only
  split
  · exact hrefuse _ _ _
  split
  · exact hrefuse _ _ _
  split
  · exact hrefuse _ _ _
  split
  · exact hrefuse _ _ _
  exact refusal_pure _

/-- A member without the role is refused before anything is entered for an execution. -/
theorem refusal_enforce_member_authz (identity : Option TrustedIdentity) (config : RequestConfig)
    (trace_id : String) : Refusal state.events (enforce_member_authz state identity config trace_id) := by
  unfold enforce_member_authz
  split
  · split
    · exact refusal_pure ()
    · exact refusal_of_denied _ _ _ _ _
  · exact refusal_pure ()

/-- A tenant over its quota is refused before anything is entered for an execution. -/
theorem refusal_enforce_quota (identity : Option TrustedIdentity) (trace_id : String)
    (info : Meta) : Refusal state.events (enforce_quota w state identity trace_id info) := by
  unfold enforce_quota
  split
  · split
    · refine refusal_perform rfl ?_
      split
      · exact refusal_pure _
      · exact refusal_of_denied _ _ _ _ _
    · exact refusal_pure none
  · exact refusal_pure none

theorem lines_record_identity_attrs (identity : Option TrustedIdentity) :
    reading Effect.entry (record_identity_attrs identity) = [] :=
  reading_eq_nil (all_record_identity_attrs fun _ _ => rfl)

theorem lines_connect_session (transport : SidecarTransport) (init : WireInit) :
    reading Effect.entry (connect_session w transport init) = [] :=
  reading_eq_nil (all_connect_session rfl fun _ => rfl)

/-- Behind the bearer, the first half of the pipeline is one gate. It is five gates one behind the
other, and each of them is passed without a line or leaves those of a refusal. -/
theorem gate_check_request (hbearer : BearerMatched state headers) :
    Gate state.events (check_request w state headers payload) := by
  unfold check_request
  -- `enforce_auth` counts without an event, and is a gate only because the bearer matches
  have hauth : (enforce_auth w state headers).result = .ok () := enforce_auth_ok.mpr hbearer
  have hquiet : Gate state.events (enforce_auth w state headers) := by
    constructor
    · intro a _
      unfold enforce_auth
      cases htoken : state.access_token with
      | none => rfl
      | some expected =>
          simp only [hbearer expected htoken, if_true]
          rfl
    · intro response hleft
      rw [hauth] at hleft
      exact absurd hleft (by simp)
  -- the steps of `check_request`, in the order of the source
  refine gate_bind hquiet fun _ _ => ?_
  refine gate_bind (refusal_resolve_identity _).reject fun identity _ => ?_
  refine gate_bind ?_ fun _ _ => ?_
  · constructor
    · exact fun _ _ => lines_record_identity_attrs identity
    · intro response hleft
      unfold record_identity_attrs at hleft
      split at hleft <;> simp [pure] at hleft
  refine gate_bind (gate_deny (reading_lift _) _ _ _ _) fun req _ => ?_
  refine gate_bind (refusal_enforce_member_authz _ _ _).reject fun _ _ => ?_
  refine gate_bind (gate_deny (reading_lift _) _ _ _ _) fun source _ => ?_
  refine gate_bind (gate_deny (reading_lift _) _ _ _ _) fun _ _ => ?_
  exact gate_pure _

/-- The session is a gate like the others: opened, or refused with what a refusal leaves. -/
theorem gate_egress_session (c : Cleared) : Gate state.events (egress_session w state c) := by
  unfold egress_session
  split
  · refine gate_bind ?_ fun _ _ => gate_pure _
    exact gate_deny (lines_connect_session _ _) _ _ _ _
  · exact gate_pure none

/-- The shed is counted under its own name in `admit`, and denied by the caller. Together the two
make the lines of one refusal, and an admission makes none. -/
theorem gate_admission (identity : Option TrustedIdentity) (trace_id : String)
    (partition : Option String) (info : Meta) :
    Gate state.events (handle (admit_execution w state partition info) fun shed => do
      emit_denied state identity trace_id "OVERLOADED" none
      leave shed) := by
  have hshed : ∀ counter response,
      Denied state.events ([.counted counter] ++ reading Effect.entry (do
        emit_denied state identity trace_id "OVERLOADED" none
        leave response : Eff Effect Response Unit)) := by
    intro counter response
    rw [reading_bind result_emit_denied, lines_emit_denied, reading_leave, List.append_nil]
    exact ⟨counter, List.Perm.refl _⟩
  unfold admit_execution
  cases hadmission : acquire_permits state.partition_hash w.permits partition with
  | granted bucket permits =>
      constructor
      · exact fun _ _ => rfl
      · intro response hleft
        simp [handle, bind, perform, pure] at hleft
  | partition_busy =>
      constructor
      · intro a ha
        simp at ha
      · exact fun _ _ => hshed .overload_partition _
  | global_busy =>
      constructor
      · intro a ha
        simp at ha
      · exact fun _ _ => hshed .overload_global _

/-- The answer to an execution: one latency, the two events, one count. Which counter it is
depends on the outcome; that it is one, and what stands before it, does not. -/
theorem lines_build_response (identity : Option TrustedIdentity) (result : JoinResult)
    (base_meta : Meta) :
    ∃ counter, reading Effect.entry (build_response w state identity result base_meta)
      = .latency :: (trail state.events ++ [.counted counter]) := by
  have herror : ∀ info err, reading Effect.entry (respond_engine_error state identity info err)
      = trail state.events ++ [.counted (engine_error_counter err)] := by
    intro info err
    rw [respond_engine_error, reading_bind (result_emit_executed _ _ _),
      lines_emit_executed]
    rfl
  -- the books have one line for the execution's latency, and none for a capability's
  have hlatencies : ∀ exec backend,
      reading Effect.entry (record_capability_latencies exec backend) = [] := by
    apply reading_record_capability_latencies
    intro histogram micros hne
    cases histogram with
    | exec_latency => exact absurd rfl hne
    | http => rfl
    | s3 => rfl
    | driver kind => rfl
  unfold build_response
  rw [reading_bind result_perform]
  obtain join_err | ⟨engine_err | ⟨js_json | engine_err, metrics⟩, backend⟩ := result
  · exact ⟨_, congrArg _ (herror base_meta _)⟩
  · exact ⟨_, congrArg _ (herror base_meta engine_err)⟩
  · refine ⟨.success, congrArg _ ?_⟩
    dsimp only
    rw [reading_bind rfl, hlatencies, reading_bind (result_emit_executed _ _ _),
      lines_emit_executed]
    rfl
  · refine ⟨engine_error_counter engine_err, congrArg _ ?_⟩
    dsimp only
    rw [reading_bind rfl, hlatencies]
    exact herror _ engine_err

/-- Behind the bearer, the lines of a run are those of a denial or of one execution. The gates are
passed or one of them denies; past the last the request is executed, however that ends. -/
theorem lines_run_execute (hbearer : BearerMatched state headers) :
    Denied state.events (reading Effect.entry (run_execute w state headers payload))
      ∨ Executed state.events (reading Effect.entry (run_execute w state headers payload)) := by
  unfold run_execute
  refine gate_then (gate_check_request hbearer) fun c _ => ?_
  refine gate_then (refusal_enforce_quota _ _ _).reject fun _ _ => ?_
  refine gate_then (gate_egress_session c) fun session _ => ?_
  refine gate_then (gate_admission _ _ _ _) fun _ _ => Or.inr ?_
  obtain ⟨counter, hlines⟩ := lines_build_response (w := w) c.identity
    (w.run (c.invocation session))
    (((Meta.new w.trace_id c.script_bytes c.context_bytes w.exec_time_us).with_key
      c.req.key).with_partition c.partition)
  refine ⟨counter, ?_⟩
  rw [reading_bind result_perform, reading_perform, hlines]
  rfl

/-- In front of the bearer, a run is one count and nothing else. -/
theorem lines_unauthorized (hbearer : ¬ BearerMatched state headers) :
    reading Effect.entry (run_execute w state headers payload) = [.counted .rejections] := by
  cases hauth : (enforce_auth w state headers).result with
  | ok u => exact absurd (enforce_auth_ok.mp hauth) hbearer
  | error response =>
      have hcheck : (check_request w state headers payload).result = .error response :=
        result_bind_error hauth
      rw [run_execute, reading_bind_error hcheck, check_request, reading_bind_error hauth]
      unfold enforce_auth at hauth ⊢
      split at hauth
      · simp [pure] at hauth
      · split at hauth
        · simp [pure] at hauth
        · rename_i hdenied
          simp only [hdenied]
          rfl

end Gates

/-! ## Sequences of requests -/

/-- A request, and what the code meets while it serves it. -/
structure Arrival where
  world : World
  headers : HeaderMap
  payload : Except String ExecRequest

namespace Arrival

variable (a : Arrival) (state : AppState)

def effects : List Effect := (run_execute a.world state a.headers a.payload).effects

/-- The request reached execution. -/
def executed : Bool := (a.effects state).any fun e => e.entry = some .executed

/-- What the request adds to the books. -/
def books : Books := Handler.books (a.effects state)

end Arrival

instance (state : AppState) (headers : HeaderMap) : Decidable (BearerMatched state headers) :=
  inferInstanceAs (Decidable (∀ expected ∈ state.access_token,
    request_authorized headers expected = true))

/-- The effects of requests served one after the other. -/
def served (state : AppState) (arrivals : List Arrival) : List Effect :=
  arrivals.flatMap (·.effects state)

/-- What one request puts on the books. -/
structure Accounted (state : AppState) (a : Arrival) : Prop where
  counter : ∃ counter, ∀ c, (a.books state).counters c = if c = counter then 1 else 0
  latency : (a.books state).exec_latency = if a.executed state then 1 else 0
  allowed : (a.books state).events.countP (·.decision = some .allowed)
    = if a.executed state then 1 else 0
  denied : (a.books state).events.countP (·.decision = some .denied)
    = if BearerMatched state a.headers ∧ a.executed state = false then 1 else 0
  usage : (a.books state).events.countP Event.is_usage = if a.executed state then 1 else 0

/-- What a sequence of requests puts on the books. -/
structure Conserved (state : AppState) (arrivals : List Arrival) (b : Books) : Prop where
  total : b.total = arrivals.length
  latency : b.exec_latency = arrivals.countP (·.executed state)
  allowed : b.events.countP (·.decision = some .allowed) = arrivals.countP (·.executed state)
  denied : b.events.countP (·.decision = some .denied)
    = arrivals.countP fun a => BearerMatched state a.headers ∧ a.executed state = false
  usage : b.events.countP Event.is_usage = arrivals.countP (·.executed state)

/-- The lines a request writes say what it puts on the books. -/
theorem accounted_of_entries {state : AppState} {a : Arrival}
    (hcounter : ∃ counter, ∀ c, (entries (a.effects state)).countP (· = .counted c)
      = if c = counter then 1 else 0)
    (hlatency : (entries (a.effects state)).countP (· = .latency)
      = if a.executed state then 1 else 0)
    (hallowed : (entries (a.effects state)).countP (· = .audit .allowed)
      = if a.executed state then 1 else 0)
    (hdenied : (entries (a.effects state)).countP (· = .audit .denied)
      = if BearerMatched state a.headers ∧ a.executed state = false then 1 else 0)
    (husage : (entries (a.effects state)).countP (· = .usage)
      = if a.executed state then 1 else 0) : Accounted state a := by
  obtain ⟨counter, hcounter⟩ := hcounter
  refine ⟨⟨counter, fun c => ?_⟩, ?_, ?_, ?_, ?_⟩
  · rw [Arrival.books, counters_books, hcounter]
  · rw [Arrival.books, exec_latency_books, hlatency]
  · rw [Arrival.books, audit_books, hallowed]
  · rw [Arrival.books, audit_books, hdenied]
  · rw [Arrival.books, usage_books, husage]

theorem executed_iff {state : AppState} {a : Arrival} :
    a.executed state = true ↔ .executed ∈ entries (a.effects state) := by
  simp [Arrival.executed, entries]

/-- The lines of a request: in front of the bearer one count; behind it those of a
denial, or of one execution. -/
theorem entries_cases (state : AppState) (a : Arrival) :
    (¬ BearerMatched state a.headers ∧ a.executed state = false
        ∧ entries (a.effects state) = [.counted .rejections])
    ∨ (BearerMatched state a.headers ∧ a.executed state = false
        ∧ Denied state.events (entries (a.effects state)))
    ∨ (a.executed state = true ∧ Executed state.events (entries (a.effects state))) := by
  by_cases hbearer : BearerMatched state a.headers
  case neg =>
    have hlines : entries (a.effects state) = [.counted .rejections] := lines_unauthorized hbearer
    refine Or.inl ⟨hbearer, ?_, hlines⟩
    rw [← Bool.not_eq_true, executed_iff, hlines]
    simp
  right
  have hrun : Denied state.events (entries (a.effects state))
      ∨ Executed state.events (entries (a.effects state)) := lines_run_execute hbearer
  rcases hrun with hdenied | hexecuted
  · refine Or.inl ⟨hbearer, ?_, hdenied⟩
    obtain ⟨counter, hperm⟩ := hdenied
    rw [← Bool.not_eq_true, executed_iff, hperm.mem_iff, denial]
    cases state.events <;> simp
  · refine Or.inr ⟨?_, hexecuted⟩
    obtain ⟨counter, hlines⟩ := hexecuted
    rw [executed_iff, hlines]
    exact List.mem_cons_self

/-- With a sink, the lines say everything a request puts on the books. -/
theorem accounted {state : AppState} (hevents : state.events = true) (a : Arrival) :
    Accounted state a := by
  rcases entries_cases state a with ⟨hbearer, hexecuted, hlines⟩ |
    ⟨hbearer, hexecuted, counter, hperm⟩ | ⟨hexecuted, counter, hlines⟩
  · apply accounted_of_entries <;> simp [hlines, hexecuted, hbearer, List.countP_cons]
    exact ⟨.rejections, fun c => by simp [eq_comm]⟩
  -- a denial writes its two lines in either order: only counts of them are used
  · rw [denial, if_pos hevents] at hperm
    apply accounted_of_entries <;>
      simp [hperm.countP_eq, hexecuted, hbearer, List.countP_cons]
    exact ⟨counter, fun c => by simp [eq_comm]⟩
  · rw [trail, if_pos hevents] at hlines
    apply accounted_of_entries <;> simp [hlines, hexecuted, List.countP_cons]
    exact ⟨counter, fun c => by simp [eq_comm]⟩

/-- Sink or no sink, a request writes one count, and a latency when it executed. -/
theorem countP_entries (state : AppState) (a : Arrival) :
    (entries (a.effects state)).countP Entry.is_counted = 1
      ∧ (entries (a.effects state)).countP (· = .latency) = if a.executed state then 1 else 0 := by
  rcases entries_cases state a with ⟨hbearer, hexecuted, hlines⟩ |
    ⟨hbearer, hexecuted, counter, hperm⟩ | ⟨hexecuted, counter, hlines⟩
  · rw [hlines, hexecuted]
    exact ⟨rfl, rfl⟩
  · rw [hperm.countP_eq, hperm.countP_eq, hexecuted, denial]
    cases state.events <;> exact ⟨rfl, rfl⟩
  · rw [hlines, hexecuted, trail]
    cases state.events <;> exact ⟨rfl, rfl⟩

/-- A line that each request writes at most once is written as often as there are
requests that write it, whatever the order of the trace. -/
theorem countP_served {state : AppState} {arrivals : List Arrival} {trace : List Effect}
    (htrace : trace.Perm (served state arrivals)) {p : Entry → Bool} {q : Arrival → Bool}
    (h : ∀ a, (entries (a.effects state)).countP p = if q a then 1 else 0) :
    (entries trace).countP p = arrivals.countP q := by
  have hsum : ∀ arrivals : List Arrival,
      (entries (served state arrivals)).countP p = arrivals.countP q := by
    intro arrivals
    induction arrivals with
    | nil => rfl
    | cons a arrivals ih =>
        have hsplit : entries (served state (a :: arrivals))
            = entries (a.effects state) ++ entries (served state arrivals) := entries_append _ _
        rw [hsplit, List.countP_append, h, ih, List.countP_cons, Nat.add_comm]
  have hentries : (entries trace).Perm (entries (served state arrivals)) := htrace.filterMap _
  rw [hentries.countP_eq, hsum]

/-- The counts and the latencies of requests served in any order and interleaving,
with or without a sink for events. -/
theorem tallied {state : AppState} {arrivals : List Arrival} {trace : List Effect}
    (htrace : trace.Perm (served state arrivals)) :
    (books trace).total = arrivals.length
      ∧ (books trace).exec_latency = arrivals.countP (·.executed state) := by
  constructor
  · rw [total_books, countP_served htrace (q := fun _ => true), List.countP_true]
    exact fun a => (countP_entries state a).1
  · rw [exec_latency_books, countP_served htrace]
    exact fun a => (countP_entries state a).2

/-- The books of any interleaving: each clause counts entries, and the number of entries of a kind
does not depend on the order in which the effects of the requests come. -/
theorem conserved {state : AppState} (hevents : state.events = true) {arrivals : List Arrival}
    {trace : List Effect} (htrace : trace.Perm (served state arrivals)) :
    Conserved state arrivals (books trace) := by
  have haccounted : ∀ a, Accounted state a := accounted hevents
  -- each total over the trace is the sum of what the requests put on the books
  refine ⟨(tallied htrace).1, (tallied htrace).2, ?_, ?_, ?_⟩
  · rw [audit_books, countP_served htrace]
    exact fun a => (audit_books _ _).symm.trans (haccounted a).allowed
  · rw [audit_books, countP_served htrace]
    intro a
    simp only [decide_eq_true_eq]
    exact (audit_books _ _).symm.trans (haccounted a).denied
  · rw [usage_books, countP_served htrace]
    exact fun a => (usage_books _).symm.trans (haccounted a).usage

/-- **Accounting is conserved.** Every request of a sequence puts one count on the
books, and a latency, a usage and an allowed event exactly when it executed; behind
the bearer, a denial otherwise. The sums follow for the requests served in any
order and interleaving, and after each of them when they are served one by one. -/
theorem accounting_conserved (state : AppState) (hevents : state.events = true)
    (arrivals : List Arrival) :
    (∀ a ∈ arrivals, Accounted state a)
    ∧ (∀ trace, trace.Perm (served state arrivals) → Conserved state arrivals (books trace))
    ∧ ∀ n ≤ arrivals.length, (books (served state (arrivals.take n))).total = n := by
  refine ⟨fun a _ => accounted hevents a, fun trace htrace => conserved hevents htrace, ?_⟩
  intro n hn
  rw [(conserved hevents (List.Perm.refl _)).total, List.length_take, Nat.min_eq_left hn]

/-- An executed request, and one without a bearer. -/
def mixed_arrivals : List Arrival :=
  [⟨calm_world, acme_headers, .ok orders_request⟩, ⟨calm_world, [], .ok orders_request⟩]

/-- One request that is refused and one that runs: both are in the total, one in the histogram. -/
theorem accounting_conserved_mixed :
    (books (served acme_state mixed_arrivals)).total = 2
      ∧ (books (served acme_state mixed_arrivals)).exec_latency = 1 := by
  obtain ⟨-, hsums, -⟩ := accounting_conserved acme_state rfl mixed_arrivals
  have hconserved := hsums _ (List.Perm.refl _)
  have hexecuted : mixed_arrivals.countP (·.executed acme_state) = 1 := by decide +kernel
  refine ⟨hconserved.total, ?_⟩
  rw [hconserved.latency, hexecuted]

end Runlet.Handler
