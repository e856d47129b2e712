/-
The deterministic profile: what the engine binds into the global object, what
`harden` takes away (`crates/runlet-core/src/engine.rs`, `js/determinism.js`), and
what is left of the wall clock and of randomness for a handler to find.

The global object is a small graph: the objects and functions that lead to a native,
and their properties. A script is anything that reads properties off the objects it
holds and calls the functions it has found; it starts with the global object, and
what it found while its source was evaluated it still holds in the handler. What a
script assigns is its own code, and is not part of the graph.

Everything two executions share is an `Env`; what they may differ in is a `World`:
the clock and the random draws at each step, and whether the interrupt handler finds
the deadline passed there. It breaks the run off and leaves the effects so far. The
egress and the capabilities are not bound under this profile.
-/
import Runlet.Decimal
import Runlet.Sys

set_option autoImplicit false

namespace Runlet.Determinism

open Interaction Runlet.Json Runlet.Sys

/-! ## The global object -/

inductive Obj
  | global_this
  | math
  | date_prototype
  | sys_object
  | sys_date
  | sys_crypto
  /-- `__emit`, `__read`, `__decimal` and `__sys`. -/
  | emit
  | read
  | decimal
  | sys
  /-- The built-in `Date` and its statics, and the built-in `Math.random`. -/
  | real_date
  | date_now
  | date_parse
  | date_utc
  | math_random
  /-- The wrappers `$sys.date.now` and `$sys.crypto.uuid` of `js/sys.js`. -/
  | sys_date_now
  | sys_crypto_uuid
  /-- The global `performance` of the engine, and its `now`. -/
  | performance
  | performance_now
  /-- What the sanitizer puts in their place. -/
  | safe_date (real : Obj)
  | disabled (name : String)
  deriving DecidableEq, Repr

/-- The properties of the objects; `none` is `undefined`. -/
abbrev Heap := Obj → String → Option Obj

def Heap.set (heap : Heap) (o : Obj) (key : String) (value : Option Obj) : Heap :=
  fun o' key' => if o' = o ∧ key' = key then value else heap o' key'

/-- `ctx.with` after the injections: the built-ins of the engine, and the bound
globals. `__read` is bound when there is a hook. -/
def inject_globals (has_hook : Bool) : Heap
  | .global_this, "Math" => some .math
  | .global_this, "Date" => some .real_date
  | .global_this, "performance" => some .performance
  | .global_this, "$sys" => some .sys_object
  | .global_this, "__emit" => some .emit
  | .global_this, "__read" => if has_hook then some .read else none
  | .global_this, "__decimal" => some .decimal
  | .global_this, "__sys" => some .sys
  | .math, "random" => some .math_random
  | .real_date, "now" => some .date_now
  | .real_date, "parse" => some .date_parse
  | .real_date, "UTC" => some .date_utc
  | .real_date, "prototype" => some .date_prototype
  | .date_prototype, "constructor" => some .real_date
  | .sys_object, "date" => some .sys_date
  | .sys_object, "crypto" => some .sys_crypto
  | .sys_date, "now" => some .sys_date_now
  | .sys_crypto, "uuid" => some .sys_crypto_uuid
  | .performance, "now" => some .performance_now
  | _, _ => none

def sanitize_globals (heap : Heap) : Heap :=
  (heap.set .global_this "eval" none).set .global_this "Proxy" none

/-- `if (typeof Math !== "undefined")`: the first block of `js/determinism.js`. -/
def sanitize_math (heap : Heap) : Heap :=
  match heap .global_this "Math" with
  | some found => heap.set found "random" (some (.disabled "Math.random"))
  | none => heap

/-- The second block. `SafeDate` keeps the prototype, `parse` and `UTC` of the
`Date` it finds. -/
def sanitize_date (heap : Heap) : Heap :=
  match heap .global_this "Date" with
  | some real =>
    let safe := Obj.safe_date real
    let heap := heap.set safe "prototype" (heap real "prototype")
    let heap := heap.set safe "parse" (heap real "parse")
    let heap := heap.set safe "UTC" (heap real "UTC")
    let heap := heap.set safe "now" (some (.disabled "Date.now"))
    heap.set .global_this "Date" (some safe)
  | none => heap

/-- The last block. -/
def sanitize_sys (heap : Heap) : Heap :=
  match heap .global_this "$sys" with
  | some found =>
    let heap := match heap found "date" with
      | some date => heap.set date "now" (some (.disabled "$sys.date.now"))
      | none => heap
    match heap found "crypto" with
    | some crypto => heap.set crypto "uuid" (some (.disabled "$sys.crypto.uuid"))
    | none => heap
  | none => heap

def sanitize_determinism (heap : Heap) : Heap := sanitize_sys (sanitize_date (sanitize_math heap))

/-- `harden` under `Profile::Deterministic`. -/
def harden (heap : Heap) : Heap := sanitize_determinism (sanitize_globals heap)

/-! ## What a call finds -/

/-- The engine's built-ins, over its values `V`. A `Date` or a time is given in epoch
milliseconds. -/
structure JsLib (V : Type) where
  string : String → V
  /-- The conversion of an argument into a Rust `String`. -/
  as_string : V → Option String
  number : ℤ → V
  /-- `Math.random()` for a draw of the generator. -/
  random_unit : UInt64 → V
  /-- `new Date()` and `Date()` at an instant, and `new Date(a, …)`. -/
  date_at : ℤ → V
  date_text : ℤ → V
  make_date : List V → V
  date_parse : List V → V
  date_utc : List V → V
  /-- `performance.now()`, so many nanoseconds after the context was made. -/
  elapsed : ℤ → V
  /-- `call` of `js/sys.js` on what the bridge answered: the value, or the message
  it throws. -/
  unwrap : String → Except String V
  /-- The object `new` makes of a function that returns no object. -/
  fresh_object : V
  /-- The message of a call that cannot be made: no function, no constructor, or
  arguments that do not convert. -/
  type_error : List V → String
  /-- The message of the error an interrupt throws. -/
  interrupted : String

/-- What the executions have in common. The hook may keep a count: its answer is
given for the number of reads before it. -/
structure Env (D V : Type) where
  sys : SysLib
  decimal : Decimal.DecimalLib D
  js : JsLib V
  config : Option SysConfig
  read_hook : Option (ℕ → String → Except String String)
  max_ops : ℕ
  context : V

/-- The clock and the random source, as one call finds them. -/
structure Moment where
  ambient : Ambient
  clock : ℤ
  draw : UInt64
  elapsed : ℤ

/-- What is outside of an execution, by the steps it has made: the moment of the next, and
whether a poll of the interrupt handler before it finds the deadline passed. -/
structure World where
  moment : ℕ → Moment
  expired : ℕ → Bool
  /-- When the context was made, `performance.timeOrigin`. -/
  origin : ℤ

/-! ## The native functions -/

/-- The closure bound to `__emit`. -/
def native_emit (max_ops : ℕ) (effects : List String) (value : String) : String × List String :=
  if max_ops ≤ effects.length then
    (s!"too many emit() calls: limit is {max_ops} per execution", effects)
  else ("", effects ++ [value])

/-- The closure bound to `__read`, on the hook's answer. -/
def native_read (to_string : Value → Except String String) (answer : Except String String) :
    String :=
  match answer with
  | .ok value_json => "\x7b\"value\":" ++ value_json ++ "\x7d"
  | .error message =>
    let escaped := ((to_string (.string message)).toOption).getD "\"read hook error\""
    "\x7b\"__readError\":" ++ escaped ++ "\x7d"

inductive Query (V : Type)
  /-- Read a property of the `i`-th held object, and hold what it is. -/
  | get (i : ℕ) (key : String)
  /-- Call the `i`-th held object, with or without `new`. -/
  | call (i : ℕ) (construct : Bool) (args : List V)

inductive Answer (V : Type)
  | held (i : ℕ)
  | undefined
  | value (v : V)
  | thrown (message : String)
  deriving DecidableEq

structure State where
  heap : Heap
  held : List Obj
  effects : List String
  reads : ℕ
  steps : ℕ

section Host

variable {D V : Type} (env : Env D V)

/-- The first `n` arguments, as the strings a native of `n` parameters takes. -/
def strings (n : ℕ) (args : List V) : Option (List String) :=
  if args.length < n then none else (args.take n).mapM env.js.as_string

/-- What a wrapper of `js/sys.js` makes of a bridge call. -/
def wrapped (now : Moment) (op : SysCall) : Answer V :=
  match env.js.unwrap (native_sys env.sys now.ambient (secrets_of env.config) op) with
  | .ok v => .value v
  | .error message => .thrown message

def now_call : SysCall := ⟨"date", "now", "\x7b\x7d"⟩

def uuid_call : SysCall := ⟨"crypto", "uuid", "\x7b\x7d"⟩

/-- One call of a function, at a moment. -/
def call (now : Moment) (s : State) (o : Obj) (construct : Bool) (args : List V) :
    Answer V × State :=
  match o, construct with
  | .emit, false =>
    match strings env 1 args with
    | some [value] =>
      let (text, effects) := native_emit env.max_ops s.effects value
      (.value (env.js.string text), { s with effects })
    | _ => (.thrown (env.js.type_error args), s)
  | .read, false =>
    match env.read_hook, strings env 1 args with
    | some hook, some [arg] =>
      let text := native_read env.sys.to_string (hook s.reads arg)
      (.value (env.js.string text), { s with reads := s.reads + 1 })
    | _, _ => (.thrown (env.js.type_error args), s)
  | .decimal, false =>
    match strings env 3 args with
    | some [op, lhs, rhs] =>
      let text := Decimal.native_decimal env.decimal env.sys.to_string op lhs rhs
      (.value (env.js.string text), s)
    | _ => (.thrown (env.js.type_error args), s)
  | .sys, false =>
    match strings env 3 args with
    | some [domain, op, payload] =>
      let text := native_sys env.sys now.ambient (secrets_of env.config) ⟨domain, op, payload⟩
      (.value (env.js.string text), s)
    | _ => (.thrown (env.js.type_error args), s)
  | .real_date, true =>
    match args with
    | [] => (.value (env.js.date_at now.clock), s)
    | _ => (.value (env.js.make_date args), s)
  -- without `new` the built-in ignores its arguments
  | .real_date, false => (.value (env.js.date_text now.clock), s)
  | .date_now, false => (.value (env.js.number now.clock), s)
  | .date_parse, false => (.value (env.js.date_parse args), s)
  | .date_utc, false => (.value (env.js.date_utc args), s)
  | .math_random, false => (.value (env.js.random_unit now.draw), s)
  | .sys_date_now, _ => (wrapped env now now_call, s)
  | .sys_crypto_uuid, false => (wrapped env now uuid_call, s)
  -- `new` drops the string the wrapper returns
  | .sys_crypto_uuid, true =>
    match dispatch env.sys now.ambient uuid_call.domain uuid_call.op uuid_call.payload
      (secrets_of env.config) with
    | .ok _ => (.value env.js.fresh_object, s)
    | .error message => (.thrown message, s)
  | .performance_now, false => (.value (env.js.elapsed now.elapsed), s)
  | .safe_date real, _ =>
    match args with
    | [] => (.thrown "new Date() (current time) is disabled in the deterministic profile", s)
    | _ =>
      if real = .real_date then (.value (env.js.make_date (args.take 7)), s)
      else (.thrown (env.js.type_error args), s)
  | .disabled name, _ => (.thrown s!"{name} is disabled in the deterministic profile", s)
  | _, _ => (.thrown (env.js.type_error args), s)

/-- A property read. `timeOrigin` is the one property with a value of its own. -/
def get (w : World) (s : State) (o : Obj) (key : String) : Answer V × State :=
  if o = .performance ∧ key = "timeOrigin" then (.value (env.js.number w.origin), s)
  else
    match s.heap o key with
    | some found => (.held s.held.length, { s with held := s.held ++ [found] })
    | none => (.undefined, s)

/-- The host of a script in a world. -/
def host (w : World) (s : State) (q : Query V) : Answer V × State :=
  let after := { s with steps := s.steps + 1 }
  match q with
  | .get i key =>
    match s.held[i]? with
    | some o => get env w after o key
    | none => (.undefined, after)
  | .call i construct args =>
    match s.held[i]? with
    | some o => call env (w.moment s.steps) after o construct args
    | none => (.thrown (env.js.type_error args), after)

/-- The interrupt handler of `setup_timeout`, where the engine polls it. -/
def World.interrupts (w : World) (s : State) : Bool := w.expired s.steps

/-- The state a source is evaluated in: it holds the global object. -/
def inject : State where
  heap := inject_globals env.read_hook.isSome
  held := [.global_this]
  effects := []
  reads := 0
  steps := 0

/-- A user source: evaluated, it defines a handler or fails. -/
abbrev Program (V Out : Type) :=
  Script (Query V) (Answer V) (Except String (V → Script (Query V) (Answer V) Out))

/-- How an execution ends: `EngineError::Syntax`, `Internal` and `Timeout`, or with what the
handler does. -/
inductive Outcome (Out : Type)
  | syntax_error (message : String)
  | internal (message : String)
  | timeout
  | handled (out : Out)
  deriving DecidableEq

variable {Out : Type}

/-- `harden`, in the state the source has left. Its own source is a step that can be
interrupted. -/
def State.hardened (s : State) : State :=
  { s with heap := harden s.heap, steps := s.steps + 1 }

/-- `invoke_handler`. -/
def invoke_handler (w : World) (handler : V → Script (Query V) (Answer V) Out) (s : State) :
    Outcome Out × List String :=
  let handled := run_until (host env w) w.interrupts (handler env.context) s
  match handled.out with
  | none => (.timeout, handled.final.effects)
  | some out => (.handled out, handled.final.effects)

/-- `run`: evaluate the source, harden, call the handler. The outcome comes with the
emitted effects. -/
def execute (w : World) (program : Program V Out) : Outcome Out × List String :=
  let evaluated := run_until (host env w) w.interrupts program (inject env)
  match evaluated.out with
  -- the flag is looked at in the handler only
  | none => (.syntax_error env.js.interrupted, evaluated.final.effects)
  | some (.error message) => (.syntax_error message, evaluated.final.effects)
  | some (.ok handler) =>
    let hardened := evaluated.final.hardened
    if w.interrupts hardened then (.internal env.js.interrupted, hardened.effects)
    else invoke_handler env w handler { hardened with steps := hardened.steps + 1 }

end Host

/-! ## What reads the world -/

/-- The bridge calls that read the clock or the random source. -/
def SysReads (lib : SysLib) (op : SysCall) : Prop :=
  (∃ parsed, lib.from_str op.payload = .ok parsed)
    ∧ (op.domain = "date" ∧ op.op = "now" ∨ op.domain = "crypto" ∧ op.op = "uuid")

section Reads

variable {D V : Type} (env : Env D V)

/-- The calls that read the clock or the random source, by function and arguments. -/
def CallReads (o : Obj) (construct : Bool) (args : List V) : Prop :=
  match o, construct with
  | .sys, false => ∃ domain op payload, strings env 3 args = some [domain, op, payload]
      ∧ SysReads env.sys ⟨domain, op, payload⟩
  | .real_date, true => args = []
  | .real_date, false => True
  | .date_now, false => True
  | .math_random, false => True
  | .sys_date_now, _ => SysReads env.sys now_call
  | .sys_crypto_uuid, false => SysReads env.sys uuid_call
  | .performance_now, false => True
  | _, _ => False

def ReadsWorld (s : State) : Query V → Prop
  | .get i key => s.held[i]? = some .performance ∧ key = "timeOrigin"
  | .call i construct args => ∃ o, s.held[i]? = some o ∧ CallReads env o construct args

/-- No step of the run reads the world, and no poll finds the deadline passed. -/
def RunsFree {α : Type} (w : World) (script : Script (Query V) (Answer V) α) (s : State) : Prop :=
  Along (host env w) (fun s q => ¬ ReadsWorld env s q) script s
    ∧ Unbroken (host env w) w.interrupts script s

/-- The execution reads nothing of the world and ends in time: the evaluation of the source, the
sanitizer and the handler. -/
def WorldFree {Out : Type} (w : World) (program : Program V Out) : Prop :=
  RunsFree env w program (inject env)
    ∧ ∀ handler, (run (host env w) program (inject env)).out = .ok handler →
      let hardened := (run (host env w) program (inject env)).final.hardened
      w.interrupts hardened = false
        ∧ RunsFree env w (handler env.context) { hardened with steps := hardened.steps + 1 }

end Reads

/-! ## A call that does not read it -/

section Agree

variable {D V : Type} {env : Env D V}

/-- Of the crypto operations only `uuid` looks at what the moment gives. -/
theorem crypto_dispatch_ambient {lib : SysLib} {op : String} (hop : op ≠ "uuid")
    (now now' : Ambient) (payload : Value) (secrets : SecretStore) :
    crypto_dispatch lib now op payload secrets = crypto_dispatch lib now' op payload secrets := by
  unfold crypto_dispatch
  split
  · rfl
  · rfl
  · rfl
  · exact absurd rfl hop
  · rfl

/-- Of the date operations only `now` does. -/
theorem date_dispatch_ambient {lib : SysLib} {op : String} (hop : op ≠ "now")
    (now now' : Ambient) (payload : Value) :
    date_dispatch lib now op payload = date_dispatch lib now' op payload := by
  unfold date_dispatch
  split
  · exact absurd rfl hop
  · rfl
  · rfl
  · rfl
  · rfl
  · rfl
  · rfl

/-- Of all the operations of `__sys`, two read the ambient. -/
theorem dispatch_ambient {lib : SysLib} {op : SysCall} (h : ¬ SysReads lib op)
    (now now' : Ambient) (secrets : SecretStore) :
    dispatch lib now op.domain op.op op.payload secrets
      = dispatch lib now' op.domain op.op op.payload secrets := by
  rw [dispatch, dispatch]
  cases hparse : lib.from_str op.payload with
  | error err => rfl
  | ok parsed =>
      have hok : (Except.ok parsed : Except String Value).mapError
          (fun err => s!"invalid payload: {err}") = .ok parsed := rfl
      rw [hok, Result.ok_bind, Result.ok_bind]
      have hnot : ¬ (op.domain = "date" ∧ op.op = "now" ∨ op.domain = "crypto" ∧ op.op = "uuid") :=
        fun hor => h ⟨⟨parsed, hparse⟩, hor⟩
      split
      · rename_i hdomain
        apply crypto_dispatch_ambient
        intro hop
        exact hnot (Or.inr ⟨hdomain, hop⟩)
      · rename_i hdomain
        apply date_dispatch_ambient
        intro hop
        exact hnot (Or.inl ⟨hdomain, hop⟩)
      · rfl

theorem native_sys_ambient {lib : SysLib} {op : SysCall} (h : ¬ SysReads lib op)
    (now now' : Ambient) (secrets : SecretStore) :
    native_sys lib now secrets op = native_sys lib now' secrets op := by
  rw [native_sys, native_sys, dispatch_ambient h now now']

theorem wrapped_ambient {op : SysCall} (h : ¬ SysReads env.sys op) (now now' : Moment) :
    wrapped env now op = wrapped env now' op := by
  rw [wrapped, wrapped, native_sys_ambient h now.ambient now'.ambient]

/-- Whether a UUID is drawn does not depend on which. -/
theorem uuid_dispatch (lib : SysLib) (now now' : Ambient) (secrets : SecretStore) :
    (∃ v v', dispatch lib now "crypto" "uuid" uuid_call.payload secrets = .ok v
        ∧ dispatch lib now' "crypto" "uuid" uuid_call.payload secrets = .ok v')
      ∨ dispatch lib now "crypto" "uuid" uuid_call.payload secrets
        = dispatch lib now' "crypto" "uuid" uuid_call.payload secrets := by
  rw [dispatch, dispatch]
  cases hparse : lib.from_str uuid_call.payload with
  | error err => exact Or.inr rfl
  | ok parsed => exact Or.inl ⟨.string now.new_v4, .string now'.new_v4, rfl, rfl⟩

/-- A call that reads neither the clock nor a random draw answers alike at any two moments. By
cases on the function that is called. -/
theorem call_agree {o : Obj} {construct : Bool} {args : List V}
    (h : ¬ CallReads env o construct args) (now now' : Moment) (s : State) :
    call env now s o construct args = call env now' s o construct args := by
  -- one case per function; `rfl` where the body does not mention the moment
  cases o with
  | sys =>
      cases construct with
      | true => rfl
      | false =>
          rw [call, call]
          split
          · rename_i domain op payload hstrings
            have hsys : ¬ SysReads env.sys ⟨domain, op, payload⟩ :=
              fun hreads => h ⟨domain, op, payload, hstrings, hreads⟩
            rw [native_sys_ambient hsys now.ambient now'.ambient]
          · rfl
  | real_date =>
      cases construct with
      | false => exact absurd trivial h
      | true =>
          cases args with
          | nil => exact absurd rfl h
          | cons a args => rfl
  | date_now =>
      cases construct with
      | false => exact absurd trivial h
      | true => rfl
  | math_random =>
      cases construct with
      | false => exact absurd trivial h
      | true => rfl
  | sys_date_now =>
      have hwrapped : wrapped env now now_call = wrapped env now' now_call := by
        apply wrapped_ambient
        cases construct with
        | false => exact h
        | true => exact h
      cases construct with
      | false => exact Prod.ext hwrapped rfl
      | true => exact Prod.ext hwrapped rfl
  | sys_crypto_uuid =>
      cases construct with
      | false => exact Prod.ext (wrapped_ambient h now now') rfl
      | true =>
          rcases uuid_dispatch env.sys now.ambient now'.ambient (secrets_of env.config) with
            ⟨v, v', hv, hv'⟩ | heq
          · simp only [call, uuid_call] at hv hv' ⊢
            rw [hv, hv']
          · simp only [call, uuid_call] at heq ⊢
            rw [heq]
  | performance_now =>
      cases construct with
      | false => exact absurd trivial h
      | true => rfl
  | emit => cases construct <;> rfl
  | read => cases construct <;> rfl
  | decimal => cases construct <;> rfl
  | date_parse => cases construct <;> rfl
  | date_utc => cases construct <;> rfl
  | safe_date real => cases construct <;> rfl
  | disabled name => cases construct <;> rfl
  | performance => rfl
  | global_this => rfl
  | math => rfl
  | date_prototype => rfl
  | sys_object => rfl
  | sys_date => rfl
  | sys_crypto => rfl

/-- So does a query of the host that reads no world: a property, a call or a conversion. -/
theorem host_agree {s : State} {q : Query V} (h : ¬ ReadsWorld env s q) (w w' : World) :
    host env w s q = host env w' s q := by
  cases q with
  | get i key =>
      rw [host, host]
      cases ho : s.held[i]? with
      | none => rfl
      | some o =>
          have hkey : ¬ (o = .performance ∧ key = "timeOrigin") := by
            rintro ⟨rfl, hkey⟩
            exact h ⟨ho, hkey⟩
          simp only [get, if_neg hkey]
  | call i construct args =>
      rw [host, host]
      cases ho : s.held[i]? with
      | none => rfl
      | some o =>
          apply call_agree
          intro hreads
          exact h ⟨o, ho, hreads⟩

/-- Runs that no world shows in are the same in any two. By induction on the script, with
`host_agree` for each query: the same answer, and the same state to go on from. -/
theorem run_world_free {α : Type} {script : Script (Query V) (Answer V) α} {s : State}
    {w w' : World} (h : RunsFree env w script s) (h' : RunsFree env w' script s) :
    run_until (host env w) w.interrupts script s = run_until (host env w') w'.interrupts script s
      ∧ run (host env w) script s = run (host env w') script s := by
  have hstep : ∀ t t' q, t = t' → ¬ ReadsWorld env t q →
      (host env w t q).1 = (host env w' t' q).1 ∧ (host env w t q).2 = (host env w' t' q).2 := by
    rintro t t' q rfl hnot
    rw [host_agree hnot w w']
    exact ⟨rfl, rfl⟩
  obtain ⟨hlog, hout, hfinal⟩ := run_agree hstep rfl h.1
  have hsame := Run.ext hlog hout hfinal
  refine ⟨?_, hsame⟩
  rw [run_until_of_unbroken h.2, run_until_of_unbroken h'.2, hsame]

/-- Source and handler agree, one after the other. -/
theorem execute_world_free {Out : Type} {program : Program V Out} {w w' : World}
    (h : WorldFree env w program) (h' : WorldFree env w' program) :
    execute env w program = execute env w' program := by
  obtain ⟨hsource, hhandler⟩ := h
  obtain ⟨hsource', hhandler'⟩ := h'
  obtain ⟨huntil, hsame⟩ := run_world_free hsource hsource'
  rw [← hsame] at hhandler'
  rw [execute, execute, ← huntil, run_until_of_unbroken hsource.2]
  dsimp only
  cases hout : (run (host env w) program (inject env)).out with
  | error message => rfl
  | ok handler =>
      obtain ⟨htime, hhandled⟩ := hhandler handler hout
      obtain ⟨htime', hhandled'⟩ := hhandler' handler hout
      dsimp only
      rw [htime, htime', invoke_handler, invoke_handler, (run_world_free hhandled hhandled').1]

end Agree

/-! ## A call that reads it -/

/-- The libraries show what they are given: for some two instants, or two draws, the
script gets two values. -/
structure Shows {D V : Type} (env : Env D V) : Prop where
  string : Function.Injective env.js.string
  millis : ∃ m m' : ℕ, m < 2 ^ 63 ∧ m' < 2 ^ 63
    ∧ env.js.unwrap (value_json env.sys (of_i64 m)) ≠ env.js.unwrap (value_json env.sys (of_i64 m'))
  uuid : ∃ u u' : String, env.js.unwrap (value_json env.sys (.string u))
    ≠ env.js.unwrap (value_json env.sys (.string u'))
  number : ∃ z z', env.js.number z ≠ env.js.number z'
  date_at : ∃ z z', env.js.date_at z ≠ env.js.date_at z'
  date_text : ∃ z z', env.js.date_text z ≠ env.js.date_text z'
  random_unit : ∃ d d', env.js.random_unit d ≠ env.js.random_unit d'
  elapsed : ∃ z z', env.js.elapsed z ≠ env.js.elapsed z'

section Differ

variable {D V : Type} {env : Env D V}

/-- What `__sys` answers for the time is the time, as a number. -/
theorem native_sys_now {lib : SysLib} {payload : String} {parsed : Value}
    (hparse : lib.from_str payload = .ok parsed) {m : ℕ} (hm : m < 2 ^ 63) (uuid : String)
    (secrets : SecretStore) :
    native_sys lib ⟨.ok m, uuid⟩ secrets ⟨"date", "now", payload⟩ = value_json lib (of_i64 m) := by
  have hrange : checked_i64 (m : ℤ) = some (m : ℤ) := by
    have hbounds : -2 ^ 63 ≤ (m : ℤ) ∧ (m : ℤ) < 2 ^ 63 := by omega
    rw [checked_i64, if_pos hbounds]
  have hnow : now_millis ⟨.ok m, uuid⟩ = .ok (m : ℤ) := by
    have hok : (Except.ok m : Except String ℕ).mapError
        (fun err => s!"system clock error: {err}") = .ok m := rfl
    rw [now_millis, hok, Result.ok_bind, hrange, ok_or]
  have hdispatch : dispatch lib ⟨.ok m, uuid⟩ "date" "now" payload secrets = .ok (of_i64 m) := by
    rw [dispatch, Result.mapError_eq_ok.mpr hparse, Result.ok_bind]
    show (now_millis ⟨.ok m, uuid⟩ >>= fun millis => Except.ok (of_i64 millis)) = _
    rw [hnow, Result.ok_bind]
  rw [native_sys, hdispatch]

/-- What it answers for a uuid is the draw. -/
theorem native_sys_uuid {lib : SysLib} {payload : String} {parsed : Value}
    (hparse : lib.from_str payload = .ok parsed) (now : Ambient) (secrets : SecretStore) :
    native_sys lib now secrets ⟨"crypto", "uuid", payload⟩
      = value_json lib (.string now.new_v4) := by
  have hdispatch : dispatch lib now "crypto" "uuid" payload secrets
      = .ok (.string now.new_v4) := by
    rw [dispatch, Result.mapError_eq_ok.mpr hparse, Result.ok_bind]
    rfl
  rw [native_sys, hdispatch]

/-- A bridge call that reads the world is unwrapped to two values in two of them. -/
theorem sys_differs (hshows : Shows env) {op : SysCall} (h : SysReads env.sys op) :
    ∃ now now', env.js.unwrap (native_sys env.sys now (secrets_of env.config) op)
      ≠ env.js.unwrap (native_sys env.sys now' (secrets_of env.config) op) := by
  obtain ⟨domain, name, payload⟩ := op
  obtain ⟨⟨parsed, hparse⟩, hop⟩ := h
  rcases hop with ⟨hdomain, hname⟩ | ⟨hdomain, hname⟩
  · dsimp only at hdomain hname
    rw [hdomain, hname]
    obtain ⟨m, m', hm, hm', hne⟩ := hshows.millis
    refine ⟨⟨.ok m, ""⟩, ⟨.ok m', ""⟩, ?_⟩
    rw [native_sys_now hparse hm, native_sys_now hparse hm']
    exact hne
  · dsimp only at hdomain hname
    rw [hdomain, hname]
    obtain ⟨u, u', hne⟩ := hshows.uuid
    refine ⟨⟨.ok 0, u⟩, ⟨.ok 0, u'⟩, ?_⟩
    rw [native_sys_uuid hparse, native_sys_uuid hparse]
    exact hne

/-- Two moments with the same wrapped answer have the same answer. -/
theorem wrapped_inj {now now' : Moment} {op : SysCall}
    (h : wrapped env now op = wrapped env now' op) :
    env.js.unwrap (native_sys env.sys now.ambient (secrets_of env.config) op)
      = env.js.unwrap (native_sys env.sys now'.ambient (secrets_of env.config) op) := by
  rw [wrapped, wrapped] at h
  cases ha : env.js.unwrap (native_sys env.sys now.ambient (secrets_of env.config) op) with
  | ok v =>
      cases hb : env.js.unwrap (native_sys env.sys now'.ambient (secrets_of env.config) op) with
      | ok v' =>
          rw [ha, hb] at h
          rw [Answer.value.inj h]
      | error message =>
          rw [ha, hb] at h
          cases h
  | error message =>
      cases hb : env.js.unwrap (native_sys env.sys now'.ambient (secrets_of env.config) op) with
      | ok v' =>
          rw [ha, hb] at h
          cases h
      | error message' =>
          rw [ha, hb] at h
          rw [Answer.thrown.inj h]

/-- A moment with that ambient. -/
def at_ambient (ambient : Ambient) : Moment := ⟨ambient, 0, 0, 0⟩

/-- An operation that reads the world can be told apart through its wrapper. -/
theorem wrapped_differs (hshows : Shows env) {op : SysCall} (h : SysReads env.sys op) :
    ∃ now now', wrapped env now op ≠ wrapped env now' op := by
  obtain ⟨now, now', hne⟩ := sys_differs hshows h
  refine ⟨at_ambient now, at_ambient now', ?_⟩
  intro heq
  exact hne (wrapped_inj heq)

theorem value_differs {s : State} {v v' : V} (hne : v ≠ v') :
    (Answer.value v, s) ≠ (Answer.value v', s) := by
  intro heq
  exact hne (Answer.value.inj (Prod.mk.inj heq).1)

/-- A call that reads the world can be told apart at two moments, as long as the engine shows a
value as it is. By cases on the function: the clock, the draws, and the two behind `__sys`. -/
theorem call_differs (hshows : Shows env) {o : Obj} {construct : Bool} {args : List V}
    (h : CallReads env o construct args) (s : State) :
    ∃ now now', call env now s o construct args ≠ call env now' s o construct args := by
  -- the six functions that read the world first; of the others `CallReads` is false
  cases o with
  | sys =>
      cases construct with
      | true => exact absurd h id
      | false =>
          obtain ⟨domain, op, payload, hstrings, hreads⟩ := h
          obtain ⟨now, now', hne⟩ := sys_differs hshows hreads
          refine ⟨at_ambient now, at_ambient now', ?_⟩
          simp only [call, hstrings]
          apply value_differs
          intro heq
          apply hne
          exact congrArg env.js.unwrap (hshows.string heq)
  | real_date =>
      cases construct with
      | false =>
          obtain ⟨z, z', hne⟩ := hshows.date_text
          exact ⟨⟨⟨.ok 0, ""⟩, z, 0, 0⟩, ⟨⟨.ok 0, ""⟩, z', 0, 0⟩, value_differs hne⟩
      | true =>
          have hargs : args = [] := h
          subst hargs
          obtain ⟨z, z', hne⟩ := hshows.date_at
          exact ⟨⟨⟨.ok 0, ""⟩, z, 0, 0⟩, ⟨⟨.ok 0, ""⟩, z', 0, 0⟩, value_differs hne⟩
  | date_now =>
      cases construct with
      | true => exact absurd h id
      | false =>
          obtain ⟨z, z', hne⟩ := hshows.number
          exact ⟨⟨⟨.ok 0, ""⟩, z, 0, 0⟩, ⟨⟨.ok 0, ""⟩, z', 0, 0⟩, value_differs hne⟩
  | math_random =>
      cases construct with
      | true => exact absurd h id
      | false =>
          obtain ⟨d, d', hne⟩ := hshows.random_unit
          exact ⟨⟨⟨.ok 0, ""⟩, 0, d, 0⟩, ⟨⟨.ok 0, ""⟩, 0, d', 0⟩, value_differs hne⟩
  | sys_date_now =>
      -- it returns an object, so `new` hands out the same
      have hreads : SysReads env.sys now_call := by
        cases construct with
        | false => exact h
        | true => exact h
      obtain ⟨now, now', hne⟩ := wrapped_differs hshows hreads
      refine ⟨now, now', ?_⟩
      intro heq
      apply hne
      cases construct with
      | false => exact congrArg Prod.fst heq
      | true => exact congrArg Prod.fst heq
  | sys_crypto_uuid =>
      cases construct with
      | true => exact absurd h id
      | false =>
          obtain ⟨now, now', hne⟩ := wrapped_differs hshows h
          exact ⟨now, now', fun heq => hne (congrArg Prod.fst heq)⟩
  | performance_now =>
      cases construct with
      | true => exact absurd h id
      | false =>
          obtain ⟨z, z', hne⟩ := hshows.elapsed
          exact ⟨⟨⟨.ok 0, ""⟩, 0, 0, z⟩, ⟨⟨.ok 0, ""⟩, 0, 0, z'⟩, value_differs hne⟩
  | emit => cases construct <;> exact absurd h id
  | read => cases construct <;> exact absurd h id
  | decimal => cases construct <;> exact absurd h id
  | date_parse => cases construct <;> exact absurd h id
  | date_utc => cases construct <;> exact absurd h id
  | safe_date real => cases construct <;> exact absurd h id
  | disabled name => cases construct <;> exact absurd h id
  | performance => exact absurd h id
  | global_this => exact absurd h id
  | math => exact absurd h id
  | date_prototype => exact absurd h id
  | sys_object => exact absurd h id
  | sys_date => exact absurd h id
  | sys_crypto => exact absurd h id

/-- A world in which no time passes. -/
def still : World := ⟨fun _ => at_ambient ⟨.ok 0, ""⟩, fun _ => false, 0⟩

/-- A step is the same in every world iff it does not read the world. -/
theorem host_agree_iff (hshows : Shows env) (s : State) (q : Query V) :
    (∀ w w', host env w s q = host env w' s q) ↔ ¬ ReadsWorld env s q := by
  refine ⟨?_, fun hnot w w' => host_agree hnot w w'⟩
  intro hall hreads
  cases q with
  | get i key =>
      obtain ⟨ho, hkey⟩ := hreads
      obtain ⟨z, z', hne⟩ := hshows.number
      have heq := hall { still with origin := z } { still with origin := z' }
      rw [host, host, ho] at heq
      simp only [get, hkey, and_self, if_true] at heq
      exact value_differs hne heq
  | call i construct args =>
      obtain ⟨o, ho, hcall⟩ := hreads
      obtain ⟨now, now', hne⟩ := call_differs hshows hcall { s with steps := s.steps + 1 }
      have heq := hall { still with moment := fun _ => now } { still with moment := fun _ => now' }
      rw [host, host, ho] at heq
      exact hne heq

end Differ

/-- **The deterministic profile.** A step has one answer in every world exactly when
it reads neither the clock nor the random source. Executions none of whose steps does,
and whose polls all find time left, have one outcome and one list of effects. -/
theorem deterministic_profile {D V Out : Type} (env : Env D V) (hshows : Shows env) :
    (∀ (s : State) (q : Query V), (∀ w w', host env w s q = host env w' s q)
        ↔ ¬ ReadsWorld env s q)
      ∧ ∀ (program : Program V Out) (w w' : World), WorldFree env w program →
          WorldFree env w' program → execute env w program = execute env w' program :=
  ⟨host_agree_iff hshows, fun _ _ _ hfree hfree' => execute_world_free hfree hfree'⟩

/-! ## What the sanitizer reaches

From the global object, and off the one property it forgets, nothing is left that
reads the world but `__sys` and `performance`, which the sanitizer does not name. -/

/-- The functions the sanitizer means to take away. -/
def neutralized : List Obj := [.real_date, .date_now, .math_random, .sys_date_now, .sys_crypto_uuid]

/-- The object at the end of a chain of property reads. -/
def follow (heap : Heap) : Obj → List String → Option Obj
  | o, [] => some o
  | o, key :: keys => (heap o key).bind fun next => follow heap next keys

/-- One assignment: the object, the property and what it becomes. -/
structure Write where
  o : Obj
  key : String
  value : Option Obj

def Heap.set_all (heap : Heap) (writes : List Write) : Heap :=
  writes.foldl (fun heap write => heap.set write.o write.key write.value) heap

theorem set_apply (heap : Heap) (o o' : Obj) (key key' : String) (value : Option Obj) :
    heap.set o key value o' key' = if o' = o ∧ key' = key then value else heap o' key' := rfl

/-- A property of the heap was written, or is as it was. By induction on the writes, the last
write to a property being the one that is read. -/
theorem set_all_eq_some {writes : List Write} {heap : Heap} {o found : Obj} {key : String}
    (h : heap.set_all writes o key = some found) :
    (∃ write ∈ writes, write.value = some found)
      ∨ heap o key = some found ∧ ∀ write ∈ writes, ¬ (o = write.o ∧ key = write.key) := by
  induction writes generalizing heap with
  | nil => exact Or.inr ⟨h, by simp⟩
  | cons write writes ih =>
      rcases ih h with ⟨later, hmem, hvalue⟩ | ⟨hset, hlater⟩
      · exact Or.inl ⟨later, List.mem_cons_of_mem _ hmem, hvalue⟩
      · dsimp only at hset
        by_cases hhere : o = write.o ∧ key = write.key
        · rw [set_apply, if_pos hhere] at hset
          exact Or.inl ⟨write, List.mem_cons_self, hset⟩
        · rw [set_apply, if_neg hhere] at hset
          exact Or.inr ⟨hset, List.forall_mem_cons.mpr ⟨hhere, hlater⟩⟩

/-- What `harden` writes over the injected globals. -/
def hardening : List Write :=
  [⟨.global_this, "eval", none⟩, ⟨.global_this, "Proxy", none⟩,
    ⟨.math, "random", some (.disabled "Math.random")⟩,
    ⟨.safe_date .real_date, "prototype", some .date_prototype⟩,
    ⟨.safe_date .real_date, "parse", some .date_parse⟩,
    ⟨.safe_date .real_date, "UTC", some .date_utc⟩,
    ⟨.safe_date .real_date, "now", some (.disabled "Date.now")⟩,
    ⟨.global_this, "Date", some (.safe_date .real_date)⟩,
    ⟨.sys_date, "now", some (.disabled "$sys.date.now")⟩,
    ⟨.sys_crypto, "uuid", some (.disabled "$sys.crypto.uuid")⟩]

theorem harden_inject (has_hook : Bool) :
    harden (inject_globals has_hook) = (inject_globals has_hook).set_all hardening := rfl

/-- What the sanitizer puts in place is none of what it takes away. -/
theorem hardening_values {write : Write} (hmem : write ∈ hardening) {found : Obj}
    (hvalue : write.value = some found) : found ∉ neutralized := by
  have hall : ∀ write ∈ hardening, ∀ o ∈ neutralized, write.value ≠ some o := by decide
  intro hfound
  exact hall write hmem found hfound hvalue

/-- The injected properties that lead to a neutralized function. -/
theorem inject_neutralized {has_hook : Bool} {o found : Obj} {key : String}
    (h : inject_globals has_hook o key = some found) (hfound : found ∈ neutralized) :
    o ∈ neutralized ∨ key = "constructor" ∨ ∃ write ∈ hardening, o = write.o ∧ key = write.key := by
  unfold inject_globals at h
  split at h
  case h_6 =>
    -- `__read` is bound or not
    cases has_hook with
    | false => cases h
    | true =>
        rw [← Option.some.inj h] at hfound
        exact absurd hfound (by decide)
  case h_20 => cases h
  all_goals
    rw [← Option.some.inj h] at hfound
    revert hfound
    decide

/-- One read from an object that is left leads to an object that is left, except by `constructor`.
-/
theorem harden_step {has_hook : Bool} {o found : Obj} {key : String}
    (h : harden (inject_globals has_hook) o key = some found) (ho : o ∉ neutralized)
    (hkey : key ≠ "constructor") : found ∉ neutralized := by
  rw [harden_inject] at h
  rcases set_all_eq_some h with ⟨write, hmem, hvalue⟩ | ⟨hinject, hfresh⟩
  · exact hardening_values hmem hvalue
  · intro hfound
    rcases inject_neutralized hinject hfound with hold | hctor | ⟨write, hmem, hwrite⟩
    · exact ho hold
    · exact hkey hctor
    · exact hfresh write hmem hwrite

/-- No chain of reads from the global object that stays clear of `constructor` ends
at a function the sanitizer means to take away. -/
theorem follow_hardened {has_hook : Bool} {keys : List String} (hkeys : "constructor" ∉ keys)
    {o found : Obj} (ho : o ∉ neutralized)
    (h : follow (harden (inject_globals has_hook)) o keys = some found) : found ∉ neutralized := by
  induction keys generalizing o with
  | nil =>
      rw [← Option.some.inj h]
      exact ho
  | cons key keys ih =>
      obtain ⟨next, hnext, hrest⟩ := Option.bind_eq_some_iff.mp h
      rw [List.mem_cons, not_or] at hkeys
      exact ih hkeys.2 (harden_step hnext ho (Ne.symm hkeys.1)) hrest

/-! ### Three ways to the clock -/

/-- The libraries on the documents of these runs: small integers, plain strings and
the empty object. A JavaScript value is its text. -/
def plain_env : Env Unit String where
  sys :=
    { sign_lib with
      from_str := fun text =>
        if text = "\x7b\x7d" then .ok (.object []) else .error "expected value"
      to_string := fun value =>
        match value with
        | .number (.pos_int n) => .ok (toString n.toNat)
        | .string s => .ok ("\"" ++ s ++ "\"")
        | _ => .error "" }
  decimal :=
    { from_str := fun _ => .error "", to_string := fun _ => "", zero := (), from_u64 := fun _ => ()
      abs := id, checked_add := fun _ _ => none, checked_sub := fun _ _ => none
      checked_mul := fun _ _ => none, checked_div := fun _ _ => none
      round_dp := fun d _ => d, cmp := fun _ _ => .eq }
  js :=
    { string := id, as_string := some, number := fun z => toString z
      random_unit := fun d => "0." ++ toString d.toNat, date_at := fun z => "date " ++ toString z
      date_text := fun z => "at " ++ toString z, make_date := fun _ => "date"
      date_parse := fun _ => "NaN", date_utc := fun _ => "NaN"
      unwrap := fun text => .ok (String.ofList (text.toList.drop 5).dropLast)
      elapsed := fun z => toString z, fresh_object := "", type_error := fun _ => "not a function"
      interrupted := "interrupted" }
  config := none
  read_hook := none
  max_ops := 10
  context := "null"

/-- In this environment a text shows as itself. -/
theorem plain_env_shows : Shows plain_env where
  string := fun _ _ h => h
  millis := ⟨0, 1, by decide, by decide, by decide⟩
  uuid := ⟨"a", "b", by decide⟩
  number := ⟨0, 1, by decide⟩
  date_at := ⟨0, 1, by decide⟩
  date_text := ⟨0, 1, by decide⟩
  random_unit := ⟨0, 1, by decide⟩
  elapsed := ⟨0, 1, by decide⟩

/-- A stopped clock. -/
def at_clock (m : ℕ) : World :=
  { still with moment := fun _ => ⟨⟨.ok m, ""⟩, m, UInt64.ofNat m, m⟩ }

/-- A handler that reads `keys` one after the other from the global object, and
calls what it ends at. -/
def call_path (keys : List String) (args : List String) : Program String (Answer String) :=
  .done (.ok fun _ => walk 0 keys)
where
  walk (i : ℕ) : List String → Script (Query String) (Answer String) (Answer String)
    | [] => .ask (.call i false args) .done
    | key :: keys => .ask (.get i key) fun _ => walk (i + 1) keys

/-- `Math.random` kept by the source, called by the handler. -/
def kept_random : Program String (Answer String) :=
  .ask (.get 0 "Math") fun _ => .ask (.get 1 "random") fun _ =>
    .done (.ok fun _ => .ask (.call 2 false []) .done)

/-- `__sys` itself, the constructor of the date prototype, `performance` and a reference the
source has kept all show the handler the world. So does the deadline, which in one world passes
after the effect has been emitted. -/
theorem handler_reads_the_world :
    execute plain_env (at_clock 0) (call_path ["__sys"] ["date", "now", "\x7b\x7d"])
        ≠ execute plain_env (at_clock 1) (call_path ["__sys"] ["date", "now", "\x7b\x7d"])
      ∧ execute plain_env (at_clock 0) (call_path ["Date", "prototype", "constructor", "now"] [])
        ≠ execute plain_env (at_clock 1) (call_path ["Date", "prototype", "constructor", "now"] [])
      ∧ execute plain_env (at_clock 0) (call_path ["performance", "now"] [])
        ≠ execute plain_env (at_clock 1) (call_path ["performance", "now"] [])
      ∧ execute plain_env (at_clock 0) kept_random ≠ execute plain_env (at_clock 1) kept_random
      ∧ execute plain_env { at_clock 0 with expired := fun n => n = 4 } (call_path ["__emit"] ["1"])
        ≠ execute plain_env (at_clock 0) (call_path ["__emit"] ["1"]) := by
  decide

/-- A handler that emits one effect reads nothing. -/
theorem emit_world_free (m : ℕ) : WorldFree plain_env (at_clock m) (call_path ["__emit"] ["1"]) := by
  refine ⟨⟨trivial, rfl⟩, ?_⟩
  intro handler hhandler
  have hwalk : handler = fun _ => call_path.walk ["1"] 0 ["__emit"] := (Except.ok.inj hhandler).symm
  rw [hwalk]
  refine ⟨rfl, ⟨?_, ?_, trivial⟩, rfl, rfl, rfl⟩
  · rintro ⟨-, hkey⟩
    exact absurd hkey (by decide)
  · rintro ⟨o, ho, hreads⟩
    have hemit : o = .emit := (Option.some.inj ho).symm
    rw [hemit] at hreads
    exact hreads

/-- A handler that emits one effect: it reads no world, and has the same outcome and effects at
two times. -/
theorem deterministic_profile_emit :
    WorldFree plain_env (at_clock 0) (call_path ["__emit"] ["1"])
      ∧ execute plain_env (at_clock 0) (call_path ["__emit"] ["1"])
        = execute plain_env (at_clock 1) (call_path ["__emit"] ["1"])
      ∧ execute plain_env (at_clock 0) (call_path ["__emit"] ["1"])
        = (.handled (.value ""), ["1"]) :=
  ⟨emit_world_free 0,
    (deterministic_profile plain_env plain_env_shows).2 _ (at_clock 0) (at_clock 1)
      (emit_world_free 0) (emit_world_free 1),
    by decide⟩

end Runlet.Determinism
