/-
Computations that leave a trace.

A request handler is straight-line code with early returns: it does things, in
order, and at any point it may leave with its answer. `Eff ε ρ α` is such a
computation: the effects it has performed, and either the value it goes on with
or the answer it left with. Sequencing keeps the effects of what ran and drops
the rest of the code after a leave.

The rules below read such a computation backwards, without unfolding it: what an
effect of a sequence means for the step before (`mem_bind`), and what it takes to
get to the end (`ok_bind`).
-/
import Mathlib.Data.List.Basic

set_option autoImplicit false

namespace Effects

/-- The effects performed, and the value or the early answer. -/
structure Eff (ε ρ α : Type) where
  effects : List ε
  result : Except ρ α

variable {ε ρ δ α β : Type}

instance : Monad (Eff ε ρ) where
  pure a := ⟨[], .ok a⟩
  bind m f :=
    match m.result with
    | .error r => ⟨m.effects, .error r⟩
    | .ok a => ⟨m.effects ++ (f a).effects, (f a).result⟩

/-- Do one thing. -/
def perform (e : ε) : Eff ε ρ Unit := ⟨[e], .ok ()⟩

/-- An early return. -/
def leave (r : ρ) : Eff ε ρ α := ⟨[], .error r⟩

/-- A pure step that may fail. -/
def lift (x : Except δ α) : Eff ε δ α := ⟨[], x⟩

/-- `match step { Ok(a) => a, Err(d) => … }`: a failed step is answered by
`recover`. -/
def handle (m : Eff ε δ α) (recover : δ → Eff ε ρ α) : Eff ε ρ α :=
  match m.result with
  | .error d => ⟨m.effects ++ (recover d).effects, (recover d).result⟩
  | .ok a => ⟨m.effects, .ok a⟩

section Effects

variable {e : ε}

@[simp] theorem mem_pure {a : α} : e ∈ (pure a : Eff ε ρ α).effects ↔ False := by
  simp [pure]

@[simp] theorem mem_perform {e' : ε} : e ∈ (perform e' : Eff ε ρ Unit).effects ↔ e = e' := by
  simp [perform]

@[simp] theorem mem_leave {r : ρ} : e ∈ (leave r : Eff ε ρ α).effects ↔ False := by
  simp [leave]

@[simp] theorem mem_lift {x : Except δ α} : e ∈ (lift x : Eff ε δ α).effects ↔ False := by
  simp [lift]

/-- An effect of a sequence is one of the first step, or that step went on and it
is one of the rest. -/
@[simp] theorem mem_bind {m : Eff ε ρ α} {f : α → Eff ε ρ β} :
    e ∈ (m >>= f).effects ↔ e ∈ m.effects ∨ ∃ a, m.result = .ok a ∧ e ∈ (f a).effects := by
  simp only [bind]
  cases m.result with
  | error r => simp
  | ok a => simp

/-- An effect of a handled step is one of the step, or of what is done about its error. -/
@[simp] theorem mem_handle {m : Eff ε δ α} {recover : δ → Eff ε ρ α} :
    e ∈ (handle m recover).effects
      ↔ e ∈ m.effects ∨ ∃ d, m.result = .error d ∧ e ∈ (recover d).effects := by
  simp only [handle]
  cases m.result with
  | error d => simp
  | ok a => simp

end Effects

/-- Past a step that went on, a sequence has the effects of both. -/
theorem effects_bind {m : Eff ε ρ α} {f : α → Eff ε ρ β} {a : α} (h : m.result = .ok a) :
    (m >>= f).effects = m.effects ++ (f a).effects := by
  simp only [bind, h]

/-- A sequence whose first step left is that step. -/
theorem bind_error {m : Eff ε ρ α} {f : α → Eff ε ρ β} {r : ρ} (h : m.result = .error r) :
    m >>= f = ⟨m.effects, .error r⟩ := by
  simp only [bind, h]

theorem effects_handle {m : Eff ε δ α} {recover : δ → Eff ε ρ α} {a : α} (h : m.result = .ok a) :
    (handle m recover).effects = m.effects := by
  simp only [handle, h]

/-- The trace of a failed step and its answer. -/
theorem effects_handle_error {m : Eff ε δ α} {recover : δ → Eff ε ρ α} {d : δ}
    (h : m.result = .error d) : (handle m recover).effects = m.effects ++ (recover d).effects := by
  simp only [handle, h]

section Results

@[simp] theorem ok_pure {a b : α} : (pure a : Eff ε ρ α).result = .ok b ↔ a = b := by
  simp [pure]

@[simp] theorem result_perform {e : ε} : (perform e : Eff ε ρ Unit).result = .ok () := rfl

@[simp] theorem ok_leave {r : ρ} {a : α} : (leave r : Eff ε ρ α).result = .ok a ↔ False := by
  simp [leave]

@[simp] theorem ok_lift {x : Except δ α} {a : α} :
    (lift x : Eff ε δ α).result = .ok a ↔ x = .ok a := Iff.rfl

/-- A sequence gets to its end when both parts do. -/
@[simp] theorem ok_bind {m : Eff ε ρ α} {f : α → Eff ε ρ β} {b : β} :
    (m >>= f).result = .ok b ↔ ∃ a, m.result = .ok a ∧ (f a).result = .ok b := by
  simp only [bind]
  cases m.result with
  | error r => simp
  | ok a => simp

/-- A handled step went on by itself, or its `recover` did. -/
@[simp] theorem ok_handle {m : Eff ε δ α} {recover : δ → Eff ε ρ α} {a : α} :
    (handle m recover).result = .ok a
      ↔ m.result = .ok a ∨ ∃ d, m.result = .error d ∧ (recover d).result = .ok a := by
  simp only [handle]
  cases m.result with
  | error d => simp
  | ok b => simp

/-- A sequence leaves where its first step left. -/
theorem result_bind_error {m : Eff ε ρ α} {f : α → Eff ε ρ β} {r : ρ} (h : m.result = .error r) :
    (m >>= f).result = .error r := by
  rw [bind_error h]

/-- Past a step that went on, a sequence is the rest of it. -/
theorem result_bind {m : Eff ε ρ α} {f : α → Eff ε ρ β} {a : α} (h : m.result = .ok a) :
    (m >>= f).result = (f a).result := by
  simp only [bind, h]

theorem result_handle {m : Eff ε δ α} {recover : δ → Eff ε ρ α} {d : δ}
    (h : m.result = .error d) : (handle m recover).result = (recover d).result := by
  simp only [handle, h]

end Results

section All

/-- Every effect of the computation has the property. -/
def All (p : ε → Prop) (m : Eff ε ρ α) : Prop := ∀ e ∈ m.effects, p e

variable {p : ε → Prop}

theorem all_pure (a : α) : All p (pure a : Eff ε ρ α) := by
  intro e he
  exact absurd (mem_pure.mp he) id

theorem all_perform {e : ε} (he : p e) : All p (perform e : Eff ε ρ Unit) := by
  intro e' he'
  rw [mem_perform.mp he']
  exact he

theorem all_leave (r : ρ) : All p (leave r : Eff ε ρ α) := by
  intro e he
  exact absurd (mem_leave.mp he) id

theorem all_lift (x : Except δ α) : All p (lift x : Eff ε δ α) := by
  intro e he
  exact absurd (mem_lift.mp he) id

/-- In a sequence, the rest may use the value the first step went on with. -/
theorem all_bind {m : Eff ε ρ α} {f : α → Eff ε ρ β} (hm : All p m)
    (hf : ∀ a, m.result = .ok a → All p (f a)) : All p (m >>= f) := by
  intro e he
  rcases mem_bind.mp he with he | ⟨a, ha, he⟩
  · exact hm e he
  · exact hf a ha e he

/-- What holds of both holds of a handled step. -/
theorem all_handle {m : Eff ε δ α} {recover : δ → Eff ε ρ α} (hm : All p m)
    (hr : ∀ d, m.result = .error d → All p (recover d)) : All p (handle m recover) := by
  intro e he
  rcases mem_handle.mp he with he | ⟨d, hd, he⟩
  · exact hm e he
  · exact hr d hd e he

/-- Of a step that went on, `recover` is not run. -/
theorem all_handle_ok {m : Eff ε δ α} {recover : δ → Eff ε ρ α} {a : α} (h : m.result = .ok a)
    (hm : All p m) : All p (handle m recover) := by
  rw [All, effects_handle h]
  exact hm

/-- What holds of both parts holds of a sequence that goes on. -/
theorem all_bind_ok {m : Eff ε ρ α} {f : α → Eff ε ρ β} {a : α} (h : m.result = .ok a)
    (hm : All p m) (hf : All p (f a)) : All p (m >>= f) := by
  refine all_bind hm fun a' ha' => ?_
  rw [h, Except.ok.injEq] at ha'
  exact ha' ▸ hf

end All

section Fails

/-- Every answer the computation may leave with has the property. -/
def Fails (p : ρ → Prop) (m : Eff ε ρ α) : Prop := ∀ r, m.result = .error r → p r

variable {p : ρ → Prop}

theorem fails_pure (a : α) : Fails p (pure a : Eff ε ρ α) := by
  intro r h
  cases h

theorem fails_perform (e : ε) : Fails p (perform e : Eff ε ρ Unit) := by
  intro r h
  cases h

theorem fails_lift {x : Except ρ α} (h : ∀ r, x = .error r → p r) :
    Fails p (lift x : Eff ε ρ α) := h

/-- A sequence fails only as one of its parts does. -/
theorem fails_bind {m : Eff ε ρ α} {f : α → Eff ε ρ β} (hm : Fails p m)
    (hf : ∀ a, Fails p (f a)) : Fails p (m >>= f) := by
  intro r h
  cases hresult : m.result with
  | error r' =>
      rw [result_bind_error hresult] at h
      cases h
      exact hm r hresult
  | ok a =>
      rw [result_bind hresult] at h
      exact hf a r h

end Fails

section Readings

variable {κ : Type}

/-- What a reading of single effects finds in a computation, in order. -/
def reading (r : ε → Option κ) (m : Eff ε ρ α) : List κ := m.effects.filterMap r

variable {r : ε → Option κ}

@[simp] theorem reading_pure (a : α) : reading r (pure a : Eff ε ρ α) = [] := rfl

@[simp] theorem reading_leave (d : ρ) : reading r (leave d : Eff ε ρ α) = [] := rfl

@[simp] theorem reading_lift (x : Except δ α) : reading r (lift x : Eff ε δ α) = [] := rfl

/-- One effect is read as it is. -/
@[simp] theorem reading_perform (e : ε) :
    reading r (perform e : Eff ε ρ Unit) = (r e).toList := by
  rw [reading, perform]
  cases h : r e with
  | none => rw [List.filterMap_cons_none h, List.filterMap_nil, Option.toList_none]
  | some k => rw [List.filterMap_cons_some h, List.filterMap_nil, Option.toList_some]

theorem reading_bind {m : Eff ε ρ α} {f : α → Eff ε ρ β} {a : α} (h : m.result = .ok a) :
    reading r (m >>= f) = reading r m ++ reading r (f a) := by
  rw [reading, effects_bind h, List.filterMap_append]
  rfl

theorem reading_bind_error {m : Eff ε ρ α} {f : α → Eff ε ρ β} {d : ρ}
    (h : m.result = .error d) : reading r (m >>= f) = reading r m := by
  rw [reading, bind_error h]
  rfl

theorem reading_handle {m : Eff ε δ α} {recover : δ → Eff ε ρ α} {a : α} (h : m.result = .ok a) :
    reading r (handle m recover) = reading r m := by
  rw [reading, effects_handle h]
  rfl

/-- A failed step is read with what is done about it. -/
theorem reading_handle_error {m : Eff ε δ α} {recover : δ → Eff ε ρ α} {d : δ}
    (h : m.result = .error d) :
    reading r (handle m recover) = reading r m ++ reading r (recover d) := by
  rw [reading, effects_handle_error h, List.filterMap_append]
  rfl

/-- Nothing is found where no effect is of the kind. -/
theorem reading_eq_nil {m : Eff ε ρ α} (h : All (fun e => r e = none) m) : reading r m = [] := by
  rw [reading, List.filterMap_eq_nil_iff]
  exact h

end Readings

section Past

/-- Every effect of the trace is allowed by what came before it. -/
def Each (q : List ε → ε → Prop) : (past trace : List ε) → Prop
  | _, [] => True
  | past, e :: trace => q past e ∧ Each q (past ++ [e]) trace

variable {q : List ε → ε → Prop}

theorem each_append {past t u : List ε} :
    Each q past (t ++ u) ↔ Each q past t ∧ Each q (past ++ t) u := by
  induction t generalizing past with
  | nil =>
      rw [List.nil_append, List.append_nil, Each, true_and]
  | cons e t ih =>
      rw [List.cons_append, Each, Each, ih, List.append_assoc, List.singleton_append, and_assoc]

theorem each_split {past trace before after : List ε} {e : ε} (h : Each q past trace)
    (hsplit : trace = before ++ e :: after) : q (past ++ before) e := by
  rw [hsplit, each_append] at h
  exact h.2.1

/-- The `i`-th entry a reading finds, in its place in the trace. By induction on the trace; what
the reading passes over does not count. -/
theorem filterMap_split {κ : Type} {r : ε → Option κ} {trace : List ε} {i : ℕ} {k : κ}
    (h : (trace.filterMap r)[i]? = some k) :
    ∃ before e after, trace = before ++ e :: after ∧ r e = some k
      ∧ (before.filterMap r).length = i := by
  induction trace generalizing i with
  | nil => simp at h
  | cons e trace ih =>
      cases hr : r e with
      | none =>
          rw [List.filterMap_cons_none hr] at h
          obtain ⟨before, e', after, rfl, he', hlen⟩ := ih h
          refine ⟨e :: before, e', after, rfl, he', ?_⟩
          rw [List.filterMap_cons_none hr, hlen]
      | some k' =>
          rw [List.filterMap_cons_some hr] at h
          -- `e` is the entry itself, or one of those before it
          cases i with
          | zero =>
              rw [List.getElem?_cons_zero, Option.some.injEq] at h
              exact ⟨[], e, trace, rfl, hr.trans (congrArg some h), rfl⟩
          | succ i =>
              rw [List.getElem?_cons_succ] at h
              obtain ⟨before, e', after, rfl, he', hlen⟩ := ih h
              refine ⟨e :: before, e', after, rfl, he', ?_⟩
              rw [List.filterMap_cons_some hr, List.length_cons, hlen]

end Past

end Effects
