/-
Runs of a partial step function, and the rule every state machine of this
development is proved with.

A machine here is `step : S → E → Option S`: `none` is "the event is not
enabled in this state", never an error. `run` folds it over a list of events.
An invariant is proved for *one* step and lifted to whole runs by
`run_inv_of_guarded`, whose hypothesis says that every step of the run is of a
certain kind **in the state it is taken in**. That is what a result of the form
"the property holds along every run in which such-and-such never happens" is
made of.
-/
import Mathlib.Data.List.Basic

set_option autoImplicit false

namespace Machine

variable {S E : Type*}

/-- The state after a list of events, when each of them is enabled in turn. -/
def run (step : S → E → Option S) : S → List E → Option S
  | s, [] => some s
  | s, e :: es => (step s e).bind fun t => run step t es

/-- Every step of the run meets `guard` in the state it is taken in. -/
def Guarded (step : S → E → Option S) (guard : S → E → Prop) : S → List E → Prop
  | _, [] => True
  | s, e :: es => guard s e ∧ ∀ t, step s e = some t → Guarded step guard t es

instance instDecidableGuarded (step : S → E → Option S) (guard : S → E → Prop)
    [∀ s e, Decidable (guard s e)] : ∀ s es, Decidable (Guarded step guard s es)
  | _, [] => isTrue trivial
  | s, e :: es =>
    match hst : step s e with
    | none => decidable_of_iff (guard s e) (by simp [Guarded, hst])
    | some t =>
      have := instDecidableGuarded step guard t es
      decidable_of_iff (guard s e ∧ Guarded step guard t es) (by simp [Guarded, hst])

/-- The events of a run, each with those before it. -/
def moments (es : List E) : List (List E × E) :=
  (List.range es.length).filterMap fun i => es[i]?.map fun e => (es.take i, e)

/-- One more event has all the others before it. -/
theorem moments_snoc (es : List E) (e : E) : moments (es ++ [e]) = moments es ++ [(es, e)] := by
  unfold moments
  rw [List.length_append, List.length_singleton, List.range_succ, List.filterMap_append]
  congr 1
  · apply List.filterMap_congr
    intro i hi
    have hlt : i < es.length := List.mem_range.mp hi
    rw [List.getElem?_append_left hlt, List.take_append_of_le_length (by omega)]
  · simp

section Runs

variable {step : S → E → Option S}

@[simp] theorem run_nil (s : S) : run step s [] = some s := rfl

theorem run_cons {s u : S} {e : E} {es : List E} :
    run step s (e :: es) = some u ↔ ∃ t, step s e = some t ∧ run step t es = some u := by
  rw [run, Option.bind_eq_some_iff]

/-- A run stops on its way. By induction on the first part: the state between the two parts is the
only one they can meet in. -/
theorem run_append {s u : S} {es₁ es₂ : List E} :
    run step s (es₁ ++ es₂) = some u ↔ ∃ t, run step s es₁ = some t ∧ run step t es₂ = some u := by
  induction es₁ generalizing s with
  | nil =>
      rw [List.nil_append]
      simp only [run_nil, Option.some.injEq, exists_eq_left']
  | cons e es₁ ih =>
      rw [List.cons_append, run_cons]
      simp only [ih, run_cons]
      constructor
      · rintro ⟨v, hv, t, ht, hu⟩
        exact ⟨t, ⟨v, hv, ht⟩, hu⟩
      · rintro ⟨t, ⟨v, hv, ht⟩, hu⟩
        exact ⟨v, hv, t, ht, hu⟩

/-- Runs compose. -/
theorem run_trans {s t u : S} {es₁ es₂ : List E} (h₁ : run step s es₁ = some t)
    (h₂ : run step t es₂ = some u) : run step s (es₁ ++ es₂) = some u :=
  run_append.mpr ⟨t, h₁, h₂⟩

/-- A run ends with its last step. -/
theorem run_snoc {s u : S} {e : E} {es : List E} :
    run step s (es ++ [e]) = some u ↔ ∃ t, run step s es = some t ∧ step t e = some u := by
  rw [run_append]
  simp only [run_cons, run_nil, Option.some.injEq, exists_eq_right]

/-- A run of events that meet the guard in every state is guarded. -/
theorem guarded_of_forall {guard : S → E → Prop} {es : List E}
    (h : ∀ e ∈ es, ∀ s, guard s e) (s : S) : Guarded step guard s es := by
  induction es generalizing s with
  | nil => trivial
  | cons e es ih =>
      refine ⟨h e List.mem_cons_self s, fun t _ => ?_⟩
      exact ih (fun e' he' => h e' (List.mem_cons_of_mem _ he')) t

theorem guarded_congr {g₁ g₂ : S → E → Prop} (h : ∀ s e, g₁ s e ↔ g₂ s e) (s : S)
    (es : List E) : Guarded step g₁ s es ↔ Guarded step g₂ s es := by
  induction es generalizing s with
  | nil => exact Iff.rfl
  | cons e es ih => exact and_congr (h s e) (forall_congr' fun t => forall_congr' fun _ => ih t)

/-- A run is guarded when every event of it meets the guard where the run has come to. The one
side goes down the list of events, the other splits it at any place. -/
theorem guarded_iff {guard : S → E → Prop} {s : S} {es : List E} :
    Guarded step guard s es
      ↔ ∀ before e rest t, es = before ++ e :: rest → run step s before = some t → guard t e := by
  induction es generalizing s with
  | nil =>
      refine iff_of_true trivial ?_
      intro before e rest t hes
      simp at hes
  | cons e es ih =>
      rw [Guarded]
      constructor
      -- the event is the first, or comes in the rest of the run
      · rintro ⟨hg, hrest⟩ before e' rest t hes hrun
        cases before with
        | nil =>
            rw [run_nil, Option.some.injEq] at hrun
            rw [List.nil_append, List.cons.injEq] at hes
            rw [← hrun, ← hes.1]
            exact hg
        | cons e₀ before =>
            rw [List.cons_append, List.cons.injEq] at hes
            obtain ⟨v, hv, ht⟩ := run_cons.mp hrun
            rw [← hes.1] at hv
            exact ih.mp (hrest v hv) before e' rest t hes.2 ht
      · intro h
        refine ⟨h [] e es s rfl rfl, ?_⟩
        intro v hv
        apply ih.mpr
        intro before e' rest t hes hrun
        refine h (e :: before) e' rest t ?_ (run_cons.mpr ⟨v, hv, hrun⟩)
        rw [hes, List.cons_append]

/-- **The guarded run rule.** What every guarded step preserves, every guarded
run preserves. -/
theorem run_inv_of_guarded {guard : S → E → Prop} {inv : S → Prop}
    (hstep : ∀ s e t, inv s → guard s e → step s e = some t → inv t)
    {s u : S} {es : List E} (hs : inv s) (hg : Guarded step guard s es)
    (hrun : run step s es = some u) : inv u := by
  induction es generalizing s with
  | nil =>
      rw [run_nil, Option.some.injEq] at hrun
      exact hrun ▸ hs
  | cons e es ih =>
      obtain ⟨t, ht, hu⟩ := run_cons.mp hrun
      exact ih (hstep s e t hs hg.1 ht) (hg.2 t ht) hu

/-- What every step preserves, every run preserves. -/
theorem run_inv {inv : S → Prop} (hstep : ∀ s e t, inv s → step s e = some t → inv t) {s u : S}
    {es : List E} (hs : inv s) (hrun : run step s es = some u) : inv u := by
  have hg : Guarded step (fun _ _ => True) s es := guarded_of_forall (fun _ _ _ => trivial) s
  exact run_inv_of_guarded (fun s e t hinv _ ht => hstep s e t hinv ht) hs hg hrun

/-- What every event of a kind uses up, a run does not use more often than there is of it. By
induction along the run; no event may give any of it back. -/
theorem run_potential {p : E → Bool} {left : S → ℕ}
    (hstep : ∀ s e t, step s e = some t → (if p e then 1 else 0) + left t ≤ left s) {s u : S}
    {es : List E} (hrun : run step s es = some u) : es.countP p + left u ≤ left s := by
  induction es generalizing s with
  | nil =>
      rw [run_nil, Option.some.injEq] at hrun
      subst hrun
      exact Nat.le_of_eq (by rw [List.countP_nil, Nat.zero_add])
  | cons e es ih =>
      obtain ⟨t, ht, hu⟩ := run_cons.mp hrun
      have hfirst := hstep s e t ht
      have hrest := ih hu
      rw [List.countP_cons]
      omega

/-- A machine inside another: every step of the outer one is a step of the inner one, or leaves it as
it is. Then a run of the outer one is a run of the inner one. -/
theorem run_inside {T F : Type*} {step' : T → F → Option T} (inner : S → T) (inside : E → Option F)
    (hstep : ∀ s e t, step s e = some t →
      (inside e).elim (inner t = inner s) fun e' => step' (inner s) e' = some (inner t))
    {s u : S} {es : List E} (hrun : run step s es = some u) :
    run step' (inner s) (es.filterMap inside) = some (inner u) := by
  induction es generalizing s with
  | nil =>
      rw [run_nil, Option.some.injEq] at hrun
      rw [List.filterMap_nil, run_nil, hrun]
  | cons e es ih =>
      obtain ⟨t, ht, hu⟩ := run_cons.mp hrun
      have hinner := hstep s e t ht
      cases he : inside e with
      | none =>
          rw [he, Option.elim_none] at hinner
          rw [List.filterMap_cons_none he, ← hinner]
          exact ih hu
      | some e' =>
          rw [he, Option.elim_some] at hinner
          rw [List.filterMap_cons_some he]
          exact run_cons.mpr ⟨inner t, hinner, ih hu⟩

/-- A guard of the outer machine that is one of the inner machine. The run of the inner one is
what the outer run has of it, and the guards are asked in the same states. -/
theorem guarded_inside {T F : Type*} {step' : T → F → Option T} {inner : S → T}
    {inside : E → Option F} {guard : S → E → Prop} {guard' : T → F → Prop}
    (hstep : ∀ s e t, step s e = some t →
      (inside e).elim (inner t = inner s) fun e' => step' (inner s) e' = some (inner t))
    (hguard : ∀ s e e', inside e = some e' → guard s e → guard' (inner s) e') {s u : S}
    {es : List E} (hrun : run step s es = some u) (hg : Guarded step guard s es) :
    Guarded step' guard' (inner s) (es.filterMap inside) := by
  induction es generalizing s with
  | nil => trivial
  | cons e es ih =>
      obtain ⟨t, ht, hu⟩ := run_cons.mp hrun
      have hinner := hstep s e t ht
      have hrest := ih hu (hg.2 t ht)
      cases he : inside e with
      | none =>
          rw [he, Option.elim_none] at hinner
          rw [List.filterMap_cons_none he, ← hinner]
          exact hrest
      | some e' =>
          rw [he, Option.elim_some] at hinner
          rw [List.filterMap_cons_some he]
          refine ⟨hguard s e e' he hg.1, ?_⟩
          intro t' ht'
          rw [hinner, Option.some.injEq] at ht'
          exact ht' ▸ hrest

end Runs

end Machine
