/-
Peeling a computation in `Except` apart. A Rust function that leaves early with
`?` is a `do` block here; these lemmas say what it means that such a block
succeeded, one step at a time.
-/
import Mathlib.Data.List.Forall2

set_option autoImplicit false

namespace Result

variable {ε ε' α β : Type}

@[simp] theorem ok_bind (a : α) (f : α → Except ε β) : (Except.ok a >>= f) = f a := rfl

@[simp] theorem error_bind (e : ε) (f : α → Except ε β) : (Except.error e >>= f) = .error e := rfl

/-- A step succeeded, and so did the rest. -/
theorem bind_eq_ok {x : Except ε α} {f : α → Except ε β} {b : β} :
    (x >>= f) = .ok b ↔ ∃ a, x = .ok a ∧ f a = .ok b := by
  cases x with
  | error e => simp [bind, Except.bind]
  | ok a => simp [bind, Except.bind]

/-- It failed, or the rest did. -/
theorem bind_eq_error {x : Except ε α} {f : α → Except ε β} {e : ε} :
    (x >>= f) = .error e ↔ x = .error e ∨ ∃ a, x = .ok a ∧ f a = .error e := by
  cases x with
  | error e' => simp [bind, Except.bind]
  | ok a => simp [bind, Except.bind]

/-- `map_err` changes no success. -/
theorem mapError_eq_ok {g : ε → ε'} {x : Except ε α} {a : α} :
    x.mapError g = .ok a ↔ x = .ok a := by
  cases x with
  | error e => exact iff_of_false nofun nofun
  | ok b =>
      have hok : (Except.ok b : Except ε α).mapError g = .ok b := rfl
      rw [hok, Except.ok.injEq, Except.ok.injEq]

/-- The error of a step whose error is changed. -/
theorem mapError_eq_error {g : ε → ε'} {x : Except ε α} {e' : ε'} :
    x.mapError g = .error e' ↔ ∃ e, x = .error e ∧ g e = e' := by
  cases x with
  | error e =>
      have herror : (Except.error e : Except ε α).mapError g = .error (g e) := rfl
      rw [herror]
      simp only [Except.error.injEq, exists_eq_left']
  | ok a => exact iff_of_false nofun nofun

/-- An early `return Err(e)` under a condition. -/
def fail_if (p : Prop) [Decidable p] (e : ε) : Except ε Unit := if p then .error e else .ok ()

theorem fail_if_eq_ok {p : Prop} [Decidable p] {e : ε} {u : Unit} :
    fail_if p e = .ok u ↔ ¬ p := by
  by_cases hp : p
  · simp [fail_if, hp]
  · simp [fail_if, hp]

/-- What a computation returns, when something of it is known. -/
theorem ok_of_map {x : Except ε α} {f : α → β} {b : β} (h : x.toOption.map f = some b) :
    ∃ a, x = .ok a ∧ f a = b := by
  cases x with
  | error e => cases h
  | ok a => exact ⟨a, rfl, Option.some.inj h⟩

theorem pure_eq_ok {a b : α} : (pure a : Except ε α) = .ok b ↔ a = b := by
  simp [pure, Except.pure]

/-- A loop of checks goes through exactly if each of them does: it stops at the first that fails.
-/
theorem forM_eq_ok {xs : List α} {f : α → Except ε Unit} {u : Unit} :
    forM xs f = .ok u ↔ ∀ x ∈ xs, f x = .ok () := by
  induction xs with
  | nil =>
      rw [List.forM_nil, pure_eq_ok]
      exact iff_of_true rfl fun x hx => absurd hx List.not_mem_nil
  | cons x xs ih =>
      rw [List.forM_cons, bind_eq_ok, List.forall_mem_cons, ← ih]
      constructor
      · rintro ⟨_, hx, hxs⟩
        exact ⟨hx, hxs⟩
      · rintro ⟨hx, hxs⟩
        exact ⟨(), hx, hxs⟩

/-- A loop that collects: it goes through exactly if each element has a result, and what it
collects are these, in their order. -/
theorem mapM_eq_ok {xs : List α} {f : α → Except ε β} {ys : List β} :
    xs.mapM f = .ok ys ↔ List.Forall₂ (fun x y => f x = .ok y) xs ys := by
  induction xs generalizing ys with
  | nil =>
      rw [List.mapM_nil, pure_eq_ok, List.forall₂_nil_left_iff, eq_comm]
  | cons x xs ih =>
      rw [List.mapM_cons, bind_eq_ok, List.forall₂_cons_left_iff]
      constructor
      · rintro ⟨y, hy, hrest⟩
        obtain ⟨ys', hys', hcons⟩ := bind_eq_ok.mp hrest
        rw [pure_eq_ok] at hcons
        exact ⟨y, ys', hy, ih.mp hys', hcons.symm⟩
      · rintro ⟨y, ys', hy, hys', rfl⟩
        exact ⟨y, hy, bind_eq_ok.mpr ⟨ys', ih.mpr hys', rfl⟩⟩

/-- A loop that parses each text and adds what it gets. By induction on the texts: the parsing and
the adding can be told apart, since what was added so far has no part in the parsing. -/
theorem foldlM_eq_ok {γ : Type} {xs : List α} {parse : α → Except ε β} {add : γ → β → γ} {c d : γ} :
    xs.foldlM (fun c x => parse x >>= fun y => pure (add c y)) c = .ok d
      ↔ ∃ ys, List.Forall₂ (fun x y => parse x = .ok y) xs ys ∧ d = ys.foldl add c := by
  induction xs generalizing c with
  | nil =>
      rw [List.foldlM_nil, pure_eq_ok]
      constructor
      · rintro rfl
        exact ⟨[], .nil, rfl⟩
      · rintro ⟨ys, hys, rfl⟩
        cases hys
        rfl
  | cons x xs ih =>
      rw [List.foldlM_cons, bind_eq_ok]
      constructor
      · rintro ⟨c', hc', hrest⟩
        obtain ⟨y, hy, hadd⟩ := bind_eq_ok.mp hc'
        rw [pure_eq_ok] at hadd
        obtain ⟨ys, hys, hd⟩ := ih.mp hrest
        refine ⟨y :: ys, .cons hy hys, ?_⟩
        rw [hd, List.foldl_cons, hadd]
      · rintro ⟨ys, hys, hd⟩
        cases hys with
        | @cons _ y _ ys hy hys =>
            refine ⟨add c y, bind_eq_ok.mpr ⟨y, hy, rfl⟩, ih.mpr ⟨ys, hys, ?_⟩⟩
            rw [hd, List.foldl_cons]

end Result
