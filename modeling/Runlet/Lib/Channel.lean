/-
A bounded channel that refuses what it has no room for: the sender never waits, and the receiver
takes in order. Once the receiver is gone everything is refused.

The channel keeps its history, what was taken and how much was refused. `run_accounts` says that
nothing else can happen to what is offered: it is refused, was taken, or waits, in the order of the
offers.
-/
import Runlet.Lib.Machine

set_option autoImplicit false

namespace Channel

structure Chan (α : Type) where
  queue : List α := []
  taken : List α := []
  refused : ℕ := 0
  receiver_gone : Bool := false

inductive Act (α : Type)
  | offer (a : α)
  | take
  | hang_up

variable {α : Type}

def Act.offered : Act α → Option α
  | offer a => some a
  | take | hang_up => none

/-- There is room for one more. -/
def Chan.Open (bound : ℕ) (s : Chan α) : Prop := s.receiver_gone = false ∧ s.queue.length < bound

instance (bound : ℕ) (s : Chan α) : Decidable (s.Open bound) := inferInstanceAs (Decidable (_ ∧ _))

def Chan.step (bound : ℕ) (s : Chan α) : Act α → Option (Chan α)
  | .offer a =>
    if s.Open bound then some { s with queue := s.queue ++ [a] }
    else some { s with refused := s.refused + 1 }
  | .take =>
    match s.queue with
    | [] => none
    | a :: rest =>
      if s.receiver_gone then none else some { s with queue := rest, taken := s.taken ++ [a] }
  | .hang_up => some { s with receiver_gone := true }

/-- What was accepted, in order. -/
def Chan.accepted (s : Chan α) : List α := s.taken ++ s.queue

section Runs

variable {bound : ℕ} {s t : Chan α}

/-- What a step does to the history: an offer is accepted where the channel has room and refused
where it has none, and no other act touches either account. -/
theorem step_accounts {e : Act α} (h : s.step bound e = some t) :
    (∃ a, e = .offer a ∧ s.Open bound ∧ t.accepted = s.accepted ++ [a] ∧ t.refused = s.refused)
    ∨ (∃ a, e = .offer a ∧ ¬ s.Open bound ∧ t.accepted = s.accepted ∧ t.refused = s.refused + 1)
    ∨ e.offered = none ∧ t.accepted = s.accepted ∧ t.refused = s.refused := by
  cases e with
  | offer a =>
      rw [Chan.step] at h
      by_cases hopen : s.Open bound
      · rw [if_pos hopen, Option.some.injEq] at h
        refine Or.inl ⟨a, rfl, hopen, ?_, ?_⟩
        · rw [← h, Chan.accepted, Chan.accepted, List.append_assoc]
        · rw [← h]
      · rw [if_neg hopen, Option.some.injEq] at h
        refine Or.inr (Or.inl ⟨a, rfl, hopen, ?_, ?_⟩)
        · rw [← h]
          rfl
        · rw [← h]
  | take =>
      rw [Chan.step] at h
      cases hqueue : s.queue with
      | nil =>
          rw [hqueue] at h
          cases h
      | cons a rest =>
          rw [hqueue] at h
          simp only [Option.ite_none_left_eq_some, Option.some.injEq] at h
          obtain ⟨-, rfl⟩ := h
          refine Or.inr (Or.inr ⟨rfl, ?_, rfl⟩)
          rw [Chan.accepted, Chan.accepted, hqueue, List.append_assoc, List.singleton_append]
  | hang_up =>
      cases h
      exact Or.inr (Or.inr ⟨rfl, rfl, rfl⟩)

/-- No step makes the queue longer than its bound. Only an accepted offer adds to it, and that
found room. -/
theorem step_length {e : Act α} (hs : s.queue.length ≤ bound) (h : s.step bound e = some t) :
    t.queue.length ≤ bound := by
  cases e with
  | offer a =>
      rw [Chan.step] at h
      by_cases hopen : s.Open bound
      · rw [if_pos hopen, Option.some.injEq] at h
        have hroom := hopen.2
        rw [← h, List.length_append, List.length_singleton]
        omega
      · rw [if_neg hopen, Option.some.injEq] at h
        rw [← h]
        exact hs
  | take =>
      rw [Chan.step] at h
      cases hqueue : s.queue with
      | nil =>
          rw [hqueue] at h
          cases h
      | cons a rest =>
          rw [hqueue] at h hs
          simp only [Option.ite_none_left_eq_some, Option.some.injEq] at h
          obtain ⟨-, rfl⟩ := h
          rw [List.length_cons] at hs
          show rest.length ≤ bound
          omega
  | hang_up =>
      cases h
      exact hs

/-- The queue never holds more than the bound. -/
theorem run_length {es : List (Act α)} (hs : s.queue.length ≤ bound)
    (h : Machine.run (Chan.step bound) s es = some t) : t.queue.length ≤ bound :=
  @Machine.run_inv _ _ _ (fun s : Chan α => s.queue.length ≤ bound)
    (fun _ _ _ hs ht => step_length hs ht) _ _ _ hs h

/-- **The account of a run.** What was offered was accepted, in order, or refused and counted. By
induction along the run, with `step_accounts` for each act. -/
theorem run_accounts {es : List (Act α)} (h : Machine.run (Chan.step bound) s es = some t) :
    ∃ new, new.Sublist (es.filterMap Act.offered) ∧ t.accepted = s.accepted ++ new
      ∧ t.refused + new.length = s.refused + (es.filterMap Act.offered).length := by
  induction es generalizing s with
  | nil =>
      rw [Machine.run_nil, Option.some.injEq] at h
      rw [h]
      exact ⟨[], List.Sublist.refl _, (List.append_nil _).symm, rfl⟩
  | cons e es ih =>
      obtain ⟨u, hu, ht⟩ := Machine.run_cons.mp h
      obtain ⟨new, hsub, haccepted, hcount⟩ := ih ht
      rcases step_accounts hu with ⟨a, rfl, -, hacc, href⟩ | ⟨a, rfl, -, hacc, href⟩
        | ⟨hnone, hacc, href⟩
      · rw [List.filterMap_cons_some (show Act.offered (.offer a) = some a from rfl)]
        refine ⟨a :: new, hsub.cons_cons a, ?_, ?_⟩
        · rw [haccepted, hacc, List.append_assoc, List.singleton_append]
        · rw [List.length_cons, List.length_cons]
          omega
      · rw [List.filterMap_cons_some (show Act.offered (.offer a) = some a from rfl)]
        refine ⟨new, hsub.cons a, by rw [haccepted, hacc], ?_⟩
        rw [List.length_cons]
        omega
      · rw [List.filterMap_cons_none hnone]
        exact ⟨new, hsub, by rw [haccepted, hacc], by omega⟩

/-- Offers that always find room are all accepted: no step of the run counts a refusal. -/
theorem run_open {es : List (Act α)} (h : Machine.run (Chan.step bound) s es = some t)
    (hopen : Machine.Guarded (Chan.step bound)
      (fun s e => (Act.offered e).isSome → s.Open bound) s es) : t.refused = s.refused := by
  refine @Machine.run_inv_of_guarded _ _ _ _ (fun u : Chan α => u.refused = s.refused) ?_ _ _ _
    rfl hopen h
  intro u e v hu hroom hv
  rcases step_accounts hv with ⟨a, rfl, -, -, href⟩ | ⟨a, rfl, hfull, -, -⟩ | ⟨-, -, href⟩
  · rw [href, hu]
  · exact absurd (hroom rfl) hfull
  · rw [href, hu]

end Runs

end Channel
