/-
What two equal digests say when nothing is assumed about the hash: the inputs are the same, or they
are a collision that can be pointed at. `chain_eq` says it of a chain of keyed hashes, where each
digest is the key of the next message.
-/
import Runlet.Lib.Result

set_option autoImplicit false

namespace Collision

/-- Two inputs, and one digest. -/
def Collides {α β : Type*} (hash : α → β) (x y : α) : Prop := x ≠ y ∧ hash x = hash y

/-- Two texts with one hash are the same, or a collision. -/
theorem eq_or_collides {α β : Type*} {hash : α → β} {x y : α} (h : hash x = hash y) :
    x = y ∨ Collides hash x y := by
  by_cases heq : x = y
  · exact Or.inl heq
  · exact Or.inr ⟨heq, h⟩

section Chain

variable {κ μ ε : Type} (mac : κ → μ → Except ε κ)

/-- Each digest is the key of the next message. -/
def chain (key : κ) (messages : List μ) : Except ε κ := messages.foldlM mac key

/-- Two chains meet: at some point of both, keys and messages that differ have one digest. -/
inductive Meet : κ → List μ → κ → List μ → Prop
  | here {key key' digest : κ} {m m' : μ} {ms ms' : List μ} (hne : (key, m) ≠ (key', m'))
    (h : mac key m = .ok digest) (h' : mac key' m' = .ok digest) : Meet key (m :: ms) key' (m' :: ms')
  | later {key key' next next' : κ} {m m' : μ} {ms ms' : List μ} (h : mac key m = .ok next)
    (h' : mac key' m' = .ok next') (hmeet : Meet next ms next' ms') :
    Meet key (m :: ms) key' (m' :: ms')

variable {mac}

theorem chain_nil {key digest : κ} : chain mac key [] = .ok digest ↔ key = digest := Result.pure_eq_ok

/-- A chain goes on from the key that its first link makes. -/
theorem chain_cons {key digest : κ} {m : μ} {ms : List μ} :
    chain mac key (m :: ms) = .ok digest
      ↔ ∃ next, mac key m = .ok next ∧ chain mac next ms = .ok digest := by
  unfold chain
  rw [List.foldlM_cons, Result.bind_eq_ok]

/-- It ends with the link under the last key. -/
theorem chain_snoc {key digest : κ} {ms : List μ} {m : μ} :
    chain mac key (ms ++ [m]) = .ok digest
      ↔ ∃ last, chain mac key ms = .ok last ∧ mac last m = .ok digest := by
  unfold chain
  rw [List.foldlM_append, Result.bind_eq_ok]
  simp only [List.foldlM_cons, List.foldlM_nil, Result.bind_eq_ok, Result.pure_eq_ok, exists_eq_right]

/-- **Chains that end in one digest** are the same chain, or meet. By induction on the messages:
from the first step on, the two keys are the same, or two pairs have gone to one. -/
theorem chain_eq {key key' digest : κ} {ms ms' : List μ} (hlen : ms.length = ms'.length)
    (h : chain mac key ms = .ok digest) (h' : chain mac key' ms' = .ok digest) :
    (key = key' ∧ ms = ms') ∨ Meet mac key ms key' ms' := by
  induction ms generalizing key key' ms' with
  | nil =>
      rw [List.length_nil, eq_comm, List.length_eq_zero_iff] at hlen
      subst hlen
      rw [chain_nil] at h h'
      exact Or.inl ⟨h.trans h'.symm, rfl⟩
  | cons m ms ih =>
      obtain ⟨m', ms', rfl⟩ := List.exists_cons_of_length_eq_add_one hlen.symm
      obtain ⟨next, hnext, hrest⟩ := chain_cons.mp h
      obtain ⟨next', hnext', hrest'⟩ := chain_cons.mp h'
      rw [List.length_cons, List.length_cons, Nat.add_right_cancel_iff] at hlen
      rcases ih hlen hrest hrest' with ⟨rfl, rfl⟩ | hmeet
      · by_cases hpair : (key, m) = (key', m')
        · rw [Prod.mk.injEq] at hpair
          exact Or.inl ⟨hpair.1, by rw [hpair.2]⟩
        · exact Or.inr (.here hpair hnext hnext')
      · exact Or.inr (.later hnext hnext' hmeet)

end Chain

end Collision
