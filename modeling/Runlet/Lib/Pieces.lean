/-
A finite sequence that arrives in pieces. `take_exact n` is the loop of a blocking
read: it takes pieces, and a part of the last one, until it has `n` elements, and
fails when the sequence ends first. An empty piece is a poll that brought nothing.

How the sequence is cut does not matter: `take_exact` gives the first `n` elements,
and leaves the rest.
-/
import Mathlib.Data.List.Basic

set_option autoImplicit false

namespace Pieces

variable {β : Type}

def take_exact : ℕ → List (List β) → Option (List β × List (List β))
  | 0, pieces => some ([], pieces)
  | _ + 1, [] => none
  | n + 1, piece :: pieces =>
    if n + 1 < piece.length then some (piece.take (n + 1), piece.drop (n + 1) :: pieces)
    else
      match take_exact (n + 1 - piece.length) pieces with
      | some (more, rest) => some (piece ++ more, rest)
      | none => none

/-- There is enough: the first `n` elements, and the rest. By induction on the pieces, however
they are cut: a piece is used up, or the rest of it stays in front. -/
theorem take_exact_of_le {n : ℕ} {pieces : List (List β)} (h : n ≤ pieces.flatten.length) :
    ∃ rest, take_exact n pieces = some (pieces.flatten.take n, rest)
      ∧ rest.flatten = pieces.flatten.drop n := by
  induction pieces generalizing n with
  | nil =>
      have hn : n = 0 := by simpa using h
      subst hn
      exact ⟨[], rfl, rfl⟩
  | cons piece pieces ih =>
      cases n with
      | zero => exact ⟨piece :: pieces, rfl, rfl⟩
      | succ n =>
          rw [List.flatten_cons, List.length_append] at h
          rw [List.flatten_cons]
          by_cases hlt : n + 1 < piece.length
          -- the piece is larger than what is missing
          · refine ⟨piece.drop (n + 1) :: pieces, ?_, ?_⟩
            · rw [take_exact, if_pos hlt, List.take_append_of_le_length (by omega)]
            · rw [List.flatten_cons, List.drop_append_of_le_length (by omega)]
          · obtain ⟨rest, htake, hrest⟩ := ih (n := n + 1 - piece.length) (by omega)
            refine ⟨rest, ?_, ?_⟩
            · rw [take_exact, if_neg hlt, htake, List.take_append,
                List.take_of_length_le (show piece.length ≤ n + 1 by omega)]
            · rw [hrest, List.drop_append,
                List.drop_of_length_le (show piece.length ≤ n + 1 by omega), List.nil_append]

/-- There is not enough: all pieces are used up, and some elements are still wanting. -/
theorem take_exact_of_lt {n : ℕ} {pieces : List (List β)} (h : pieces.flatten.length < n) :
    take_exact n pieces = none := by
  induction pieces generalizing n with
  | nil =>
      cases n with
      | zero => omega
      | succ n => rfl
  | cons piece pieces ih =>
      rw [List.flatten_cons, List.length_append] at h
      cases n with
      | zero => omega
      | succ n =>
          have hle : ¬ n + 1 < piece.length := by omega
          rw [take_exact, if_neg hle, ih (by omega)]

end Pieces
