/-
Programs that ask. A `Script` is any program that computes on its own between
queries to a host: what it asks next, and what it returns, may depend on every
answer so far. The host is a function from its state and a query to an answer and
the next state.

Two runs of one script against two hosts can only part at a query the hosts
answer differently. `run_agree` is that rule, with a relation between the states
of the hosts and a condition on the queries the first run asks.

A host may also break a run off (`run_until`): it looks at its state before every
query and before the end. A run it lets through is the run without it.
-/
import Mathlib.Data.List.Basic

set_option autoImplicit false

namespace Interaction

/-- A program over the queries `Q`, answered in `A`. -/
inductive Script (Q A α : Type)
  | done (out : α)
  | ask (q : Q) (next : A → Script Q A α)

/-- What a run leaves: the dialogue, the result, and the host's last state. -/
@[ext] structure Run (Q A α σ : Type) where
  log : List (Q × A)
  out : α
  final : σ

variable {Q A α σ τ : Type}

def run (host : σ → Q → A × σ) : Script Q A α → σ → Run Q A α σ
  | .done out, s => ⟨[], out, s⟩
  | .ask q next, s =>
    let rest := run host (next (host s q).1) (host s q).2
    { rest with log := (q, (host s q).1) :: rest.log }

/-- Every query of the run meets `p`, in the state it is asked in. -/
def Along (host : σ → Q → A × σ) (p : σ → Q → Prop) : Script Q A α → σ → Prop
  | .done _, _ => True
  | .ask q next, s => p s q ∧ Along host p (next (host s q).1) (host s q).2

/-- **The two runs agree.** Where the hosts, in related states, give a query the
same answer and stay related, the runs have the same dialogue and the same result,
and end in related states. -/
theorem run_agree {host : σ → Q → A × σ} {host' : τ → Q → A × τ} {R : σ → τ → Prop}
    {p : σ → Q → Prop}
    (hstep : ∀ s t q, R s t → p s q →
      (host s q).1 = (host' t q).1 ∧ R (host s q).2 (host' t q).2)
    {script : Script Q A α} {s : σ} {t : τ} (hrel : R s t) (halong : Along host p script s) :
    (run host script s).log = (run host' script t).log
      ∧ (run host script s).out = (run host' script t).out
      ∧ R (run host script s).final (run host' script t).final := by
  induction script generalizing s t with
  | done out => exact ⟨rfl, rfl, hrel⟩
  | ask q next ih =>
      obtain ⟨hp, hrest⟩ := halong
      obtain ⟨hanswer, hnext⟩ := hstep s t q hrel hp
      obtain ⟨hlog, hout, hfinal⟩ := ih _ hnext hrest
      simp only [run]
      rw [← hanswer, hlog]
      exact ⟨rfl, hout, hfinal⟩

/-! ## Runs that are broken off -/

/-- A run that has no result where the host stops it first. -/
def run_until (host : σ → Q → A × σ) (stop : σ → Bool) : Script Q A α → σ → Run Q A (Option α) σ
  | .done out, s => ⟨[], if stop s then none else some out, s⟩
  | .ask q next, s =>
    if stop s then ⟨[], none, s⟩
    else
      let rest := run_until host stop (next (host s q).1) (host s q).2
      { rest with log := (q, (host s q).1) :: rest.log }

/-- The host lets the run through. -/
def Unbroken (host : σ → Q → A × σ) (stop : σ → Bool) : Script Q A α → σ → Prop
  | .done _, s => stop s = false
  | .ask q next, s => stop s = false ∧ Unbroken host stop (next (host s q).1) (host s q).2

/-- A run that is not broken off is the run. By induction on the script: at each query the host
does not stop, and answers as it would. -/
theorem run_until_of_unbroken {host : σ → Q → A × σ} {stop : σ → Bool} {script : Script Q A α}
    {s : σ} (h : Unbroken host stop script s) :
    run_until host stop script s
      = ⟨(run host script s).log, some (run host script s).out, (run host script s).final⟩ := by
  induction script generalizing s with
  | done out =>
      have hstop : stop s = false := h
      rw [run_until, hstop]
      rfl
  | ask q next ih =>
      obtain ⟨hstop, hrest⟩ := h
      rw [run_until, hstop, ih _ hrest]
      rfl

end Interaction
