/-
Memoized computation. A query has a key and an answer; an answer may be stored
under the key in a form that loads back. Between the queries, entries may be dropped
at any time.

Two laws make the memory invisible: the keys of the queries asked are distinct, and
what is stored loads as what was computed. Under them every answer is the computed
one, a hit goes back to an earlier miss of the same query, and the queries of one
owner are served as if no one else had asked.
-/
import Mathlib.Data.Set.Function
import Mathlib.Logic.Function.Basic

set_option autoImplicit false

namespace Memo

variable {Q K B R O : Type} [DecidableEq K]

structure Scheme (Q K B R : Type) where
  key : Q → K
  compute : Q → R
  /-- The stored form of a computed answer, where it is stored at all. -/
  store : Q → R → Option B
  load : B → R

/-- The entries, and what has been counted. -/
structure Memory (K B : Type) where
  entries : K → Option B
  hits : ℕ
  misses : ℕ
  stored : ℕ

def Memory.empty : Memory K B := ⟨fun _ => none, 0, 0, 0⟩

structure Served (Q R : Type) where
  query : Q
  hit : Bool
  result : R

inductive Event (Q K : Type)
  | call (q : Q)
  | evict (k : K)

/-- One query. -/
def lookup (scheme : Scheme Q K B R) (memory : Memory K B) (q : Q) :
    Served Q R × Memory K B :=
  match memory.entries (scheme.key q) with
  | some b => (⟨q, true, scheme.load b⟩, { memory with hits := memory.hits + 1 })
  | none =>
    let result := scheme.compute q
    let missed := { memory with misses := memory.misses + 1 }
    match scheme.store q result with
    | some b =>
      (⟨q, false, result⟩, { missed with
        entries := Function.update memory.entries (scheme.key q) (some b)
        stored := memory.stored + 1 })
    | none => (⟨q, false, result⟩, missed)

def evict (memory : Memory K B) (k : K) : Memory K B :=
  { memory with entries := Function.update memory.entries k none }

/-- A history, served in order. -/
def serve (scheme : Scheme Q K B R) : Memory K B → List (Event Q K) →
    List (Served Q R) × Memory K B
  | memory, [] => ([], memory)
  | memory, .evict k :: events => serve scheme (evict memory k) events
  | memory, .call q :: events =>
    let (served, next) := lookup scheme memory q
    let (log, last) := serve scheme next events
    (served :: log, last)

/-- The queries of a history. -/
def asked : List (Event Q K) → List Q
  | [] => []
  | .evict _ :: events => asked events
  | .call q :: events => q :: asked events

/-- What is stored loads as what was computed. -/
def Scheme.LoadsBack (scheme : Scheme Q K B R) : Prop :=
  ∀ q b, scheme.store q (scheme.compute q) = some b → scheme.load b = scheme.compute q

@[simp] theorem evict_entries (memory : Memory K B) (k : K) :
    (evict memory k).entries = Function.update memory.entries k none := rfl

/-! ## One query -/

section Lookup

variable {scheme : Scheme Q K B R}

theorem lookup_hit {memory : Memory K B} {q : Q} {b : B}
    (h : memory.entries (scheme.key q) = some b) :
    lookup scheme memory q = (⟨q, true, scheme.load b⟩, { memory with hits := memory.hits + 1 }) := by
  rw [lookup, h]

theorem lookup_unstored {memory : Memory K B} {q : Q}
    (h : memory.entries (scheme.key q) = none) (hstore : scheme.store q (scheme.compute q) = none) :
    lookup scheme memory q
      = (⟨q, false, scheme.compute q⟩, { memory with misses := memory.misses + 1 }) := by
  simp only [lookup, h, hstore]

/-- A first lookup computes, and what it stores is there afterwards. -/
theorem lookup_stored {memory : Memory K B} {q : Q} {b : B}
    (h : memory.entries (scheme.key q) = none)
    (hstore : scheme.store q (scheme.compute q) = some b) :
    lookup scheme memory q = (⟨q, false, scheme.compute q⟩, { memory with
      entries := Function.update memory.entries (scheme.key q) (some b)
      misses := memory.misses + 1
      stored := memory.stored + 1 }) := by
  simp only [lookup, h, hstore]

/-- A miss is answered by the computation, and adds at most the entry of its key. -/
theorem lookup_miss {memory : Memory K B} {q : Q} (h : memory.entries (scheme.key q) = none) :
    (lookup scheme memory q).1 = ⟨q, false, scheme.compute q⟩
      ∧ (lookup scheme memory q).2.hits = memory.hits
      ∧ (lookup scheme memory q).2.misses = memory.misses + 1
      ∧ (lookup scheme memory q).2.entries
        = Function.update memory.entries (scheme.key q) (scheme.store q (scheme.compute q))
      ∧ (lookup scheme memory q).2.stored ≤ memory.stored + 1 := by
  cases hstore : scheme.store q (scheme.compute q) with
  | none =>
      rw [lookup_unstored h hstore]
      refine ⟨rfl, rfl, rfl, ?_, Nat.le_succ _⟩
      rw [← h, Function.update_eq_self]
  | some b =>
      rw [lookup_stored h hstore]
      exact ⟨rfl, rfl, rfl, rfl, le_refl _⟩

end Lookup

/-! ## Every answer is computed, every hit is earned -/

section Transparent

variable {scheme : Scheme Q K B R}

/-- Each entry was stored by a miss of the log. -/
def Earned (scheme : Scheme Q K B R) (log : List (Served Q R)) (memory : Memory K B) : Prop :=
  ∀ k b, memory.entries k = some b → ∃ e ∈ log, e.hit = false ∧ scheme.key e.query = k
    ∧ scheme.store e.query (scheme.compute e.query) = some b

/-- What is left after an eviction was earned before it. -/
theorem Earned.evict {log : List (Served Q R)} {memory : Memory K B}
    (h : Earned scheme log memory) (k : K) : Earned scheme log (Memo.evict memory k) := by
  intro k' b hb
  by_cases hk : k' = k
  · rw [evict_entries, hk, Function.update_self] at hb
    cases hb
  · rw [evict_entries, Function.update_of_ne hk] at hb
    exact h k' b hb

/-- The log grows by what was served. A hit hands out what an earlier miss had stored, and a miss
what it builds itself and may store. -/
theorem Earned.lookup {log : List (Served Q R)} {memory : Memory K B}
    (h : Earned scheme log memory) (q : Q) :
    Earned scheme (log ++ [(Memo.lookup scheme memory q).1]) (Memo.lookup scheme memory q).2 := by
  intro k b hb
  have hold : memory.entries k = some b → ∃ e ∈ log ++ [(Memo.lookup scheme memory q).1],
      e.hit = false ∧ scheme.key e.query = k
        ∧ scheme.store e.query (scheme.compute e.query) = some b := by
    intro hentry
    obtain ⟨e, hmem, he⟩ := h k b hentry
    exact ⟨e, List.mem_append_left _ hmem, he⟩
  cases hentry : memory.entries (scheme.key q) with
  | some b' =>
      rw [lookup_hit hentry] at hb
      exact hold hb
  | none =>
      -- a miss changes the entry of its own key, and earns it
      obtain ⟨hserved, -, -, hentries, -⟩ := lookup_miss hentry
      rw [hentries] at hb
      by_cases hk : k = scheme.key q
      · rw [hk, Function.update_self] at hb
        refine ⟨_, List.mem_append_right _ (List.mem_singleton_self _), ?_⟩
        rw [hserved]
        exact ⟨rfl, hk.symm, hb⟩
      · rw [Function.update_of_ne hk] at hb
        exact hold hb

/-- What is asked of a served query, after the log so far. -/
structure Right (scheme : Scheme Q K B R) (before : List (Served Q R)) (served : Served Q R) :
    Prop where
  result : served.result = scheme.compute served.query
  hit_earned : served.hit = true → ∃ e ∈ before, e.query = served.query ∧ e.hit = false
    ∧ ∃ b, scheme.store e.query (scheme.compute e.query) = some b

/-- The step: with distinct keys, an entry under a query's key is its own. -/
theorem lookup_right (hload : scheme.LoadsBack) {used : Set Q} (hinj : Set.InjOn scheme.key used)
    {log : List (Served Q R)} (hlog : ∀ e ∈ log, e.query ∈ used) {memory : Memory K B}
    (h : Earned scheme log memory) {q : Q} (hq : q ∈ used) :
    Right scheme log (Memo.lookup scheme memory q).1 := by
  cases hentry : memory.entries (scheme.key q) with
  | some b =>
      obtain ⟨e, hmem, hmiss, hkey, hstore⟩ := h _ _ hentry
      have hsame : e.query = q := hinj (hlog e hmem) hq hkey
      rw [lookup_hit hentry]
      refine ⟨?_, fun _ => ⟨e, hmem, hsame, hmiss, b, hstore⟩⟩
      show scheme.load b = scheme.compute q
      rw [← hsame]
      exact hload _ _ hstore
  | none =>
      obtain ⟨hserved, -⟩ := lookup_miss hentry
      rw [hserved]
      exact ⟨rfl, by simp⟩

theorem lookup_query (memory : Memory K B) (q : Q) : (lookup scheme memory q).1.query = q := by
  cases hentry : memory.entries (scheme.key q) with
  | some b => rw [lookup_hit hentry]
  | none => rw [(lookup_miss hentry).1]

/-- **A memory is invisible.** Every query of a history is answered with what it
computes, and a hit repeats an earlier miss whose answer was stored. -/
theorem serve_right (hload : scheme.LoadsBack) {used : Set Q} (hinj : Set.InjOn scheme.key used)
    {events : List (Event Q K)} (hused : ∀ q ∈ asked events, q ∈ used)
    {log : List (Served Q R)} (hlog : ∀ e ∈ log, e.query ∈ used) {memory : Memory K B}
    (h : Earned scheme log memory) {before after : List (Served Q R)} {served : Served Q R}
    (hsplit : (serve scheme memory events).1 = before ++ served :: after) :
    Right scheme (log ++ before) served := by
  induction events generalizing memory log before with
  | nil => simp [serve] at hsplit
  | cons event events ih =>
      cases event with
      | evict k => exact ih hused hlog (h.evict k) hsplit
      | call q =>
          have hq : q ∈ used := hused q List.mem_cons_self
          have hrest : ∀ q' ∈ asked events, q' ∈ used :=
            fun q' hq' => hused q' (List.mem_cons_of_mem _ hq')
          have hcons : (lookup scheme memory q).1
              :: (serve scheme (lookup scheme memory q).2 events).1 = before ++ served :: after :=
            hsplit
          cases before with
          | nil =>
              -- the query at hand
              rw [List.nil_append, List.cons.injEq] at hcons
              rw [← hcons.1, List.append_nil]
              exact lookup_right hload hinj hlog h hq
          | cons first before =>
              -- a later one: the log has grown by this query
              rw [List.cons_append, List.cons.injEq] at hcons
              have hgrown : ∀ e ∈ log ++ [(lookup scheme memory q).1], e.query ∈ used := by
                intro e he
                rcases List.mem_append.mp he with he | he
                · exact hlog e he
                · rw [List.mem_singleton.mp he, lookup_query]
                  exact hq
              have hlater := ih hrest hgrown (h.lookup q) hcons.2
              rw [← hcons.1, List.append_cons]
              exact hlater

/-- Each question gets one answer, in its turn. By induction on the events; an eviction is no
question. -/
theorem serve_asked (memory : Memory K B) (events : List (Event Q K)) :
    (serve scheme memory events).1.map Served.query = asked events := by
  induction events generalizing memory with
  | nil => rfl
  | cons event events ih =>
      cases event with
      | evict k => exact ih _
      | call q =>
          show (lookup scheme memory q).1.query :: _ = q :: asked events
          rw [lookup_query, ih]

/-! ## The counters -/

/-- Each lookup is a hit or a miss, and no more is stored than was missed. -/
theorem lookup_counts (scheme : Scheme Q K B R) (memory : Memory K B) (q : Q) :
    (lookup scheme memory q).2.hits + (lookup scheme memory q).2.misses
        = memory.hits + memory.misses + 1
      ∧ (memory.stored ≤ memory.misses →
        (lookup scheme memory q).2.stored ≤ (lookup scheme memory q).2.misses) := by
  cases hentry : memory.entries (scheme.key q) with
  | some b =>
      rw [lookup_hit hentry]
      exact ⟨by dsimp only; omega, id⟩
  | none =>
      obtain ⟨-, hhits, hmisses, -, hstored⟩ := lookup_miss hentry
      rw [hhits, hmisses]
      exact ⟨by omega, by omega⟩

/-- Each query is a hit or a miss, and only a miss is stored. By induction on the events: each
query moves one of the two counters, and none of the other events does. -/
theorem serve_counts (scheme : Scheme Q K B R) (memory : Memory K B) (events : List (Event Q K)) :
    (serve scheme memory events).2.hits + (serve scheme memory events).2.misses
        = memory.hits + memory.misses + (asked events).length
      ∧ (memory.stored ≤ memory.misses →
        (serve scheme memory events).2.stored ≤ (serve scheme memory events).2.misses) := by
  induction events generalizing memory with
  | nil => exact ⟨rfl, id⟩
  | cons event events ih =>
      cases event with
      | evict k => exact ih _
      | call q =>
          obtain ⟨hsum, hstored⟩ := lookup_counts scheme memory q
          obtain ⟨hsums, hstoreds⟩ := ih (lookup scheme memory q).2
          constructor
          · show (serve scheme (lookup scheme memory q).2 events).2.hits
              + (serve scheme (lookup scheme memory q).2 events).2.misses
                = memory.hits + memory.misses + (asked events).length.succ
            omega
          · intro hle
            exact hstoreds (hstored hle)

end Transparent

/-! ## Owners -/

section Owners

variable {scheme : Scheme Q K B R} {owner : Q → O}

/-- The memories agree on the keys of one owner. -/
def SameFor (scheme : Scheme Q K B R) (owner : Q → O) (used : Set Q) (o : O)
    (memory memory' : Memory K B) : Prop :=
  ∀ q ∈ used, owner q = o → memory.entries (scheme.key q) = memory'.entries (scheme.key q)

/-- Two memories that are the same for an owner stay so under an eviction of either kind of key.
-/
theorem SameFor.evict {used : Set Q} {o : O} {memory memory' : Memory K B}
    (h : SameFor scheme owner used o memory memory') (k : K) :
    SameFor scheme owner used o (Memo.evict memory k) (Memo.evict memory' k) := by
  intro q hq ho
  rw [evict_entries, evict_entries]
  by_cases hk : scheme.key q = k
  · rw [hk, Function.update_self, Function.update_self]
  · rw [Function.update_of_ne hk, Function.update_of_ne hk]
    exact h q hq ho

/-- Where two memories agree on the key of a query, they serve it alike, and agree
on as many keys as before. -/
theorem SameFor.lookup {used : Set Q} {o : O} {memory memory' : Memory K B}
    (h : SameFor scheme owner used o memory memory') {q : Q} (hq : q ∈ used) (ho : owner q = o) :
    (Memo.lookup scheme memory q).1 = (Memo.lookup scheme memory' q).1
      ∧ SameFor scheme owner used o (Memo.lookup scheme memory q).2
        (Memo.lookup scheme memory' q).2 := by
  have hkey := h q hq ho
  cases hentry : memory.entries (scheme.key q) with
  | some b =>
      rw [lookup_hit hentry, lookup_hit (hkey ▸ hentry)]
      exact ⟨rfl, h⟩
  | none =>
      have hentry' : memory'.entries (scheme.key q) = none := hkey ▸ hentry
      obtain ⟨hserved, -, -, hentries, -⟩ := lookup_miss hentry
      obtain ⟨hserved', -, -, hentries', -⟩ := lookup_miss hentry'
      rw [hserved, hserved']
      refine ⟨rfl, ?_⟩
      intro q' hq' ho'
      rw [hentries, hentries']
      by_cases hk : scheme.key q' = scheme.key q
      · rw [hk, Function.update_self, Function.update_self]
      · rw [Function.update_of_ne hk, Function.update_of_ne hk]
        exact h q' hq' ho'

/-- Another owner's query touches no key of this one. -/
theorem SameFor.lookup_other {used : Set Q} (hinj : Set.InjOn scheme.key used) {o : O}
    {memory memory' : Memory K B} (h : SameFor scheme owner used o memory memory') {q : Q}
    (hq : q ∈ used) (ho : owner q ≠ o) :
    SameFor scheme owner used o (Memo.lookup scheme memory q).2 memory' := by
  cases hentry : memory.entries (scheme.key q) with
  | some b =>
      rw [lookup_hit hentry]
      exact h
  | none =>
      obtain ⟨-, -, -, hentries, -⟩ := lookup_miss hentry
      intro q' hq' ho'
      -- two owners, two queries, two keys
      have hk : scheme.key q' ≠ scheme.key q := by
        intro hkey
        rw [hinj hq' hq hkey] at ho'
        exact ho ho'
      rw [hentries, Function.update_of_ne hk]
      exact h q' hq' ho'

/-- The events an owner has to do with: its own queries, and every eviction. -/
def concerns [DecidableEq O] (owner : Q → O) (o : O) : Event Q K → Bool
  | .call q => owner q = o
  | .evict _ => true

/-- **Owners are apart.** The queries of one owner are served as in the history
without the queries of the others. -/
theorem serve_separated [DecidableEq O] {used : Set Q} (hinj : Set.InjOn scheme.key used) {o : O}
    {events : List (Event Q K)} (hused : ∀ q ∈ asked events, q ∈ used)
    {memory memory' : Memory K B} (h : SameFor scheme owner used o memory memory') :
    (serve scheme memory events).1.filter (fun served => owner served.query = o)
      = (serve scheme memory' (events.filter (concerns owner o))).1 := by
  induction events generalizing memory memory' with
  | nil => rfl
  | cons event events ih =>
      cases event with
      | evict k => exact ih hused (h.evict k)
      | call q =>
          have hq : q ∈ used := hused q List.mem_cons_self
          have hrest : ∀ q' ∈ asked events, q' ∈ used :=
            fun q' hq' => hused q' (List.mem_cons_of_mem _ hq')
          show ((lookup scheme memory q).1 :: (serve scheme (lookup scheme memory q).2 events).1).filter
            (fun served => owner served.query = o) = _
          by_cases ho : owner q = o
          · obtain ⟨hserved, hnext⟩ := h.lookup hq ho
            have hkeep : concerns owner o (Event.call q : Event Q K) = true := decide_eq_true ho
            rw [List.filter_cons_of_pos (by rw [lookup_query]; exact decide_eq_true ho),
              List.filter_cons_of_pos hkeep, ih hrest hnext]
            show _ = (lookup scheme memory' q).1 :: _
            rw [hserved]
            rfl
          -- the query is dropped on the right, and changes nothing of `o` on the left
          · have hdrop : ¬ concerns owner o (Event.call q : Event Q K) = true := by
              rw [concerns, decide_eq_true_iff]
              exact ho
            rw [List.filter_cons_of_neg (by rw [lookup_query]; simpa using ho),
              List.filter_cons_of_neg hdrop]
            exact ih hrest (h.lookup_other hinj hq ho)

end Owners

end Memo
