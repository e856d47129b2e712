/-
Markup as text: tags in angle brackets, character data without `<`, and what splitting the
text at an opening tag finds.

`split_render` is the one result: in a document whose only `<` are those of its tags, the
pieces that follow an opening tag, cut at the closing one, are the contents of the elements
of that name, in order.
-/
import Runlet.Lib.Text

set_option autoImplicit false

namespace Markup

open Text

/-- A piece of a document. -/
inductive Node
  /-- Character data. -/
  | text (cs : List Char)
  /-- Any tag, a declaration or a processing instruction, by what stands in the brackets. -/
  | tag (cs : List Char)
  /-- An element that has only character data in it. -/
  | element (name cs : List Char)
  deriving DecidableEq, Repr

/-- The opening tag of a name. -/
def opening (name : List Char) : List Char := '<' :: (name ++ ['>'])

/-- The closing tag of a name. -/
def closing (name : List Char) : List Char := '<' :: '/' :: (name ++ ['>'])

def Node.render : Node → List Char
  | text cs => cs
  | tag cs => '<' :: (cs ++ ['>'])
  | element name cs => opening name ++ (cs ++ closing name)

def render (nodes : List Node) : List Char := nodes.flatMap Node.render

/-- The contents of the elements of a name. -/
def texts (name : List Char) (nodes : List Node) : List (List Char) :=
  nodes.filterMap fun
    | .element name' cs => if name' = name then some cs else none
    | .text _ | .tag _ => none

/-- A name: no bracket in it, and no slash in front. -/
structure IsName (name : List Char) : Prop where
  no_open : '<' ∉ name
  no_close : '>' ∉ name
  no_slash : name.head? ≠ some '/'

/-- The only `<` are those of the tags, and the elements of the name are where they are said
to be. -/
def Node.Plain (name : List Char) : Node → Prop
  | text cs => '<' ∉ cs
  | tag cs => '<' ∉ cs ∧ (name ++ ['>']).isPrefixOf (cs ++ ['>']) = false
  | element name' cs => IsName name' ∧ '<' ∉ cs

instance (name : List Char) : Decidable (IsName name) :=
  decidable_of_iff ('<' ∉ name ∧ '>' ∉ name ∧ name.head? ≠ some '/')
    ⟨fun h => ⟨h.1, h.2.1, h.2.2⟩, fun h => ⟨h.no_open, h.no_close, h.no_slash⟩⟩

instance (name : List Char) : (node : Node) → Decidable (node.Plain name)
  | .text cs => inferInstanceAs (Decidable ('<' ∉ cs))
  | .tag _ => inferInstanceAs (Decidable (_ ∧ _))
  | .element _ _ => inferInstanceAs (Decidable (_ ∧ _))

variable {name : List Char}

/-- A name and its bracket end where the first bracket of the tag does, as the name has none in
it. -/
theorem isPrefixOf_bracket (hname : '>' ∉ name) {cs rest : List Char}
    (h : (name ++ ['>']).isPrefixOf (cs ++ '>' :: rest) = true) :
    (name ++ ['>']).isPrefixOf (cs ++ ['>']) = true := by
  induction name generalizing cs with
  | nil =>
      cases cs with
      | nil => rfl
      | cons c cs =>
          rw [List.nil_append, List.cons_append, List.isPrefixOf, Bool.and_eq_true] at h
          rw [List.nil_append, List.cons_append, List.isPrefixOf, h.1]
          rfl
  | cons d name ih =>
      rw [List.mem_cons, not_or] at hname
      cases cs with
      | nil =>
          rw [List.nil_append, List.cons_append, List.isPrefixOf, Bool.and_eq_true, beq_iff_eq] at h
          exact absurd h.1.symm hname.1
      | cons c cs =>
          rw [List.cons_append, List.cons_append, List.isPrefixOf, Bool.and_eq_true] at h ⊢
          exact ⟨h.1, ih hname.2 h.2⟩

/-- Two names are the same where one tag starts with the other. -/
theorem eq_of_isPrefixOf (hname : '>' ∉ name) {name' : List Char} (hname' : '>' ∉ name')
    (h : (name ++ ['>']).isPrefixOf (name' ++ ['>']) = true) : name' = name := by
  induction name generalizing name' with
  | nil =>
      cases name' with
      | nil => rfl
      | cons c cs =>
          rw [List.nil_append, List.cons_append, List.isPrefixOf, Bool.and_eq_true, beq_iff_eq] at h
          exact absurd (h.1 ▸ List.mem_cons_self) hname'
  | cons d name ih =>
      rw [List.mem_cons, not_or] at hname
      cases name' with
      | nil =>
          rw [List.nil_append, List.cons_append, List.isPrefixOf, Bool.and_eq_true, beq_iff_eq] at h
          exact absurd h.1.symm hname.1
      | cons c cs =>
          rw [List.mem_cons, not_or] at hname'
          rw [List.cons_append, List.cons_append, List.isPrefixOf, Bool.and_eq_true, beq_iff_eq] at h
          rw [h.1, ih hname.2 hname'.2 h.2]

theorem opening_ne_nil (name : List Char) : opening name ≠ [] := List.cons_ne_nil _ _

theorem closing_ne_nil (name : List Char) : closing name ≠ [] := List.cons_ne_nil _ _

/-- A tag that does not open the name is skipped. -/
theorem split_tag (hname : IsName name) {cs : List Char} (hcs : '<' ∉ cs)
    (htag : (name ++ ['>']).isPrefixOf (cs ++ ['>']) = false) (rest : List Char) :
    split (opening name) ('<' :: (cs ++ '>' :: rest))
      = (split (opening name) rest).modifyHead ('<' :: (cs ++ ['>']) ++ ·) := by
  have hfirst : (opening name).isPrefixOf ('<' :: (cs ++ '>' :: rest)) = false := by
    rw [opening, List.isPrefixOf, beq_self_eq_true, Bool.true_and, Bool.eq_false_iff]
    intro h
    rw [isPrefixOf_bracket hname.no_close h] at htag
    cases htag
  have hbody : '<' ∉ cs ++ ['>'] := by
    rw [List.mem_append, not_or]
    exact ⟨hcs, by decide⟩
  have hjoin : cs ++ '>' :: rest = (cs ++ ['>']) ++ rest := by
    rw [List.append_assoc, List.singleton_append]
  rw [split_cons_of_no_match (opening_ne_nil name) hfirst, hjoin, opening,
    split_append_of_not_mem hbody]
  cases split ('<' :: (name ++ ['>'])) rest with
  | nil => rfl
  | cons first rest => rfl

theorem tail_modifyHead {α : Type} (f : α → α) (xs : List α) : (xs.modifyHead f).tail = xs.tail := by
  cases xs with
  | nil => rfl
  | cons x xs => rfl

/-- A closing tag opens nothing. -/
theorem split_closing (hname : IsName name) {name' : List Char} (hname' : IsName name')
    (rest : List Char) :
    split (opening name) (closing name' ++ rest)
      = (split (opening name) rest).modifyHead (closing name' ++ ·) := by
  have hslash : '<' ∉ '/' :: name' := by
    rw [List.mem_cons, not_or]
    exact ⟨by decide, hname'.no_open⟩
  have htag : (name ++ ['>']).isPrefixOf ('/' :: name' ++ ['>']) = false := by
    have hhead := hname.no_slash
    cases name with
    | nil => rfl
    | cons c name =>
        have hc : c ≠ '/' := by simpa using hhead
        rw [List.cons_append, List.cons_append, List.isPrefixOf, beq_false_of_ne hc, Bool.false_and]
  have hjoin : closing name' ++ rest = '<' :: ('/' :: name' ++ '>' :: rest) := by
    rw [closing, List.cons_append, List.cons_append, List.append_assoc]
    rfl
  rw [hjoin, split_tag hname hslash htag]
  rfl

/-- What follows an opening tag, up to the closing one. -/
def content (name segment : List Char) : List Char := (split (closing name) segment).headD []

theorem content_append {cs : List Char} (hcs : '<' ∉ cs) (rest : List Char) :
    content name (cs ++ (closing name ++ rest)) = cs := by
  have hsplit : split (closing name) (cs ++ (closing name ++ rest))
      = (split (closing name) (closing name ++ rest)).modifyHead (cs ++ ·) :=
    split_append_of_not_mem hcs _
  rw [content, hsplit, split_append_self (closing_ne_nil name)]
  exact List.append_nil cs

/-- One node more: its content comes first if it is an element of the name. A text has no tag in
it, and an element of another name has another opening tag. -/
theorem split_node (hname : IsName name) {node : Node} (hnode : node.Plain name)
    (rest : List Char) (hrest : split (opening name) rest ≠ []) :
    ((split (opening name) (node.render ++ rest)).tail).map (content name)
      = texts name [node] ++ ((split (opening name) rest).tail).map (content name) := by
  cases node with
  | text cs =>
      have hsplit : split (opening name) (cs ++ rest)
          = (split (opening name) rest).modifyHead (cs ++ ·) := split_append_of_not_mem hnode _
      show ((split (opening name) (cs ++ rest)).tail).map (content name) = _
      rw [hsplit, tail_modifyHead]
      rfl
  | tag cs =>
      have hjoin : (Node.tag cs).render ++ rest = '<' :: (cs ++ '>' :: rest) := by
        rw [Node.render, List.cons_append, List.append_assoc]
        rfl
      rw [hjoin, split_tag hname hnode.1 hnode.2, tail_modifyHead]
      rfl
  | element name' cs =>
      obtain ⟨hname', hcs⟩ := hnode
      have hjoin : (Node.element name' cs).render ++ rest
          = opening name' ++ (cs ++ (closing name' ++ rest)) := by
        rw [Node.render, List.append_assoc, List.append_assoc]
      have hcontent : split (opening name) (cs ++ (closing name' ++ rest))
          = (split (opening name) (closing name' ++ rest)).modifyHead (cs ++ ·) :=
        split_append_of_not_mem hcs _
      by_cases hsame : name' = name
      · subst hsame
        -- the piece after the opening tag starts with the content and its closing tag
        rw [hjoin, split_append_self (opening_ne_nil _), List.tail_cons, hcontent,
          split_closing hname hname']
        obtain ⟨first, pieces, hpieces⟩ := List.exists_cons_of_ne_nil hrest
        have htexts : texts name' [Node.element name' cs] = [cs] := by simp [texts]
        rw [hpieces, htexts]
        show content name' (cs ++ (closing name' ++ first)) :: pieces.map (content name') = _
        rw [content_append hcs]
        rfl
      · have htag : (name ++ ['>']).isPrefixOf (name' ++ ['>']) = false := by
          rw [Bool.eq_false_iff]
          intro h
          exact hsame (eq_of_isPrefixOf hname.no_close hname'.no_close h)
        have hopen : opening name' ++ (cs ++ (closing name' ++ rest))
            = '<' :: (name' ++ '>' :: (cs ++ (closing name' ++ rest))) := by
          rw [opening, List.cons_append, List.append_assoc]
          rfl
        have htexts : texts name [Node.element name' cs] = [] := by simp [texts, hsame]
        rw [hjoin, hopen, split_tag hname hname'.no_open htag, tail_modifyHead, hcontent,
          tail_modifyHead, split_closing hname hname', tail_modifyHead, htexts, List.nil_append]

theorem split_ne_nil {pattern : List Char} (hne : pattern ≠ []) (cs : List Char) :
    split pattern cs ≠ [] := by
  rw [split_eq hne]
  split
  · exact List.cons_ne_nil _ _
  · exact List.cons_ne_nil _ _

/-- The pieces after the opening tags have the contents of the elements in them. By induction on
the nodes, with `split_node` for the first. -/
theorem split_render (hname : IsName name) {nodes : List Node}
    (h : ∀ node ∈ nodes, node.Plain name) :
    ((split (opening name) (render nodes)).tail).map (content name) = texts name nodes := by
  induction nodes with
  | nil =>
      have hsplit : split (opening name) [] = [[]] := rfl
      rw [render, List.flatMap_nil, hsplit]
      rfl
  | cons node nodes ih =>
      rw [List.forall_mem_cons] at h
      rw [render, List.flatMap_cons, ← render,
        split_node hname h.1 _ (split_ne_nil (opening_ne_nil name) _), ih h.2]
      exact List.filterMap_append.symm

/-! ## Character data -/

/-- The predefined entity of a character. -/
def entity (c : Char) : Option (List Char) :=
  [('&', "&amp;"), ('<', "&lt;"), ('>', "&gt;"), ('"', "&quot;"), ('\'', "&apos;")].lookup c
    |>.map String.toList

/-- Any text as character data. -/
def escape (cs : List Char) : List Char := cs.flatMap fun c => (entity c).getD [c]

/-- The five entities. -/
theorem entity_eq_some {c : Char} {cs : List Char} (h : entity c = some cs) :
    cs ∈ ["&amp;".toList, "&lt;".toList, "&gt;".toList, "&quot;".toList, "&apos;".toList] := by
  obtain ⟨reference, hlookup, rfl⟩ := Option.map_eq_some_iff.mp h
  have hmem := List.lookup_eq_some_iff.mp hlookup
  obtain ⟨before, after, hsplit, -⟩ := hmem
  have hreference : reference ∈ [('&', "&amp;"), ('<', "&lt;"), ('>', "&gt;"), ('"', "&quot;"),
      ('\'', "&apos;")].map Prod.snd := by
    rw [hsplit, List.map_append, List.map_cons]
    exact List.mem_append_right _ List.mem_cons_self
  exact List.mem_map_of_mem hreference

/-- Escaped text has no `<` in it. -/
theorem not_mem_escape (cs : List Char) : '<' ∉ escape cs := by
  rw [escape, List.mem_flatMap]
  rintro ⟨c, -, hmem⟩
  cases hc : entity c with
  | none =>
      rw [hc, Option.getD_none, List.mem_singleton] at hmem
      rw [← hmem] at hc
      exact absurd hc (by decide)
  | some reference =>
      rw [hc, Option.getD_some] at hmem
      have hnone : ∀ cs ∈ ["&amp;".toList, "&lt;".toList, "&gt;".toList, "&quot;".toList,
          "&apos;".toList], '<' ∉ cs := by decide
      exact hnone reference (entity_eq_some hc) hmem

theorem escape_of_forall {cs : List Char} (h : ∀ c ∈ cs, entity c = none) : escape cs = cs := by
  induction cs with
  | nil => rfl
  | cons c cs ih =>
      rw [List.forall_mem_cons] at h
      rw [escape, List.flatMap_cons, ← escape, ih h.2, h.1, Option.getD_none, List.singleton_append]

theorem visible_lt_entity {c : Char} {cs : List Char} (h : entity c = some cs) :
    visible [c] < visible cs := by
  have hlong : ∀ cs ∈ ["&amp;".toList, "&lt;".toList, "&gt;".toList, "&quot;".toList,
      "&apos;".toList], 1 < visible cs := by decide
  have hcs := hlong cs (entity_eq_some h)
  have hc : visible [c] ≤ 1 := List.countP_le_length
  omega

/-- Escaping takes no visible character away, and adds some for each entity. So a text that gets
no longer by it has no character to be escaped. -/
theorem visible_escape (cs : List Char) :
    visible cs ≤ visible (escape cs)
      ∧ (visible (escape cs) = visible cs → ∀ c ∈ cs, entity c = none) := by
  induction cs with
  | nil => exact ⟨Nat.le_refl _, fun _ c hc => absurd hc List.not_mem_nil⟩
  | cons c cs ih =>
      obtain ⟨hle, hnone⟩ := ih
      have hcons : visible (c :: cs) = visible [c] + visible cs := visible_append [c] cs
      have hescape : visible (escape (c :: cs))
          = visible ((entity c).getD [c]) + visible (escape cs) := by
        rw [escape, List.flatMap_cons, visible_append, ← escape]
      rw [hcons, hescape, List.forall_mem_cons]
      cases hc : entity c with
      | none =>
          rw [Option.getD_none]
          exact ⟨by omega, fun heq => ⟨rfl, hnone (by omega)⟩⟩
      | some reference =>
          have hlt := visible_lt_entity hc
          rw [Option.getD_some]
          exact ⟨by omega, fun heq => absurd heq (by omega)⟩

/-- A text that is escaped and trimmed comes back iff there was nothing to escape and nothing
to trim. -/
theorem trim_chars_escape_eq_self_iff {cs : List Char} :
    trim_chars (escape cs) = cs ↔ (∀ c ∈ cs, entity c = none) ∧ trim_chars cs = cs := by
  constructor
  · intro h
    -- trimming leaves what is visible, so no entity can have been written
    have hvisible : visible (escape cs) = visible cs := by
      rw [← visible_trim_chars, h]
    have hnone := (visible_escape cs).2 hvisible
    rw [escape_of_forall hnone] at h
    exact ⟨hnone, h⟩
  · rintro ⟨hnone, htrim⟩
    rw [escape_of_forall hnone, htrim]

end Markup
