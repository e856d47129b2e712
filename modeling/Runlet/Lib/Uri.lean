/-
Generic URIs: scheme, authority, path, query and fragment, for any text, and the pairs of a
form-encoded query.

The fragment is what follows the first `#`, and the query what follows the first `?` in front of
it. So text behind a URI without a fragment belongs to its query, and behind one with a fragment to
the fragment (`parse_append_query`, `parse_append_more`, `fragment_append`).
-/
import Runlet.Lib.Percent

set_option autoImplicit false

namespace Uri

/-! ## Components -/

/-- What stands before and behind the first `d`. -/
def cut (d : Char) : List Char → List Char × Option (List Char)
  | [] => ([], none)
  | c :: cs =>
      if c = d then ([], some cs)
      else
        let (front, rest) := cut d cs
        (c :: front, rest)

structure Parts where
  scheme : Option (List Char)
  /-- The host, with the user and the port. -/
  authority : Option (List Char)
  path : List Char
  query : Option (List Char)
  fragment : Option (List Char)

/-- Text in front of a colon, where no slash comes first. -/
def cut_scheme (cs : List Char) : Option (List Char) × List Char :=
  match cut ':' cs with
  | (scheme, some rest) => if scheme = [] ∨ '/' ∈ scheme then (none, cs) else (some scheme, rest)
  | (_, none) => (none, cs)

/-- Text between two slashes and the next one. -/
def cut_authority : List Char → Option (List Char) × List Char
  | '/' :: '/' :: cs => (some (cs.takeWhile (· != '/')), cs.dropWhile (· != '/'))
  | cs => (none, cs)

/-- The components of a text that has been cut at `?` and at `#`. -/
def assemble (hierarchy : List Char) (query fragment : Option (List Char)) : Parts :=
  let (scheme, rest) := cut_scheme hierarchy
  let (authority, path) := cut_authority rest
  ⟨scheme, authority, path, query, fragment⟩

def parse (cs : List Char) : Parts :=
  let (front, fragment) := cut '#' cs
  let (hierarchy, query) := cut '?' front
  assemble hierarchy query fragment

/-- A text is not cut at a character it has not. -/
theorem cut_of_not_mem {d : Char} {cs : List Char} (h : d ∉ cs) : cut d cs = (cs, none) := by
  induction cs with
  | nil => rfl
  | cons c cs ih =>
      rw [List.mem_cons, not_or] at h
      rw [cut, if_neg (Ne.symm h.1), ih h.2]

/-- It is cut at the first. -/
theorem cut_append {d : Char} {cs : List Char} (h : d ∉ cs) (rest : List Char) :
    cut d (cs ++ d :: rest) = (cs, some rest) := by
  induction cs with
  | nil => rw [List.nil_append, cut, if_pos rfl]
  | cons c cs ih =>
      rw [List.mem_cons, not_or] at h
      rw [List.cons_append, cut, if_neg (Ne.symm h.1), ih h.2]

section
variable {cs : List Char}

theorem parse_of_no_fragment (h : '#' ∉ cs) :
    parse cs = assemble (cut '?' cs).1 (cut '?' cs).2 none := by
  rw [parse, cut_of_not_mem h]

/-- A query behind a URI without one. -/
theorem parse_append_query (hhash : '#' ∉ cs) (hquestion : '?' ∉ cs) {query : List Char}
    (hquery : '#' ∉ query) :
    parse cs = assemble cs none none ∧ parse (cs ++ '?' :: query) = assemble cs (some query) none := by
  have hall : '#' ∉ cs ++ '?' :: query := by
    rw [List.mem_append, List.mem_cons, not_or, not_or]
    exact ⟨hhash, by decide, hquery⟩
  constructor
  · rw [parse_of_no_fragment hhash, cut_of_not_mem hquestion]
  · rw [parse_of_no_fragment hall, cut_append hquestion]

/-- More text behind a URI with a query. -/
theorem parse_append_more {query more : List Char} (hhash : '#' ∉ cs) (hquestion : '?' ∉ cs)
    (hquery : '#' ∉ query) (hmore : '#' ∉ more) :
    parse (cs ++ '?' :: query ++ more) = assemble cs (some (query ++ more)) none := by
  have hrest : '#' ∉ query ++ more := by
    rw [List.mem_append, not_or]
    exact ⟨hquery, hmore⟩
  rw [List.append_assoc, List.cons_append]
  exact (parse_append_query hhash hquestion hrest).2

/-- More text behind a URI with a fragment. -/
theorem fragment_append (h : '#' ∈ cs) : ∃ fragment, (parse cs).fragment = some fragment
    ∧ ∀ more, (parse (cs ++ more)).fragment = some (fragment ++ more) := by
  obtain ⟨front, rest, rfl, hfront⟩ := List.eq_append_cons_of_mem h
  refine ⟨rest, ?_, fun more => ?_⟩
  · rw [parse, cut_append hfront]
    rfl
  · rw [List.append_assoc, List.cons_append, parse, cut_append hfront]
    rfl

end

/-! ## Form-encoded queries -/

/-- `+` is a space. -/
def plus (cs : List Char) : List Char := cs.map fun c => if c = '+' then ' ' else c

/-- One piece: the bytes of its name and of its value. -/
def parse_pair (piece : List Char) : List UInt8 × List UInt8 :=
  let (name, value) := cut '=' piece
  (Percent.decode (plus name), Percent.decode (plus (value.getD [])))

/-- The pairs of a query; empty pieces are none. -/
def parse_form (query : List Char) : List (List UInt8 × List UInt8) :=
  ((query.splitOn '&').filter (· ≠ [])).map parse_pair

/-- The parameters of a URI. -/
def Parts.params (parts : Parts) : List (List UInt8 × List UInt8) :=
  (parts.query.map parse_form).getD []

/-- Without a `+` nothing is replaced. -/
theorem plus_of_not_mem {cs : List Char} (h : '+' ∉ cs) : plus cs = cs := by
  have hself : ∀ c ∈ cs, (if c = '+' then ' ' else c) = c := by
    intro c hc
    rw [if_neg]
    rintro rfl
    exact h hc
  rw [plus, List.map_congr_left hself, List.map_id']

theorem parse_form_append (query more : List Char) :
    parse_form (query ++ '&' :: more) = parse_form query ++ parse_form more := by
  rw [parse_form, List.splitOn_append_cons_self, List.filter_append, List.map_append]
  rfl

/-- Pieces that are joined are read one by one. -/
theorem parse_form_intercalate {pieces : List (List Char)} (hne : pieces ≠ [])
    (h : ∀ piece ∈ pieces, '&' ∉ piece ∧ piece ≠ []) :
    parse_form (['&'].intercalate pieces) = pieces.map parse_pair := by
  have hfilter : pieces.filter (· ≠ []) = pieces := by
    rw [List.filter_eq_self]
    intro piece hpiece
    exact decide_eq_true (h piece hpiece).2
  rw [parse_form, List.splitOn_intercalate '&' (fun piece hpiece => (h piece hpiece).1) hne, hfilter]

end Uri
