/-
Paths as `std::path` has them on Unix: byte strings, with `/` between their components.

The functions are `Path::components`, `file_name`, `extension` and `with_extension("")`. A path
made of names that a directory can hold (`Name`) has those names as its components.

`with_extension` copies the path up to the extension, the dot included, and then takes off what
follows the stem. A `.` before the dot makes the copy end in `..`, which is no file name and
has no stem: it stays as it is (`with_extension_empty_join`).
-/
import Mathlib.Data.List.Basic

set_option autoImplicit false

namespace Path

def SLASH : UInt8 := 0x2f

def DOT : UInt8 := 0x2e

/-- A name that a directory can hold. -/
structure Name where
  bytes : List UInt8
  ne_nil : bytes ≠ []
  no_slash : SLASH ∉ bytes
  ne_dot : bytes ≠ [DOT]
  ne_dotdot : bytes ≠ [DOT, DOT]
  deriving DecidableEq, Repr

theorem Name.bytes_injective {a b : Name} (h : a.bytes = b.bytes) : a = b := by
  cases a
  cases b
  congr

/-- Pieces with a `/` between them. -/
def join (pieces : List (List UInt8)) : List UInt8 := [SLASH].intercalate pieces

/-- The pieces that `components` leaves out: empty ones, and `.`. -/
def skipped (piece : List UInt8) : Bool := piece = [] || piece = [DOT]

/-- `Path::components`, each as it is written. A `.` in front is a component, and so is the
root of an absolute path. -/
def components (path : List UInt8) : List (List UInt8) :=
  match path.splitOn SLASH with
  | [] => []
  | first :: rest =>
    (if first = [] then (if rest = [] then [] else [[SLASH]]) else [first])
      ++ rest.filter (!skipped ·)

/-- What stands before and after the last dot. -/
def rsplit_dot : List UInt8 → Option (List UInt8 × List UInt8)
  | [] => none
  | b :: bs =>
    match rsplit_dot bs with
    | some (before, after) => some (b :: before, after)
    | none => if b = DOT then some ([], bs) else none

/-- A file name as its stem and its extension: no extension where there is no dot, or none but
the one in front. -/
def rsplit_file_at_dot (name : List UInt8) : List UInt8 × Option (List UInt8) :=
  match rsplit_dot name with
  | some (before, after) => if before = [] then (name, none) else (before, some after)
  | none => (name, none)

/-- The pieces up to the last that is not left out, in reverse order. -/
def last_pieces (path : List UInt8) : List (List UInt8) :=
  (path.splitOn SLASH).reverse.dropWhile skipped

/-- `Path::file_name`. -/
def file_name (path : List UInt8) : Option (List UInt8) :=
  (last_pieces path).head?.filter (· ≠ [DOT, DOT])

/-- `Path::extension`. -/
def extension (path : List UInt8) : Option (List UInt8) :=
  (file_name path).bind fun name => (rsplit_file_at_dot name).2

/-- `PathBuf::set_extension("")`: what follows the stem of the file name is cut off. Without a
file name nothing is. -/
def set_extension_empty (path : List UInt8) : List UInt8 :=
  match last_pieces path with
  | [] => path
  | name :: front =>
    if name = [DOT, DOT] then path else join (front.reverse ++ [(rsplit_file_at_dot name).1])

/-- `Path::with_extension("")`: the extension is left out of the copy, its dot is not. -/
def with_extension_empty (path : List UInt8) : List UInt8 :=
  match extension path with
  | none => set_extension_empty path
  | some ext => set_extension_empty (path.take (path.length - ext.length))

/-! ## Names with a dot -/

theorem rsplit_dot_eq_none {bs : List UInt8} (h : DOT ∉ bs) : rsplit_dot bs = none := by
  induction bs with
  | nil => rfl
  | cons b bs ih =>
      rw [List.mem_cons, not_or] at h
      rw [rsplit_dot, ih h.2]
      exact if_neg (Ne.symm h.1)

theorem rsplit_dot_append (before : List UInt8) {after : List UInt8} (h : DOT ∉ after) :
    rsplit_dot (before ++ DOT :: after) = some (before, after) := by
  induction before with
  | nil =>
      rw [List.nil_append, rsplit_dot, rsplit_dot_eq_none h]
      exact if_pos rfl
  | cons b before ih => rw [List.cons_append, rsplit_dot, ih]

/-- A name that is split is put together again with the dot. -/
theorem eq_append_of_rsplit_dot {bs before after : List UInt8}
    (h : rsplit_dot bs = some (before, after)) : bs = before ++ DOT :: after := by
  induction bs generalizing before with
  | nil => cases h
  | cons b bs ih =>
      rw [rsplit_dot] at h
      cases hrest : rsplit_dot bs with
      | some parts =>
          simp only [hrest, Option.some.injEq, Prod.mk.injEq] at h
          obtain ⟨rfl, rfl⟩ := h
          rw [List.cons_append, ← ih hrest]
      | none =>
          simp only [hrest] at h
          by_cases hb : b = DOT
          · rw [if_pos hb] at h
            cases h
            rw [hb, List.nil_append]
          · rw [if_neg hb] at h
            cases h

/-- A file name with an extension is its stem, a dot and the extension. -/
theorem rsplit_file_at_dot_append {stem ext : List UInt8} (hstem : stem ≠ []) (hext : DOT ∉ ext) :
    rsplit_file_at_dot (stem ++ DOT :: ext) = (stem, some ext) := by
  rw [rsplit_file_at_dot, rsplit_dot_append stem hext]
  exact if_neg hstem

/-- A name with an extension is its stem, which is not empty, a dot and the extension. -/
theorem eq_append_of_extension {name ext : List UInt8}
    (h : (rsplit_file_at_dot name).2 = some ext) :
    (rsplit_file_at_dot name).1 ≠ [] ∧ name = (rsplit_file_at_dot name).1 ++ DOT :: ext := by
  rw [rsplit_file_at_dot] at h ⊢
  cases hsplit : rsplit_dot name with
  | none =>
      rw [hsplit] at h
      cases h
  | some parts =>
      obtain ⟨before, after⟩ := parts
      simp only [hsplit] at h ⊢
      by_cases hbefore : before = []
      · rw [if_pos hbefore] at h
        cases h
      · rw [if_neg hbefore, Option.some.injEq] at h
        rw [if_neg hbefore, ← h]
        exact ⟨hbefore, eq_append_of_rsplit_dot hsplit⟩

/-! ## Paths of names -/

section Names

variable {front : List Name} {name : Name}

theorem splitOn_join {pieces : List (List UInt8)} (hne : pieces ≠ [])
    (h : ∀ piece ∈ pieces, SLASH ∉ piece) : (join pieces).splitOn SLASH = pieces :=
  List.splitOn_intercalate SLASH h hne

theorem not_skipped (name : Name) : skipped name.bytes = false := by
  rw [skipped, Bool.or_eq_false_iff, decide_eq_false_iff_not, decide_eq_false_iff_not]
  exact ⟨name.ne_nil, name.ne_dot⟩

theorem no_slash_of_mem {names : List Name} : ∀ piece ∈ names.map Name.bytes, SLASH ∉ piece := by
  intro piece hpiece
  obtain ⟨name, -, rfl⟩ := List.mem_map.mp hpiece
  exact name.no_slash

theorem last_pieces_join (front : List Name) (name : Name) :
    last_pieces (join ((front ++ [name]).map Name.bytes))
      = name.bytes :: (front.map Name.bytes).reverse := by
  rw [last_pieces, splitOn_join (by simp) no_slash_of_mem, List.map_append, List.reverse_append]
  exact List.dropWhile_cons_of_neg (by rw [not_skipped]; decide)

theorem file_name_join (front : List Name) (name : Name) :
    file_name (join ((front ++ [name]).map Name.bytes)) = some name.bytes := by
  rw [file_name, last_pieces_join, List.head?_cons, Option.filter_some,
    if_pos (decide_eq_true name.ne_dotdot)]

theorem extension_join (front : List Name) (name : Name) :
    extension (join ((front ++ [name]).map Name.bytes)) = (rsplit_file_at_dot name.bytes).2 := by
  rw [extension, file_name_join, Option.bind_some]

/-- What is written behind the last piece is written behind the whole. -/
theorem join_concat_append (front : List (List UInt8)) (piece rest : List UInt8) :
    join (front ++ [piece ++ rest]) = join (front ++ [piece]) ++ rest := by
  induction front with
  | nil => rw [List.nil_append, List.nil_append, join, join, List.intercalate_singleton,
      List.intercalate_singleton]
  | cons first front ih =>
      have hcons : ∀ last : List UInt8,
          join (first :: front ++ [last]) = first ++ SLASH :: join (front ++ [last]) := by
        intro last
        rw [join, List.cons_append, List.intercalate_cons_of_ne_nil (by simp), List.append_assoc]
        rfl
      rw [hcons, hcons, ih, List.append_assoc, List.cons_append]

/-- Without its extension a path has the stem of its file name at the end; where that is a `.`,
the dot of the extension stays with it. -/
theorem with_extension_empty_join (front : List Name) {name : Name} {stem ext : List UInt8}
    (hstem : stem ≠ []) (hext : DOT ∉ ext) (hname : name.bytes = stem ++ DOT :: ext) :
    with_extension_empty (join ((front ++ [name]).map Name.bytes))
      = join (front.map Name.bytes ++ [if stem = [DOT] then [DOT, DOT] else stem]) := by
  have hslash : SLASH ∉ stem := by
    intro hmem
    apply name.no_slash
    rw [hname]
    exact List.mem_append_left _ hmem
  -- the copy: the name up to the dot
  have hcopy : (join ((front ++ [name]).map Name.bytes)).take
      ((join ((front ++ [name]).map Name.bytes)).length - ext.length)
        = join (front.map Name.bytes ++ [stem ++ [DOT]]) := by
    have hpath : join ((front ++ [name]).map Name.bytes)
        = join (front.map Name.bytes ++ [stem ++ [DOT]]) ++ ext := by
      rw [← join_concat_append, List.map_append, List.map_singleton, hname, List.append_assoc]
      rfl
    rw [hpath, List.length_append, Nat.add_sub_cancel, List.take_left]
  have hpieces : ∀ p ∈ front.map Name.bytes ++ [stem ++ [DOT]], SLASH ∉ p := by
    intro p hp
    rcases List.mem_append.mp hp with hp | hp
    · exact no_slash_of_mem p hp
    · rw [List.mem_singleton.mp hp, List.mem_append, not_or]
      exact ⟨hslash, by decide⟩
  have hkept : skipped (stem ++ [DOT]) = false := by
    have hlen := List.length_pos_of_ne_nil hstem
    rw [skipped, Bool.or_eq_false_iff, decide_eq_false_iff_not, decide_eq_false_iff_not]
    constructor
    · simp
    · intro h
      have hlength := congrArg List.length h
      rw [List.length_append, List.length_singleton] at hlength
      omega
  have hlast : last_pieces (join (front.map Name.bytes ++ [stem ++ [DOT]]))
      = (stem ++ [DOT]) :: (front.map Name.bytes).reverse := by
    rw [last_pieces, splitOn_join (by simp) hpieces, List.reverse_append]
    exact List.dropWhile_cons_of_neg (by rw [hkept]; decide)
  rw [with_extension_empty, extension_join, hname, rsplit_file_at_dot_append hstem hext]
  show set_extension_empty _ = _
  rw [hcopy, set_extension_empty, hlast]
  show (if stem ++ [DOT] = [DOT, DOT] then _ else _) = _
  by_cases hdot : stem = [DOT]
  · rw [if_pos (by rw [hdot]; rfl), if_pos hdot, hdot]
    rfl
  · rw [if_neg, if_neg hdot, List.reverse_reverse,
      rsplit_file_at_dot_append hstem List.not_mem_nil]
    intro h
    exact hdot (List.append_inj_left' h rfl)

/-- The components of names with a last piece that need not be one. A name is never empty nor a
dot and has no slash in it, so the pieces between the slashes are the names again, and the last
piece stays what it is. -/
theorem components_join_concat (front : List Name) {piece : List UInt8} (hne : piece ≠ [])
    (hdot : piece ≠ [DOT]) (hslash : SLASH ∉ piece) :
    components (join (front.map Name.bytes ++ [piece])) = front.map Name.bytes ++ [piece] := by
  have hpieces : ∀ p ∈ front.map Name.bytes ++ [piece], SLASH ∉ p := by
    intro p hp
    rcases List.mem_append.mp hp with hp | hp
    · exact no_slash_of_mem p hp
    · rw [List.mem_singleton.mp hp]
      exact hslash
  have hkept : ∀ names : List Name,
      (names.map Name.bytes ++ [piece]).filter (!skipped ·) = names.map Name.bytes ++ [piece] := by
    intro names
    rw [List.filter_eq_self, List.forall_mem_append]
    constructor
    · intro p hp
      obtain ⟨n, -, rfl⟩ := List.mem_map.mp hp
      rw [not_skipped]
      rfl
    · intro p hp
      rw [List.mem_singleton.mp hp]
      simp [skipped, hne, hdot]
  rw [components, splitOn_join (by simp) hpieces]
  cases front with
  | nil => simp [hne]
  | cons first rest =>
      simp only [List.map_cons, List.cons_append, if_neg first.ne_nil, hkept, List.nil_append]

end Names

end Path
