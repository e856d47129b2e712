/-
Streams of lines.

`unlines` ends each line with a newline. `lines` reads a stream back, without a last line that has
no end yet; a stream that was cut anywhere has the lines that were written whole (`lines_unlines`).
-/
import Mathlib.Data.List.Basic
import Mathlib.Data.String.Basic

set_option autoImplicit false

namespace Lines

def unlines (ls : List String) : String := ls.foldr (fun line rest => line ++ "\n" ++ rest) ""

@[simp] theorem unlines_nil : unlines [] = "" := rfl

theorem unlines_cons (line : String) (ls : List String) :
    unlines (line :: ls) = line ++ "\n" ++ unlines ls := rfl

theorem unlines_append (ls ls' : List String) : unlines (ls ++ ls') = unlines ls ++ unlines ls' := by
  induction ls with
  | nil => rw [List.nil_append, unlines_nil, String.empty_append]
  | cons line ls ih =>
      rw [List.cons_append, unlines_cons, unlines_cons, ih]
      simp only [String.append_assoc]

/-- The lines of characters, behind those of a line that has begun. -/
def lines_from (begun : List Char) : List Char → List String
  | [] => []
  | c :: cs =>
    if c = '\n' then String.ofList begun :: lines_from [] cs else lines_from (begun ++ [c]) cs

def lines (s : String) : List String := lines_from [] s.toList

/-- A text without a newline. -/
def OneLine (s : String) : Prop := '\n' ∉ s.toList

instance (s : String) : Decidable (OneLine s) :=
  inferInstanceAs (Decidable ('\n' ∉ s.toList))

/-- What has no break belongs to the line that was begun. -/
theorem lines_from_append {line : List Char} (h : '\n' ∉ line) (begun cs : List Char) :
    lines_from begun (line ++ cs) = lines_from (begun ++ line) cs := by
  induction line generalizing begun with
  | nil => rw [List.nil_append, List.append_nil]
  | cons c line ih =>
      rw [List.mem_cons, not_or] at h
      rw [List.cons_append, lines_from, if_neg (Ne.symm h.1), ih h.2, List.append_assoc,
        List.singleton_append]

/-- What was written is read back, and nothing of a line that has no end. By induction on the
lines: each ends with a break of its own, and has none inside. -/
theorem lines_unlines {ls : List String} (h : ∀ line ∈ ls, OneLine line) {cut : String}
    (hcut : OneLine cut) : lines (unlines ls ++ cut) = ls := by
  unfold lines
  induction ls with
  | nil =>
      have hrest := lines_from_append hcut [] []
      rw [List.append_nil] at hrest
      rw [unlines_nil, String.empty_append, hrest]
      rfl
  | cons line ls ih =>
      have hline : OneLine line := h line List.mem_cons_self
      have hrest := ih fun l hl => h l (List.mem_cons_of_mem _ hl)
      rw [unlines_cons, String.toList_append, String.toList_append, String.toList_append,
        List.append_assoc, List.append_assoc, lines_from_append hline, List.nil_append]
      show lines_from line.toList ('\n' :: ((unlines ls).toList ++ cut.toList)) = _
      rw [lines_from, if_pos rfl, ← String.toList_append, hrest, String.ofList_toList]

/-! ## Texts on one line -/

theorem oneLine_append {s t : String} : OneLine (s ++ t) ↔ OneLine s ∧ OneLine t := by
  rw [OneLine, String.toList_append, List.mem_append, not_or]
  rfl

/-! ## Where a line ends -/

/-- A text is cut in one way at a character that stands in neither front. -/
theorem append_cons_inj {c : Char} {a a' b b' : List Char} (ha : c ∉ a) (ha' : c ∉ a')
    (h : a ++ c :: b = a' ++ c :: b') : a = a' ∧ b = b' := by
  have htake := congrArg (List.takeWhile (· ≠ c)) h
  have hkept : ∀ cs rest : List Char, c ∉ cs →
      (cs ++ c :: rest).takeWhile (· ≠ c) = cs := by
    intro cs rest hcs
    rw [List.takeWhile_append_of_pos, List.takeWhile_cons_of_neg (by simp), List.append_nil]
    intro d hd
    rw [decide_eq_true_eq]
    rintro rfl
    exact hcs hd
  rw [hkept a b ha, hkept a' b' ha'] at htake
  subst htake
  exact ⟨rfl, List.cons_injective (List.append_cancel_left h)⟩

/-- The first newline ends the first line. -/
theorem first_line_inj {a a' b b' : String} (ha : OneLine a) (ha' : OneLine a')
    (h : a ++ "\n" ++ b = a' ++ "\n" ++ b') : a = a' ∧ b = b' := by
  have hchars := congrArg String.toList h
  simp only [String.toList_append, List.append_assoc] at hchars
  obtain ⟨hfirst, hrest⟩ := append_cons_inj ha ha' hchars
  exact ⟨String.toList_inj.mp hfirst, String.toList_inj.mp hrest⟩

/-- The last newline begins the last line. -/
theorem last_line_inj {a a' b b' : String} (hb : OneLine b) (hb' : OneLine b')
    (h : a ++ "\n" ++ b = a' ++ "\n" ++ b') : a = a' ∧ b = b' := by
  have hchars := congrArg (fun s => s.toList.reverse) h
  have hnewline : "\n".toList.reverse = ['\n'] := rfl
  simp only [String.toList_append, List.reverse_append, hnewline, List.singleton_append] at hchars
  obtain ⟨hlast, hrest⟩ := append_cons_inj (by simpa [OneLine] using hb)
    (by simpa [OneLine] using hb') hchars
  exact ⟨String.toList_inj.mp (List.reverse_injective hrest),
    String.toList_inj.mp (List.reverse_injective hlast)⟩

end Lines
