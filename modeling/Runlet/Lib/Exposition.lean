/-
The Prometheus text format: comment lines that name and type a family, and sample lines with a name,
labels and a value.

A sample line is read from left to right (`run`); a label's value ends at its quote, and has no
escapes here. `read_line_write` is the round trip of a line, and `read_page_write` that of a page.
`WellFormed` is what the format asks of a page beyond that: a family is typed once, its samples
follow in one group, and no sample is there twice.
-/
import Runlet.Lib.Lines

set_option autoImplicit false

namespace Exposition

open Lines

/-! ## Pages -/

structure Sample where
  name : String
  labels : List (String × String)
  value : String
  deriving DecidableEq, Repr

inductive Line
  | help (name text : String)
  | type (name kind : String)
  | sample (s : Sample)
  deriving DecidableEq, Repr

def write_label (label : String × String) : String := label.1 ++ "=\"" ++ label.2 ++ "\""

/-- Labels with commas between them. -/
def write_labels : List (String × String) → String
  | [] => ""
  | [label] => write_label label
  | label :: rest => write_label label ++ "," ++ write_labels rest

/-- The label set; an empty one is not written. -/
def label_set : List (String × String) → String
  | [] => ""
  | labels => "\x7b" ++ write_labels labels ++ "\x7d"

/-- Some labels are some text. -/
theorem write_labels_ne_empty {labels : List (String × String)} (h : labels ≠ []) :
    write_labels labels ≠ "" := by
  have hlabel : ∀ label : String × String, (write_label label).toList ≠ [] := by
    intro label
    rw [write_label, String.toList_append]
    exact List.append_ne_nil_of_right_ne_nil _ (List.cons_ne_nil '"' [])
  intro hempty
  have hlist := congrArg String.toList hempty
  cases labels with
  | nil => exact h rfl
  | cons label rest =>
      cases rest with
      | nil => exact hlabel label hlist
      | cons label' rest =>
          rw [write_labels, String.toList_append, String.toList_append] at hlist
          · exact hlabel label (List.append_eq_nil_iff.mp (List.append_eq_nil_iff.mp hlist).1).1
          · simp

/-- One label more. -/
theorem write_labels_append {labels : List (String × String)} (h : labels ≠ [])
    (label : String × String) :
    write_labels (labels ++ [label]) = write_labels labels ++ "," ++ write_label label := by
  induction labels with
  | nil => exact absurd rfl h
  | cons first rest ih =>
      cases rest with
      | nil => rfl
      | cons next rest =>
          have hrest : write_labels (first :: next :: rest ++ [label])
              = write_label first ++ "," ++ write_labels (next :: rest ++ [label]) := rfl
          have hfirst : write_labels (first :: next :: rest)
              = write_label first ++ "," ++ write_labels (next :: rest) := rfl
          rw [hrest, ih (by simp), hfirst]
          simp only [String.append_assoc]

theorem label_set_of_ne {labels : List (String × String)} (h : labels ≠ []) :
    label_set labels = "\x7b" ++ write_labels labels ++ "\x7d" := by
  cases labels with
  | nil => exact absurd rfl h
  | cons label rest => rfl

def Line.write : Line → String
  | .help name text => "# HELP " ++ name ++ " " ++ text
  | .type name kind => "# TYPE " ++ name ++ " " ++ kind
  | .sample s => s.name ++ label_set s.labels ++ " " ++ s.value

/-! ## The reader -/

def is_name_char (c : Char) : Bool := c.isAlphanum || c == '_' || c == ':'

/-- A character of a label's value that stands for itself. -/
def is_value_char (c : Char) : Bool := c != '"' && c != '\\' && c != '\n'

/-- Where in a sample line; the name has been read, then labels. -/
inductive Phase
  | name (read : List Char)
  | label (name : List Char) (labels : List (String × String)) (read : List Char)
  /-- The quote of a value is due. -/
  | quote (name : List Char) (labels : List (String × String)) (label : List Char)
  | value (name : List Char) (labels : List (String × String)) (label read : List Char)
  /-- Behind a value's quote. -/
  | behind (name : List Char) (labels : List (String × String))
  /-- Behind the label set. -/
  | closed (name : List Char) (labels : List (String × String))
  | number (name : List Char) (labels : List (String × String)) (read : List Char)

def Phase.step : Phase → Char → Option Phase
  | name read, c =>
    if is_name_char c then some (name (read ++ [c]))
    else if c = '\x7b' then some (label read [] [])
    else if c = ' ' then some (number read [] [])
    else none
  | label n labels read, c =>
    if is_name_char c then some (label n labels (read ++ [c]))
    else if c = '=' then some (quote n labels read)
    else none
  | quote n labels l, c => if c = '"' then some (value n labels l []) else none
  | value n labels l read, c =>
    if is_value_char c then some (value n labels l (read ++ [c]))
    else if c = '"' then some (behind n (labels ++ [(String.ofList l, String.ofList read)]))
    else none
  | behind n labels, c =>
    if c = ',' then some (label n labels [])
    else if c = '\x7d' then some (closed n labels)
    else none
  | closed n labels, c => if c = ' ' then some (number n labels []) else none
  | number n labels read, c => if c = ' ' then none else some (number n labels (read ++ [c]))

def run (phase : Phase) : List Char → Option Phase
  | [] => some phase
  | c :: cs => (phase.step c).bind fun phase => run phase cs

def Phase.finish : Phase → Option Sample
  | number n labels (c :: read) => some ⟨String.ofList n, labels, String.ofList (c :: read)⟩
  | _ => none

def read_sample (cs : List Char) : Option Sample := (run (.name []) cs).bind Phase.finish

/-- The name and the rest behind a comment's keyword. -/
def read_comment (keyword : List Char) (cs : List Char) : Option (String × String) :=
  if keyword.isPrefixOf cs then
    let rest := cs.drop keyword.length
    some (String.ofList (rest.takeWhile (· ≠ ' ')),
      String.ofList ((rest.dropWhile (· ≠ ' ')).drop 1))
  else none

def read_line (line : String) : Option Line :=
  match read_comment "# HELP ".toList line.toList with
  | some (name, text) => some (.help name text)
  | none =>
    match read_comment "# TYPE ".toList line.toList with
    | some (name, kind) => some (.type name kind)
    | none => (read_sample line.toList).map .sample

/-- The page a text is. -/
def read_page (text : String) : Option (List Line) := (lines text).mapM read_line

/-! ## Lines that can be written -/

def IsName (s : String) : Prop := s.toList.all is_name_char = true

structure Sample.Plain (s : Sample) : Prop where
  name : IsName s.name
  labels : ∀ label ∈ s.labels, IsName label.1 ∧ label.2.toList.all is_value_char = true
  value : s.value ≠ "" ∧ ' ' ∉ s.value.toList ∧ OneLine s.value

/-- A line that reads back as it was written. -/
def Line.Plain : Line → Prop
  | .help name text => IsName name ∧ OneLine text
  | .type name kind => IsName name ∧ OneLine kind
  | .sample s => s.Plain

/-- The reader composes: what stands behind is read from where it was left. So a line is read part
by part, each with a lemma of its own. -/
theorem run_append {phase phase' : Phase} {cs : List Char} (h : run phase cs = some phase')
    (ds : List Char) : run phase (cs ++ ds) = run phase' ds := by
  induction cs generalizing phase with
  | nil =>
      cases h
      rfl
  | cons c cs ih =>
      rw [run] at h
      obtain ⟨next, hstep, hrest⟩ := Option.bind_eq_some_iff.mp h
      rw [List.cons_append, run, hstep, Option.bind_some, ih hrest]

/-- Characters that a phase collects. The phase is given by what it has read so far, so one lemma
serves names, values and numbers. -/
theorem run_collect (at_ : List Char → Phase) {p : Char → Bool}
    (hstep : ∀ read c, p c = true → (at_ read).step c = some (at_ (read ++ [c])))
    {cs : List Char} (h : cs.all p = true) (read : List Char) :
    run (at_ read) cs = some (at_ (read ++ cs)) := by
  induction cs generalizing read with
  | nil => rw [List.append_nil, run]
  | cons c cs ih =>
      rw [List.all_cons, Bool.and_eq_true] at h
      rw [run, hstep read c h.1, Option.bind_some, ih h.2, List.append_assoc,
        List.singleton_append]

theorem run_name {name : String} (h : IsName name) :
    run (.name []) name.toList = some (.name name.toList) := by
  refine (run_collect .name ?_ h []).trans (by rw [List.nil_append])
  intro read c hc
  rw [Phase.step, if_pos hc]

/-- A label is read as it was written. -/
theorem run_label {n : List Char} {labels : List (String × String)} {label : String × String}
    (hname : IsName label.1) (hvalue : label.2.toList.all is_value_char = true) :
    run (.label n labels []) (write_label label).toList = some (.behind n (labels ++ [label])) := by
  have hread := run_collect (.label n labels) (p := is_name_char)
    (fun read c hc => by rw [Phase.step, if_pos hc]) hname []
  have hcollect := run_collect (.value n labels label.1.toList) (p := is_value_char)
    (fun read c hc => by rw [Phase.step, if_pos hc]) hvalue []
  have hopen : run (.label n labels label.1.toList) "=\"".toList
      = some (.value n labels label.1.toList []) := rfl
  rw [write_label, String.toList_append, String.toList_append, String.toList_append,
    List.append_assoc, List.append_assoc, run_append hread, List.nil_append, run_append hopen,
    run_append hcollect]
  show some (Phase.behind n (labels ++ [(String.ofList label.1.toList, String.ofList _)])) = _
  rw [List.nil_append, String.ofList_toList, String.ofList_toList]

/-- So are several, with commas between them. By induction on the labels; behind the last the
bracket closes the set. -/
theorem run_labels {n : List Char} {labels new : List (String × String)} (hne : new ≠ [])
    (h : ∀ label ∈ new, IsName label.1 ∧ label.2.toList.all is_value_char = true) :
    run (.label n labels []) ((write_labels new).toList ++ ['\x7d'])
      = some (.closed n (labels ++ new)) := by
  induction new generalizing labels with
  | nil => exact absurd rfl hne
  | cons label rest ih =>
      obtain ⟨hname, hvalue⟩ := h label List.mem_cons_self
      cases rest with
      | nil =>
          rw [write_labels, run_append (run_label hname hvalue)]
          rfl
      | cons label' rest =>
          have hcomma : run (.behind n (labels ++ [label])) ",".toList
              = some (.label n (labels ++ [label]) []) := rfl
          rw [write_labels, String.toList_append, String.toList_append, List.append_assoc,
            List.append_assoc, run_append (run_label hname hvalue), run_append hcomma,
            ih (by simp) fun l hl => h l (List.mem_cons_of_mem _ hl), List.append_assoc]
          · rfl
          · simp

/-- A name and its label set, up to the space. -/
theorem run_front {s : Sample} (h : s.Plain) :
    run (.name []) (s.name ++ label_set s.labels ++ " ").toList
      = some (.number s.name.toList s.labels []) := by
  rw [String.toList_append, String.toList_append, List.append_assoc, run_append (run_name h.name)]
  cases hlabels : s.labels with
  | nil => rfl
  | cons label rest =>
      have hopen : run (.name s.name.toList) "\x7b".toList = some (.label s.name.toList [] []) := rfl
      have hplain : ∀ l ∈ label :: rest,
          IsName l.1 ∧ l.2.toList.all is_value_char = true := hlabels ▸ h.labels
      rw [label_set, String.toList_append, String.toList_append, List.append_assoc,
        List.append_assoc, run_append hopen, ← List.append_assoc]
      · refine (run_append (run_labels (by simp) hplain) _).trans ?_
        rw [List.nil_append]
        rfl
      · simp

/-- So is a sample, its name, its labels and its value. -/
theorem read_sample_write {s : Sample} (h : s.Plain) :
    read_sample (Line.sample s).write.toList = some s := by
  have hvalue : run (.number s.name.toList s.labels []) s.value.toList
      = some (.number s.name.toList s.labels s.value.toList) := by
    have hall : s.value.toList.all (· != ' ') = true := by
      rw [List.all_eq_true]
      intro c hc
      rw [bne_iff_ne]
      rintro rfl
      exact h.value.2.1 hc
    refine (run_collect (.number s.name.toList s.labels) ?_ hall []).trans
      (by rw [List.nil_append])
    intro read c hc
    rw [Phase.step, if_neg (bne_iff_ne.mp hc)]
  rw [read_sample, Line.write, String.toList_append, run_append (run_front h), hvalue,
    Option.bind_some]
  cases hs : s.value.toList with
  | nil => exact absurd (String.toList_eq_nil_iff.mp hs) h.value.1
  | cons c cs =>
      rw [Phase.finish, ← hs, String.ofList_toList, String.ofList_toList]

/-- A comment's keyword and name, and the rest. -/
theorem read_comment_write (keyword : String) {name : String} (h : IsName name) (text : String) :
    read_comment keyword.toList (keyword ++ name ++ " " ++ text).toList = some (name, text) := by
  have hname : ∀ c ∈ name.toList, decide (c ≠ ' ') = true := by
    intro c hc
    rw [decide_eq_true_iff]
    rintro rfl
    exact absurd (List.all_eq_true.mp h ' ' hc) (by decide)
  have hrest : (keyword ++ name ++ " " ++ text).toList
      = keyword.toList ++ (name.toList ++ ' ' :: text.toList) := by
    simp only [String.toList_append, List.append_assoc]
    rfl
  have hprefix : keyword.toList.isPrefixOf (keyword.toList ++ (name.toList ++ ' ' :: text.toList))
      = true := List.isPrefixOf_iff_prefix.mpr (List.prefix_append _ _)
  rw [read_comment, hrest, if_pos hprefix, List.drop_left]
  simp only [List.takeWhile_append_of_pos hname, List.dropWhile_append_of_pos hname]
  rw [List.takeWhile_cons_of_neg (by decide), List.dropWhile_cons_of_neg (by decide),
    List.append_nil, List.drop_one, List.tail_cons, String.ofList_toList, String.ofList_toList]

/-- A sample line is no comment. It starts with a name, and no name starts with the mark of a
comment. -/
theorem read_comment_sample {s : Sample} (h : s.Plain) (rest : List Char) :
    read_comment ('#' :: rest) (Line.sample s).write.toList = none := by
  have hfirst : (Line.sample s).write.toList.head? ≠ some '#' := by
    rw [Line.write, String.append_assoc, String.append_assoc, String.toList_append]
    have hall := h.name
    unfold IsName at hall
    cases hname : s.name.toList with
    | nil =>
        cases hlabels : s.labels with
        | nil =>
            rw [label_set, String.empty_append, String.toList_append]
            show some ' ' ≠ some '#'
            decide
        | cons label labels =>
            rw [label_set, String.toList_append, String.toList_append, String.toList_append]
            · show some '\x7b' ≠ some '#'
              decide
            · simp
    | cons c cs =>
        rw [hname, List.all_cons, Bool.and_eq_true] at hall
        rw [List.cons_append, List.head?_cons, ne_eq, Option.some.injEq]
        rintro rfl
        exact absurd hall.1 (by decide)
  rw [read_comment]
  cases hline : (Line.sample s).write.toList with
  | nil => rfl
  | cons c cs =>
      rw [hline, List.head?_cons, ne_eq, Option.some.injEq] at hfirst
      have hne : ('#' == c) = false := beq_false_of_ne (Ne.symm hfirst)
      rw [List.isPrefixOf, hne, Bool.false_and]
      rfl

/-- **A line reads back.** -/
theorem read_line_write {line : Line} (h : line.Plain) : read_line line.write = some line := by
  cases line with
  | help name text =>
      rw [read_line, Line.write, read_comment_write "# HELP " h.1 text]
  | type name kind =>
      have hother : read_comment "# HELP ".toList ("# TYPE " ++ name ++ " " ++ kind).toList
          = none := by
        simp only [String.toList_append]
        rfl
      rw [read_line, Line.write, hother, read_comment_write "# TYPE " h.1 kind]
  | sample s =>
      have hhelp : read_comment "# HELP ".toList (Line.sample s).write.toList = none :=
        read_comment_sample h _
      have htype : read_comment "# TYPE ".toList (Line.sample s).write.toList = none :=
        read_comment_sample h _
      rw [read_line, hhelp, htype, read_sample_write h]
      rfl

/-! ## Pages that can be written -/

/-- Every line with its newline. -/
def write (page : List Line) : String := unlines (page.map Line.write)

theorem write_append (page page' : List Line) : write (page ++ page') = write page ++ write page' := by
  rw [write, List.map_append, unlines_append]
  rfl

theorem oneLine_write_name {s : String} (h : IsName s) : OneLine s := by
  intro hmem
  exact absurd (List.all_eq_true.mp h '\n' hmem) (by decide)

theorem oneLine_write_label {label : String × String} (hname : IsName label.1)
    (hvalue : label.2.toList.all is_value_char = true) : OneLine (write_label label) := by
  have hplain : OneLine label.2 := by
    intro hmem
    exact absurd (List.all_eq_true.mp hvalue '\n' hmem) (by decide)
  rw [write_label, oneLine_append, oneLine_append, oneLine_append]
  exact ⟨⟨⟨oneLine_write_name hname, by decide⟩, hplain⟩, by decide⟩

/-- Labels are on one line. -/
theorem oneLine_write_labels {labels : List (String × String)}
    (h : ∀ label ∈ labels, IsName label.1 ∧ label.2.toList.all is_value_char = true) :
    OneLine (write_labels labels) := by
  induction labels with
  | nil => exact List.not_mem_nil
  | cons label rest ih =>
      obtain ⟨hname, hvalue⟩ := h label List.mem_cons_self
      have hrest := ih fun l hl => h l (List.mem_cons_of_mem _ hl)
      cases rest with
      | nil => exact oneLine_write_label hname hvalue
      | cons label' rest =>
          rw [write_labels, oneLine_append, oneLine_append]
          · exact ⟨⟨oneLine_write_label hname hvalue, by decide⟩, hrest⟩
          · simp

/-- So is a whole line. -/
theorem oneLine_line {line : Line} (h : line.Plain) : OneLine line.write := by
  cases line with
  | help name text =>
      rw [Line.write, oneLine_append, oneLine_append, oneLine_append]
      exact ⟨⟨⟨by decide, oneLine_write_name h.1⟩, by decide⟩, h.2⟩
  | type name kind =>
      rw [Line.write, oneLine_append, oneLine_append, oneLine_append]
      exact ⟨⟨⟨by decide, oneLine_write_name h.1⟩, by decide⟩, h.2⟩
  | sample s =>
      have hlabels : OneLine (label_set s.labels) := by
        cases hl : s.labels with
        | nil => exact List.not_mem_nil
        | cons label rest =>
            rw [label_set, oneLine_append, oneLine_append]
            · exact ⟨⟨by decide, oneLine_write_labels (hl ▸ h.labels)⟩, by decide⟩
            · simp
      rw [Line.write, oneLine_append, oneLine_append, oneLine_append]
      exact ⟨⟨⟨oneLine_write_name h.name, hlabels⟩, by decide⟩, h.value.2.2⟩

/-- The lines of a page are read as they were written. By induction on the page, each line by the
lemma of its kind. -/
theorem mapM_read_line {page : List Line} (h : ∀ line ∈ page, line.Plain) :
    (page.map Line.write).mapM read_line = some page := by
  induction page with
  | nil => rfl
  | cons line rest ih =>
      rw [List.map_cons, List.mapM_cons, read_line_write (h line List.mem_cons_self),
        ih fun l hl => h l (List.mem_cons_of_mem _ hl)]
      rfl

/-- The lines of a page are its lines. -/
theorem lines_write {page : List Line} (h : ∀ line ∈ page, line.Plain) :
    lines (write page) = page.map Line.write := by
  have hone : ∀ line ∈ page.map Line.write, OneLine line := by
    intro line hline
    obtain ⟨l, hl, rfl⟩ := List.mem_map.mp hline
    exact oneLine_line (h l hl)
  have hread := lines_unlines hone (show OneLine "" by decide)
  rwa [String.append_empty] at hread

/-- **A page reads back.** -/
theorem read_page_write {page : List Line} (h : ∀ line ∈ page, line.Plain) :
    read_page (write page) = some page := by
  rw [read_page, lines_write h, mapM_read_line h]

/-! ## What the format asks of a page -/

/-- The family of the last `# TYPE` line, and its kind. -/
abbrev Family := String × String

/-- The names the samples of a family may have. -/
def Family.names : Family → List String
  | (name, "histogram") => [name ++ "_bucket", name ++ "_sum", name ++ "_count"]
  | (name, _) => [name]

/-- Samples follow the `# TYPE` line of their family. -/
def grouped : Option Family → List Line → Bool
  | _, [] => true
  | family, .help _ _ :: rest => grouped family rest
  | _, .type name kind :: rest => grouped (some (name, kind)) rest
  | none, .sample _ :: _ => false
  | some family, .sample s :: rest => family.names.contains s.name && grouped (some family) rest

def Line.typed : Line → Option String
  | type name _ => some name
  | help _ _ | sample _ => none

/-- What tells a sample from others. -/
def Line.series : Line → Option (String × List (String × String))
  | sample s => some (s.name, s.labels)
  | help _ _ | type _ _ => none

/-- Samples of the family keep its group going. By induction on the samples: each has a name of
the family, and the next line finds the family still open. -/
theorem grouped_samples {family : Family} {samples : List Line}
    (h : ∀ line ∈ samples, ∃ key, line.series = some key ∧ key.1 ∈ family.names)
    (rest : List Line) :
    grouped (some family) (samples ++ rest) = grouped (some family) rest := by
  induction samples with
  | nil => rfl
  | cons line samples ih =>
      obtain ⟨key, hkey, hname⟩ := h line List.mem_cons_self
      cases line with
      | help name text => cases hkey
      | type name kind => cases hkey
      | sample s =>
          obtain rfl := Option.some.inj hkey
          rw [List.cons_append, grouped, List.contains_iff_mem.mpr hname, Bool.true_and,
            ih fun l hl => h l (List.mem_cons_of_mem _ hl)]

structure WellFormed (page : List Line) : Prop where
  grouped : grouped none page = true
  typed_once : (page.filterMap Line.typed).Nodup
  samples_once : (page.filterMap Line.series).Nodup

end Exposition
