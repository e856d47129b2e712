/-
The two registries that are read from a directory at startup: scripts
(`crates/runlet-core/src/registry.rs`) and modules (`crates/runlet-core/src/modules.rs`). They
walk the tree with one and the same work list and differ in the extensions they take and in the
words of their errors, so `load` is one function of a `Kind`.

The order in which a directory lists its entries is the file system's (`ListingOrder`). Each
file is inserted under a key made of its path, and an insert replaces what is there, so the
outcome is the same for every order just if no two files have the same key. `derive_key` is
`with_extension("")` and `components`: it forgets which extension there was, and of a file
`..js` it leaves a `..`, not a `.` (`derive_key_eq`).

A path in a tree is the list of its names from the root; `strip_prefix` takes the root off
again.
-/
import Mathlib.Algebra.Order.Ring.Nat
import Mathlib.Data.Finmap
import Runlet.Lib.Path
import Runlet.Lib.Result
import Runlet.Lib.Text

set_option autoImplicit false

namespace Runlet.Registry

open Path Text

/-! ## 1. Trees -/

/-- An entry of a directory, as the loop comes to it. -/
inductive Entry
  /-- It cannot be read. -/
  | broken (err : String)
  /-- A directory: the error of `read_dir` on it, if there is one, and what it lists. -/
  | dir (name : Name) (err : Option String) (entries : List Entry)
  /-- Anything else, with what `read_to_string` gives. -/
  | file (name : Name) (text : Except String String)

/-- A directory of the work list. -/
structure Dir where
  path : List Name
  err : Option String
  entries : List Entry

structure File where
  path : List Name
  text : Except String String

/-- The directories a list of entries has in it, at this level. -/
def subdirs (path : List Name) (entries : List Entry) : List Dir :=
  entries.filterMap fun
    | .dir name err entries => some ⟨path ++ [name], err, entries⟩
    | .broken _ | .file _ _ => none

/-- The files a list of entries has in it, at this level. -/
def own_files (path : List Name) (entries : List Entry) : List File :=
  entries.filterMap fun
    | .file name text => some ⟨path ++ [name], text⟩
    | .broken _ | .dir _ _ _ => none

mutual

/-- The files at or below an entry. -/
def Entry.files (path : List Name) : Entry → List File
  | .broken _ => []
  | .dir name _ entries => files_of (path ++ [name]) entries
  | .file name text => [⟨path ++ [name], text⟩]

def files_of (path : List Name) : List Entry → List File
  | [] => []
  | entry :: entries => entry.files path ++ files_of path entries

end

mutual

/-- Every directory at or below an entry can be listed to its end. -/
def Entry.listable : Entry → Bool
  | .broken _ => false
  | .dir _ err entries => err.isNone && listable_all entries
  | .file _ _ => true

def listable_all : List Entry → Bool
  | [] => true
  | entry :: entries => entry.listable && listable_all entries

end

mutual

/-- The number of directories at or below an entry. -/
def Entry.dirs : Entry → ℕ
  | .broken _ | .file _ _ => 0
  | .dir _ _ entries => dirs_of entries + 1

def dirs_of : List Entry → ℕ
  | [] => 0
  | entry :: entries => entry.dirs + dirs_of entries

end

def Dir.files (d : Dir) : List File := files_of d.path d.entries

def Dir.listable (d : Dir) : Bool := d.err.isNone && listable_all d.entries

/-- A directory tree. No two of its files have one path. -/
structure Tree where
  err : Option String := none
  entries : List Entry
  distinct : ((files_of [] entries).map File.path).Nodup

def Tree.root (tree : Tree) : Dir := ⟨[], tree.err, tree.entries⟩

/-- The order in which each directory lists its entries. -/
structure ListingOrder where
  list : List Name → List Entry → List Entry
  perm : ∀ path entries, (list path entries).Perm entries

/-! ## 2. Loading -/

/-- What the two registries differ in. An extension is ASCII without a dot. -/
structure Kind where
  noun : String
  extensions : List String
  ascii : ∀ ext ∈ extensions, ∀ c ∈ ext.toList, c.toNat < 0x80
  no_dot : ∀ ext ∈ extensions, '.' ∉ ext.toList

/-- A text is ASCII if each of its characters is found to be. -/
theorem ascii_of_all {exts : List String}
    (h : exts.all (fun ext => ext.toList.all fun c => decide (c.toNat < 0x80)) = true) :
    ∀ ext ∈ exts, ∀ c ∈ ext.toList, c.toNat < 0x80 := by
  intro ext hext c hc
  exact of_decide_eq_true (List.all_eq_true.mp (List.all_eq_true.mp h ext hext) c hc)

def scripts : Kind where
  noun := "script"
  extensions := ["js"]
  ascii := ascii_of_all (by decide)
  no_dot := by decide

def modules : Kind where
  noun := "module"
  extensions := ["js", "mjs"]
  ascii := ascii_of_all (by decide)
  no_dot := by decide

/-- The map of a registry, a `HashMap<String, Arc<str>>`. -/
abbrev Sources := Finmap fun _ : String => String

/-- `ScriptRegistry::get`, `ModuleRegistry::source`. -/
def Sources.get (sources : Sources) (key : String) : Option String := sources.lookup key

def Sources.count (sources : Sources) : ℕ := sources.keys.card

section Load

variable (kind : Kind) (display : List Name → String) (max_size : ℕ)

/-- The bytes of a path. -/
def path_bytes (path : List Name) : List UInt8 := join (path.map Name.bytes)

/-- `path.extension().is_some_and(…)`. -/
def eligible (path : List Name) : Bool :=
  (extension (path_bytes path)).any fun ext => kind.extensions.any fun e => utf8 e = ext

def derive_key (path : List Name) : Except String String :=
  match (components (with_extension_empty (path_bytes path))).mapM from_utf8 with
  | some parts => .ok ("/".intercalate parts)
  | none => .error (kind.noun ++ " path is not valid UTF-8")

/-- What is inserted for a file. -/
def register (file : File) : Except String (String × String) := do
  let source ← file.text
  Result.fail_if (max_size < source.utf8ByteSize)
    ("registered " ++ kind.noun ++ " " ++ display file.path ++ " is "
      ++ toString source.utf8ByteSize ++ " bytes (max_script_size is " ++ toString max_size ++ ")")
  let key ← derive_key kind file.path
  return (key, source)

/-- The body of the inner loop. A directory goes on top of the work list. -/
def visit (path : List Name) (state : List Dir × Sources) (entry : Entry) :
    Except String (List Dir × Sources) :=
  match entry with
  | .broken err => .error err
  | .dir name err entries => .ok (⟨path ++ [name], err, entries⟩ :: state.1, state.2)
  | .file name text =>
    if eligible kind (path ++ [name]) then do
      let (key, source) ← register kind display max_size ⟨path ++ [name], text⟩
      return (state.1, state.2.insert key source)
    else .ok state

/-- The inner loop: one directory, in the order it is listed. -/
def visit_all (order : ListingOrder) (current : Dir) (pending : List Dir) (sources : Sources) :
    Except String (List Dir × Sources) :=
  (order.list current.path current.entries).foldlM (visit kind display max_size current.path)
    (pending, sources)

end Load

/-! ### The work list gets shorter -/

theorem dirs_of_eq (entries : List Entry) : dirs_of entries = (entries.map Entry.dirs).sum := by
  induction entries with
  | nil => rfl
  | cons entry entries ih => rw [dirs_of, ih, List.map_cons, List.sum_cons]

/-- The directories of a work list, with all that is below them. -/
def weight (pending : List Dir) : ℕ := (pending.map fun d => dirs_of d.entries + 1).sum

theorem weight_append (ds es : List Dir) : weight (ds ++ es) = weight ds + weight es := by
  rw [weight, List.map_append, List.sum_append, weight, weight]

/-- The weight of a directory's entries is that of the directories in it. -/
theorem weight_subdirs (path : List Name) (entries : List Entry) :
    weight (subdirs path entries) = dirs_of entries := by
  induction entries with
  | nil => rfl
  | cons entry entries ih =>
      rw [dirs_of, ← ih]
      cases entry with
      | broken err => simp [subdirs, Entry.dirs]
      | file name text => simp [subdirs, Entry.dirs]
      | dir name err inner => simp [subdirs, Entry.dirs, weight]

section Loops

variable {kind : Kind} {display : List Name → String} {max_size : ℕ}

/-- No entry is broken. -/
def Unbroken (entries : List Entry) : Prop := ∀ err, Entry.broken err ∉ entries

/-- An entry that can be read breaks no listing. -/
theorem unbroken_cons {entry : Entry} {entries : List Entry} (h : ∀ err, entry ≠ .broken err) :
    Unbroken (entry :: entries) ↔ Unbroken entries := by
  refine forall_congr' fun err => ?_
  rw [List.mem_cons, not_or]
  exact ⟨fun hall => hall.2, fun hrest => ⟨Ne.symm (h err), hrest⟩⟩

/-- The inserts of a loop, in order. -/
def insert_all (kvs : List (String × String)) (sources : Sources) : Sources :=
  kvs.foldl (fun sources kv => sources.insert kv.1 kv.2) sources

/-- The files a registry takes. -/
def taken (kind : Kind) (files : List File) : List File := files.filter fun f => eligible kind f.path

/-- The inner loop has got to its end: no entry is broken, the directories are on top of the work
list, and the files that are taken have been inserted in the order of the listing. -/
def Visited (kind : Kind) (display : List Name → String) (max_size : ℕ) (path : List Name)
    (entries : List Entry) (before after : List Dir × Sources) : Prop :=
  Unbroken entries ∧ after.1 = (subdirs path entries).reverse ++ before.1
    ∧ ∃ kvs, (taken kind (own_files path entries)).mapM (register kind display max_size) = .ok kvs
      ∧ after.2 = insert_all kvs before.2

section Visit

variable {path : List Name} {entries : List Entry} {pending : List Dir} {sources : Sources}
  {after : List Dir × Sources}

/-- Nothing is left to visit. -/
theorem visited_nil :
    Visited kind display max_size path [] (pending, sources) after ↔ (pending, sources) = after := by
  constructor
  · rintro ⟨-, hpending, kvs, hkvs, hsources⟩
    rw [← Except.ok.inj hkvs] at hsources
    exact Prod.ext hpending.symm hsources.symm
  · rintro rfl
    exact ⟨fun err => List.not_mem_nil, rfl, [], rfl, rfl⟩

/-- A directory is put in front of those to come. -/
theorem visited_dir (name : Name) (err : Option String) (inner : List Entry) :
    Visited kind display max_size path (.dir name err inner :: entries) (pending, sources) after
      ↔ Visited kind display max_size path entries
        (⟨path ++ [name], err, inner⟩ :: pending, sources) after := by
  have hdirs : (subdirs path (.dir name err inner :: entries)).reverse ++ pending
      = (subdirs path entries).reverse ++ ⟨path ++ [name], err, inner⟩ :: pending := by
    simp [subdirs]
  rw [Visited, unbroken_cons (fun _ h => by cases h), hdirs]
  exact Iff.rfl

/-- A file of another kind is passed over. -/
theorem visited_other {name : Name} {text : Except String String}
    (h : ¬ eligible kind (path ++ [name]) = true) :
    Visited kind display max_size path (.file name text :: entries) (pending, sources) after
      ↔ Visited kind display max_size path entries (pending, sources) after := by
  have htaken : taken kind (own_files path (.file name text :: entries))
      = taken kind (own_files path entries) := by
    simp [taken, own_files, h]
  rw [Visited, unbroken_cons (fun _ h => by cases h), htaken]
  exact Iff.rfl

/-- A file of the kind is registered, or the walk ends with its error. -/
theorem visited_file {name : Name} {text : Except String String}
    (h : eligible kind (path ++ [name]) = true) :
    Visited kind display max_size path (.file name text :: entries) (pending, sources) after
      ↔ ∃ kv, register kind display max_size ⟨path ++ [name], text⟩ = .ok kv
        ∧ Visited kind display max_size path entries (pending, sources.insert kv.1 kv.2) after := by
  have htaken : taken kind (own_files path (.file name text :: entries))
      = ⟨path ++ [name], text⟩ :: taken kind (own_files path entries) := by
    simp [taken, own_files, h]
  rw [Visited, unbroken_cons (fun _ h => by cases h), htaken, List.mapM_cons]
  constructor
  · rintro ⟨hunbroken, hpending, kvs, hkvs, hsources⟩
    obtain ⟨kv, hkv, hrest⟩ := Result.bind_eq_ok.mp hkvs
    obtain ⟨rest, hrest, hcons⟩ := Result.bind_eq_ok.mp hrest
    rw [← Except.ok.inj hcons] at hsources
    exact ⟨kv, hkv, hunbroken, hpending, rest, hrest, hsources⟩
  · rintro ⟨kv, hkv, hunbroken, hpending, rest, hrest, hsources⟩
    refine ⟨hunbroken, hpending, kv :: rest, ?_, hsources⟩
    rw [hkv, Result.ok_bind, hrest]
    rfl

/-- The inner loop, entry by entry: a directory goes on the work list, a file that is taken is
registered, and any other is passed over. The loop stops at the first that cannot be. -/
theorem foldlM_visit :
    entries.foldlM (visit kind display max_size path) (pending, sources) = .ok after
      ↔ Visited kind display max_size path entries (pending, sources) after := by
  induction entries generalizing pending sources with
  | nil => rw [List.foldlM_nil, Result.pure_eq_ok, visited_nil]
  | cons entry entries ih =>
      rw [List.foldlM_cons]
      cases entry with
      | broken err =>
          refine iff_of_false nofun ?_
          rintro ⟨hunbroken, -⟩
          exact hunbroken err List.mem_cons_self
      | dir name err inner =>
          rw [visited_dir, ← ih]
          exact Iff.rfl
      | file name text =>
          by_cases heligible : eligible kind (path ++ [name]) = true
          · have hvisit : visit kind display max_size path (pending, sources) (.file name text)
                = register kind display max_size ⟨path ++ [name], text⟩ >>= fun kv =>
                  pure (pending, sources.insert kv.1 kv.2) := if_pos heligible
            rw [visited_file heligible, hvisit, bind_assoc, Result.bind_eq_ok]
            exact exists_congr fun kv => and_congr_right fun _ => ih
          · have hvisit : visit kind display max_size path (pending, sources) (.file name text)
                = .ok (pending, sources) := if_neg heligible
            rw [visited_other heligible, hvisit]
            exact ih

end Visit

/-- A visit takes the directory off the list, and puts only what was in it there, so the walk
comes to an end. -/
theorem weight_visit_all {order : ListingOrder} {current : Dir} {pending pending' : List Dir}
    {sources sources' : Sources}
    (h : visit_all kind display max_size order current pending sources = .ok (pending', sources')) :
    weight pending' < weight (current :: pending) := by
  obtain ⟨-, hpending, -⟩ := foldlM_visit.mp h
  have hperm := order.perm current.path current.entries
  have hdirs : dirs_of (order.list current.path current.entries) = dirs_of current.entries := by
    rw [dirs_of_eq, dirs_of_eq]
    exact (hperm.map Entry.dirs).sum_eq
  have hreverse : weight (subdirs current.path (order.list current.path current.entries)).reverse
      = dirs_of current.entries := by
    rw [weight, List.map_reverse, List.sum_reverse, ← weight, weight_subdirs, hdirs]
  have hcons : weight (current :: pending) = dirs_of current.entries + 1 + weight pending := rfl
  have hpushed : weight pending' = dirs_of current.entries + weight pending := by
    rw [← hreverse, ← weight_append]
    exact congrArg weight hpending
  omega

end Loops

section Walk

variable (kind : Kind) (display : List Name → String) (max_size : ℕ) (order : ListingOrder)

/-- The outer loop: the directory on top of the work list is read. -/
def walk : List Dir → Sources → Except String Sources
  | [], sources => .ok sources
  | current :: pending, sources =>
    match current.err with
    | some err => .error err
    | none =>
      match _hvisit : visit_all kind display max_size order current pending sources with
      | .error err => .error err
      | .ok (pending', sources') => walk pending' sources'
  termination_by pending => weight pending
  decreasing_by exact weight_visit_all _hvisit

def load (tree : Tree) : Except String Sources := walk kind display max_size order [tree.root] ∅

end Walk

/-- `ScriptRegistry::load`. -/
def ScriptRegistry.load (display : List Name → String) (max_script_size : ℕ) (order : ListingOrder)
    (tree : Tree) : Except String Sources :=
  Registry.load scripts display max_script_size order tree

/-- `ModuleRegistry::load`. -/
def ModuleRegistry.load (display : List Name → String) (max_size : ℕ) (order : ListingOrder)
    (tree : Tree) : Except String Sources :=
  Registry.load modules display max_size order tree

/-! ## 3. What is loaded -/

section Loaded

variable {kind : Kind} {display : List Name → String} {max_size : ℕ} {order : ListingOrder}

theorem walk_nil (sources : Sources) :
    walk kind display max_size order [] sources = .ok sources := by
  rw [walk]

/-- A walk that ends well has listed the directory, visited its entries and walked on. -/
theorem walk_cons_eq_ok {current : Dir} {pending : List Dir} {sources sources' : Sources} :
    walk kind display max_size order (current :: pending) sources = .ok sources'
      ↔ current.err = none ∧ ∃ pending₁ sources₁,
        visit_all kind display max_size order current pending sources = .ok (pending₁, sources₁)
        ∧ walk kind display max_size order pending₁ sources₁ = .ok sources' := by
  rw [walk]
  cases current.err with
  | some err => simp
  | none =>
      simp only [true_and]
      split
      · rename_i err hvisit
        rw [hvisit]
        simp
      · rename_i pending₁ sources₁ hvisit
        rw [hvisit]
        simp

/-- The files of a directory are its own and those of its directories, in some order. This is what
lets the work list be counted by directories, whatever order they are taken in. -/
theorem files_of_perm (path : List Name) (entries : List Entry) :
    (files_of path entries).Perm
      (own_files path entries ++ (subdirs path entries).flatMap Dir.files) := by
  induction entries with
  | nil => exact .nil
  | cons entry entries ih =>
      rw [files_of]
      cases entry with
      | broken err => exact ih
      | file name text => exact ih.cons _
      | dir name err inner =>
          have hcons : (subdirs path (.dir name err inner :: entries)).flatMap Dir.files
              = files_of (path ++ [name]) inner ++ (subdirs path entries).flatMap Dir.files := rfl
          have hown : own_files path (.dir name err inner :: entries) = own_files path entries := rfl
          rw [hcons, hown, Entry.files]
          exact (ih.append_left _).trans (List.perm_append_comm_assoc _ _ _)

/-- A tree can be listed if its top can and each of the directories in it. The recursion of the
tree and that of the work list go down in the same way. -/
theorem listable_all_iff_subdirs {path : List Name} {entries : List Entry} :
    listable_all entries = true
      ↔ Unbroken entries ∧ ∀ d ∈ subdirs path entries, d.listable = true := by
  induction entries with
  | nil => simp [listable_all, Unbroken, subdirs]
  | cons entry entries ih =>
      rw [listable_all, Bool.and_eq_true, ih]
      cases entry with
      | broken err =>
          refine iff_of_false ?_ ?_
          · rintro ⟨h, -⟩
            cases h
          · rintro ⟨h, -⟩
            exact h err List.mem_cons_self
      | file name text =>
          rw [unbroken_cons (fun _ h => by cases h)]
          exact and_iff_right rfl
      | dir name err inner =>
          have hcons : subdirs path (.dir name err inner :: entries)
              = ⟨path ++ [name], err, inner⟩ :: subdirs path entries := rfl
          rw [unbroken_cons (fun _ h => by cases h), hcons, List.forall_mem_cons]
          exact and_left_comm

/-- What is registered for the files, one by one. -/
def Registers (kind : Kind) (display : List Name → String) (max_size : ℕ) (files : List File)
    (kvs : List (String × String)) : Prop :=
  List.Forall₂ (fun f kv => register kind display max_size f = .ok kv) files kvs

/-- The work list after a directory has been read. -/
def pushed (order : ListingOrder) (current : Dir) (pending : List Dir) : List Dir :=
  (subdirs current.path (order.list current.path current.entries)).reverse ++ pending

/-- The files a directory itself gives, in the order it is listed. -/
def listed_files (order : ListingOrder) (current : Dir) : List File :=
  own_files current.path (order.list current.path current.entries)

/-- One directory of the work list that is read to its end. -/
theorem visit_all_eq_ok {current : Dir} {pending pending' : List Dir} {sources sources' : Sources} :
    visit_all kind display max_size order current pending sources = .ok (pending', sources')
      ↔ Unbroken current.entries ∧ pending' = pushed order current pending
        ∧ ∃ kvs, Registers kind display max_size (taken kind (listed_files order current)) kvs
          ∧ sources' = insert_all kvs sources := by
  have hperm := order.perm current.path current.entries
  have hunbroken : Unbroken (order.list current.path current.entries)
      ↔ Unbroken current.entries :=
    forall_congr' fun err => not_congr hperm.mem_iff
  rw [visit_all, foldlM_visit, Visited, hunbroken]
  simp only [Result.mapM_eq_ok]
  exact Iff.rfl

/-- Reading a directory leaves the files there are: they are registered now, or below the new
work list. -/
theorem taken_perm_pushed (kind : Kind) (order : ListingOrder) (current : Dir) (pending : List Dir) :
    (taken kind ((current :: pending).flatMap Dir.files)).Perm
      (taken kind (listed_files order current)
        ++ taken kind ((pushed order current pending).flatMap Dir.files)) := by
  have hperm := order.perm current.path current.entries
  have hown : (listed_files order current).Perm (own_files current.path current.entries) :=
    hperm.filterMap _
  have hdirs : (subdirs current.path (order.list current.path current.entries)).reverse.Perm
      (subdirs current.path current.entries) :=
    (List.reverse_perm _).trans (hperm.filterMap _)
  rw [taken, taken, taken, ← List.filter_append]
  apply List.Perm.filter
  rw [pushed, List.flatMap_append, ← List.append_assoc, List.flatMap_cons]
  apply List.Perm.append_right
  exact (files_of_perm current.path current.entries).trans
    (hown.append (hdirs.flatMap_right _)).symm

/-- The same for the list of directories that are still to be walked, one step on. -/
theorem listable_cons_iff {current : Dir} {pending : List Dir} :
    (∀ d ∈ current :: pending, d.listable = true)
      ↔ (current.err = none ∧ Unbroken current.entries)
        ∧ ∀ d ∈ pushed order current pending, d.listable = true := by
  have hmem : ∀ d, d ∈ subdirs current.path (order.list current.path current.entries)
      ↔ d ∈ subdirs current.path current.entries :=
    fun d => ((order.perm current.path current.entries).filterMap _).mem_iff
  rw [List.forall_mem_cons, Dir.listable, Bool.and_eq_true, Option.isNone_iff_eq_none,
    @listable_all_iff_subdirs current.path, pushed, List.forall_mem_append]
  simp only [List.mem_reverse, hmem]
  exact ⟨fun ⟨⟨h₁, h₂, h₃⟩, h₄⟩ => ⟨⟨h₁, h₂⟩, h₃, h₄⟩, fun ⟨⟨h₁, h₂⟩, h₃, h₄⟩ => ⟨⟨h₁, h₂, h₃⟩, h₄⟩⟩

theorem insert_all_append (kvs kvs' : List (String × String)) (sources : Sources) :
    insert_all (kvs ++ kvs') sources = insert_all kvs' (insert_all kvs sources) :=
  List.foldl_append

/-- A walk that gets to its end has read every directory and registered every file it takes,
in some order. The induction is on the directories that are left. -/
theorem walk_eq_ok {pending : List Dir} {sources sources' : Sources}
    (h : walk kind display max_size order pending sources = .ok sources') :
    (∀ d ∈ pending, d.listable = true)
      ∧ ∃ files kvs, files.Perm (taken kind (pending.flatMap Dir.files))
        ∧ Registers kind display max_size files kvs ∧ sources' = insert_all kvs sources := by
  induction hweight : weight pending using Nat.strong_induction_on generalizing pending sources with
  | _ n ih =>
      cases pending with
      | nil =>
          rw [walk_nil, Except.ok.injEq] at h
          exact ⟨fun d hd => absurd hd List.not_mem_nil, [], [], .nil, .nil, h.symm⟩
      | cons current pending =>
          obtain ⟨herr, pending₁, sources₁, hvisit, hwalk⟩ := walk_cons_eq_ok.mp h
          have hless := weight_visit_all hvisit
          rw [hweight] at hless
          obtain ⟨hlisted, files₂, kvs₂, hfiles₂, hkvs₂, rfl⟩ := ih _ hless hwalk rfl
          obtain ⟨hunbroken, rfl, kvs₁, hkvs₁, rfl⟩ := visit_all_eq_ok.mp hvisit
          refine ⟨listable_cons_iff.mpr ⟨⟨herr, hunbroken⟩, hlisted⟩, _, kvs₁ ++ kvs₂, ?_,
            List.rel_append hkvs₁ hkvs₂, (insert_all_append kvs₁ kvs₂ sources).symm⟩
          exact (hfiles₂.append_left _).trans (taken_perm_pushed kind order current pending).symm

/-- Files that can be registered one by one can be registered in a row: to register a file asks
nothing of those before it. -/
theorem registers_of_forall {files : List File}
    (h : ∀ f ∈ files, ∃ kv, register kind display max_size f = .ok kv) :
    ∃ kvs, Registers kind display max_size files kvs := by
  induction files with
  | nil => exact ⟨[], .nil⟩
  | cons f files ih =>
      rw [List.forall_mem_cons] at h
      obtain ⟨kv, hkv⟩ := h.1
      obtain ⟨kvs, hkvs⟩ := ih h.2
      exact ⟨kv :: kvs, .cons hkv hkvs⟩

/-- A walk gets to its end if every directory can be listed and every file it takes can be
registered. -/
theorem walk_total {pending : List Dir} (hlisted : ∀ d ∈ pending, d.listable = true)
    (hfiles : ∀ f ∈ taken kind (pending.flatMap Dir.files),
      ∃ kv, register kind display max_size f = .ok kv) (sources : Sources) :
    ∃ sources', walk kind display max_size order pending sources = .ok sources' := by
  induction hweight : weight pending using Nat.strong_induction_on generalizing pending sources with
  | _ n ih =>
      cases pending with
      | nil => exact ⟨sources, walk_nil sources⟩
      | cons current pending =>
          obtain ⟨⟨herr, hunbroken⟩, hpushed⟩ := (@listable_cons_iff order _ _).mp hlisted
          have hsplit := taken_perm_pushed kind order current pending
          obtain ⟨kvs, hkvs⟩ := registers_of_forall fun f hf =>
            hfiles f (hsplit.mem_iff.mpr (List.mem_append_left _ hf))
          have hvisit : visit_all kind display max_size order current pending sources
              = .ok (pushed order current pending, insert_all kvs sources) :=
            visit_all_eq_ok.mpr ⟨hunbroken, rfl, kvs, hkvs, rfl⟩
          have hless := weight_visit_all hvisit
          rw [hweight] at hless
          obtain ⟨sources', hwalk⟩ := ih _ hless hpushed (fun f hf =>
            hfiles f (hsplit.mem_iff.mpr (List.mem_append_right _ hf))) (insert_all kvs sources) rfl
          exact ⟨sources', walk_cons_eq_ok.mpr ⟨herr, _, _, hvisit, hwalk⟩⟩

/-! ### The map -/

/-- The keys after a row of insertions. -/
theorem keys_insert_all (kvs : List (String × String)) (sources : Sources) :
    (insert_all kvs sources).keys = (kvs.map Prod.fst).toFinset ∪ sources.keys := by
  induction kvs generalizing sources with
  | nil => simp [insert_all]
  | cons kv kvs ih =>
      have hstep : insert_all (kv :: kvs) sources = insert_all kvs (sources.insert kv.1 kv.2) := rfl
      rw [hstep, ih]
      ext key
      simp only [Finset.mem_union, List.mem_toFinset, Finmap.mem_keys, Finmap.mem_insert,
        List.map_cons, List.mem_cons]
      tauto

/-- A key that is not inserted keeps its value. -/
theorem lookup_insert_all_of_not_mem {kvs : List (String × String)} {sources : Sources}
    {key : String} (h : key ∉ kvs.map Prod.fst) :
    (insert_all kvs sources).lookup key = sources.lookup key := by
  induction kvs generalizing sources with
  | nil => rfl
  | cons kv kvs ih =>
      rw [List.map_cons, List.mem_cons, not_or] at h
      have hstep : insert_all (kv :: kvs) sources = insert_all kvs (sources.insert kv.1 kv.2) := rfl
      rw [hstep, ih h.2, Finmap.lookup_insert_of_ne _ h.1]

/-- Under keys of their own all entries are there. By induction on the entries: the first is
inserted, and no later one has its key. -/
theorem lookup_insert_all {kvs : List (String × String)} (hnodup : (kvs.map Prod.fst).Nodup)
    {sources : Sources} {key source : String} (h : (key, source) ∈ kvs) :
    (insert_all kvs sources).lookup key = some source := by
  induction kvs generalizing sources with
  | nil => exact absurd h List.not_mem_nil
  | cons kv kvs ih =>
      rw [List.map_cons, List.nodup_cons] at hnodup
      have hstep : insert_all (kv :: kvs) sources = insert_all kvs (sources.insert kv.1 kv.2) := rfl
      rw [hstep]
      rcases List.mem_cons.mp h with rfl | hrest
      · rw [lookup_insert_all_of_not_mem hnodup.1, Finmap.lookup_insert]
      · exact ih hnodup.2 hrest

/-- What is in the map was inserted, or was there. By induction on the entries, the last of a key
being the one that is found. -/
theorem mem_of_lookup_insert_all {kvs : List (String × String)} {sources : Sources}
    {key source : String} (h : (insert_all kvs sources).lookup key = some source) :
    (key, source) ∈ kvs ∨ sources.lookup key = some source := by
  induction kvs generalizing sources with
  | nil => exact Or.inr h
  | cons kv kvs ih =>
      rcases ih h with hmem | hlookup
      · exact Or.inl (List.mem_cons_of_mem _ hmem)
      · by_cases hkey : key = kv.1
        · rw [hkey, Finmap.lookup_insert, Option.some.injEq] at hlookup
          rw [hkey, ← hlookup]
          exact Or.inl List.mem_cons_self
        · rw [Finmap.lookup_insert_of_ne _ hkey] at hlookup
          exact Or.inr hlookup

end Loaded

/-! ## 4. Keys -/

section Keys

variable {kind : Kind} {path : List Name}

/-- The texts of the names of a path, if they are all texts. -/
def texts_of (path : List Name) : Option (List String) := (path.map Name.bytes).mapM from_utf8

/-- A path as text. -/
def path_text (path : List Name) : Option String := (texts_of path).map ("/".intercalate ·)

/-- The pieces are texts exactly if they are the bytes of texts. A path that is no text is found
out here, piece by piece. -/
theorem mapM_from_utf8 {pieces : List (List UInt8)} {ts : List String} :
    pieces.mapM from_utf8 = some ts ↔ ts.map utf8 = pieces := by
  induction pieces generalizing ts with
  | nil => simp [eq_comm]
  | cons piece pieces ih =>
      rw [List.mapM_cons]
      constructor
      · intro h
        obtain ⟨t, ht, h⟩ := Option.bind_eq_some_iff.mp h
        obtain ⟨ts', hts', h⟩ := Option.bind_eq_some_iff.mp h
        rw [← Option.some.inj h, List.map_cons, from_utf8_eq_some.mp ht, ih.mp hts']
      · intro h
        obtain ⟨t, ts', rfl, ht, hts'⟩ := List.map_eq_cons_iff.mp h
        rw [from_utf8_eq_some.mpr ht, ih.mpr hts']
        rfl

theorem texts_of_eq_some {ts : List String} :
    texts_of path = some ts ↔ ts.map utf8 = path.map Name.bytes := mapM_from_utf8

/-- What a text of a name is not. -/
theorem mem_texts {ts : List String} (h : texts_of path = some ts) {t : String} (ht : t ∈ ts) :
    '/' ∉ t.toList ∧ t ≠ "." := by
  have hmem : utf8 t ∈ path.map Name.bytes := by
    rw [← texts_of_eq_some.mp h]
    exact List.mem_map_of_mem ht
  obtain ⟨name, -, hname⟩ := List.mem_map.mp hmem
  constructor
  · intro hslash
    have hbyte := (mem_utf8_iff (c := '/') (by decide)).mpr hslash
    rw [← hname] at hbyte
    exact name.no_slash hbyte
  · rintro rfl
    exact name.ne_dot hname

/-- A file that is taken: the last name is a stem with one of the extensions. The stem is not
empty, as a name that begins with its only dot has no extension; and it may have dots of its own.
-/
theorem eligible_iff :
    eligible kind path = true ↔ ∃ front name ext stem, path = front ++ [name]
      ∧ ext ∈ kind.extensions ∧ stem ≠ [] ∧ name.bytes = stem ++ utf8 ("." ++ ext) := by
  have hdot : ∀ ext, utf8 ("." ++ ext) = DOT :: utf8 ext := fun ext => utf8_append "." ext
  rw [eligible]
  constructor
  · intro h
    cases hlast : extension (path_bytes path) with
    | none =>
        rw [hlast] at h
        cases h
    | some found =>
        rw [hlast, Option.any_some, List.any_eq_true] at h
        obtain ⟨ext, hext, hfound⟩ := h
        rw [decide_eq_true_eq] at hfound
        rcases List.eq_nil_or_concat' path with rfl | ⟨front, name, rfl⟩
        · cases hlast
        · rw [path_bytes, extension_join] at hlast
          obtain ⟨hstem, hname⟩ := eq_append_of_extension hlast
          refine ⟨front, name, ext, _, rfl, hext, hstem, ?_⟩
          rw [hdot, hfound]
          exact hname
  · rintro ⟨front, name, ext, stem, rfl, hext, hstem, hname⟩
    have hnodot : DOT ∉ utf8 ext := fun hmem =>
      kind.no_dot ext hext ((mem_utf8_iff (c := '.') (by decide)).mp hmem)
    rw [hdot] at hname
    rw [path_bytes, extension_join, hname, rsplit_file_at_dot_append hstem hnodot, Option.any_some,
      List.any_eq_true]
    exact ⟨ext, hext, decide_eq_true rfl⟩

/-- The parts of a key: where the stem is a `.`, the dot of the extension stays with it. -/
def key_parts (front : List String) (stem : String) : List String :=
  front ++ [if stem = "." then ".." else stem]

/-- What `derive_key` has to decode for a file that is taken. -/
theorem components_without_extension (front : List Name) {name : Name} {ext : String}
    {stem : List UInt8} (hext : ext ∈ kind.extensions) (hstem : stem ≠ [])
    (hname : name.bytes = stem ++ utf8 ("." ++ ext)) :
    components (with_extension_empty (path_bytes (front ++ [name])))
      = front.map Name.bytes ++ [if stem = [DOT] then [DOT, DOT] else stem] := by
  have hnodot : DOT ∉ utf8 ext := fun hmem =>
    kind.no_dot ext hext ((mem_utf8_iff (c := '.') (by decide)).mp hmem)
  have hslash : SLASH ∉ stem := by
    intro hmem
    apply name.no_slash
    rw [hname]
    exact List.mem_append_left _ hmem
  rw [path_bytes, with_extension_empty_join front hstem hnodot (hname.trans (by rw [utf8_append]; rfl))]
  by_cases hdot : stem = [DOT]
  · rw [if_pos hdot]
    exact components_join_concat front (by decide) (by decide) (by decide)
  · rw [if_neg hdot]
    exact components_join_concat front hstem hdot hslash

/-- The parts of a key are the names on the path, and the stem of the last. A stem that is a
single dot is written as two. -/
theorem utf8_key_parts {front : List Name} {fs : List String} (hfs : fs.map utf8 = front.map Name.bytes)
    (s : String) :
    (key_parts fs s).map utf8
      = front.map Name.bytes ++ [if utf8 s = [DOT] then [DOT, DOT] else utf8 s] := by
  have hdot : s = "." ↔ utf8 s = [DOT] := utf8_inj.symm
  rw [key_parts, List.map_append, hfs, List.map_singleton]
  by_cases hcase : s = "."
  · rw [if_pos hcase, if_pos (hdot.mp hcase)]
    rfl
  · rw [if_neg hcase, if_neg (mt hdot.mpr hcase)]

/-- The key of a file that is taken, and whose path is text. -/
theorem derive_key_eq (h : eligible kind path = true) {ts : List String}
    (hts : texts_of path = some ts) :
    ∃ front stem ext, ext ∈ kind.extensions ∧ ts = front ++ [stem ++ ("." ++ ext)]
      ∧ derive_key kind path = .ok ("/".intercalate (key_parts front stem)) := by
  obtain ⟨front, name, ext, stem, rfl, hext, hstem, hname⟩ := eligible_iff.mp h
  have hascii : ∀ c ∈ ("." ++ ext).toList, c.toNat < 0x80 := by
    intro c hc
    rw [String.toList_append, List.mem_append] at hc
    rcases hc with hc | hc
    · rw [List.mem_singleton.mp hc]
      decide
    · exact kind.ascii ext hext c hc
  rw [texts_of_eq_some, List.map_append, List.map_singleton, hname] at hts
  obtain ⟨fs, last, rfl, hfs, hlast⟩ := List.map_eq_append_iff.mp hts
  obtain ⟨t, rfl, ht⟩ := List.map_eq_singleton_iff.mp hlast
  obtain ⟨s, hs, rfl⟩ := (from_utf8_append_ascii hascii).mp (from_utf8_eq_some.mpr ht)
  rw [from_utf8_eq_some] at hs
  refine ⟨fs, s, ext, hext, rfl, ?_⟩
  have hparts : (components (with_extension_empty (path_bytes (front ++ [name])))).mapM from_utf8
      = some (key_parts fs s) := by
    rw [mapM_from_utf8, utf8_key_parts hfs, hs, components_without_extension front hext hstem hname]
  rw [derive_key, hparts]

/-- Without a text for its path there is no key for a file that is taken. -/
theorem derive_key_eq_error (h : eligible kind path = true) (hts : texts_of path = none) :
    ∃ err, derive_key kind path = .error err := by
  obtain ⟨front, name, ext, stem, rfl, hext, hstem, hname⟩ := eligible_iff.mp h
  have hcomponents := components_without_extension front hext hstem hname
  rw [derive_key]
  cases hparts : (components (with_extension_empty (path_bytes (front ++ [name])))).mapM from_utf8 with
  | none => exact ⟨_, rfl⟩
  | some parts =>
      exfalso
      rw [mapM_from_utf8, hcomponents] at hparts
      -- the parts decode, and so does the stem: as the last of them, or as a `.`
      obtain ⟨fs, last, rfl, hfs, hlast⟩ := List.map_eq_append_iff.mp hparts
      obtain ⟨s, hs⟩ : ∃ s, utf8 s = stem := by
        by_cases hdotted : stem = [DOT]
        · exact ⟨".", hdotted.symm⟩
        · rw [if_neg hdotted] at hlast
          obtain ⟨s, -, hs⟩ := List.map_eq_singleton_iff.mp hlast
          exact ⟨s, hs⟩
      have hsome : texts_of (front ++ [name]) = some (fs ++ [s ++ ("." ++ ext)]) := by
        rw [texts_of_eq_some, List.map_append, List.map_append, hfs, List.map_singleton,
          List.map_singleton, utf8_append, hs, hname]
      rw [hts] at hsome
      cases hsome

end Keys

/-! ## 5. Registries -/

def Tree.taken (kind : Kind) (tree : Tree) : List File := Registry.taken kind tree.root.files

/-- The key is the path of the file, without its extension. -/
def Specifies (kind : Kind) (f : File) (key : String) : Prop :=
  ∃ ext ∈ kind.extensions, path_text f.path = some (key ++ ("." ++ ext))

/-- The name of the file is a `.` with an extension, as in `..js`. -/
def Dotted (kind : Kind) (f : File) : Prop :=
  ∃ front ext, ext ∈ kind.extensions ∧ texts_of f.path = some (front ++ ["." ++ ("." ++ ext)])

/-- The file cannot be read, is too large, or its path is not text. -/
def Bad (max_size : ℕ) (f : File) : Prop :=
  (∃ err, f.text = .error err) ∨ (∃ source, f.text = .ok source ∧ max_size < source.utf8ByteSize)
    ∨ path_text f.path = none

/-- A file that can be read, fits and has a text for its path is not refused. -/
theorem not_bad {max_size : ℕ} {f : File} {source text : String} (htext : f.text = .ok source)
    (hsize : source.utf8ByteSize ≤ max_size) (hpath : path_text f.path = some text) :
    ¬ Bad max_size f := by
  rw [Bad, htext, hpath]
  rintro (⟨err, h⟩ | ⟨source', hsource, hlarge⟩ | h)
  · cases h
  · rw [← Except.ok.inj hsource] at hlarge
    omega
  · cases h

section Files

variable {kind : Kind} {display : List Name → String} {max_size : ℕ} {f : File}

/-- A file is registered if it can be read, fits and has a key. -/
theorem register_eq_ok {key source : String} :
    register kind display max_size f = .ok (key, source)
      ↔ f.text = .ok source ∧ source.utf8ByteSize ≤ max_size
        ∧ derive_key kind f.path = .ok key := by
  rw [register]
  constructor
  · intro h
    obtain ⟨source', htext, h⟩ := Result.bind_eq_ok.mp h
    obtain ⟨_, hsize, h⟩ := Result.bind_eq_ok.mp h
    obtain ⟨key', hkey, h⟩ := Result.bind_eq_ok.mp h
    rw [Result.fail_if_eq_ok, Nat.not_lt] at hsize
    rw [Result.pure_eq_ok, Prod.mk.injEq] at h
    rw [← h.1, ← h.2]
    exact ⟨htext, hsize, hkey⟩
  · rintro ⟨htext, hsize, hkey⟩
    rw [htext, Result.ok_bind, Result.bind_eq_ok]
    refine ⟨(), Result.fail_if_eq_ok.mpr (Nat.not_lt.mpr hsize), ?_⟩
    rw [hkey, Result.ok_bind]
    rfl

/-- A file that is taken can be registered iff there is nothing wrong with it: its path is a text,
it can be read, it is not too large, and it is a text itself. -/
theorem exists_register_iff (h : eligible kind f.path = true) :
    (∃ kv, register kind display max_size f = .ok kv) ↔ ¬ Bad max_size f := by
  have hkey : (∃ key, derive_key kind f.path = .ok key) ↔ path_text f.path ≠ none := by
    cases hts : texts_of f.path with
    | none =>
        obtain ⟨err, herr⟩ := derive_key_eq_error h hts
        refine iff_of_false ?_ ?_
        · rintro ⟨key, hok⟩
          rw [herr] at hok
          cases hok
        · rw [path_text, hts]
          simp
    | some ts =>
        obtain ⟨front, stem, ext, -, -, hok⟩ := derive_key_eq h hts
        refine iff_of_true ⟨_, hok⟩ ?_
        rw [path_text, hts]
        simp
  rw [Bad, not_or, not_or, ← ne_eq, ← hkey]
  constructor
  · rintro ⟨⟨key, source⟩, hregister⟩
    obtain ⟨htext, hsize, hok⟩ := register_eq_ok.mp hregister
    rw [htext]
    refine ⟨by simp, ?_, key, hok⟩
    rintro ⟨source', hsource, hlarge⟩
    rw [← Except.ok.inj hsource] at hlarge
    omega
  · rintro ⟨hreadable, hsmall, key, hok⟩
    cases htext : f.text with
    | error err => exact absurd ⟨err, htext⟩ hreadable
    | ok source =>
        refine ⟨(key, source), register_eq_ok.mpr ⟨htext, ?_, hok⟩⟩
        by_contra hlarge
        exact hsmall ⟨source, htext, by omega⟩

/-- What is written behind the last part of a path is written behind the path. -/
theorem intercalate_concat_append (front : List String) (stem rest : String) :
    "/".intercalate (front ++ [stem ++ rest]) = "/".intercalate (front ++ [stem]) ++ rest := by
  cases front with
  | nil => rw [List.nil_append, List.nil_append, String.intercalate_singleton, String.intercalate_singleton]
  | cons first front =>
      rw [String.intercalate_append_of_ne_nil (List.cons_ne_nil _ _) (List.cons_ne_nil _ _),
        String.intercalate_append_of_ne_nil (List.cons_ne_nil _ _) (List.cons_ne_nil _ _),
        String.intercalate_singleton, String.intercalate_singleton, String.append_assoc,
        String.append_assoc, String.append_assoc]

/-- A text ends in one extension only. -/
theorem append_extension_inj {a b ext ext' : String} (hext : '.' ∉ ext.toList)
    (hext' : '.' ∉ ext'.toList) (h : a ++ ("." ++ ext) = b ++ ("." ++ ext')) : a = b ∧ ext = ext' := by
  have hsplit : ∀ {c e : String}, '.' ∉ e.toList →
      rsplit_once '.' (c ++ ("." ++ e)).toList = some (c.toList, e.toList) := by
    intro c e he
    rw [String.toList_append, String.toList_append]
    exact rsplit_once_append c.toList he
  have hsame := hsplit (c := a) hext
  rw [h, hsplit hext', Option.some.injEq, Prod.mk.injEq] at hsame
  exact ⟨String.toList_inj.mp hsame.1.symm, String.toList_inj.mp hsame.2.symm⟩

/-- A file has one documented key. -/
theorem Specifies.unique {key key' : String} (h : Specifies kind f key) (h' : Specifies kind f key') :
    key = key' := by
  obtain ⟨ext, hext, htext⟩ := h
  obtain ⟨ext', hext', htext'⟩ := h'
  rw [htext, Option.some.injEq] at htext'
  exact (append_extension_inj (kind.no_dot ext hext) (kind.no_dot ext' hext') htext').1

/-- The key a file should have. -/
theorem specifies_iff {front : List String} {stem ext key : String} (hext : ext ∈ kind.extensions)
    (hts : texts_of f.path = some (front ++ [stem ++ ("." ++ ext)])) :
    Specifies kind f key ↔ key = "/".intercalate (front ++ [stem]) := by
  have htext : path_text f.path = some ("/".intercalate (front ++ [stem]) ++ ("." ++ ext)) := by
    rw [path_text, hts, Option.map_some, intercalate_concat_append]
  have hself : Specifies kind f ("/".intercalate (front ++ [stem])) := ⟨ext, hext, htext⟩
  exact ⟨fun h => h.unique hself, fun h => h ▸ hself⟩

/-- The key a file is registered under is the one it should have, unless that ends in a `.`. -/
theorem specifies_of_register (h : eligible kind f.path = true) (hdotted : ¬ Dotted kind f)
    {key source : String} (hregister : register kind display max_size f = .ok (key, source)) :
    Specifies kind f key := by
  obtain ⟨-, -, hkey⟩ := register_eq_ok.mp hregister
  cases hts : texts_of f.path with
  | none =>
      obtain ⟨err, herr⟩ := derive_key_eq_error h hts
      rw [herr] at hkey
      cases hkey
  | some ts =>
      obtain ⟨front, stem, ext, hext, rfl, hok⟩ := derive_key_eq h hts
      have hkept : stem ≠ "." := by
        rintro rfl
        exact hdotted ⟨front, ext, hext, hts⟩
      rw [hkey, Except.ok.injEq, key_parts, if_neg hkept] at hok
      rw [specifies_iff hext hts, hok]

theorem slash_intercalate_inj {xs ys : List String} (hxs : xs ≠ []) (hys : ys ≠ [])
    (hx : ∀ x ∈ xs, '/' ∉ x.toList) (hy : ∀ y ∈ ys, '/' ∉ y.toList)
    (h : "/".intercalate xs = "/".intercalate ys) : xs = ys :=
  @intercalate_inj '/' xs ys hxs hys hx hy h

/-- No file is registered under a key whose last part is a `.`. The components drop a dot; and the
one file whose stem is a dot keeps two of them. -/
theorem derive_key_ne_dotted {path : List Name} (h : eligible kind path = true)
    {front : List String} (hfront : ∀ t ∈ front, '/' ∉ t.toList) :
    derive_key kind path ≠ .ok ("/".intercalate (front ++ ["."])) := by
  intro hkey
  cases hts : texts_of path with
  | none =>
      obtain ⟨err, herr⟩ := derive_key_eq_error h hts
      rw [herr] at hkey
      cases hkey
  | some ts =>
      obtain ⟨front', stem, ext, -, rfl, hok⟩ := derive_key_eq h hts
      have hstem : '/' ∉ stem.toList := by
        have hlast := (mem_texts hts (List.mem_append_right _ List.mem_cons_self)).1
        rw [String.toList_append, List.mem_append, not_or] at hlast
        exact hlast.1
      have hparts : ∀ t ∈ key_parts front' stem, '/' ∉ t.toList := by
        rw [key_parts, List.forall_mem_append]
        refine ⟨fun t ht => (mem_texts hts (List.mem_append_left _ ht)).1, ?_⟩
        intro t ht
        rw [List.mem_singleton.mp ht]
        split
        · decide
        · exact hstem
      have hdots : ∀ t ∈ front ++ ["."], '/' ∉ t.toList := by
        rw [List.forall_mem_append]
        refine ⟨hfront, ?_⟩
        intro t ht
        rw [List.mem_singleton.mp ht]
        decide
      rw [hok, Except.ok.injEq] at hkey
      have hsame := slash_intercalate_inj (by simp [key_parts]) (by simp) hparts hdots hkey
      have hlast := List.append_inj_right' hsame rfl
      rw [List.singleton_inj] at hlast
      split at hlast
      · exact absurd hlast (by decide)
      · rename_i hstem'
        exact hstem' hlast

/-- What is registered comes from the files, and all of them are. By induction on the row, file by
file. -/
theorem mem_registered_iff {files : List File} {kvs : List (String × String)}
    (h : Registers kind display max_size files kvs) {kv : String × String} :
    kv ∈ kvs ↔ ∃ f ∈ files, register kind display max_size f = .ok kv := by
  induction h with
  | nil => simp
  | @cons f kv' files kvs hf _ ih =>
      rw [List.mem_cons, ih]
      constructor
      · rintro (rfl | ⟨g, hg, hkv⟩)
        · exact ⟨f, List.mem_cons_self, hf⟩
        · exact ⟨g, List.mem_cons_of_mem _ hg, hkv⟩
      · rintro ⟨g, hg, hkv⟩
        rcases List.mem_cons.mp hg with rfl | hg
        · rw [hf, Except.ok.injEq] at hkv
          exact Or.inl hkv.symm
        · exact Or.inr ⟨g, hg, hkv⟩

/-- Each file has its entry. -/
theorem Registers.exists_of_mem {files : List File} {kvs : List (String × String)}
    (h : Registers kind display max_size files kvs) (hf : f ∈ files) :
    ∃ kv ∈ kvs, register kind display max_size f = .ok kv := by
  induction h with
  | nil => exact absurd hf List.not_mem_nil
  | @cons g kv files kvs hg _ ih =>
      rcases List.mem_cons.mp hf with rfl | hrest
      · exact ⟨kv, List.mem_cons_self, hg⟩
      · obtain ⟨kv', hmem, hkv'⟩ := ih hrest
        exact ⟨kv', List.mem_cons_of_mem _ hmem, hkv'⟩

/-- No two of the files should have the same key. -/
def Apart (kind : Kind) (files : List File) : Prop :=
  files.Pairwise fun f g => ∀ key, ¬ (Specifies kind f key ∧ Specifies kind g key)

/-- Whether the files are apart does not depend on their order. -/
theorem Apart.perm {files files' : List File} (h : Apart kind files) (hperm : files.Perm files') :
    Apart kind files' := by
  refine (hperm.pairwise_iff ?_).mp h
  intro f g hfg key hboth
  exact hfg key hboth.symm

/-- Files are registered under keys of their own iff they should be, if none has a `.` before
its extension. -/
theorem nodup_keys_iff {files : List File} {kvs : List (String × String)}
    (h : Registers kind display max_size files kvs)
    (hfiles : ∀ f ∈ files, eligible kind f.path = true ∧ ¬ Dotted kind f) :
    (kvs.map Prod.fst).Nodup ↔ Apart kind files := by
  induction h with
  | nil => exact iff_of_true List.nodup_nil List.Pairwise.nil
  | @cons f kv files kvs hf hrest ih =>
      rw [List.forall_mem_cons] at hfiles
      have hfirst : Specifies kind f kv.1 := specifies_of_register hfiles.1.1 hfiles.1.2 hf
      have hother : ∀ {g kv'}, g ∈ files → register kind display max_size g = .ok kv' →
          Specifies kind g kv'.1 :=
        fun hg hregister => specifies_of_register (hfiles.2 _ hg).1 (hfiles.2 _ hg).2 hregister
      rw [Apart, List.pairwise_cons, List.map_cons, List.nodup_cons, ih hfiles.2]
      refine and_congr_left fun _ => ?_
      constructor
      · rintro hnew g hg key ⟨hkey, hkey'⟩
        obtain ⟨kv', hkv', hregister⟩ := Registers.exists_of_mem hrest hg
        have hsame : kv.1 = kv'.1 :=
          (hfirst.unique hkey).trans (hkey'.unique (hother hg hregister))
        exact hnew (hsame ▸ List.mem_map_of_mem hkv')
      · intro happart hmem
        obtain ⟨kv', hkv', hkey⟩ := List.mem_map.mp hmem
        obtain ⟨g, hg, hregister⟩ := (mem_registered_iff hrest).mp hkv'
        exact happart g hg kv.1 ⟨hfirst, hkey ▸ hother hg hregister⟩

end Files

/-! ### What a registry is to hold -/

section Faithful

variable {kind : Kind} {display : List Name → String} {max_size : ℕ} {tree : Tree}

/-- A load that succeeds has read all directories, and inserted all files in some order. -/
theorem load_eq_ok {order : ListingOrder} {sources : Sources}
    (h : load kind display max_size order tree = .ok sources) :
    tree.root.listable = true
      ∧ ∃ files kvs, files.Perm (tree.taken kind) ∧ Registers kind display max_size files kvs
        ∧ sources = insert_all kvs ∅ := by
  obtain ⟨hlisted, files, kvs, hperm, hkvs, hsources⟩ := walk_eq_ok h
  refine ⟨hlisted tree.root List.mem_cons_self, files, kvs, ?_, hkvs, hsources⟩
  rw [List.flatMap_singleton] at hperm
  exact hperm

theorem eligible_of_mem_taken {f : File} (h : f ∈ tree.taken kind) : eligible kind f.path = true :=
  (List.mem_filter.mp h).2

/-- A load succeeds iff every directory can be listed and nothing is wrong with a file that
is taken. -/
theorem exists_load_iff {order : ListingOrder} :
    (∃ sources, load kind display max_size order tree = .ok sources)
      ↔ tree.root.listable = true ∧ ∀ f ∈ tree.taken kind, ¬ Bad max_size f := by
  constructor
  · rintro ⟨sources, h⟩
    obtain ⟨hlisted, files, kvs, hperm, hkvs, -⟩ := load_eq_ok h
    refine ⟨hlisted, fun f hf => ?_⟩
    rw [← @exists_register_iff kind display max_size f (eligible_of_mem_taken hf)]
    obtain ⟨kv, -, hkv⟩ := hkvs.exists_of_mem (hperm.mem_iff.mpr hf)
    exact ⟨kv, hkv⟩
  · rintro ⟨hlisted, hgood⟩
    apply walk_total
    · intro d hd
      rw [List.mem_singleton.mp hd]
      exact hlisted
    · intro f hf
      rw [List.flatMap_singleton] at hf
      exact (exists_register_iff (eligible_of_mem_taken hf)).mpr (hgood f hf)

/-- A load that gives no registry is an error. -/
theorem exists_error_iff {order : ListingOrder} :
    (∃ err, load kind display max_size order tree = .error err)
      ↔ ¬ ∃ sources, load kind display max_size order tree = .ok sources := by
  cases load kind display max_size order tree with
  | error err => simp
  | ok sources => simp

/-- A registry as it should be, whatever the order of the listings: a load fails just for a
file that something is wrong with; else each file is there under its own key, there are as many
entries as files, and every order gives the same map. -/
structure Faithful (kind : Kind) (max_size : ℕ) (load : ListingOrder → Tree → Except String Sources)
    (tree : Tree) : Prop where
  fails_iff : ∀ order, (∃ err, load order tree = .error err)
    ↔ ∃ f ∈ tree.taken kind, Bad max_size f
  registered : ∀ order sources, load order tree = .ok sources →
    ∀ f ∈ tree.taken kind, ∃ key source, Specifies kind f key ∧ f.text = .ok source
      ∧ sources.get key = some source
  count : ∀ order sources, load order tree = .ok sources →
    sources.count = (tree.taken kind).length
  same : ∀ order order' sources, load order tree = .ok sources → load order' tree = .ok sources

/-- Where a load fails as it should, there is nothing else to show. -/
theorem faithful_of_bad {f : File} (hf : f ∈ tree.taken kind) (hbad : Bad max_size f) :
    Faithful kind max_size (load kind display max_size) tree := by
  have hnone : ∀ {order : ListingOrder} {sources : Sources},
      load kind display max_size order tree ≠ .ok sources := by
    intro order sources h
    exact (exists_load_iff.mp ⟨sources, h⟩).2 f hf hbad
  refine ⟨fun order => iff_of_true ?_ ⟨f, hf, hbad⟩, ?_, ?_, ?_⟩
  · rw [exists_error_iff]
    rintro ⟨sources, h⟩
    exact hnone h
  · exact fun order sources h => absurd h hnone
  · exact fun order sources h => absurd h hnone
  · exact fun order order' sources h => absurd h hnone

section Apart

variable (hapart : Apart kind (tree.taken kind))
  (hdotted : ∀ f ∈ tree.taken kind, ¬ Dotted kind f) {order : ListingOrder} {sources : Sources}
  (h : load kind display max_size order tree = .ok sources)

include hapart hdotted h

/-- What a registry holds, if no two files should have one key and no key should end in a `.`. -/
theorem get_eq_some_iff {key source : String} :
    sources.get key = some source
      ↔ ∃ f ∈ tree.taken kind, register kind display max_size f = .ok (key, source) := by
  obtain ⟨-, files, kvs, hperm, hkvs, rfl⟩ := load_eq_ok h
  have hnodup := (nodup_keys_iff hkvs fun f hf => ⟨eligible_of_mem_taken (hperm.mem_iff.mp hf),
    hdotted f (hperm.mem_iff.mp hf)⟩).mpr (hapart.perm hperm.symm)
  have hmem : (key, source) ∈ kvs
      ↔ ∃ f ∈ tree.taken kind, register kind display max_size f = .ok (key, source) := by
    rw [mem_registered_iff hkvs]
    exact exists_congr fun f => and_congr_left fun _ => hperm.mem_iff
  rw [← hmem]
  constructor
  · intro hget
    refine (mem_of_lookup_insert_all hget).resolve_right ?_
    rw [Finmap.lookup_empty]
    nofun
  · intro hkv
    exact lookup_insert_all hnodup hkv

/-- The count is that of the files that were taken. -/
theorem count_eq : sources.count = (tree.taken kind).length := by
  obtain ⟨-, files, kvs, hperm, hkvs, rfl⟩ := load_eq_ok h
  have hnodup := (nodup_keys_iff hkvs fun f hf => ⟨eligible_of_mem_taken (hperm.mem_iff.mp hf),
    hdotted f (hperm.mem_iff.mp hf)⟩).mpr (hapart.perm hperm.symm)
  rw [Sources.count, keys_insert_all, Finmap.keys_empty, Finset.union_empty,
    List.toFinset_card_of_nodup hnodup, List.length_map, ← hkvs.length_eq, hperm.length_eq]

/-- The source of a file that is taken is found under the key the file is documented to have. -/
theorem get_of_mem_taken {f : File} (hf : f ∈ tree.taken kind) :
    ∃ key source, Specifies kind f key ∧ f.text = .ok source ∧ sources.get key = some source := by
  have hgood := (exists_load_iff.mp ⟨sources, h⟩).2 f hf
  have heligible := eligible_of_mem_taken hf
  obtain ⟨⟨key, source⟩, hregister⟩ :=
    (@exists_register_iff kind display max_size f heligible).mpr hgood
  refine ⟨key, source, specifies_of_register heligible (hdotted f hf) hregister,
    (register_eq_ok.mp hregister).1, ?_⟩
  exact (get_eq_some_iff hapart hdotted h).mpr ⟨f, hf, hregister⟩

omit h in
/-- The map is the same for every order. -/
theorem load_order_irrel (order' : ListingOrder)
    (h : load kind display max_size order tree = .ok sources) :
    load kind display max_size order' tree = .ok sources := by
  obtain ⟨sources', h'⟩ := (@exists_load_iff kind display max_size tree order').mpr
    (exists_load_iff.mp ⟨sources, h⟩)
  have hsame : sources' = sources := by
    apply Finmap.ext_lookup
    intro key
    apply Option.ext
    intro source
    exact (get_eq_some_iff hapart hdotted h').trans (get_eq_some_iff hapart hdotted h).symm
  rw [h', hsame]

end Apart

/-- In a registry as it should be, no file is named `.` and an extension: there is no such key. -/
theorem Faithful.not_dotted (h : Faithful kind max_size (load kind display max_size) tree)
    {order : ListingOrder} {sources : Sources}
    (hload : load kind display max_size order tree = .ok sources) {f : File}
    (hf : f ∈ tree.taken kind) : ¬ Dotted kind f := by
  rintro ⟨front, ext, hext, hts⟩
  obtain ⟨key, source, hkey, -, hget⟩ := h.registered order sources hload f hf
  rw [specifies_iff hext hts] at hkey
  rw [hkey] at hget
  -- the key it should have would have to be the key of some file
  obtain ⟨-, files, kvs, hperm, hkvs, rfl⟩ := load_eq_ok hload
  have hmem := (mem_of_lookup_insert_all hget).resolve_right (by rw [Finmap.lookup_empty]; nofun)
  obtain ⟨g, hg, hregister'⟩ := (mem_registered_iff hkvs).mp hmem
  refine derive_key_ne_dotted (eligible_of_mem_taken (hperm.mem_iff.mp hg)) ?_
    (register_eq_ok.mp hregister').2.2
  intro t ht
  exact (mem_texts hts (List.mem_append_left _ ht)).1

/-- In a registry as it should be, no two files should have the same key. -/
theorem Faithful.apart (h : Faithful kind max_size (load kind display max_size) tree)
    {order : ListingOrder} {sources : Sources}
    (hload : load kind display max_size order tree = .ok sources) : Apart kind (tree.taken kind) := by
  have hcount := h.count order sources hload
  have hdotted : ∀ f ∈ tree.taken kind, ¬ Dotted kind f := fun f hf => h.not_dotted hload hf
  obtain ⟨-, files, kvs, hperm, hkvs, rfl⟩ := load_eq_ok hload
  -- there are as many keys as files, so no two are the same
  have hnodup : (kvs.map Prod.fst).Nodup := by
    rw [Sources.count, keys_insert_all, Finmap.keys_empty, Finset.union_empty, ← hperm.length_eq,
      hkvs.length_eq, ← List.length_map (f := Prod.fst)] at hcount
    exact Multiset.toFinset_card_eq_card_iff_nodup.mp hcount
  exact ((nodup_keys_iff hkvs fun f hf => ⟨eligible_of_mem_taken (hperm.mem_iff.mp hf),
    hdotted f (hperm.mem_iff.mp hf)⟩).mp hnodup).perm hperm

/-- A registry is as it should be iff a load fails for a file that something is wrong with, or
all directories can be listed, no two files should have the same key, and none is named `.` and
an extension. -/
theorem faithful_iff :
    Faithful kind max_size (load kind display max_size) tree
      ↔ (∃ f ∈ tree.taken kind, Bad max_size f)
        ∨ tree.root.listable = true ∧ Apart kind (tree.taken kind)
          ∧ ∀ f ∈ tree.taken kind, ¬ Dotted kind f := by
  constructor
  · intro h
    by_cases hbad : ∃ f ∈ tree.taken kind, Bad max_size f
    · exact Or.inl hbad
    · have hnoerror := mt (h.fails_iff ⟨fun _ entries => entries, fun _ _ => .refl _⟩).mp hbad
      rw [exists_error_iff, not_not] at hnoerror
      obtain ⟨sources, hload⟩ := hnoerror
      exact Or.inr ⟨(load_eq_ok hload).1, h.apart hload, fun f hf => h.not_dotted hload hf⟩
  · rintro (⟨f, hf, hbad⟩ | ⟨hlisted, hapart, hdotted⟩)
    · exact faithful_of_bad hf hbad
    · refine ⟨?_, ?_, ?_, ?_⟩
      · intro order
        rw [exists_error_iff, exists_load_iff]
        simp only [hlisted, true_and, not_forall, not_not, exists_prop]
      · intro order sources h f hf
        exact get_of_mem_taken hapart hdotted h hf
      · intro order sources h
        exact count_eq hapart hdotted h
      · intro order order' sources h
        exact load_order_irrel hapart hdotted order' h

/-- In a registry that loads, a key that no file should have is not there. -/
theorem get_eq_none (hapart : Apart kind (tree.taken kind))
    (hdotted : ∀ f ∈ tree.taken kind, ¬ Dotted kind f) {order : ListingOrder} {sources : Sources}
    (h : load kind display max_size order tree = .ok sources) {key : String}
    (hkey : ∀ f ∈ tree.taken kind, ¬ Specifies kind f key) : sources.get key = none := by
  rw [Option.eq_none_iff_forall_ne_some]
  intro source hget
  obtain ⟨f, hf, hregister⟩ := (get_eq_some_iff hapart hdotted h).mp hget
  exact hkey f hf (specifies_of_register (eligible_of_mem_taken hf) (hdotted f hf) hregister)

end Faithful

/-- With one extension, the key a file should have is known from its path, and no two files of
a tree have one path. -/
theorem apart_scripts (tree : Tree) : Apart scripts (tree.taken scripts) := by
  have hpaths : (tree.taken scripts).Pairwise fun f g => f.path ≠ g.path := by
    apply List.Pairwise.filter
    exact List.pairwise_map.mp tree.distinct
  refine List.Pairwise.imp_of_mem ?_ hpaths
  rintro f g hf hg hne key ⟨⟨ext, hext, htext⟩, ext', hext', htext'⟩
  apply hne
  rw [List.mem_singleton.mp hext] at htext
  rw [List.mem_singleton.mp hext'] at htext'
  obtain ⟨ts, hts, hjoin⟩ := Option.map_eq_some_iff.mp htext
  obtain ⟨ts', hts', hjoin'⟩ := Option.map_eq_some_iff.mp htext'
  -- one text for the paths means the same names
  obtain ⟨_, _, _, -, hconcat, -⟩ := derive_key_eq (eligible_of_mem_taken hf) hts
  obtain ⟨_, _, _, -, hconcat', -⟩ := derive_key_eq (eligible_of_mem_taken hg) hts'
  have hsame : ts = ts' := by
    refine slash_intercalate_inj ?_ ?_ (fun t ht => (mem_texts hts ht).1)
      (fun t ht => (mem_texts hts' ht).1) (hjoin.trans hjoin'.symm)
    · rw [hconcat]
      simp
    · rw [hconcat']
      simp
  have hbytes : f.path.map Name.bytes = g.path.map Name.bytes := by
    rw [← texts_of_eq_some.mp hts, ← texts_of_eq_some.mp hts', hsame]
  exact List.map_injective_iff.mpr (fun _ _ h => Name.bytes_injective h) hbytes

/-- The module registry is as it should be iff something is wrong with one of the files, or all
directories can be listed, no two files have the same path without the extension, and none is
named `..js` or `..mjs`. -/
theorem module_load_iff (display : List Name → String) (max_size : ℕ) (tree : Tree) :
    Faithful modules max_size (ModuleRegistry.load display max_size) tree
      ↔ (∃ f ∈ tree.taken modules, Bad max_size f)
        ∨ tree.root.listable = true ∧ Apart modules (tree.taken modules)
          ∧ ∀ f ∈ tree.taken modules, ¬ Dotted modules f :=
  faithful_iff

def util_js : Name := ⟨utf8 "util.js", by decide, by decide, by decide, by decide⟩

def util_mjs : Name := ⟨utf8 "util.mjs", by decide, by decide, by decide, by decide⟩

/-- A library in both of its extensions. -/
def two_extensions : Tree where
  entries := [.file util_js (.ok "export const a = 1;"), .file util_mjs (.ok "export const a = 2;")]
  distinct := by decide

/-- Only one of the two is loaded. -/
theorem two_extensions_not_faithful :
    ¬ Faithful modules 1024 (ModuleRegistry.load (fun _ => "") 1024) two_extensions := by
  have htaken : two_extensions.taken modules
      = [⟨[util_js], .ok "export const a = 1;"⟩, ⟨[util_mjs], .ok "export const a = 2;"⟩] := by rfl
  have hjs : path_text [util_js] = some ("util" ++ ("." ++ "js")) := by
    rw [path_text, texts_of_eq_some.mpr (show ["util.js"].map utf8 = [util_js].map Name.bytes from rfl)]
    rfl
  have hmjs : path_text [util_mjs] = some ("util" ++ ("." ++ "mjs")) := by
    rw [path_text, texts_of_eq_some.mpr (show ["util.mjs"].map utf8 = [util_mjs].map Name.bytes from rfl)]
    rfl
  intro h
  have hiff : Faithful modules 1024 (ModuleRegistry.load (fun _ => "") 1024) two_extensions ↔ _ :=
    faithful_iff
  rw [hiff, htaken] at h
  rcases h with ⟨f, hf, hbad⟩ | ⟨-, hapart, -⟩
  · rcases List.mem_cons.mp hf with rfl | hf
    · exact not_bad rfl (by decide) hjs hbad
    · rw [List.mem_singleton.mp hf] at hbad
      exact not_bad rfl (by decide) hmjs hbad
  · exact (List.pairwise_cons.mp hapart).1 _ List.mem_cons_self "util"
      ⟨⟨"js", by decide, hjs⟩, "mjs", by decide, hmjs⟩

/-- The script registry is as it should be, and has nothing else in it, iff something is wrong
with one of the files, or all directories can be listed and no file is named `..js`. -/
theorem script_load_iff (display : List Name → String) (max_script_size : ℕ) (tree : Tree) :
    (Faithful scripts max_script_size (ScriptRegistry.load display max_script_size) tree
        ∧ ∀ order sources, ScriptRegistry.load display max_script_size order tree = .ok sources →
          ∀ key, (∀ f ∈ tree.taken scripts, ¬ Specifies scripts f key) → sources.get key = none)
      ↔ (∃ f ∈ tree.taken scripts, Bad max_script_size f)
        ∨ tree.root.listable = true ∧ ∀ f ∈ tree.taken scripts, ¬ Dotted scripts f := by
  have hiff : Faithful scripts max_script_size (ScriptRegistry.load display max_script_size) tree
      ↔ _ := faithful_iff
  constructor
  · rintro ⟨hfaithful, -⟩
    rcases hiff.mp hfaithful with hbad | ⟨hlisted, -, hdotted⟩
    · exact Or.inl hbad
    · exact Or.inr ⟨hlisted, hdotted⟩
  · intro h
    refine ⟨hiff.mpr (h.imp_right fun ⟨hlisted, hdotted⟩ => ⟨hlisted, apart_scripts tree, hdotted⟩), ?_⟩
    intro order sources hload key hkey
    rcases h with ⟨f, hf, hbad⟩ | ⟨-, hdotted⟩
    · exact absurd hbad ((exists_load_iff.mp ⟨sources, hload⟩).2 f hf)
    · exact get_eq_none (apart_scripts tree) hdotted hload hkey

def dot_js : Name := ⟨utf8 "..js", by decide, by decide, by decide, by decide⟩

def jobs : Name := ⟨utf8 "jobs", by decide, by decide, by decide, by decide⟩

/-- A script `jobs/..js`. -/
def dotted_script : Tree where
  entries := [.dir jobs none [.file dot_js (.ok "function handler(ctx) \x7b return json(1, null); \x7d")]]
  distinct := by decide

/-- It is not under its path without the `.js`, which is `jobs/.`, but under `jobs/..`. -/
theorem dotted_script_not_faithful :
    ¬ (Faithful scripts 1024 (ScriptRegistry.load (fun _ => "") 1024) dotted_script
      ∧ ∀ order sources, ScriptRegistry.load (fun _ => "") 1024 order dotted_script = .ok sources →
        ∀ key, (∀ f ∈ dotted_script.taken scripts, ¬ Specifies scripts f key) →
          sources.get key = none) := by
  have htaken : dotted_script.taken scripts
      = [⟨[jobs, dot_js], .ok "function handler(ctx) \x7b return json(1, null); \x7d"⟩] := by rfl
  have hts : texts_of [jobs, dot_js] = some (["jobs"] ++ ["." ++ ("." ++ "js")]) :=
    texts_of_eq_some.mpr rfl
  have hpath : path_text [jobs, dot_js] = some "jobs/..js" := by
    rw [path_text, hts]
    rfl
  rintro ⟨h, -⟩
  have hiff : Faithful scripts 1024 (ScriptRegistry.load (fun _ => "") 1024) dotted_script ↔ _ :=
    faithful_iff
  rw [hiff, htaken] at h
  rcases h with ⟨f, hf, hbad⟩ | ⟨-, -, hdotted⟩
  · rw [List.mem_singleton.mp hf] at hbad
    exact not_bad rfl (by decide) hpath hbad
  · exact hdotted _ List.mem_cons_self ⟨["jobs"], "js", by decide, hts⟩

end Runlet.Registry
