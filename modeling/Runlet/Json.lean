/-
`serde_json::Value`, the JSON document both sides of the egress seam carry.

An object is the list of its entries, and no key stands twice. `bson` turns
`preserve_order` on in the driver crates, so an object built there is an
`IndexMap`: the entries stand in the order of their insertion.

A JSON number is one of the three representations `serde_json` distinguishes.
A float is its IEEE-754 bit pattern, so that two documents are equal exactly
when every byte of them is.
-/
import Mathlib.Data.List.Basic
import Mathlib.Data.String.Basic

set_option autoImplicit false

namespace Runlet.Json

/-- `serde_json::Number` (no `arbitrary_precision`). -/
inductive Number
  | pos_int (n : UInt64)
  | neg_int (n : Int64)
  | float (bits : UInt64)
  deriving DecidableEq, Repr

/-- `serde_json::Value`. -/
inductive Value
  | null
  | bool (b : Bool)
  | number (n : Number)
  | string (s : String)
  | array (items : List Value)
  | object (fields : List (String × Value))
  deriving Repr

/-! ## Equality of documents

`deriving DecidableEq` does not reach through the nested lists, so the test is
written out, one function per nesting. -/

mutual

/-- Structural equality of two documents. -/
def Value.beq : Value → Value → Bool
  | .null, .null => true
  | .bool a, .bool b => a == b
  | .number a, .number b => a == b
  | .string a, .string b => a == b
  | .array as, .array bs => Value.beq_items as bs
  | .object as, .object bs => Value.beq_fields as bs
  | _, _ => false

def Value.beq_items : List Value → List Value → Bool
  | [], [] => true
  | a :: as, b :: bs => a.beq b && Value.beq_items as bs
  | _, _ => false

def Value.beq_fields : List (String × Value) → List (String × Value) → Bool
  | [], [] => true
  | (k, a) :: as, (l, b) :: bs => k == l && a.beq b && Value.beq_fields as bs
  | _, _ => false

end

mutual

/-- The test of equality decides it. -/
theorem Value.beq_iff : ∀ a b : Value, a.beq b = true ↔ a = b
  | .null, b => by cases b <;> simp [Value.beq]
  | .bool _, b => by cases b <;> simp [Value.beq]
  | .number _, b => by cases b <;> simp [Value.beq]
  | .string _, b => by cases b <;> simp [Value.beq]
  | .array as, b => by cases b <;> simp [Value.beq, Value.beq_items_iff as]
  | .object as, b => by cases b <;> simp [Value.beq, Value.beq_fields_iff as]

theorem Value.beq_items_iff : ∀ as bs : List Value, Value.beq_items as bs = true ↔ as = bs
  | [], bs => by cases bs <;> simp [Value.beq_items]
  | a :: as, bs => by cases bs <;> simp [Value.beq_items, Value.beq_iff a, Value.beq_items_iff as]

/-- The same for the fields of an object. -/
theorem Value.beq_fields_iff :
    ∀ as bs : List (String × Value), Value.beq_fields as bs = true ↔ as = bs
  | [], bs => by cases bs <;> simp [Value.beq_fields]
  | (k, a) :: as, bs => by
      rcases bs with _ | ⟨⟨l, b⟩, bs⟩ <;>
        simp [Value.beq_fields, Value.beq_iff a, Value.beq_fields_iff as]

end

instance : DecidableEq Value := fun a b => decidable_of_iff _ (Value.beq_iff a b)

/-! ## Objects as maps -/

/-- `Map::get`: the entry under a key. -/
def get (fields : List (String × Value)) (key : String) : Option Value :=
  (fields.find? fun field => field.1 == key).map Prod.snd

/-- `Map::insert`: the value replaces the one under its key, where that stands, or comes
last. -/
def insert (key : String) (value : Value) : List (String × Value) → List (String × Value)
  | [] => [(key, value)]
  | (k, v) :: rest => if k = key then (key, value) :: rest else (k, v) :: insert key value rest

/-- A field after an insertion is the new one or was there. -/
theorem mem_insert {key : String} {value : Value} {fields : List (String × Value)}
    {field : String × Value} (h : field ∈ insert key value fields) :
    field = (key, value) ∨ field ∈ fields := by
  induction fields with
  | nil => simpa [insert] using h
  | cons f rest ih =>
      rw [insert] at h
      split at h
      · rcases List.mem_cons.mp h with h | h
        · exact Or.inl h
        · exact Or.inr (List.mem_cons_of_mem _ h)
      · rcases List.mem_cons.mp h with h | h
        · exact Or.inr (h ▸ List.mem_cons_self)
        · rcases ih h with h | h
          · exact Or.inl h
          · exact Or.inr (List.mem_cons_of_mem _ h)

/-- No key stands twice in a map: an insertion takes the place of the entry under its key, and
comes last where there is none. -/
theorem nodup_insert {key : String} {value : Value} {fields : List (String × Value)}
    (h : (fields.map Prod.fst).Nodup) : ((insert key value fields).map Prod.fst).Nodup := by
  induction fields with
  | nil => exact List.pairwise_singleton _ _
  | cons f rest ih =>
      rw [List.map_cons, List.nodup_cons] at h
      obtain ⟨hhead, hrest⟩ := h
      rw [insert]
      split
      · rename_i heq
        rw [List.map_cons, List.nodup_cons, ← heq]
        exact ⟨hhead, hrest⟩
      · rename_i hne
        rw [List.map_cons, List.nodup_cons]
        refine ⟨?_, ih hrest⟩
        intro hmem
        obtain ⟨field, hfield, hkey⟩ := List.mem_map.mp hmem
        rcases mem_insert hfield with h | h
        · rw [h] at hkey
          exact hne hkey.symm
        · exact hhead (hkey ▸ List.mem_map_of_mem h)

/-- What an insertion changes is the value of its own key. By induction on the fields, down to the
entry that it replaces or to the end. -/
theorem get_insert (key key' : String) (value : Value) (fields : List (String × Value)) :
    get (insert key value fields) key'
      = if key = key' then some value else get fields key' := by
  induction fields with
  | nil =>
      rw [insert, get, List.find?_cons]
      by_cases hkey : key = key'
      · rw [if_pos hkey, beq_iff_eq.mpr hkey]
        rfl
      · rw [if_neg hkey, beq_false_of_ne hkey]
        rfl
  | cons f rest ih =>
      rw [insert]
      split
      · rename_i heq
        rw [get, get, List.find?_cons, List.find?_cons]
        by_cases hkey : key = key'
        · rw [if_pos hkey, beq_iff_eq.mpr hkey]
          rfl
        -- the entry that is replaced is not the one asked for
        · rw [if_neg hkey, heq, beq_false_of_ne hkey]
      · rename_i hne
        rw [get] at ih ⊢
        rw [get, List.find?_cons, List.find?_cons]
        by_cases hfirst : f.1 = key'
        · have hkey : key ≠ key' := fun h => hne (hfirst.trans h.symm)
          rw [if_neg hkey, beq_iff_eq.mpr hfirst]
        · rw [beq_false_of_ne hfirst]
          exact ih

/-- The keys do not depend on the values. -/
theorem keys_insert {key : String} {value value' : Value} {fields fields' : List (String × Value)}
    (h : fields.map Prod.fst = fields'.map Prod.fst) :
    (insert key value fields).map Prod.fst = (insert key value' fields').map Prod.fst := by
  induction fields generalizing fields' with
  | nil =>
      rw [List.map_eq_nil_iff.mp h.symm]
      rfl
  | cons f rest ih =>
      obtain ⟨f', rest', rfl, hkey, hrest⟩ := List.map_eq_cons_iff.mp h.symm
      rw [insert, insert, hkey]
      split
      · rw [List.map_cons, List.map_cons, hrest]
      · rw [List.map_cons, List.map_cons, ih hrest.symm]

/-- A map is its keys, in their order, with what is under them. With the same keys in the same
order, each only once, two maps that are read alike are the same list. -/
theorem eq_of_get_eq {fields fields' : List (String × Value)}
    (hkeys : fields.map Prod.fst = fields'.map Prod.fst) (hnodup : (fields.map Prod.fst).Nodup)
    (h : ∀ key, get fields key = get fields' key) : fields = fields' := by
  induction fields generalizing fields' with
  | nil => rw [List.map_eq_nil_iff.mp hkeys.symm]
  | cons f rest ih =>
      obtain ⟨f', rest', rfl, hkey, hrest⟩ := List.map_eq_cons_iff.mp hkeys.symm
      rw [List.map_cons, List.nodup_cons] at hnodup
      -- the first entries agree in the key by `hkeys`, in the value by asking for it
      have hvalue : f.2 = f'.2 := by
        have hfirst := h f.1
        rw [get, get, List.find?_cons, List.find?_cons, hkey, beq_self_eq_true] at hfirst
        exact Option.some.inj hfirst
      refine List.cons_eq_cons.mpr ⟨Prod.ext hkey.symm hvalue, ih hrest.symm hnodup.2 ?_⟩
      intro key
      by_cases hsame : f.1 = key
      -- the first key does not come again
      · have hnone : ∀ other : List (String × Value), other.map Prod.fst = rest.map Prod.fst →
            get other key = none := by
          intro other hother
          rw [get, Option.map_eq_none_iff, List.find?_eq_none]
          intro field hfield heq
          apply hnodup.1
          rw [hsame, ← beq_iff_eq.mp heq, ← hother]
          exact List.mem_map_of_mem hfield
        rw [hnone rest rfl, hnone rest' hrest]
      · have hlater := h key
        rw [get, get, List.find?_cons, List.find?_cons, hkey, beq_false_of_ne hsame] at hlater
        exact hlater

/-- The loop that fills a map. -/
def insert_all : List (String × Value) → List (String × Value) → List (String × Value)
  | [], obj => obj
  | (key, value) :: rest, obj => insert_all rest (insert key value obj)

/-- Insertions repeat no key. -/
theorem nodup_insert_all {entries obj : List (String × Value)} (h : (obj.map Prod.fst).Nodup) :
    ((insert_all entries obj).map Prod.fst).Nodup := by
  induction entries generalizing obj with
  | nil => exact h
  | cons entry rest ih => exact ih (nodup_insert h)

/-- The keys after a row of insertions depend on the keys alone. So two objects with the same keys
are filled in the same way, and written in the same order. -/
theorem keys_insert_all {entries entries' obj obj' : List (String × Value)}
    (hentries : entries.map Prod.fst = entries'.map Prod.fst)
    (hobj : obj.map Prod.fst = obj'.map Prod.fst) :
    (insert_all entries obj).map Prod.fst = (insert_all entries' obj').map Prod.fst := by
  induction entries generalizing entries' obj obj' with
  | nil =>
      rw [List.map_eq_nil_iff.mp hentries.symm]
      exact hobj
  | cons entry rest ih =>
      obtain ⟨entry', rest', rfl, hkey, hrest⟩ := List.map_eq_cons_iff.mp hentries.symm
      rw [insert_all, insert_all, hkey]
      exact ih hrest.symm (keys_insert hobj)

/-- What is under a key that comes later does not matter: the insertion takes its place. So the
row of insertions need not know the map it is made into but for the keys it does not have. -/
theorem get_insert_all_congr {entries obj obj' : List (String × Value)}
    (h : ∀ key, key ∉ entries.map Prod.fst → get obj key = get obj' key) (key : String) :
    get (insert_all entries obj) key = get (insert_all entries obj') key := by
  induction entries generalizing obj obj' with
  | nil => exact h key List.not_mem_nil
  | cons entry rest ih =>
      refine ih ?_
      intro key' hlater
      rw [get_insert, get_insert]
      split
      · rfl
      · rename_i hne
        apply h
        rw [List.map_cons, List.mem_cons]
        rintro (hkey | hmem)
        · exact hne hkey.symm
        · exact hlater hmem

/-- Two rows of insertions are one row. -/
theorem insert_all_append (xs ys obj : List (String × Value)) :
    insert_all (xs ++ ys) obj = insert_all ys (insert_all xs obj) := by
  induction xs generalizing obj with
  | nil => rfl
  | cons entry xs ih => exact ih _

/-- A value whose key comes again leaves no trace. -/
theorem insert_all_set {entries : List (String × Value)} {i : ℕ} (hi : i < entries.length)
    (hlater : entries[i].1 ∈ (entries.drop (i + 1)).map Prod.fst) (value : Value) :
    insert_all (entries.set i (entries[i].1, value)) [] = insert_all entries [] := by
  have hkeys : (entries.set i (entries[i].1, value)).map Prod.fst = entries.map Prod.fst := by
    rw [List.map_set, ← List.getElem_map Prod.fst, List.set_getElem_self]
    rw [List.length_map]
    exact hi
  -- same keys in the same order, so the values have to be compared, key by key
  refine eq_of_get_eq (keys_insert_all hkeys rfl) (nodup_insert_all List.nodup_nil) ?_
  intro key
  have hsplit : entries = entries.take i ++ entries[i] :: entries.drop (i + 1) := by
    rw [← List.drop_eq_getElem_cons hi, List.take_append_drop]
  rw [List.set_eq_take_append_cons_drop, if_pos hi]
  conv_rhs => rw [hsplit]
  rw [insert_all_append, insert_all_append]
  show get (insert_all _ (insert entries[i].1 value _)) key
    = get (insert_all _ (insert entries[i].1 entries[i].2 _)) key
  refine get_insert_all_congr ?_ key
  intro key' hkey'
  rw [get_insert, get_insert]
  split
  · rename_i heq
    exact absurd (heq ▸ hlater) hkey'
  · rfl

/-- A key that is not inserted keeps its value. -/
theorem get_insert_all_of_not_mem {entries obj : List (String × Value)} {key : String}
    (h : key ∉ entries.map Prod.fst) : get (insert_all entries obj) key = get obj key := by
  induction entries generalizing obj with
  | nil => rfl
  | cons entry rest ih =>
      rw [List.map_cons, List.mem_cons, not_or] at h
      show get (insert_all rest (insert entry.1 entry.2 obj)) key = get obj key
      rw [ih h.2, get_insert, if_neg fun heq => h.1 heq.symm]

/-- Under a key is the value it comes with last. -/
theorem get_insert_all {entries obj : List (String × Value)} {i : ℕ} (hi : i < entries.length)
    (hlast : entries[i].1 ∉ (entries.drop (i + 1)).map Prod.fst) :
    get (insert_all entries obj) entries[i].1 = some entries[i].2 := by
  have hsplit : insert_all entries obj
      = insert_all (entries.take i ++ entries[i] :: entries.drop (i + 1)) obj := by
    rw [← List.drop_eq_getElem_cons hi, List.take_append_drop]
  rw [hsplit, insert_all_append]
  show get (insert_all _ (insert entries[i].1 entries[i].2 _)) entries[i].1 = _
  rw [get_insert_all_of_not_mem hlast, get_insert, if_pos rfl]

/-- Of different keys none comes again further on. -/
theorem not_mem_drop_of_nodup {entries : List (String × Value)} {i : ℕ} (hi : i < entries.length)
    (hnodup : (entries.map Prod.fst).Nodup) :
    entries[i].1 ∉ (entries.drop (i + 1)).map Prod.fst := by
  have hdrop : ((entries.drop i).map Prod.fst).Nodup := by
    rw [List.map_drop]
    exact hnodup.sublist (List.drop_sublist _ _)
  rw [List.drop_eq_getElem_cons hi, List.map_cons, List.nodup_cons] at hdrop
  exact hdrop.1

/-- Under keys that come once each, the map tells the entries. -/
theorem insert_all_inj {entries entries' : List (String × Value)}
    (hkeys : entries'.map Prod.fst = entries.map Prod.fst) (hnodup : (entries.map Prod.fst).Nodup)
    (h : insert_all entries' [] = insert_all entries []) : entries' = entries := by
  have hlength : entries'.length = entries.length := by
    rw [← List.length_map Prod.fst, hkeys, List.length_map]
  refine List.ext_getElem hlength ?_
  intro i hi' hi
  have hkey : entries'[i].1 = entries[i].1 := by
    have hsame := List.getElem_of_eq hkeys (by rwa [List.length_map])
    rwa [List.getElem_map, List.getElem_map] at hsame
  have hget := @get_insert_all entries [] i hi (not_mem_drop_of_nodup hi hnodup)
  have hget' := @get_insert_all entries' [] i hi' (not_mem_drop_of_nodup hi' (hkeys ▸ hnodup))
  rw [hkey, h, hget, Option.some.injEq] at hget'
  exact Prod.ext hkey hget'.symm

/-- A key that is not there comes last. -/
theorem insert_of_not_mem {key : String} {value : Value} {fields : List (String × Value)}
    (h : key ∉ fields.map Prod.fst) : insert key value fields = fields ++ [(key, value)] := by
  induction fields with
  | nil => rfl
  | cons f rest ih =>
      rw [List.map_cons, List.mem_cons, not_or] at h
      rw [insert, if_neg fun heq => h.1 heq.symm, ih h.2, List.cons_append]

/-- Entries under keys of their own stand in the map as they came. Each insertion finds its key
free, and puts it behind what is there. -/
theorem insert_all_eq_append {entries obj : List (String × Value)}
    (h : ((obj ++ entries).map Prod.fst).Nodup) : insert_all entries obj = obj ++ entries := by
  induction entries generalizing obj with
  | nil => exact (List.append_nil obj).symm
  | cons entry rest ih =>
      have hfresh : entry.1 ∉ obj.map Prod.fst := by
        rw [List.map_append, List.map_cons, List.nodup_append] at h
        intro hmem
        exact h.2.2 _ hmem _ List.mem_cons_self rfl
      show insert_all rest (insert entry.1 entry.2 obj) = obj ++ entry :: rest
      rw [insert_of_not_mem hfresh, ih (by rwa [List.append_assoc]), List.append_assoc]
      rfl

/-! ## Reading and building values -/

/-- `Value::get` with a key: `None` unless the value is an object that has it. -/
def Value.get_key (key : String) : Value → Option Value
  | object fields => get fields key
  | null | bool _ | number _ | string _ | array _ => none

/-- `Value::as_str`. -/
def Value.as_str : Value → Option String
  | string s => some s
  | null | bool _ | number _ | array _ | object _ => none

/-- `Number::as_i64`: a float is not an integer, whatever its value. -/
def Number.as_i64 : Number → Option ℤ
  | pos_int n => if n.toNat < 2 ^ 63 then some n.toNat else none
  | neg_int n => some n.toInt
  | float _ => none

/-- `Value::as_i64`. -/
def Value.as_i64 : Value → Option ℤ
  | number n => n.as_i64
  | null | bool _ | string _ | array _ | object _ => none

/-- `Value::from(i64)`. -/
def of_i64 (z : ℤ) : Value :=
  .number (if z < 0 then .neg_int (Int64.ofInt z) else .pos_int (UInt64.ofNat z.toNat))

/-- `Value::from(u64)`. -/
def of_u64 (n : ℕ) : Value := .number (.pos_int (UInt64.ofNat n))

/-! ## The error envelope of a native function -/

/-- `sandbox::error_json`; the writer is `serde_json::to_string`. -/
def error_json (to_string : Value → Except String String) (message : String) : String :=
  let escaped := ((to_string (.string message)).toOption).getD "\"internal error\""
  "\x7b\"error\":" ++ escaped ++ "\x7d"

end Runlet.Json
