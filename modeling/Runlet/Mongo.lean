/-
Documents of the `mongo` backend (`crates/fabric-backends/src/mongo.rs`): BSON
values, their conversion to JSON, `find_one`, whose result is a document as the
database holds it, and the documents a script writes.

The driver, `bson::to_bson` and the texts other crates give to a `Decimal128`, a
date or binary data are parameters.

The two directions disagree on the integers. `to_bson` stores each of them as an
`Int64`, small or not, and every `Int64` is read as a string, so a document comes
back as it was written only if each integer in it is one that a JavaScript number
does not hold (`document_to_json_json_to_doc`).
-/
import Runlet.Lib.Binary
import Runlet.Lib.Hex
import Runlet.Json
import Runlet.Wire

set_option autoImplicit false

namespace Runlet.Mongo

open Runlet.Json Runlet.Wire

/-! ## BSON -/

/-- `bson::Bson`; `other` is any of the exotic types, by its `Display` text. -/
inductive Bson
  | double (bits : UInt64)
  | string (text : String)
  | boolean (flag : Bool)
  | null
  | int32 (int : Int32)
  | int64 (int : Int64)
  | object_id (oid : List UInt8)
  | decimal128 (dec : List UInt8)
  | date_time (millis : Int64)
  | binary (bytes : List UInt8)
  | array (items : List Bson)
  | document (doc : List (String × Bson))
  | other (text : String)

/-- `bson::Document`: the fields in insertion order. -/
abbrev Document := List (String × Bson)

/-- The texts of other crates' types. -/
structure BsonText where
  decimal128 : List UInt8 → String
  try_to_rfc3339_string : Int64 → Option String
  base64 : List UInt8 → String

/-- `f64::is_finite`, on the bit pattern. -/
def is_finite (bits : UInt64) : Bool := (bits >>> 52) &&& 0x7ff != 0x7ff

/-- `Value::from(i32)`. -/
def from_i32 (int : Int32) : Value :=
  if 0 ≤ int.toInt then .number (.pos_int (.ofNat int.toInt.toNat))
  else .number (.neg_int (.ofInt int.toInt))

/-- `ObjectId::to_hex`. -/
def to_hex (oid : List UInt8) : String := Hex.hex_encode oid

mutual

/-- `bson_to_json`: what does not fit a JavaScript number comes back as a
string. -/
def bson_to_json (text : BsonText) : Bson → Value
  | .double bits => if is_finite bits then .number (.float bits) else .null
  | .string s => .string s
  | .boolean flag => .bool flag
  | .null => .null
  | .int32 int => from_i32 int
  | .int64 int => .string (toString int.toInt)
  | .object_id oid => .string (to_hex oid)
  | .decimal128 dec => .string (text.decimal128 dec)
  | .date_time millis =>
    .string ((text.try_to_rfc3339_string millis).getD (toString millis.toInt))
  | .binary bytes => .string (text.base64 bytes)
  | .array items => .array (items_to_json text items)
  | .document doc => .object (insert_fields text doc [])
  | .other s => .string s

def items_to_json (text : BsonText) : List Bson → List Value
  | [] => []
  | item :: items => bson_to_json text item :: items_to_json text items

/-- The loop of `document_to_json`: every field is inserted into the map. -/
def insert_fields (text : BsonText) : Document → List (String × Value) → List (String × Value)
  | [], obj => obj
  | (key, val) :: doc, obj => insert_fields text doc (insert key (bson_to_json text val) obj)

end

/-- `document_to_json`. -/
def document_to_json (text : BsonText) (doc : Document) : Value :=
  .object (insert_fields text doc [])

/-- No key stands twice in the map a document becomes. -/
theorem nodup_insert_fields (text : BsonText) (doc : Document) :
    ∀ obj : List (String × Value), (obj.map Prod.fst).Nodup →
      ((insert_fields text doc obj).map Prod.fst).Nodup := by
  induction doc with
  | nil =>
      intro obj h
      rwa [insert_fields]
  | cons field doc ih =>
      intro obj h
      rw [insert_fields]
      exact ih _ (nodup_insert h)

theorem nodup_document (text : BsonText) (doc : Document) :
    ((insert_fields text doc []).map Prod.fst).Nodup :=
  nodup_insert_fields text doc [] List.nodup_nil

/-! ## find_one -/

structure MongoError where
  fault : Fault
  message : String
  details : Option Value
  deriving DecidableEq

/-- `MongoError::into_resource_error`. -/
def MongoError.into_resource_error (err : MongoError) : EgressError where
  code := err.fault.code
  message := err.message
  source := "mongo"
  details := err.details
  retryable := err.fault.retryable
  owner := err.fault.owner

structure MongoOutcome where
  json : String
  docs_returned : ℕ
  docs_affected : ℕ
  truncated : Bool
  deriving DecidableEq

/-- `do_find_one`, from the converted filter and the driver's answer; `display` is
the text of a JSON value. -/
def do_find_one (text : BsonText) (display : Value → String) (filter : Except MongoError Document)
    (find_one : Document → Except MongoError (Option Document)) :
    Except MongoError MongoOutcome := do
  let found ← find_one (← filter)
  return {
    json := match found with
      | none => "null"
      | some doc => display (document_to_json text doc)
    docs_returned := if found.isSome then 1 else 0
    docs_affected := 0
    truncated := false }

/-! ## Writing -/

def MONGO_QUERY : Fault := ⟨"MONGO_QUERY", false, .developer⟩

/-- `MongoError::query`. -/
def MongoError.query (message : String) : MongoError := ⟨MONGO_QUERY, message, none⟩

section
variable (to_bson : Value → Except String Bson)

/-- `json_to_doc`: null is the empty document, and nothing else but an object is one. -/
def json_to_doc (value : Value) : Except MongoError Document :=
  if value = .null then .ok []
  else
    match to_bson value with
    | .ok (.document doc) => .ok doc
    | .ok _ => .error (.query "expected a JSON object")
    | .error err => .error (.query ("invalid document: " ++ err))

/-- `docs_to_docs`: the first item that is no document fails the whole list. -/
def docs_to_docs : Value → Except MongoError (List Document)
  | .null => .ok []
  | .array items => items.mapM (json_to_doc to_bson)
  | .bool _ | .number _ | .string _ | .object _ => .error (.query "expected a JSON array")

/-- The names of extended JSON begin with `$`. -/
def plain_names (fields : List (String × Value)) : Bool :=
  fields.all fun field => field.1.toList.head? != some '$'

/-- `bson::to_bson` on a JSON document: an integer that an `i64` holds is an `Int64`, a float a
`Double`, and the rest is converted piece by piece, in order. -/
structure ToBson : Prop where
  null : to_bson .null = .ok .null
  bool : ∀ flag, to_bson (.bool flag) = .ok (.boolean flag)
  string : ∀ s, to_bson (.string s) = .ok (.string s)
  pos_int : ∀ n : UInt64, n.toNat < 2 ^ 63 →
    to_bson (.number (.pos_int n)) = .ok (.int64 (Int64.ofInt n.toNat))
  neg_int : ∀ n, to_bson (.number (.neg_int n)) = .ok (.int64 n)
  float : ∀ bits, to_bson (.number (.float bits)) = .ok (.double bits)
  array : ∀ items, to_bson (.array items) = (items.mapM to_bson).map .array
  object : ∀ fields, plain_names fields = true → to_bson (.object fields)
    = (fields.mapM fun field => (to_bson field.2).map (field.1, ·)).map .document

/-- Every object becomes a document, whatever its names. Of the crate this holds only without a name
of extended JSON: it reads `{"$numberLong": "7"}` as an integer. -/
def KeepsObjects : Prop :=
  ∀ fields, to_bson (.object fields)
    = (fields.mapM fun field => (to_bson field.2).map (field.1, ·)).map .document

end

mutual

/-- No object in the value has a name that begins with `$`. -/
def plain : Value → Bool
  | .null | .bool _ | .string _ | .number _ => true
  | .array items => plain_items items
  | .object fields => plain_names fields && plain_fields fields

def plain_items : List Value → Bool
  | [] => true
  | item :: items => plain item && plain_items items

def plain_fields : List (String × Value) → Bool
  | [] => true
  | (_, value) :: fields => plain value && plain_fields fields

end

mutual

/-- A document a script can store: no key twice in an object, integers that an `i64` holds and
finite floats. -/
def storable : Value → Bool
  | .null | .bool _ | .string _ => true
  | .number (.pos_int n) => n.toNat < 2 ^ 63
  | .number (.neg_int _) => true
  | .number (.float bits) => is_finite bits
  | .array items => storable_items items
  | .object fields => (fields.map Prod.fst).Nodup && storable_fields fields

def storable_items : List Value → Bool
  | [] => true
  | item :: items => storable item && storable_items items

def storable_fields : List (String × Value) → Bool
  | [] => true
  | (_, value) :: fields => storable value && storable_fields fields

end

/-! ## What is read of what was written -/

/-- The integer a JSON number is; a float is none, whatever its value. -/
def integer : Number → Option ℤ
  | .pos_int n => some n.toNat
  | .neg_int n => some n.toInt
  | .float _ => none

/-- A JavaScript number, a binary64 datum, holds the integer. -/
def Held (z : ℤ) : Prop := ∃ bits : UInt64, Binary.units bits.toNat = some (z * Binary.one)

mutual

/-- The document with every integer in it read by `read`, and all else as it is. -/
def with_integers (read : Number → ℤ → Value) : Value → Value
  | .number n =>
    match integer n with
    | some z => read n z
    | none => .number n
  | .array items => .array (with_integers_items read items)
  | .object fields => .object (with_integers_fields read fields)
  | .null => .null
  | .bool flag => .bool flag
  | .string s => .string s

def with_integers_items (read : Number → ℤ → Value) : List Value → List Value
  | [] => []
  | item :: items => with_integers read item :: with_integers_items read items

def with_integers_fields (read : Number → ℤ → Value) :
    List (String × Value) → List (String × Value)
  | [] => []
  | (key, value) :: fields => (key, with_integers read value) :: with_integers_fields read fields

end

mutual

/-- The integers of a document. -/
def integers : Value → List ℤ
  | .number n => (integer n).toList
  | .array items => integers_items items
  | .object fields => integers_fields fields
  | .null | .bool _ | .string _ => []

def integers_items : List Value → List ℤ
  | [] => []
  | item :: items => integers item ++ integers_items items

def integers_fields : List (String × Value) → List ℤ
  | [] => []
  | (_, value) :: fields => integers value ++ integers_fields fields

end

/-- The decimal text of an integer, as `i64::to_string` writes it. -/
def as_text (_ : Number) (z : ℤ) : Value := .string (toString z)

open Classical in
/-- The documented rule: an integer that a JavaScript number does not hold exactly comes back
as a string, any other one as it is. -/
noncomputable def as_documented (n : Number) (z : ℤ) : Value :=
  if Held z then .number n else as_text n z

/-- The fields of a document are inserted in a row. -/
theorem insert_fields_eq (text : BsonText) (doc : Document) (obj : List (String × Value)) :
    insert_fields text doc obj
      = insert_all (doc.map fun field => (field.1, bson_to_json text field.2)) obj := by
  induction doc generalizing obj with
  | nil => rw [insert_fields, List.map_nil, insert_all]
  | cons field doc ih => rw [insert_fields, ih, List.map_cons, insert_all]

/-- The names stay. -/
@[simp] theorem keys_with_integers_fields (read : Number → ℤ → Value)
    (fields : List (String × Value)) :
    (with_integers_fields read fields).map Prod.fst = fields.map Prod.fst := by
  induction fields with
  | nil => rw [with_integers_fields]
  | cons field fields ih => rw [with_integers_fields, List.map_cons, List.map_cons, ih]

section
variable {to_bson : Value → Except String Bson} (text : BsonText)

/-- An object becomes a document, and in it the fields are as plain as it was. -/
theorem ToBson.object_of (h : ToBson to_bson) {fields : List (String × Value)}
    (hplain : plain (.object fields) = true ∨ KeepsObjects to_bson) :
    to_bson (.object fields)
        = (fields.mapM fun field => (to_bson field.2).map (field.1, ·)).map .document
      ∧ (plain_fields fields = true ∨ KeepsObjects to_bson) := by
  rw [plain, Bool.and_eq_true] at hplain
  rcases hplain with ⟨hnames, hfields⟩ | hkeeps
  · exact ⟨h.object fields hnames, Or.inl hfields⟩
  · exact ⟨hkeeps fields, Or.inr hkeeps⟩

/-- A number comes back as its text if it is an integer and as itself if it is a float. -/
theorem bson_to_json_number (h : ToBson to_bson) {n : Number} (hn : storable (.number n) = true) :
    ∃ bson, to_bson (.number n) = .ok bson
      ∧ bson_to_json text bson = with_integers as_text (.number n) := by
  cases n with
  | pos_int n =>
      rw [storable, decide_eq_true_eq] at hn
      refine ⟨_, h.pos_int n hn, ?_⟩
      have hint : (Int64.ofInt n.toNat).toInt = n.toNat :=
        Int64.toInt_ofInt_of_le (by have := Int64.toInt_minValue; omega) (by omega)
      rw [bson_to_json, hint, with_integers]
      rfl
  | neg_int n =>
      refine ⟨_, h.neg_int n, ?_⟩
      rw [bson_to_json, with_integers]
      rfl
  | float bits =>
      rw [storable] at hn
      exact ⟨_, h.float bits, by rw [bson_to_json, if_pos hn, with_integers, integer]⟩

mutual

/-- What is read of a value that was written: the value, each integer as a string. By recursion on
the value, the items of an array and the fields of an object each with a lemma of their own. -/
theorem bson_to_json_to_bson (h : ToBson to_bson) : ∀ value : Value, storable value = true →
    (plain value = true ∨ KeepsObjects to_bson) →
    ∃ bson, to_bson value = .ok bson ∧ bson_to_json text bson = with_integers as_text value
  | .null, _, _ => ⟨_, h.null, by rw [bson_to_json, with_integers]⟩
  | .bool flag, _, _ => ⟨_, h.bool flag, by rw [bson_to_json, with_integers]⟩
  | .string s, _, _ => ⟨_, h.string s, by rw [bson_to_json, with_integers]⟩
  | .number _, hv, _ => bson_to_json_number text h hv
  | .array items, hv, hplain => by
      rw [storable] at hv
      rw [plain] at hplain
      obtain ⟨bsons, hbsons, hread⟩ := items_to_json_to_bson h items hv hplain
      refine ⟨.array bsons, ?_, ?_⟩
      · rw [h.array, hbsons]
        rfl
      · rw [bson_to_json, hread, with_integers]
  | .object fields, hv, hplain => by
      rw [storable, Bool.and_eq_true, decide_eq_true_eq] at hv
      obtain ⟨hobject, hfields⟩ := h.object_of hplain
      obtain ⟨doc, hdoc, hread⟩ := fields_to_json_to_bson h fields hv.2 hfields
      refine ⟨.document doc, ?_, ?_⟩
      · rw [hobject, hdoc]
        rfl
      -- the keys are the object's, so nothing is replaced in the map
      · rw [bson_to_json, insert_fields_eq, hread, insert_all_eq_append, List.nil_append,
          with_integers]
        rw [List.nil_append, keys_with_integers_fields]
        exact hv.1

/-- The same for the items of an array. -/
theorem items_to_json_to_bson (h : ToBson to_bson) : ∀ items : List Value,
    storable_items items = true → (plain_items items = true ∨ KeepsObjects to_bson) →
    ∃ bsons, items.mapM to_bson = .ok bsons
      ∧ items_to_json text bsons = with_integers_items as_text items
  | [], _, _ => ⟨[], rfl, by rw [items_to_json, with_integers_items]⟩
  | item :: items, hv, hplain => by
      rw [storable_items, Bool.and_eq_true] at hv
      rw [plain_items, Bool.and_eq_true, and_or_right] at hplain
      obtain ⟨bson, hbson, hread⟩ := bson_to_json_to_bson h item hv.1 hplain.1
      obtain ⟨bsons, hbsons, hreads⟩ := items_to_json_to_bson h items hv.2 hplain.2
      refine ⟨bson :: bsons, ?_, ?_⟩
      · rw [List.mapM_cons, hbson, hbsons]
        rfl
      · rw [items_to_json, hread, hreads, with_integers_items]

/-- The same for the fields of an object, whose names stay. -/
theorem fields_to_json_to_bson (h : ToBson to_bson) : ∀ fields : List (String × Value),
    storable_fields fields = true → (plain_fields fields = true ∨ KeepsObjects to_bson) →
    ∃ doc : Document,
      fields.mapM (fun field => (to_bson field.2).map (field.1, ·)) = .ok doc
        ∧ doc.map (fun field => (field.1, bson_to_json text field.2))
          = with_integers_fields as_text fields
  | [], _, _ => ⟨[], rfl, by rw [List.map_nil, with_integers_fields]⟩
  | (key, value) :: fields, hv, hplain => by
      rw [storable_fields, Bool.and_eq_true] at hv
      rw [plain_fields, Bool.and_eq_true, and_or_right] at hplain
      obtain ⟨bson, hbson, hread⟩ := bson_to_json_to_bson h value hv.1 hplain.1
      obtain ⟨doc, hdoc, hreads⟩ := fields_to_json_to_bson h fields hv.2 hplain.2
      refine ⟨(key, bson) :: doc, ?_, ?_⟩
      · rw [List.mapM_cons, hdoc, hbson]
        rfl
      · rw [List.map_cons, hread, hreads, with_integers_fields]

end

/-- The two conversions in a row, on an object. -/
theorem document_to_json_of_storable (h : ToBson to_bson) {fields : List (String × Value)}
    (hv : storable (.object fields) = true)
    (hplain : plain (.object fields) = true ∨ KeepsObjects to_bson) :
    ∃ doc, json_to_doc to_bson (.object fields) = .ok doc
      ∧ document_to_json text doc = with_integers as_text (.object fields) := by
  rw [storable, Bool.and_eq_true, decide_eq_true_eq] at hv
  obtain ⟨hobject, hfields⟩ := h.object_of hplain
  obtain ⟨doc, hdoc, hread⟩ := fields_to_json_to_bson text h fields hv.2 hfields
  refine ⟨doc, ?_, ?_⟩
  · rw [json_to_doc, if_neg (by simp), hobject, hdoc]
    rfl
  · rw [document_to_json, insert_fields_eq, hread, insert_all_eq_append, List.nil_append,
      with_integers]
    rw [List.nil_append, keys_with_integers_fields]
    exact hv.1

/-- A list of objects comes back in its order, each as it would alone. By induction on the list,
with the lemma for one object. -/
theorem documents_to_json_of_storable (h : ToBson to_bson)
    {objects : List (List (String × Value))}
    (hv : ∀ fields ∈ objects, storable (.object fields) = true)
    (hplain : ∀ fields ∈ objects, plain (.object fields) = true ∨ KeepsObjects to_bson) :
    ∃ docs, docs_to_docs to_bson (.array (objects.map .object)) = .ok docs
      ∧ docs.map (document_to_json text)
        = objects.map fun fields => with_integers as_text (.object fields) := by
  induction objects with
  | nil => exact ⟨[], rfl, rfl⟩
  | cons fields objects ih =>
      obtain ⟨hfields, hobjects⟩ := List.forall_mem_cons.mp hv
      obtain ⟨hnames, hothers⟩ := List.forall_mem_cons.mp hplain
      obtain ⟨doc, hdoc, hread⟩ := document_to_json_of_storable text h hfields hnames
      obtain ⟨docs, hdocs, hreads⟩ := ih hobjects hothers
      rw [docs_to_docs] at hdocs
      refine ⟨doc :: docs, ?_, ?_⟩
      · rw [docs_to_docs, List.map_cons, List.mapM_cons, hdoc, hdocs]
        rfl
      · rw [List.map_cons, List.map_cons, hread, hreads]

end

mutual

/-- The texts are what the rule asks for iff no integer is held. -/
theorem with_integers_eq_iff : ∀ value : Value,
    with_integers as_text value = with_integers as_documented value
      ↔ ∀ z ∈ integers value, ¬ Held z
  | .null | .bool _ | .string _ => by simp [with_integers, integers]
  | .number n => by
      rw [with_integers, with_integers, integers]
      cases integer n with
      | none => simp
      | some z =>
          rw [Option.toList_some, List.forall_mem_singleton]
          show as_text n z = as_documented n z ↔ ¬ Held z
          rw [as_documented]
          by_cases hheld : Held z
          · rw [if_pos hheld]
            exact iff_of_false (by simp [as_text]) (by simpa using hheld)
          · rw [if_neg hheld]
            exact iff_of_true rfl hheld
  | .array items => by
      rw [with_integers, with_integers, integers, Value.array.injEq]
      exact with_integers_items_eq_iff items
  | .object fields => by
      rw [with_integers, with_integers, integers, Value.object.injEq]
      exact with_integers_fields_eq_iff fields

/-- The same for the items of an array. -/
theorem with_integers_items_eq_iff : ∀ items : List Value,
    with_integers_items as_text items = with_integers_items as_documented items
      ↔ ∀ z ∈ integers_items items, ¬ Held z
  | [] => by simp [with_integers_items, integers_items]
  | item :: items => by
      rw [with_integers_items, with_integers_items, integers_items, List.cons_eq_cons,
        with_integers_eq_iff item, with_integers_items_eq_iff items, List.forall_mem_append]

/-- The same for the fields of an object. -/
theorem with_integers_fields_eq_iff : ∀ fields : List (String × Value),
    with_integers_fields as_text fields = with_integers_fields as_documented fields
      ↔ ∀ z ∈ integers_fields fields, ¬ Held z
  | [] => by simp [with_integers_fields, integers_fields]
  | (key, value) :: fields => by
      rw [with_integers_fields, with_integers_fields, integers_fields, List.cons_eq_cons,
        Prod.mk.injEq, eq_self, true_and, with_integers_eq_iff value,
        with_integers_fields_eq_iff fields, List.forall_mem_append]

end

/-- A document that is written and read comes back as the rule says iff it has no integer
that a JavaScript number holds: every other integer comes back as a string. This is for every
document without a name of extended JSON, and for all of them where such names mean nothing to
`to_bson`. -/
theorem document_to_json_json_to_doc {to_bson : Value → Except String Bson} (h : ToBson to_bson)
    (text : BsonText) (fields : List (String × Value)) (hv : storable (.object fields) = true)
    (hplain : plain (.object fields) = true ∨ KeepsObjects to_bson) :
    (∃ doc, json_to_doc to_bson (.object fields) = .ok doc
        ∧ document_to_json text doc = with_integers as_documented (.object fields))
      ↔ ∀ z ∈ integers (.object fields), ¬ Held z := by
  obtain ⟨doc, hdoc, hread⟩ := document_to_json_of_storable text h hv hplain
  rw [← with_integers_eq_iff, ← hread]
  constructor
  · rintro ⟨doc', hdoc', hread'⟩
    rw [hdoc, Except.ok.injEq] at hdoc'
    rw [hdoc', hread']
  · intro hread'
    exact ⟨doc, hdoc, hread'⟩

mutual

/-- A `to_bson` with the properties above; the text of its error is of no account. -/
def stored : Value → Except String Bson
  | .null => .ok .null
  | .bool flag => .ok (.boolean flag)
  | .string s => .ok (.string s)
  | .number (.pos_int n) =>
    if n.toNat < 2 ^ 63 then .ok (.int64 (Int64.ofInt n.toNat)) else .error "out of range"
  | .number (.neg_int n) => .ok (.int64 n)
  | .number (.float bits) => .ok (.double bits)
  | .array items => (stored_items items).map .array
  | .object fields => (stored_fields fields).map .document

def stored_items : List Value → Except String (List Bson)
  | [] => .ok []
  | item :: items => do return (← stored item) :: (← stored_items items)

def stored_fields : List (String × Value) → Except String Document
  | [] => .ok []
  | (key, value) :: fields => do return (key, ← stored value) :: (← stored_fields fields)

end

theorem stored_items_eq (items : List Value) : stored_items items = items.mapM stored := by
  induction items with
  | nil => rw [stored_items]; rfl
  | cons item items ih => rw [stored_items, List.mapM_cons, ih]

/-- The fields one by one, as `ToBson` has them. -/
theorem stored_fields_eq (fields : List (String × Value)) :
    stored_fields fields = fields.mapM fun field => (stored field.2).map (field.1, ·) := by
  induction fields with
  | nil => rw [stored_fields]; rfl
  | cons field fields ih =>
      rw [stored_fields, List.mapM_cons, ih]
      cases stored field.2 <;> rfl

/-- It has them. -/
theorem to_bson_stored : ToBson stored where
  null := by rw [stored]
  bool _ := by rw [stored]
  string _ := by rw [stored]
  pos_int n hn := by rw [stored, if_pos hn]
  neg_int _ := by rw [stored]
  float _ := by rw [stored]
  array items := by rw [stored, stored_items_eq]
  object fields _ := by rw [stored, stored_fields_eq]

theorem keeps_objects_stored : KeepsObjects stored := by
  intro fields
  rw [stored, stored_fields_eq]

/-- `1` is a JavaScript number. -/
theorem held_one : Held 1 := by
  refine ⟨0x3ff0000000000000, ?_⟩
  have hbits : (0x3ff0000000000000 : UInt64).toNat = 1023 * 2 ^ 52 + 0 := rfl
  have hexp : 52 + (1023 - 1) = Binary.lowest := rfl
  rw [hbits, Binary.units_normal (by decide) (by decide) (by decide), Binary.one, Int.one_mul,
    Nat.add_zero, ← Nat.pow_add, hexp]

/-- `2 ^ 53 + 1` is none. -/
theorem not_held : ¬ Held 9007199254740993 := by
  rintro ⟨bits, h⟩
  have hlt := Binary.lt_of_units_of_odd bits.toNat_lt (by decide) h
  exact absurd hlt (by decide)

/-- A small integer that is written is read as a string. -/
theorem small_integer_read_as_string : ¬ ∀ (to_bson : Value → Except String Bson), ToBson to_bson →
    KeepsObjects to_bson → ∀ (text : BsonText) (fields : List (String × Value)), storable (.object fields) = true →
      ∃ doc, json_to_doc to_bson (.object fields) = .ok doc
        ∧ document_to_json text doc = with_integers as_documented (.object fields) := by
  intro hall
  let text : BsonText := ⟨fun _ => "", fun _ => none, fun _ => ""⟩
  let fields : List (String × Value) := [("at", .number (.pos_int 1))]
  obtain ⟨doc, hdoc, hread⟩ := hall stored to_bson_stored keeps_objects_stored text fields (by decide)
  obtain ⟨doc', hdoc', hread'⟩ :=
    document_to_json_of_storable text to_bson_stored (show storable (.object fields) = true by decide)
      (Or.inr keeps_objects_stored)
  rw [hdoc, Except.ok.injEq] at hdoc'
  rw [← hdoc', hread] at hread'
  exact (with_integers_eq_iff _).mp hread'.symm 1 (by decide) held_one

/-- One that no JavaScript number holds is read as the rule says. -/
theorem large_integer_read_as_string : let text : BsonText := ⟨fun _ => "", fun _ => none, fun _ => ""⟩
    let fields : List (String × Value) :=
      [("name", .string "ada"), ("tags", .array [.bool true, .null]),
        ("serial", .number (.pos_int 9007199254740993))]
    ∃ doc, json_to_doc stored (.object fields) = .ok doc
      ∧ document_to_json text doc = with_integers as_documented (.object fields) := by
  intro text fields
  refine (document_to_json_json_to_doc to_bson_stored text fields (by decide)
    (Or.inl (by decide))).mpr ?_
  have hintegers : integers (.object fields) = [9007199254740993] := by decide
  rw [hintegers, List.forall_mem_singleton]
  exact not_held

end Runlet.Mongo
