/-
Column values as JSON (`column_to_json`, `get_or_null` in
`crates/fabric-backends/src/db.rs`).

A cell of a result is a column type with a value of that type, or NULL. The driver refuses to
read a cell as a Rust type that does not accept the column type, and every refusal and every
failed decoding ends in the same `null` as a NULL does. `column_values` says which values get
through.

`postgres-types`, `chrono`, `rust_decimal`, `uuid`, `base64` and the JSON parser are a
`Driver`, and `Driver.Documented` is what is known of them.
-/
import Runlet.Json
import Runlet.Lib.Binary
import Runlet.Lib.Digits
import Runlet.Lib.Text

set_option autoImplicit false

namespace Runlet.Db

open Runlet.Json

/-! ## 1. Cells -/

/-- `postgres_types::Type`, as far as the code and the driver tell types apart. -/
inductive ColumnType
  | INT2
  | INT4
  | OID
  | INT8
  | FLOAT4
  | FLOAT8
  | BOOL
  | TEXT
  | VARCHAR
  | BPCHAR
  | NAME
  | JSON
  | JSONB
  | UUID
  | TIMESTAMP
  | TIMESTAMPTZ
  | DATE
  | TIME
  | NUMERIC
  | BYTEA
  | UNKNOWN
  | other (name : String)
  deriving DecidableEq, Repr

/-- A NUMERIC: `mantissa * 10 ^ -scale`, or one of the special values. -/
inductive Numeric
  | finite (mantissa : ℤ) (scale : ℕ)
  | nan
  | infinity (negative : Bool)
  deriving DecidableEq, Repr

/-- A value of a column. Timestamps and times are microseconds, dates are days, both from
2000-01-01. -/
inductive SqlValue
  | int2 (val : Int16)
  | int4 (val : Int32)
  | oid (val : UInt32)
  | int8 (val : Int64)
  | float4 (bits : UInt32)
  | float8 (bits : UInt64)
  | bool (val : Bool)
  | text (val : String)
  | json (doc : String)
  | uuid (bytes : List UInt8)
  | timestamp (micros : Int64)
  | date (day : Int32)
  | time (micros : Int64)
  | numeric (val : Numeric)
  | bytea (bytes : List UInt8)
  | raw (bytes : List UInt8)
  deriving DecidableEq

/-- `accepts` of `String`: the text-like types. -/
def text_like : ColumnType → Bool
  | .TEXT | .VARCHAR | .BPCHAR | .NAME | .UNKNOWN => true
  | .other name => name ∈ ["citext", "ltree", "lquery", "ltxtquery"]
  | _ => false

/-- The types a value can be of. Whatever has no representation of its own is the bytes on
the wire. -/
def SqlValue.has_type : SqlValue → ColumnType → Bool
  | .int2 _, ty => ty = .INT2
  | .int4 _, ty => ty = .INT4
  | .oid _, ty => ty = .OID
  | .int8 _, ty => ty = .INT8
  | .float4 _, ty => ty = .FLOAT4
  | .float8 _, ty => ty = .FLOAT8
  | .bool _, ty => ty = .BOOL
  | .text _, ty => text_like ty
  | .json _, ty => ty = .JSON || ty = .JSONB
  | .uuid _, ty => ty = .UUID
  | .timestamp _, ty => ty = .TIMESTAMP || ty = .TIMESTAMPTZ
  | .date _, ty => ty = .DATE
  | .time _, ty => ty = .TIME
  | .numeric _, ty => ty = .NUMERIC
  | .bytea _, ty => ty = .BYTEA
  | .raw _, .other name => !text_like (.other name)
  | .raw _, _ => false

/-- One column of one row; `none` is NULL. -/
structure Cell where
  ty : ColumnType
  value : Option SqlValue
  typed : ∀ v, value = some v → v.has_type ty = true

/-- A value that is there. -/
def Cell.of (ty : ColumnType) (v : SqlValue) (h : v.has_type ty = true) : Cell where
  ty := ty
  value := some v
  typed v' hv' := by rwa [← Option.some.inj hv']

/-! ## 2. The driver -/

/-- `rust_decimal::Decimal`. -/
structure Decimal where
  mantissa : ℤ
  scale : ℕ
  mantissa_lt : mantissa.natAbs < 2 ^ 96
  scale_le : scale ≤ 28

/-- `Decimal::to_string`. -/
def Decimal.to_string (d : Decimal) : String := Digits.render d.mantissa d.scale

/-- `chrono::NaiveDateTime` and `DateTime<Utc>`, by the microsecond. -/
structure NaiveDateTime where
  micros : ℤ
  deriving DecidableEq, Repr

/-- `chrono::NaiveDate`. -/
structure NaiveDate where
  day : ℤ
  deriving DecidableEq, Repr

/-- `chrono::NaiveTime`. -/
structure NaiveTime where
  micros : ℤ
  deriving DecidableEq, Repr

/-- The crates under the client. -/
structure Driver where
  json : String → Except String Value
  date_time : Int64 → Except String NaiveDateTime
  date : Int32 → Except String NaiveDate
  time : Int64 → Except String NaiveTime
  decimal : Numeric → Except String Decimal
  format_date_time : NaiveDateTime → String → String
  to_rfc3339 : NaiveDateTime → String
  date_to_string : NaiveDate → String
  format_time : NaiveTime → String → String
  uuid_to_string : List UInt8 → String
  base64 : List UInt8 → String

/-- The days before a year, from the first of year 1. -/
def days_before (year : ℤ) : ℤ :=
  365 * (year - 1) + (year - 1) / 4 - (year - 1) / 100 + (year - 1) / 400

/-- The days `chrono` has: January 1, 262144 BCE to December 31, 262142 CE. -/
def InCalendar (day : ℤ) : Prop :=
  days_before (-262143) ≤ days_before 2000 + day ∧ days_before 2000 + day < days_before 262143

instance (day : ℤ) : Decidable (InCalendar day) := inferInstanceAs (Decidable (_ ∧ _))

def MICROS_PER_DAY : ℤ := 86400000000

/-- A text and a number are the same number. -/
def Denotes (text : String) (mantissa : ℤ) (scale : ℕ) : Prop :=
  ∃ m s, Digits.read text = some (m, s) ∧ m * 10 ^ scale = mantissa * 10 ^ s

/-- What a NUMERIC is written as. -/
def Numeric.DenotedBy (text : String) : Numeric → Prop
  | finite mantissa scale => Denotes text mantissa scale
  | nan => text = "NaN"
  | infinity negative => text = if negative then "-Infinity" else "Infinity"

/-- A 96-bit mantissa with a scale of at most 28 has it. -/
def Numeric.Representable : Numeric → Prop
  | finite mantissa scale =>
    ∃ d : Decimal, d.mantissa * 10 ^ scale = mantissa * 10 ^ d.scale
  | nan => False
  | infinity _ => False

/-- A JSON document that is null. -/
def json_null (doc : String) : Prop := Text.trim doc = "null"

/-- What the crates are known to do: only the document null is parsed to null, a date is
decoded iff the calendar has it, a time always is, and a decimal is exact where one exists. -/
structure Driver.Documented (driver : Driver) : Prop where
  json_null : ∀ doc, driver.json doc = .ok .null → json_null doc
  date_time_isOk : ∀ micros, (driver.date_time micros).isOk = true
    ↔ InCalendar (micros.toInt / MICROS_PER_DAY)
  date_isOk : ∀ day, (driver.date day).isOk = true ↔ InCalendar day.toInt
  time_isOk : ∀ micros, (driver.time micros).isOk = true
  decimal_exact : ∀ mantissa scale, (Numeric.finite mantissa scale).Representable →
    ∃ d, driver.decimal (.finite mantissa scale) = .ok d
      ∧ d.mantissa * 10 ^ scale = mantissa * 10 ^ d.scale

/-- `FromSql`: the column types a Rust type accepts and how it reads a value of them. -/
structure FromSql (α : Type) where
  accepts : ColumnType → Bool
  from_sql : SqlValue → Except String α

section Types

variable (driver : Driver)

/-- A value of a type that is not accepted never gets here. -/
def mismatch {α : Type} : Except String α := .error "invalid buffer size"

def i16 : FromSql ℤ where
  accepts ty := ty = .INT2
  from_sql
    | .int2 val => .ok val.toInt
    | _ => mismatch

def i32 : FromSql ℤ where
  accepts ty := ty = .INT4
  from_sql
    | .int4 val => .ok val.toInt
    | _ => mismatch

def i64 : FromSql ℤ where
  accepts ty := ty = .INT8
  from_sql
    | .int8 val => .ok val.toInt
    | _ => mismatch

def f32 : FromSql UInt32 where
  accepts ty := ty = .FLOAT4
  from_sql
    | .float4 bits => .ok bits
    | _ => mismatch

def f64 : FromSql UInt64 where
  accepts ty := ty = .FLOAT8
  from_sql
    | .float8 bits => .ok bits
    | _ => mismatch

def bool : FromSql Bool where
  accepts ty := ty = .BOOL
  from_sql
    | .bool val => .ok val
    | _ => mismatch

def string : FromSql String where
  accepts := text_like
  from_sql
    | .text val => .ok val
    | _ => mismatch

def json_value : FromSql Value where
  accepts ty := ty = .JSON || ty = .JSONB
  from_sql
    | .json doc => driver.json doc
    | _ => mismatch

def uuid : FromSql (List UInt8) where
  accepts ty := ty = .UUID
  from_sql
    | .uuid bytes => .ok bytes
    | _ => mismatch

def naive_date_time : FromSql NaiveDateTime where
  accepts ty := ty = .TIMESTAMP
  from_sql
    | .timestamp micros => driver.date_time micros
    | _ => mismatch

def date_time_utc : FromSql NaiveDateTime where
  accepts ty := ty = .TIMESTAMPTZ
  from_sql
    | .timestamp micros => driver.date_time micros
    | _ => mismatch

def naive_date : FromSql NaiveDate where
  accepts ty := ty = .DATE
  from_sql
    | .date day => driver.date day
    | _ => mismatch

def naive_time : FromSql NaiveTime where
  accepts ty := ty = .TIME
  from_sql
    | .time micros => driver.time micros
    | _ => mismatch

def decimal : FromSql Decimal where
  accepts ty := ty = .NUMERIC
  from_sql
    | .numeric val => driver.decimal val
    | _ => mismatch

def bytes : FromSql (List UInt8) where
  accepts ty := ty = .BYTEA
  from_sql
    | .bytea val => .ok val
    | _ => mismatch

end Types

/-- `Row::try_get::<_, Option<T>>`: a type that is not accepted is an error, NULL or not. -/
def try_get {α : Type} (dec : FromSql α) (cell : Cell) : Except String (Option α) :=
  if dec.accepts cell.ty then
    match cell.value with
    | none => .ok none
    | some v => (dec.from_sql v).map some
  else .error "wrong type"

/-! ## 3. The code -/

/-- `serde_json::Number::from_f64(val).map_or(Value::Null, Value::Number)`. -/
def from_f64 (bits : ℕ) : Value :=
  if Binary.exponent bits = 2047 then .null else .number (.float (UInt64.ofNat bits))

def get_or_null {α : Type} (dec : FromSql α) (cell : Cell) (convert : α → Value) : Value :=
  match try_get dec cell with
  | .ok (some val) => convert val
  | .ok none => .null
  | .error _ =>
    match try_get string cell with
    | .ok (some text) => .string text
    | _ => .null

def column_to_json (driver : Driver) (cell : Cell) : Value :=
  match cell.ty with
  | .INT2 => get_or_null i16 cell of_i64
  | .INT4 | .OID => get_or_null i32 cell of_i64
  | .INT8 => get_or_null i64 cell fun val => .string (Digits.render val 0)
  | .FLOAT4 => get_or_null f32 cell fun val => from_f64 (Binary.widen val.toNat)
  | .FLOAT8 => get_or_null f64 cell fun val => from_f64 val.toNat
  | .BOOL => get_or_null bool cell .bool
  | .TEXT | .VARCHAR | .BPCHAR | .NAME => get_or_null string cell .string
  | .JSON | .JSONB => get_or_null (json_value driver) cell id
  | .UUID => get_or_null uuid cell fun val => .string (driver.uuid_to_string val)
  | .TIMESTAMP => get_or_null (naive_date_time driver) cell fun val =>
      .string (driver.format_date_time val "%Y-%m-%dT%H:%M:%S%.f")
  | .TIMESTAMPTZ => get_or_null (date_time_utc driver) cell fun val =>
      .string (driver.to_rfc3339 val)
  | .DATE => get_or_null (naive_date driver) cell fun val => .string (driver.date_to_string val)
  | .TIME => get_or_null (naive_time driver) cell fun val =>
      .string (driver.format_time val "%H:%M:%S%.f")
  | .NUMERIC => get_or_null (decimal driver) cell fun val => .string val.to_string
  | .BYTEA => get_or_null bytes cell fun val => .string (driver.base64 val)
  | _ => get_or_null string cell .string

/-! ## 4. Which values get through -/

/-- What a cell becomes, as it should be: null for NULL and for a document that is null, and
for an INT8 or a NUMERIC a text that denotes the number. -/
structure Kept (cell : Cell) (out : Value) : Prop where
  null : cell.value = none → out = .null
  not_null : ∀ v, cell.value = some v → (∀ doc, v = .json doc → ¬ json_null doc) → out ≠ .null
  int8 : ∀ val, cell.value = some (.int8 val) →
    ∃ text, out = .string text ∧ Denotes text val.toInt 0
  numeric : ∀ val, cell.value = some (.numeric val) →
    ∃ text, out = .string text ∧ val.DenotedBy text

/-- The values for which it is so. -/
def Survives (driver : Driver) : SqlValue → Prop
  | .oid _ => False
  | .float4 bits => Binary.exponent32 bits.toNat ≠ 255
  | .float8 bits => Binary.exponent bits.toNat ≠ 2047
  | .json doc => json_null doc ∨ (driver.json doc).isOk = true
  | .timestamp micros => InCalendar (micros.toInt / MICROS_PER_DAY)
  | .date day => InCalendar day.toInt
  | .numeric val => val.Representable
  | .raw _ => False
  | .int2 _ | .int4 _ | .int8 _ | .bool _ | .text _ | .uuid _ | .time _ | .bytea _ => True

/-- What has no form in JSON: a float that is no number, and whatever no type reads. -/
def Formless : SqlValue → Prop
  | .float4 bits => Binary.exponent32 bits.toNat = 255
  | .float8 bits => Binary.exponent bits.toNat = 2047
  | .raw _ => True
  | _ => False

section Reading

variable {α : Type} {dec : FromSql α} {cell : Cell} {convert : α → Value} {v : SqlValue}

/-- NULL is null, whatever the types. -/
theorem get_or_null_none (h : cell.value = none) : get_or_null dec cell convert = .null := by
  have hstring : ∀ {β : Type} (dec : FromSql β), try_get dec cell = .ok none
      ∨ ∃ err, try_get dec cell = .error err := by
    intro β dec
    rw [try_get, h]
    split
    · exact Or.inl rfl
    · exact Or.inr ⟨_, rfl⟩
  rw [get_or_null]
  rcases hstring dec with h | ⟨err, h⟩
  · rw [h]
  · rw [h]
    rcases hstring string with h | ⟨err', h⟩
    · rw [h]
    · rw [h]

/-- A column that is no text: what the type reads, and null when it does not. -/
theorem get_or_null_some (hvalue : cell.value = some v) (haccepts : dec.accepts cell.ty = true)
    (htext : text_like cell.ty = false) :
    get_or_null dec cell convert = ((dec.from_sql v).map convert).toOption.getD .null := by
  have hget : try_get dec cell = (dec.from_sql v).map some := by
    rw [try_get, if_pos haccepts, hvalue]
  have hstring : try_get string cell = .error "wrong type" := by
    rw [try_get, if_neg]
    rw [show string.accepts cell.ty = text_like cell.ty from rfl, htext]
    exact Bool.false_ne_true
  rw [get_or_null, hget, hstring]
  cases dec.from_sql v with
  | ok val => rfl
  | error err => rfl

/-- Where neither the type nor a text is accepted, the value is lost. -/
theorem get_or_null_refused (haccepts : dec.accepts cell.ty = false)
    (htext : text_like cell.ty = false) : get_or_null dec cell convert = .null := by
  have hrefused : ∀ {β : Type} (dec : FromSql β), dec.accepts cell.ty = false →
      try_get dec cell = .error "wrong type" := by
    intro β dec h
    rw [try_get, h, if_neg Bool.false_ne_true]
  rw [get_or_null, hrefused dec haccepts, hrefused string htext]

/-- A text comes out of a column of texts as it is. -/
theorem get_or_null_text {val : String} (hvalue : cell.value = some (.text val))
    (htext : text_like cell.ty = true) : get_or_null string cell .string = .string val := by
  rw [get_or_null, try_get, show string.accepts cell.ty = text_like cell.ty from rfl, if_pos htext,
    hvalue]
  rfl

end Reading

/-- What a value of a column becomes; an error where it is lost. -/
def shown (driver : Driver) (ty : ColumnType) : SqlValue → Except String Value
  | .int2 val => .ok (of_i64 val.toInt)
  | .int4 val => .ok (of_i64 val.toInt)
  | .int8 val => .ok (.string (Digits.render val.toInt 0))
  | .float4 bits => .ok (from_f64 (Binary.widen bits.toNat))
  | .float8 bits => .ok (from_f64 bits.toNat)
  | .bool val => .ok (.bool val)
  | .text val => .ok (.string val)
  | .json doc => driver.json doc
  | .uuid bytes => .ok (.string (driver.uuid_to_string bytes))
  | .timestamp micros => (driver.date_time micros).map fun val =>
      .string (if ty = .TIMESTAMP then driver.format_date_time val "%Y-%m-%dT%H:%M:%S%.f"
        else driver.to_rfc3339 val)
  | .date day => (driver.date day).map fun val => .string (driver.date_to_string val)
  | .time micros => (driver.time micros).map fun val =>
      .string (driver.format_time val "%H:%M:%S%.f")
  | .numeric val => (driver.decimal val).map fun val => .string val.to_string
  | .bytea bytes => .ok (.string (driver.base64 bytes))
  | .oid _ | .raw _ => .error "wrong type"

section Columns

variable {driver : Driver} {cell : Cell} {v : SqlValue}

/-- One of two tests that are taken together. -/
theorem of_or_eq_true {a b : Prop} [Decidable a] [Decidable b] (h : (decide a || decide b) = true) :
    a ∨ b := by
  rcases Bool.or_eq_true _ _ ▸ h with h | h
  · exact Or.inl (of_decide_eq_true h)
  · exact Or.inr (of_decide_eq_true h)

/-- Only a text is of a text-like type, so the second chance of `get_or_null` is none. Type by
type: what a value becomes is what its own branch shows of it, or null. -/
theorem column_to_json_some (hvalue : cell.value = some v) :
    column_to_json driver cell = (shown driver cell.ty v).toOption.getD .null := by
  have htyped := cell.typed v hvalue
  cases v with
  | text val =>
      have hcolumn : column_to_json driver cell = get_or_null string cell .string := by
        have htext : text_like cell.ty = true := htyped
        unfold column_to_json
        generalize cell.ty = ty at htext
        cases ty with
        | TEXT | VARCHAR | BPCHAR | NAME | UNKNOWN | other name => rfl
        | _ => cases htext
      rw [hcolumn, get_or_null_text hvalue htyped]
      rfl
  | raw bytes =>
      have hother : ∃ name, cell.ty = .other name ∧ text_like (.other name) = false := by
        revert htyped
        generalize cell.ty = ty
        intro htyped
        cases ty with
        | other name => exact ⟨name, rfl, by simpa [SqlValue.has_type] using htyped⟩
        | _ => cases htyped
      obtain ⟨name, hty, htext⟩ := hother
      have hrefused : text_like cell.ty = false := hty ▸ htext
      have hcolumn : column_to_json driver cell = get_or_null string cell .string := by
        rw [column_to_json, hty]
      rw [hcolumn, get_or_null_refused hrefused hrefused]
      rfl
  | oid val =>
      -- read as an `i32`, which accepts INT4 alone
      have hty : cell.ty = .OID := of_decide_eq_true htyped
      rw [column_to_json, hty]
      exact get_or_null_refused (hty ▸ rfl) (hty ▸ rfl)
  | int2 val | int4 val | int8 val | float4 bits | float8 bits | bool val | uuid bytes | date day
  | time micros | numeric val | bytea bytes =>
      -- the one type of the value is the one its arm reads
      have hty := of_decide_eq_true htyped
      rw [column_to_json, hty]
      exact get_or_null_some hvalue (hty ▸ rfl) (hty ▸ rfl)
  | json doc =>
      have hjson : (shown driver cell.ty (.json doc))
          = ((json_value driver).from_sql (.json doc)).map id := by
        rw [Except.map_id]
        rfl
      rcases of_or_eq_true htyped with hty | hty
      · rw [hjson, column_to_json, hty]
        exact get_or_null_some hvalue (hty ▸ rfl) (hty ▸ rfl)
      · rw [hjson, column_to_json, hty]
        exact get_or_null_some hvalue (hty ▸ rfl) (hty ▸ rfl)
  | timestamp micros =>
      rcases of_or_eq_true htyped with hty | hty
      · rw [column_to_json, hty]
        exact get_or_null_some hvalue (hty ▸ rfl) (hty ▸ rfl)
      · rw [column_to_json, hty]
        exact get_or_null_some hvalue (hty ▸ rfl) (hty ▸ rfl)

theorem column_to_json_none (hvalue : cell.value = none) : column_to_json driver cell = .null := by
  unfold column_to_json
  split <;> exact get_or_null_none hvalue

/-- What is asked of a value that is there: it is not null, and if it is a number that JSON would
round, it is the text of that number. -/
theorem kept_some {out : Value} (hvalue : cell.value = some v) :
    Kept cell out ↔ ((∀ doc, v = .json doc → ¬ json_null doc) → out ≠ .null)
      ∧ (∀ val, v = .int8 val → ∃ text, out = .string text ∧ Denotes text val.toInt 0)
      ∧ (∀ val, v = .numeric val → ∃ text, out = .string text ∧ val.DenotedBy text) := by
  constructor
  · intro h
    refine ⟨h.not_null v hvalue, ?_, ?_⟩
    · intro val hv
      exact h.int8 val (hv ▸ hvalue)
    · intro val hv
      exact h.numeric val (hv ▸ hvalue)
  -- all four fields speak of the value that is there
  · rintro ⟨hnull, hint8, hnumeric⟩
    refine ⟨?_, ?_, ?_, ?_⟩
    · intro hnone
      rw [hvalue] at hnone
      cases hnone
    · intro v' hv' hdoc
      rw [hvalue, Option.some.injEq] at hv'
      exact hnull (hv' ▸ hdoc)
    · intro val hval
      rw [hvalue, Option.some.injEq] at hval
      exact hint8 val hval
    · intro val hval
      rw [hvalue, Option.some.injEq] at hval
      exact hnumeric val hval

/-- A value that is no document, INT8 or NUMERIC has to stay a value. -/
theorem kept_iff_ne_null {out : Value} (hvalue : cell.value = some v)
    (hjson : ∀ doc, v ≠ .json doc) (hint8 : ∀ val, v ≠ .int8 val)
    (hnumeric : ∀ val, v ≠ .numeric val) : Kept cell out ↔ out ≠ .null := by
  rw [kept_some hvalue]
  constructor
  · rintro ⟨hnull, -, -⟩
    exact hnull fun doc hdoc => absurd hdoc (hjson doc)
  · intro hnull
    exact ⟨fun _ => hnull, fun val hval => absurd hval (hint8 val),
      fun val hval => absurd hval (hnumeric val)⟩

theorem kept_json {out : Value} {doc : String} (hvalue : cell.value = some (.json doc)) :
    Kept cell out ↔ json_null doc ∨ out ≠ .null := by
  rw [kept_some hvalue, or_iff_not_imp_left]
  simp only [SqlValue.json.injEq, forall_eq', reduceCtorEq, false_implies, implies_true, and_true]

/-- A text that denotes the number is more than a value. -/
theorem kept_int8 {out : Value} {val : Int64} (hvalue : cell.value = some (.int8 val)) :
    Kept cell out ↔ ∃ text, out = .string text ∧ Denotes text val.toInt 0 := by
  rw [kept_some hvalue]
  simp only [SqlValue.int8.injEq, forall_eq', reduceCtorEq, false_implies, implies_true, and_true]
  refine and_iff_right_of_imp ?_
  rintro ⟨text, rfl, -⟩ _ hnull
  cases hnull

/-- A numeric is kept as a text that denotes it. -/
theorem kept_numeric {out : Value} {val : Numeric} (hvalue : cell.value = some (.numeric val)) :
    Kept cell out ↔ ∃ text, out = .string text ∧ val.DenotedBy text := by
  rw [kept_some hvalue]
  simp only [SqlValue.numeric.injEq, forall_eq', reduceCtorEq, false_implies, implies_true, true_and]
  refine and_iff_right_of_imp ?_
  rintro ⟨text, rfl, -⟩ _ hnull
  cases hnull

/-- A float is kept unless it is none of the numbers. -/
theorem from_f64_ne_null (bits : ℕ) : from_f64 bits ≠ .null ↔ Binary.exponent bits ≠ 2047 := by
  rw [from_f64]
  split
  · rename_i h
    exact iff_of_false (fun hne => hne rfl) (fun hne => hne h)
  · rename_i h
    exact iff_of_true (fun hnull => by cases hnull) h

/-- What is decoded is written as a text, and what is not is lost. -/
theorem mapped_ne_null {α : Type} (decoded : Except String α) (f : α → String) :
    (decoded.map fun val => Value.string (f val)).toOption.getD .null ≠ .null
      ↔ decoded.isOk = true := by
  cases decoded with
  | ok val => exact iff_of_true (fun hnull => by cases hnull) rfl
  | error err => exact iff_of_false (fun hne => hne rfl) Bool.false_ne_true

/-- A `Decimal` is written as the number it is, so the number has to be a `Decimal`. What has more
digits or more places is refused by the driver, and shown as null. -/
theorem numeric_denoted (hdriver : driver.Documented) (val : Numeric) :
    (∃ text, ((driver.decimal val).map fun d => Value.string d.to_string).toOption.getD .null
        = .string text ∧ val.DenotedBy text)
      ↔ val.Representable := by
  constructor
  · rintro ⟨text, hout, hdenoted⟩
    cases hdecimal : driver.decimal val with
    | error err =>
        rw [hdecimal] at hout
        cases hout
    | ok d =>
        -- whatever was decoded, the text denotes that and no special value
        rw [hdecimal] at hout
        have htext : d.to_string = text := Value.string.inj hout
        have hread : Digits.read text = some (d.mantissa, d.scale) := by
          rw [← htext, Decimal.to_string, Digits.read_render]
        cases val with
        | finite mantissa scale =>
            obtain ⟨m, s, hms, hsame⟩ := hdenoted
            rw [hread, Option.some.injEq, Prod.mk.injEq] at hms
            rw [← hms.1, ← hms.2] at hsame
            exact ⟨d, hsame⟩
        | nan =>
            rw [show text = "NaN" from hdenoted] at hread
            cases hread
        | infinity negative =>
            rw [show text = _ from hdenoted] at hread
            cases negative <;> cases hread
  · intro hrepresentable
    cases val with
    | finite mantissa scale =>
        obtain ⟨d, hdecimal, hsame⟩ := hdriver.decimal_exact mantissa scale hrepresentable
        rw [hdecimal]
        refine ⟨d.to_string, rfl, d.mantissa, d.scale, ?_, hsame⟩
        rw [Decimal.to_string, Digits.read_render]
    | nan => exact hrepresentable.elim
    | infinity negative => exact hrepresentable.elim

/-- The same question of what a value becomes. Type by type, it is kept exactly if the driver
decodes it and its branch writes it without loss. -/
theorem kept_shown (hdriver : driver.Documented) (hvalue : cell.value = some v) :
    Kept cell ((shown driver cell.ty v).toOption.getD .null) ↔ Survives driver v := by
  have hplain {out : Value} (hjson : ∀ doc, v ≠ .json doc) (hint8 : ∀ val, v ≠ .int8 val)
      (hnumeric : ∀ val, v ≠ .numeric val) : Kept cell out ↔ out ≠ .null :=
    kept_iff_ne_null hvalue hjson hint8 hnumeric
  cases v with
  | json doc =>
      rw [kept_json hvalue, Survives, shown]
      refine or_congr_right' fun hnull => ?_
      cases hjson : driver.json doc with
      | ok val =>
          -- parsed, and not the document null
          refine iff_of_true ?_ rfl
          intro hval
          rw [show val = .null from hval] at hjson
          exact hnull (hdriver.json_null doc hjson)
      | error err => exact iff_of_false (fun hne => hne rfl) Bool.false_ne_true
  | int8 val =>
      -- every `i64` is its own text
      rw [kept_int8 hvalue]
      exact iff_of_true ⟨_, rfl, val.toInt, 0, Digits.read_render _ _, rfl⟩ trivial
  | numeric val =>
      rw [kept_numeric hvalue]
      exact numeric_denoted hdriver val
  | float4 bits =>
      rw [hplain nofun nofun nofun, shown, Except.toOption, Option.getD_some, from_f64_ne_null, Survives]
      exact not_congr (Binary.exponent_widen _)
  | float8 bits =>
      rw [hplain nofun nofun nofun, shown, Except.toOption, Option.getD_some, from_f64_ne_null, Survives]
  | timestamp micros =>
      rw [hplain nofun nofun nofun, Survives, ← hdriver.date_time_isOk]
      exact mapped_ne_null _ _
  | date day =>
      rw [hplain nofun nofun nofun, Survives, ← hdriver.date_isOk]
      exact mapped_ne_null _ _
  | time micros =>
      rw [hplain nofun nofun nofun, shown, mapped_ne_null]
      exact iff_of_true (hdriver.time_isOk micros) trivial
  | oid val | raw bytes =>
      rw [hplain nofun nofun nofun]
      exact iff_of_false (fun hne => hne rfl) not_false
  | int2 val | int4 val | bool val | text val | uuid bytes | bytea bytes =>
      rw [hplain nofun nofun nofun]
      exact iff_of_true (fun hnull => by cases hnull) trivial

/-- A NULL becomes null and nothing else does, and an INT8 or a NUMERIC becomes its number's
text, exactly for the values of `Survives`. -/
theorem kept_iff_survives (hdriver : driver.Documented) (cell : Cell) :
    Kept cell (column_to_json driver cell) ↔ ∀ v, cell.value = some v → Survives driver v := by
  cases hvalue : cell.value with
  | none =>
      refine iff_of_true ⟨fun _ => column_to_json_none hvalue, ?_, ?_, ?_⟩ nofun
      · intro v hv
        rw [hvalue] at hv
        cases hv
      · intro val hval
        rw [hvalue] at hval
        cases hval
      · intro val hval
        rw [hvalue] at hval
        cases hval
  | some v =>
      rw [column_to_json_some hvalue, kept_shown hdriver hvalue]
      simp only [Option.some.injEq, forall_eq']

theorem from_f64_null {bits : ℕ} (h : Binary.exponent bits = 2047) : from_f64 bits = .null := by
  rw [from_f64, if_pos h]

/-- A value without a form in JSON is null. -/
theorem column_to_json_formless (hvalue : cell.value = some v) (h : Formless v) :
    column_to_json driver cell = .null := by
  rw [column_to_json_some hvalue]
  cases v with
  | float4 bits =>
      rw [shown, Except.toOption, Option.getD_some]
      exact from_f64_null ((Binary.exponent_widen _).mpr h)
  | float8 bits =>
      rw [shown, Except.toOption, Option.getD_some]
      exact from_f64_null h
  | raw bytes => rfl
  | _ => exact h.elim

end Columns

/-- **Column values.** A NULL becomes null. A value of `Survives` does not, and an INT8 or a
NUMERIC among them becomes a text that denotes its number. A float that is no number and a
value of a type without a decoder become null. -/
theorem column_values (driver : Driver) (hdriver : driver.Documented) (cell : Cell) :
    (cell.value = none → column_to_json driver cell = .null)
      ∧ (∀ v, cell.value = some v → Survives driver v → Kept cell (column_to_json driver cell))
      ∧ (∀ v, cell.value = some v → Formless v → column_to_json driver cell = .null) := by
  refine ⟨column_to_json_none, ?_, ?_⟩
  · intro v hvalue hsurvives
    rw [kept_iff_survives hdriver]
    intro v' hvalue'
    rw [hvalue, Option.some.injEq] at hvalue'
    rwa [← hvalue']
  · intro v hvalue hformless
    exact column_to_json_formless hvalue hformless

/-! ## 5. A driver -/

/-- A number at another scale, where a `Decimal` has it. -/
def rescale (mantissa : ℤ) (scale scale' : ℕ) : Option Decimal :=
  let scaled := mantissa * 10 ^ scale' / 10 ^ scale
  if h : scaled * 10 ^ scale = mantissa * 10 ^ scale' ∧ scaled.natAbs < 2 ^ 96 ∧ scale' ≤ 28 then
    some ⟨scaled, scale', h.2.1, h.2.2⟩
  else none

/-- A decimal that is given another scale has the same value. -/
theorem rescale_exact {mantissa : ℤ} {scale scale' : ℕ} {d : Decimal}
    (h : rescale mantissa scale scale' = some d) :
    d.mantissa * 10 ^ scale = mantissa * 10 ^ d.scale := by
  rw [rescale] at h
  split at h
  · rename_i hfits
    rw [← Option.some.inj h]
    exact hfits.1
  · cases h

/-- It can be given one that its value allows. -/
theorem rescale_isSome {mantissa : ℤ} {scale : ℕ} {d : Decimal}
    (h : d.mantissa * 10 ^ scale = mantissa * 10 ^ d.scale) :
    (rescale mantissa scale d.scale).isSome = true := by
  have hscaled : mantissa * 10 ^ d.scale / 10 ^ scale = d.mantissa := by
    rw [← h]
    exact Int.mul_ediv_cancel _ (by positivity)
  rw [rescale, dif_pos (by rw [hscaled]; exact ⟨h, d.mantissa_lt, d.scale_le⟩)]
  rfl

/-- Numbers and dates as the crates have them; the documents are the JSON literals, and the
other texts are left out. -/
def plain_driver : Driver where
  json doc :=
    if Text.trim doc = "null" then .ok .null
    else if Text.trim doc = "true" then .ok (.bool true)
    else if Text.trim doc = "false" then .ok (.bool false)
    else .error "expected value"
  date_time micros :=
    if InCalendar (micros.toInt / MICROS_PER_DAY) then .ok ⟨micros.toInt⟩
    else .error "value too large to decode"
  date day := if InCalendar day.toInt then .ok ⟨day.toInt⟩ else .error "value too large to decode"
  time micros := .ok ⟨micros.toInt⟩
  decimal
    -- the scale of the value first, as the wire has it
    | .finite mantissa scale =>
      match (scale :: List.range 29).findSome? (rescale mantissa scale) with
      | some d => .ok d
      | none => .error "Overflow"
    | .nan | .infinity _ => .error "Invalid"
  format_date_time _ format := format
  to_rfc3339 _ := ""
  date_to_string _ := ""
  format_time _ format := format
  uuid_to_string _ := ""
  base64 _ := ""

/-- A driver that does what is documented of it. Its decimals are those of mantissa and scale, and
its texts are written out with all their places. -/
theorem plain_driver_documented : plain_driver.Documented where
  json_null doc h := by
    unfold plain_driver at h
    dsimp only at h
    split at h
    · assumption
    · split at h
      · cases h
      · split at h <;> cases h
  date_time_isOk micros := by
    unfold plain_driver
    dsimp only
    split
    · rename_i h
      exact iff_of_true rfl h
    · rename_i h
      exact iff_of_false Bool.false_ne_true h
  date_isOk day := by
    unfold plain_driver
    dsimp only
    split
    · rename_i h
      exact iff_of_true rfl h
    · rename_i h
      exact iff_of_false Bool.false_ne_true h
  time_isOk _ := rfl
  decimal_exact mantissa scale h := by
    -- some scale does, and the first that does is exact
    obtain ⟨d, hd⟩ := h
    have hscale : d.scale ∈ scale :: List.range 29 :=
      List.mem_cons_of_mem _ (List.mem_range.mpr (Nat.lt_succ_of_le d.scale_le))
    have hfound : ((scale :: List.range 29).findSome? (rescale mantissa scale)).isSome = true :=
      List.findSome?_isSome_iff.mpr ⟨d.scale, hscale, rescale_isSome hd⟩
    obtain ⟨d', hd'⟩ := Option.isSome_iff_exists.mp hfound
    obtain ⟨scale', -, hrescale⟩ := List.exists_of_findSome?_eq_some hd'
    refine ⟨d', ?_, rescale_exact hrescale⟩
    unfold plain_driver
    dsimp only
    rw [hd']

/-- A price of 19.99. -/
def price : Cell := Cell.of .NUMERIC (.numeric (.finite 1999 2)) rfl

/-- It gets through. -/
theorem column_values_price :
    column_to_json plain_driver price = .string "19.99"
      ∧ Kept price (column_to_json plain_driver price) := by
  refine ⟨by decide, ?_⟩
  refine (column_values plain_driver plain_driver_documented price).2.1 _ rfl ?_
  exact ⟨⟨1999, 2, by decide, by decide⟩, rfl⟩

/-- A FLOAT8 that is infinite. -/
def infinite : Cell := Cell.of .FLOAT8 (.float8 0x7ff0000000000000) rfl

/-- An object identifier, and a NUMERIC of thirty-one digits. -/
def object_id : Cell := Cell.of .OID (.oid 16384) rfl

def thirty_one_digits : Cell := Cell.of .NUMERIC (.numeric (.finite (10 ^ 30) 0)) rfl

/-- None is NULL, and all become null. -/
theorem values_become_null :
    plain_driver.Documented
      ∧ column_to_json plain_driver infinite = .null
      ∧ ¬ Kept infinite (column_to_json plain_driver infinite)
      ∧ column_to_json plain_driver object_id = .null
      ∧ ¬ Kept object_id (column_to_json plain_driver object_id)
      ∧ column_to_json plain_driver thirty_one_digits = .null
      ∧ ¬ Kept thirty_one_digits (column_to_json plain_driver thirty_one_digits) := by
  have hinfinite : column_to_json plain_driver infinite = .null := by decide
  have hdigits : column_to_json plain_driver thirty_one_digits = .null := by decide
  refine ⟨plain_driver_documented, hinfinite, ?_, rfl, ?_, hdigits, ?_⟩
  · intro h
    exact h.not_null _ rfl nofun hinfinite
  · intro h
    exact h.not_null _ rfl nofun rfl
  · intro h
    exact h.not_null _ rfl nofun hdigits

end Runlet.Db
