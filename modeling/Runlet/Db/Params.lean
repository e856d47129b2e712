/-
Binding of JSON parameters to SQL placeholders (`ParamValue` in
`crates/fabric-backends/src/db.rs`).

The Rust variant is chosen by the value, the placeholder's type by the statement, and
`accepts` lets every pair through; each variant writes its own width whatever the type is.
`Encodes` is the wire format of the types. `binding_sound` says which pairs agree with it.

Numbers are compared as whole multiples of the smallest binary64 subnormal, see
`Lib.Binary`. The JSON writer is a parameter.
-/
import Runlet.Json
import Runlet.Lib.Binary
import Runlet.Lib.Text

set_option autoImplicit false

namespace Runlet.Db

open Binary Runlet.Json

/-! ## 1. The code -/

/-- The placeholder types at issue. -/
inductive PgType
  | BOOL
  | INT2
  | INT4
  | INT8
  | FLOAT8
  | TEXT
  deriving DecidableEq, Repr

/-- `ParamValue`. -/
inductive ParamValue
  | null
  | bool (val : Bool)
  | int4 (val : ℤ)
  | int8 (val : ℤ)
  | float8 (bits : UInt64)
  | text (val : String)
  deriving DecidableEq, Repr

/-- `Number::as_f64`: a number beyond the integers binary64 has is rounded. -/
def as_f64 : Number → UInt64
  | .pos_int n => UInt64.ofNat (round n.toNat)
  | .neg_int n => UInt64.ofNat (2 ^ 63 + round n.toInt.natAbs)
  | .float bits => bits

/-- The range of a two's complement integer of so many bytes. -/
def InRange (width : ℕ) (z : ℤ) : Prop := -2 ^ (8 * width - 1) ≤ z ∧ z < 2 ^ (8 * width - 1)

instance (width : ℕ) (z : ℤ) : Decidable (InRange width z) := inferInstanceAs (Decidable (_ ∧ _))

section From

variable (to_string : Value → Except String String)

/-- `ParamValue::from`. -/
def ParamValue.from_value : Value → ParamValue
  | .null => .null
  | .bool flag => .bool flag
  | .number num =>
    match num.as_i64 with
    | none => .float8 (as_f64 num)
    | some int => if InRange 4 int then .int4 int else .int8 int
  | .string val => .text val
  | .array items => .text ((to_string (.array items)).toOption.getD "[]")
  | .object fields => .text ((to_string (.object fields)).toOption.getD "\x7b\x7d")

/-- `ToSql for ParamValue`: null, or the bytes of the variant. -/
def ParamValue.to_sql (param : ParamValue) (_ty : PgType) : Except String (Option (List UInt8)) :=
  match param with
  | .null => .ok none
  | .bool val => .ok (some [if val then 1 else 0])
  | .int4 val => .ok (some (int_be 4 val))
  | .int8 val => .ok (some (int_be 8 val))
  | .float8 bits => .ok (some (be 8 bits.toNat))
  | .text val => .ok (some (Text.utf8 val))

end From

/-! ## 2. The wire format -/

/-- What a JSON value other than null denotes; a number by its units. -/
inductive Datum
  | bool (b : Bool)
  | number (units : ℤ)
  | text (s : String)
  deriving DecidableEq, Repr

/-- The units of a JSON number; a float is finite in every document. -/
def number_units : Number → Option ℤ
  | .pos_int n => some ((n.toNat : ℤ) * one)
  | .neg_int n => some (n.toInt * one)
  | .float bits => units bits.toNat

/-- The denotation; an array and an object are their JSON text. -/
def denotes (to_string : Value → Except String String) : Value → Option Datum
  | .null => none
  | .bool b => some (.bool b)
  | .number n => (number_units n).map .number
  | .string s => some (.text s)
  | .array items => (to_string (.array items)).toOption.map .text
  | .object fields => (to_string (.object fields)).toOption.map .text

/-- An integer of a given width: the bytes are the two's complement form of a number in
range. -/
def EncodesInt (width : ℕ) (d : Datum) (bytes : List UInt8) : Prop :=
  ∃ z, d = .number (z * one) ∧ InRange width z ∧ bytes = int_be width z

/-- The binary wire encoding of a type. A text is UTF-8 without the byte 0, which the decoder of
TEXT refuses. -/
def Encodes (ty : PgType) (d : Datum) (bytes : List UInt8) : Prop :=
  match ty with
  | .BOOL => ∃ b, d = .bool b ∧ bytes = [if b then 1 else 0]
  | .INT2 => EncodesInt 2 d bytes
  | .INT4 => EncodesInt 4 d bytes
  | .INT8 => EncodesInt 8 d bytes
  | .FLOAT8 => ∃ b q, b < 2 ^ 64 ∧ units b = some q ∧ d = .number q ∧ bytes = be 8 b
  | .TEXT => ∃ s, d = .text s ∧ bytes = Text.utf8 s ∧ 0 ∉ bytes

/-- The width of the integer types. -/
def PgType.int_width : PgType → Option ℕ
  | .INT2 => some 2
  | .INT4 => some 4
  | .INT8 => some 8
  | .BOOL | .FLOAT8 | .TEXT => none

/-- The integer a JSON number is written as. -/
def integer : Value → Option ℤ
  | .number (.pos_int n) => some n.toNat
  | .number (.neg_int n) => some n.toInt
  | _ => none

/-- Binding a value to a placeholder of a type does what it should. -/
structure SoundBinding (to_string : Value → Except String String) (v : Value) (ty : PgType) :
    Prop where
  /-- What is written is the encoding of the value. -/
  encoded : ∀ out, (ParamValue.from_value to_string v).to_sql ty = .ok out →
    match out with
    | none => v = .null
    | some bytes => ∃ d, denotes to_string v = some d ∧ Encodes ty d bytes
  /-- An integer in range is written in the type's width. -/
  integers : ∀ z width, integer v = some z → ty.int_width = some width → InRange width z →
    (ParamValue.from_value to_string v).to_sql ty = .ok (some (int_be width z))

/-- The pairs for which it does. -/
def Bindable (to_string : Value → Except String String) (v : Value) (ty : PgType) : Prop :=
  match v with
  | .null => True
  | .bool _ => ty = .BOOL
  | .string s => ty = .TEXT ∧ 0 ∉ Text.utf8 s
  | .array items => ty = .TEXT ∧ ∃ s, (to_string (.array items)).toOption = some s ∧ 0 ∉ Text.utf8 s
  | .object fields =>
    ty = .TEXT ∧ ∃ s, (to_string (.object fields)).toOption = some s ∧ 0 ∉ Text.utf8 s
  | .number (.float bits) =>
    -- eight zero bytes are zero as a float and as an integer
    ty = .FLOAT8 ∧ (units bits.toNat).isSome = true ∨ ty = .INT8 ∧ bits = 0
  | .number (.pos_int n) =>
    ty = .INT4 ∧ InRange 4 n.toNat ∨ ty = .INT8 ∧ InRange 8 n.toNat ∧ ¬ InRange 4 n.toNat
      ∨ ty = .FLOAT8 ∧ ¬ InRange 8 n.toNat ∧ 2048 ∣ n.toNat
  | .number (.neg_int n) =>
    ty = .INT4 ∧ InRange 4 n.toInt ∨ ty = .INT8 ∧ ¬ InRange 4 n.toInt

/-! ## 3. Which pairs agree -/

section Binding

variable {to_string : Value → Except String String} {v : Value} {ty : PgType}

/-- An integer's encoding is the two's complement form of that integer. -/
theorem encodesInt_number {width : ℕ} {z : ℤ} {bytes : List UInt8}
    (h : EncodesInt width (.number (z * one)) bytes) : InRange width z ∧ bytes = int_be width z := by
  obtain ⟨z', hd, hrange, hbytes⟩ := h
  rw [Datum.number.injEq] at hd
  rw [mul_one_inj hd]
  exact ⟨hrange, hbytes⟩

theorem encodesInt_length {width : ℕ} {d : Datum} {bytes : List UInt8}
    (h : EncodesInt width d bytes) : bytes.length = width := by
  obtain ⟨z, -, -, hbytes⟩ := h
  rw [hbytes, int_be_length]

theorem encodes_float8_length {d : Datum} {bytes : List UInt8} (h : Encodes .FLOAT8 d bytes) :
    bytes.length = 8 := by
  obtain ⟨b, q, -, -, -, hbytes⟩ := h
  rw [hbytes, be_length]

/-- What an integer denotes. -/
theorem denotes_integer {z : ℤ} (h : integer v = some z) :
    denotes to_string v = some (.number (z * one)) := by
  cases v with
  | number n =>
      cases n with
      | pos_int n =>
          rw [integer, Option.some.injEq] at h
          rw [← h]
          rfl
      | neg_int n =>
          rw [integer, Option.some.injEq] at h
          rw [← h]
          rfl
      | float bits => cases h
  | null => cases h
  | bool b => cases h
  | string s => cases h
  | array items => cases h
  | object fields => cases h

/-- Bytes are written, so they have to be the encoding; for an integer in range that is what
the width asks for, too. -/
theorem sound_iff {bytes : List UInt8}
    (hbytes : (ParamValue.from_value to_string v).to_sql ty = .ok (some bytes)) :
    SoundBinding to_string v ty ↔ ∃ d, denotes to_string v = some d ∧ Encodes ty d bytes := by
  constructor
  · intro h
    exact h.encoded (some bytes) hbytes
  · rintro ⟨d, hd, hencodes⟩
    constructor
    · intro out hout
      rw [hbytes, Except.ok.injEq] at hout
      rw [← hout]
      exact ⟨d, hd, hencodes⟩
    -- the encoding of an integer is its two's complement form
    · intro z width hz hwidth _
      rw [denotes_integer hz, Option.some.injEq] at hd
      rw [← hd] at hencodes
      have hint : EncodesInt width (.number (z * one)) bytes := by
        cases ty with
        | INT2 => exact Option.some.inj hwidth ▸ hencodes
        | INT4 => exact Option.some.inj hwidth ▸ hencodes
        | INT8 => exact Option.some.inj hwidth ▸ hencodes
        | BOOL => cases hwidth
        | FLOAT8 => cases hwidth
        | TEXT => cases hwidth
      rw [hbytes, (encodesInt_number hint).2]

/-- A boolean is sent as one byte, for a boolean column and no other. -/
theorem encodes_bool {b : Bool} : Encodes ty (.bool b) [if b then 1 else 0] ↔ ty = .BOOL := by
  constructor
  · intro h
    cases ty with
    | BOOL => rfl
    | INT2 | INT4 | INT8 =>
        obtain ⟨z, hd, -⟩ := h
        cases hd
    | FLOAT8 =>
        obtain ⟨b', q, -, -, hd, -⟩ := h
        cases hd
    | TEXT =>
        obtain ⟨s, hd, -⟩ := h
        cases hd
  · intro h
    rw [h]
    exact ⟨b, rfl, rfl⟩

/-- A text is sent as its bytes, for a text column, as long as none of them is zero. -/
theorem encodes_text {s : String} :
    Encodes ty (.text s) (Text.utf8 s) ↔ ty = .TEXT ∧ 0 ∉ Text.utf8 s := by
  constructor
  · intro h
    cases ty with
    | TEXT =>
        obtain ⟨s', -, -, hzero⟩ := h
        exact ⟨rfl, hzero⟩
    | INT2 | INT4 | INT8 =>
        obtain ⟨z, hd, -⟩ := h
        cases hd
    | FLOAT8 =>
        obtain ⟨b', q, -, -, hd, -⟩ := h
        cases hd
    | BOOL =>
        obtain ⟨b, hd, -⟩ := h
        cases hd
  · rintro ⟨rfl, hzero⟩
    exact ⟨s, rfl, rfl, hzero⟩

/-- Four bytes are an INT4 and nothing else. -/
theorem encodes_int4 {z : ℤ} (hrange : InRange 4 z) :
    Encodes ty (.number (z * one)) (int_be 4 z) ↔ ty = .INT4 := by
  constructor
  · intro h
    cases ty with
    | INT4 => rfl
    | INT2 | INT8 =>
        have hlen := encodesInt_length h
        rw [int_be_length] at hlen
        omega
    | FLOAT8 =>
        have hlen := encodes_float8_length h
        rw [int_be_length] at hlen
        omega
    | BOOL =>
        obtain ⟨b, hd, -⟩ := h
        cases hd
    | TEXT =>
        obtain ⟨s, hd, -⟩ := h
        cases hd
  · intro h
    rw [h]
    exact ⟨z, rfl, hrange, rfl⟩

/-- Eight bytes of an integer are an INT8. As a FLOAT8 they are another number: only zero is read
from its own bytes as a float, and zero needs no eight bytes. -/
theorem encodes_int8 {z : ℤ} (hrange : InRange 8 z) (hlarge : ¬ InRange 4 z) :
    Encodes ty (.number (z * one)) (int_be 8 z) ↔ ty = .INT8 := by
  constructor
  · intro h
    cases ty with
    | INT8 => rfl
    | INT2 | INT4 =>
        have hlen := encodesInt_length h
        rw [int_be_length] at hlen
        omega
    | FLOAT8 =>
        -- the same eight bytes: one number only if it is zero, and zero has four bytes
        exfalso
        obtain ⟨b, q, hb, hunits, hd, hbytes⟩ := h
        rw [Datum.number.injEq] at hd
        have hz := int_be_eq_be hrange.1 hrange.2 hb hbytes
        rw [← hd, hz] at hunits
        have hzero := eq_zero_of_units_eq hb hunits
        rw [hzero] at hz
        apply hlarge
        rw [hz]
        decide
    | BOOL =>
        obtain ⟨b, hd, -⟩ := h
        cases hd
    | TEXT =>
        obtain ⟨s, hd, -⟩ := h
        cases hd
  · intro h
    rw [h]
    exact ⟨z, rfl, hrange, rfl⟩

/-- Eight bytes of a float are a FLOAT8 of its number. As an INT8 they are an integer, and it may
happen to be the same number. -/
theorem encodes_float8 {q : ℤ} {bits : UInt64} :
    Encodes ty (.number q) (be 8 bits.toNat)
      ↔ ty = .FLOAT8 ∧ units bits.toNat = some q
        ∨ ty = .INT8 ∧ ∃ z, q = z * one ∧ InRange 8 z ∧ be 8 bits.toNat = int_be 8 z := by
  have hlt : bits.toNat < 2 ^ 64 := bits.toNat_lt
  constructor
  · intro h
    cases ty with
    | FLOAT8 =>
        obtain ⟨b, q', hb, hunits, hd, hbytes⟩ := h
        rw [Datum.number.injEq] at hd
        rw [be_inj] at hbytes
        have hsame : b = bits.toNat := by omega
        rw [hd, ← hsame]
        exact Or.inl ⟨rfl, hunits⟩
    | INT8 =>
        obtain ⟨z, hd, hrange, hbytes⟩ := h
        rw [Datum.number.injEq] at hd
        exact Or.inr ⟨rfl, z, hd, hrange, hbytes⟩
    | INT2 | INT4 =>
        have hlen := encodesInt_length h
        rw [be_length] at hlen
        omega
    | BOOL =>
        obtain ⟨b, hd, -⟩ := h
        cases hd
    | TEXT =>
        obtain ⟨s, hd, -⟩ := h
        cases hd
  · rintro (⟨rfl, hunits⟩ | ⟨rfl, z, hq, hrange, hbytes⟩)
    · exact ⟨bits.toNat, q, hlt, hunits, rfl, rfl⟩
    · exact ⟨z, by rw [hq], hrange, hbytes⟩

/-- A value that denotes `d` and is written as `bytes` is soundly bound iff they match. -/
theorem sound_iff_encodes {d : Datum} {bytes : List UInt8} (hd : denotes to_string v = some d)
    (hbytes : (ParamValue.from_value to_string v).to_sql ty = .ok (some bytes)) :
    SoundBinding to_string v ty ↔ Encodes ty d bytes := by
  rw [sound_iff hbytes, hd]
  constructor
  · rintro ⟨d', hd', h⟩
    rw [Option.some.inj hd']
    exact h
  · intro h
    exact ⟨d, rfl, h⟩

/-- What has no denotation is written all the same. -/
theorem not_sound_of_none {bytes : List UInt8} (hd : denotes to_string v = none)
    (hbytes : (ParamValue.from_value to_string v).to_sql ty = .ok (some bytes)) :
    ¬ SoundBinding to_string v ty := by
  rw [sound_iff hbytes, hd]
  rintro ⟨d, hnone, -⟩
  cases hnone

/-- A document goes out as its JSON text. It is the text of a TEXT, and of no other type, as long
as it is written and has no zero byte in it. -/
theorem sound_json {fallback : String}
    (hd : denotes to_string v = (to_string v).toOption.map .text)
    (hparam : ParamValue.from_value to_string v = .text ((to_string v).toOption.getD fallback)) :
    SoundBinding to_string v ty
      ↔ ty = .TEXT ∧ ∃ s, (to_string v).toOption = some s ∧ 0 ∉ Text.utf8 s := by
  cases hjson : (to_string v).toOption with
  | none =>
      -- the fallback text is written, and denotes nothing
      rw [hjson] at hd
      have hbytes : (ParamValue.from_value to_string v).to_sql ty
          = .ok (some (Text.utf8 fallback)) := by
        rw [hparam, hjson]
        rfl
      refine iff_of_false (not_sound_of_none hd hbytes) ?_
      rintro ⟨-, s, hsome, -⟩
      cases hsome
  | some s =>
      rw [hjson] at hd
      have hbytes : (ParamValue.from_value to_string v).to_sql ty
          = .ok (some (Text.utf8 s)) := by
        rw [hparam, hjson]
        rfl
      rw [sound_iff_encodes hd hbytes, encodes_text]
      refine and_congr_right fun _ => ?_
      constructor
      · intro hzero
        exact ⟨s, rfl, hzero⟩
      · rintro ⟨s', hs', hzero⟩
        rw [Option.some.inj hs']
        exact hzero

/-- An integer that `as_i64` has: four bytes where they suffice, else eight. -/
theorem sound_as_i64 {n : Number} {z : ℤ} (hz : n.as_i64 = some z) (hrange : InRange 8 z)
    (hinteger : integer (.number n) = some z) :
    SoundBinding to_string (.number n) ty
      ↔ ty = .INT4 ∧ InRange 4 z ∨ ty = .INT8 ∧ ¬ InRange 4 z := by
  have hd : denotes to_string (.number n) = some (.number (z * one)) := denotes_integer hinteger
  have hparam : ParamValue.from_value to_string (.number n)
      = if InRange 4 z then .int4 z else .int8 z := by
    rw [ParamValue.from_value, hz]
  by_cases hsmall : InRange 4 z
  · rw [if_pos hsmall] at hparam
    have hbytes : (ParamValue.from_value to_string (.number n)).to_sql ty
        = .ok (some (int_be 4 z)) := by
      rw [hparam]
      rfl
    rw [sound_iff_encodes hd hbytes, encodes_int4 hsmall, and_iff_left hsmall]
    exact (or_iff_left fun h => h.2 hsmall).symm
  · rw [if_neg hsmall] at hparam
    have hbytes : (ParamValue.from_value to_string (.number n)).to_sql ty
        = .ok (some (int_be 8 z)) := by
      rw [hparam]
      rfl
    rw [sound_iff_encodes hd hbytes, encodes_int8 hrange hsmall, and_iff_left hsmall]
    exact (or_iff_right fun h => hsmall h.2).symm

/-- An integer beyond 64 bits' signed range goes out as a float. -/
theorem sound_pos_int {n : UInt64} (hlarge : ¬ InRange 8 (n.toNat : ℤ)) :
    SoundBinding to_string (.number (.pos_int n)) ty ↔ ty = .FLOAT8 ∧ 2048 ∣ n.toNat := by
  -- `as_i64` has none of these, so `as_f64` rounds them
  have hlow : 2 ^ 63 ≤ n.toNat := by
    by_contra hlt
    apply hlarge
    rw [InRange]
    omega
  have hhigh : n.toNat < 2 ^ 64 := n.toNat_lt
  obtain ⟨hlt, hunits⟩ := units_round_high hlow hhigh
  have hbits : (UInt64.ofNat (round n.toNat)).toNat = round n.toNat :=
    UInt64.toNat_ofNat_of_lt' hlt
  have hnone : (Number.pos_int n).as_i64 = none := by
    rw [Number.as_i64, if_neg (by omega)]
  have hbytes : (ParamValue.from_value to_string (.number (.pos_int n))).to_sql ty
      = .ok (some (be 8 (UInt64.ofNat (round n.toNat)).toNat)) := by
    rw [ParamValue.from_value, hnone]
    rfl
  have hd : denotes to_string (.number (.pos_int n)) = some (.number ((n.toNat : ℤ) * one)) := rfl
  rw [sound_iff_encodes hd hbytes, encodes_float8, hbits, hunits]
  refine or_iff_left ?_
  rintro ⟨-, z, hz, hrange, -⟩
  rw [mul_one_inj hz] at hlarge
  exact hlarge hrange

/-- A float is a FLOAT8, and zero happens to be an INT8, too: of all floats, it alone has for its
bytes those of the integer it is. -/
theorem sound_float {bits : UInt64} :
    SoundBinding to_string (.number (.float bits)) ty
      ↔ ty = .FLOAT8 ∧ (units bits.toNat).isSome = true ∨ ty = .INT8 ∧ bits = 0 := by
  have hbytes : (ParamValue.from_value to_string (.number (.float bits))).to_sql ty
      = .ok (some (be 8 bits.toNat)) := rfl
  have hlt : bits.toNat < 2 ^ 64 := bits.toNat_lt
  cases hunits : units bits.toNat with
  | none =>
      have hd : denotes to_string (.number (.float bits)) = none := by
        rw [denotes, number_units, hunits]
        rfl
      refine iff_of_false (not_sound_of_none hd hbytes) ?_
      rintro (⟨-, hsome⟩ | ⟨-, rfl⟩)
      · cases hsome
      -- zero is finite
      · rw [units, if_neg (by decide)] at hunits
        cases hunits
  | some q =>
      have hd : denotes to_string (.number (.float bits)) = some (.number q) := by
        rw [denotes, number_units, hunits]
        rfl
      rw [sound_iff_encodes hd hbytes, encodes_float8, hunits]
      refine or_congr (and_congr_right fun _ => iff_of_true rfl rfl) (and_congr_right fun _ => ?_)
      constructor
      -- read as an integer the bytes are the same number, so it is zero
      · rintro ⟨z, hq, hrange, hsame⟩
        have hz := int_be_eq_be hrange.1 hrange.2 hlt hsame.symm
        rw [hq, hz] at hunits
        have hzero := eq_zero_of_units_eq hlt hunits
        rw [← UInt64.toNat_inj, hzero]
        rfl
      · rintro rfl
        have hq : q = 0 := by
          rw [units, if_neg (by decide), Option.some.injEq] at hunits
          exact hunits.symm
        refine ⟨0, ?_, by decide, by decide⟩
        rw [hq, Int.zero_mul]

end Binding

/-- **Parameter binding.** A JSON value is written as the placeholder's type reads it exactly
for the pairs of `Bindable`. -/
theorem binding_sound (to_string : Value → Except String String) (v : Value) (ty : PgType) :
    SoundBinding to_string v ty ↔ Bindable to_string v ty := by
  cases v with
  | null =>
      refine iff_of_true ⟨?_, ?_⟩ trivial
      · intro out hout
        rw [← Except.ok.inj hout]
      · intro z width hz
        cases hz
  | bool b =>
      rw [sound_iff_encodes (d := .bool b) rfl rfl]
      exact encodes_bool
  | string s =>
      rw [sound_iff_encodes (d := .text s) rfl rfl]
      exact encodes_text
  | array items => exact sound_json rfl rfl
  | object fields => exact sound_json rfl rfl
  | number n =>
      cases n with
      | float bits => exact sound_float
      | neg_int n =>
          have hrange : InRange 8 n.toInt := ⟨n.le_toInt, n.toInt_lt⟩
          exact sound_as_i64 rfl hrange rfl
      | pos_int n =>
          -- a `u64`: an integer up to `i64::MAX`, a float beyond
          rw [Bindable]
          by_cases hrange : InRange 8 (n.toNat : ℤ)
          · have hlt : n.toNat < 2 ^ 63 := by
              have := hrange.2
              omega
            have hz : (Number.pos_int n).as_i64 = some (n.toNat : ℤ) := by
              rw [Number.as_i64, if_pos hlt]
            rw [sound_as_i64 hz hrange rfl]
            simp only [hrange, true_and, not_true_eq_false, false_and, and_false, or_false]
          · have hlarge : ¬ InRange 4 (n.toNat : ℤ) := by
              intro hsmall
              apply hrange
              rw [InRange] at *
              omega
            rw [sound_pos_int hrange]
            simp only [hrange, hlarge, not_false_eq_true, true_and, and_false, false_and, false_or]

/-- `[500, 1]` for two BIGINT columns: four bytes where eight are read. And a string of four
bytes is an INT4. -/
theorem five_hundred_for_int8 :
    (ParamValue.from_value (fun _ => .ok "") (.number (.pos_int 500))).to_sql .INT8
        = .ok (some [0, 0, 1, 244])
      ∧ ¬ SoundBinding (fun _ => .ok "") (.number (.pos_int 500)) .INT8
      ∧ (ParamValue.from_value (fun _ => .ok "") (.string "abcd")).to_sql .INT4
        = .ok (some (int_be 4 1633837924))
      ∧ ¬ SoundBinding (fun _ => .ok "") (.string "abcd") .INT4 := by
  refine ⟨by decide, ?_, by decide, ?_⟩
  · rw [sound_as_i64 (z := 500) rfl (by decide) rfl]
    decide
  · rw [sound_iff_encodes (d := .text "abcd") rfl rfl, encodes_text]
    decide

end Runlet.Db
