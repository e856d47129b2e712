/-
The exact decimals of the sandbox (`$` / `Decimal`): the native
`__decimal(op, lhs, rhs)` of `crates/runlet-core/src/decimal.rs`.

`rust_decimal` is a `DecimalLib` over the type of its decimals. Every operation
crosses the bridge as text.
-/
import Runlet.Json
import Runlet.Lib.Net
import Runlet.Lib.Text

set_option autoImplicit false

namespace Runlet.Decimal

open Text Net Runlet.Json

/-- `rust_decimal::Decimal`; the rounding is `MidpointAwayFromZero`. -/
structure DecimalLib (D : Type) where
  from_str : String → Except String D
  to_string : D → String
  zero : D
  from_u64 : ℕ → D
  abs : D → D
  checked_add : D → D → Option D
  checked_sub : D → D → Option D
  checked_mul : D → D → Option D
  checked_div : D → D → Option D
  round_dp : D → ℕ → D
  cmp : D → D → Ordering

section Operations

variable {D : Type} (lib : DecimalLib D)

def parse_decimal (value : String) : Except String D :=
  (lib.from_str (trim value)).mapError fun err => s!"invalid decimal '{value}': {err}"

/-- The text of a checked result. -/
def checked_text (out : Option D) : Except String String :=
  match out with
  | some value => .ok (lib.to_string value)
  | none => .error "decimal overflow"

def negate (value : D) : Except String String := checked_text lib (lib.checked_sub lib.zero value)

def round (value : D) (places_str : String) : Except String String :=
  match parse_unsigned 32 (trim_chars places_str.toList) with
  | some places => .ok (lib.to_string (lib.round_dp value places))
  | none => .error s!"invalid round places: '{places_str}'"

/-- The fraction digits of the minor unit; 2 when none are given. -/
def minor_places (places_str : String) : Except String ℕ :=
  let trimmed := trim_chars places_str.toList
  if trimmed = [] then .ok 2
  else
    match parse_unsigned 32 trimmed with
    | none => .error s!"invalid minor-unit places: '{places_str}'"
    | some places =>
      if 18 < places then .error s!"minor-unit places too large: {places} (max 18)"
      else .ok places

/-- `10_u64.checked_pow(places)`, as a decimal. -/
def scale_factor (places : ℕ) : Except String D :=
  if 10 ^ places < 2 ^ 64 then .ok (lib.from_u64 (10 ^ places))
  else .error "minor-unit scale overflow"

def to_minor (value : D) (places_str : String) : Except String String := do
  let places ← minor_places places_str
  let factor ← scale_factor lib places
  match lib.checked_mul value factor with
  | some scaled => .ok (lib.to_string (lib.round_dp scaled 0))
  | none => .error "decimal overflow"

def from_minor (value : D) (places_str : String) : Except String String := do
  let places ← minor_places places_str
  let factor ← scale_factor lib places
  match lib.checked_div value factor with
  | some major => .ok (lib.to_string (lib.round_dp major places))
  | none => .error "decimal overflow"

def compare (left : D) (rhs : String) : Except String String := do
  let right ← parse_decimal lib rhs
  match lib.cmp left right with
  | .lt => .ok "-1"
  | .eq => .ok "0"
  | .gt => .ok "1"

def arithmetic (op : String) (left : D) (rhs : String) : Except String String := do
  let right ← parse_decimal lib rhs
  match op with
  | "add" => checked_text lib (lib.checked_add left right)
  | "sub" => checked_text lib (lib.checked_sub left right)
  | "mul" => checked_text lib (lib.checked_mul left right)
  | "div" =>
    if lib.cmp right lib.zero = .eq then .error "division by zero"
    else checked_text lib (lib.checked_div left right)
  | other => .error s!"unknown decimal op: {other}"

def dispatch (op lhs rhs : String) : Except String String := do
  let left ← parse_decimal lib lhs
  match op with
  | "parse" => .ok (lib.to_string left)
  | "neg" => negate lib left
  | "abs" => .ok (lib.to_string (lib.abs left))
  | "round" => round lib left rhs
  | "to_cents" => to_minor lib left rhs
  | "from_cents" => from_minor lib left rhs
  | "cmp" => compare lib left rhs
  | "add" | "sub" | "mul" | "div" => arithmetic lib op left rhs
  | other => .error s!"unknown decimal op: {other}"

/-- The success envelope. -/
def value_json (to_string : Value → Except String String) (value : String) : String :=
  let escaped := ((to_string (.string value)).toOption).getD "\"0\""
  "\x7b\"v\":" ++ escaped ++ "\x7d"

/-- The closure bound to `__decimal`. -/
def native_decimal (to_string : Value → Except String String) (op lhs rhs : String) : String :=
  match dispatch lib op lhs rhs with
  | .ok value => value_json to_string value
  | .error err => error_json to_string err

end Operations

end Runlet.Decimal
