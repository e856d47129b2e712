/-
IP addresses with the text forms the Rust standard library reads and writes
(`std::net`: `Ipv4Addr`, `Ipv6Addr`, `IpAddr`, their `FromStr` and `Display`).

The parser is `core::net::parser` function by function: `read_number` takes every
digit it can and then judges the count, a group of an IPv6 literal first tries an
embedded IPv4 tail, and `parse_with` refuses leftovers. Two facts are used later:
a dotted quad reads back as itself (`from_str_to_string_v4`), and no text that
starts with a bracket is an address (`from_str_bracket`).
-/
import Mathlib.Data.Nat.Digits.Lemmas
import Mathlib.Data.UInt
import Mathlib.Tactic.Ring

set_option autoImplicit false

namespace Net

/-! ## Addresses -/

/-- `a.b.c.d`, by octets. -/
structure Ipv4Addr where
  a : UInt8
  b : UInt8
  c : UInt8
  d : UInt8
  deriving DecidableEq, Repr

/-- The eight 16-bit segments. -/
structure Ipv6Addr where
  s0 : UInt16
  s1 : UInt16
  s2 : UInt16
  s3 : UInt16
  s4 : UInt16
  s5 : UInt16
  s6 : UInt16
  s7 : UInt16
  deriving DecidableEq, Repr

inductive IpAddr
  | v4 (ip : Ipv4Addr)
  | v6 (ip : Ipv6Addr)
  deriving DecidableEq, Repr

structure SocketAddr where
  ip : IpAddr
  port : UInt16
  deriving DecidableEq, Repr

/-- The two octets of a segment, most significant first. -/
def hi (s : UInt16) : UInt8 := (s >>> 8).toUInt8

def lo (s : UInt16) : UInt8 := s.toUInt8

/-- `u16::from_be_bytes`. -/
def from_be_bytes (h l : UInt8) : UInt16 := h.toUInt16 <<< 8 ||| l.toUInt16

namespace Ipv4Addr

def is_loopback (ip : Ipv4Addr) : Bool := ip.a == 127

/-- 10/8, 172.16/12 and 192.168/16. -/
def is_private (ip : Ipv4Addr) : Bool :=
  ip.a == 10 || (ip.a == 172 && 16 ≤ ip.b && ip.b ≤ 31) || (ip.a == 192 && ip.b == 168)

def is_link_local (ip : Ipv4Addr) : Bool := ip.a == 169 && ip.b == 254

def is_broadcast (ip : Ipv4Addr) : Bool := ip == ⟨255, 255, 255, 255⟩

def is_unspecified (ip : Ipv4Addr) : Bool := ip == ⟨0, 0, 0, 0⟩

end Ipv4Addr

namespace Ipv6Addr

def segments (ip : Ipv6Addr) : List UInt16 :=
  [ip.s0, ip.s1, ip.s2, ip.s3, ip.s4, ip.s5, ip.s6, ip.s7]

def of_segments (l : List UInt16) : Ipv6Addr :=
  ⟨l.getD 0 0, l.getD 1 0, l.getD 2 0, l.getD 3 0, l.getD 4 0, l.getD 5 0, l.getD 6 0, l.getD 7 0⟩

def is_loopback (ip : Ipv6Addr) : Bool := ip == ⟨0, 0, 0, 0, 0, 0, 0, 1⟩

def is_unspecified (ip : Ipv6Addr) : Bool := ip == ⟨0, 0, 0, 0, 0, 0, 0, 0⟩

/-- `::ffff:a.b.c.d`. -/
def to_ipv4_mapped (ip : Ipv6Addr) : Option Ipv4Addr :=
  if ip.s0 = 0 ∧ ip.s1 = 0 ∧ ip.s2 = 0 ∧ ip.s3 = 0 ∧ ip.s4 = 0 ∧ ip.s5 = 0xffff then
    some ⟨hi ip.s6, lo ip.s6, hi ip.s7, lo ip.s7⟩
  else none

end Ipv6Addr

/-! ## Display -/

/-- The decimal digits of an octet. -/
def octet_digits (o : UInt8) : List Char := Nat.toDigits 10 o.toNat

def Ipv4Addr.to_string (ip : Ipv4Addr) : String :=
  String.ofList (octet_digits ip.a ++ '.' :: (octet_digits ip.b ++ '.' ::
    (octet_digits ip.c ++ '.' :: octet_digits ip.d)))

/-- Segments in lowercase hexadecimal, joined by colons. -/
def hex_join (l : List UInt16) : String :=
  ":".intercalate (l.map fun s => String.ofList (Nat.toDigits 16 s.toNat))

/-- The first longest run of zero segments, as start and length. -/
def longest_zeros (l : List UInt16) : ℕ × ℕ :=
  (List.range l.length).foldl
    (fun best i =>
      let len := ((l.drop i).takeWhile (· == 0)).length
      if best.2 < len then (i, len) else best)
    (0, 0)

/-- The text of an IPv6 address with its longest run of at least two zero
segments written `::`. -/
def Ipv6Addr.serialize (ip : Ipv6Addr) : String :=
  let run := longest_zeros ip.segments
  if 1 < run.2 then
    hex_join (ip.segments.take run.1) ++ "::" ++ hex_join (ip.segments.drop (run.1 + run.2))
  else hex_join ip.segments

/-- `Display`: a mapped address shows its dotted quad. -/
def Ipv6Addr.to_string (ip : Ipv6Addr) : String :=
  match ip.to_ipv4_mapped with
  | some v4 => "::ffff:" ++ v4.to_string
  | none => ip.serialize

def IpAddr.to_string : IpAddr → String
  | .v4 ip => ip.to_string
  | .v6 ip => ip.to_string

/-! ## The parser -/

/-- `char::to_digit`. -/
def to_digit (radix : ℕ) (c : Char) : Option ℕ :=
  let v :=
    if '0' ≤ c ∧ c ≤ '9' then some (c.toNat - '0'.toNat)
    else if 'a' ≤ c ∧ c ≤ 'z' then some (c.toNat - 'a'.toNat + 10)
    else if 'A' ≤ c ∧ c ≤ 'Z' then some (c.toNat - 'A'.toNat + 10)
    else none
  v.filter (· < radix)

/-- The value of a run of digits. -/
def digits_value (radix : ℕ) (digits : List Char) : ℕ :=
  digits.foldl (fun acc c => acc * radix + (to_digit radix c).getD 0) 0

/-- `str::parse` into an unsigned type of `2 ^ bits` values: one leading `+` is allowed. -/
def parse_unsigned (bits : ℕ) (text : List Char) : Option ℕ :=
  let digits := match text with
    | '+' :: rest => rest
    | _ => text
  if digits ≠ [] ∧ digits.all Char.isDigit ∧ digits_value 10 digits < 2 ^ bits then
    some (digits_value 10 digits)
  else none

theorem parse_unsigned_plus (bits : ℕ) (digits : List Char) :
    parse_unsigned bits ('+' :: digits)
      = if digits ≠ [] ∧ digits.all Char.isDigit ∧ digits_value 10 digits < 2 ^ bits then
          some (digits_value 10 digits)
        else none := rfl

/-- A number without a sign in front: digits that fit. -/
theorem parse_unsigned_of_head {bits : ℕ} {digits : List Char} (h : digits.head? ≠ some '+') :
    parse_unsigned bits digits
      = if digits ≠ [] ∧ digits.all Char.isDigit ∧ digits_value 10 digits < 2 ^ bits then
          some (digits_value 10 digits)
        else none := by
  have hsame : ∀ cs : List Char, cs.head? ≠ some '+' →
      (match cs with | '+' :: rest => rest | _ => cs) = cs := by
    intro cs hcs
    split
    · exact absurd rfl hcs
    · rfl
  unfold parse_unsigned
  simp only [hsame digits h]

/-- What it takes: an optional `+` and digits. There is at least one digit, and the number they
write fits. -/
theorem parse_unsigned_eq_some {bits n : ℕ} {text : List Char} :
    parse_unsigned bits text = some n
      ↔ ∃ sign digits, text = sign ++ digits ∧ (sign = [] ∨ sign = ['+']) ∧ digits ≠ []
        ∧ (∀ c ∈ digits, c.isDigit = true) ∧ digits_value 10 digits = n ∧ n < 2 ^ bits := by
  have hdigits : ∀ digits : List Char,
      (if digits ≠ [] ∧ digits.all Char.isDigit ∧ digits_value 10 digits < 2 ^ bits then
          some (digits_value 10 digits)
        else none) = some n
      ↔ digits ≠ [] ∧ (∀ c ∈ digits, c.isDigit = true) ∧ digits_value 10 digits = n
        ∧ n < 2 ^ bits := by
    intro digits
    rw [Option.ite_none_right_eq_some, Option.some.injEq, List.all_eq_true]
    constructor
    · rintro ⟨⟨hne, hall, hlt⟩, rfl⟩
      exact ⟨hne, hall, rfl, hlt⟩
    · rintro ⟨hne, hall, rfl, hlt⟩
      exact ⟨⟨hne, hall, hlt⟩, rfl⟩
  constructor
  · intro h
    by_cases hhead : text.head? = some '+'
    · obtain ⟨rest, rfl⟩ := List.head?_eq_some_iff.mp hhead
      rw [parse_unsigned_plus] at h
      exact ⟨['+'], rest, rfl, Or.inr rfl, (hdigits rest).mp h⟩
    · rw [parse_unsigned_of_head hhead] at h
      exact ⟨[], text, rfl, Or.inl rfl, (hdigits text).mp h⟩
  · rintro ⟨sign, digits, rfl, rfl | rfl, h⟩
    · have hhead : digits.head? ≠ some '+' := by
        intro hplus
        have hdigit := h.2.1 '+' (List.mem_of_mem_head? hplus)
        exact absurd hdigit (by decide)
      rw [List.nil_append, parse_unsigned_of_head hhead]
      exact (hdigits digits).mpr h
    · rw [List.singleton_append, parse_unsigned_plus]
      exact (hdigits digits).mpr h

/-- `read_number`: all leading digits, at most `max_digits` of them, below
`bound`. -/
def read_number (radix max_digits : ℕ) (allow_leading_zero : Bool) (bound : ℕ) (cs : List Char) :
    Option (ℕ × List Char) :=
  let digits := cs.takeWhile fun c => (to_digit radix c).isSome
  if digits = [] ∨ max_digits < digits.length then none
  else if !allow_leading_zero && digits.head? == some '0' && 1 < digits.length then none
  else if digits_value radix digits < bound then
    some (digits_value radix digits, cs.drop digits.length)
  else none

def read_given_char (target : Char) : List Char → Option (List Char)
  | [] => none
  | c :: rest => if c = target then some rest else none

/-- `read_separator`: every part but the first follows a separator. -/
def read_separator {α : Type} (sep : Char) (index : ℕ)
    (inner : List Char → Option (α × List Char)) (cs : List Char) : Option (α × List Char) :=
  if 0 < index then (read_given_char sep cs).bind inner else inner cs

def read_octet (index : ℕ) (cs : List Char) : Option (ℕ × List Char) :=
  read_separator '.' index (read_number 10 3 false 256) cs

def read_ipv4_addr (cs : List Char) : Option (Ipv4Addr × List Char) := do
  let (a, cs) ← read_octet 0 cs
  let (b, cs) ← read_octet 1 cs
  let (c, cs) ← read_octet 2 cs
  let (d, cs) ← read_octet 3 cs
  return (⟨.ofNat a, .ofNat b, .ofNat c, .ofNat d⟩, cs)

/-- `read_groups` with `left` groups still to fill: the groups read, whether they
end in an IPv4 tail, and the rest of the text. -/
def read_groups : (left index : ℕ) → List Char → List UInt16 × Bool × List Char
  | 0, _, cs => ([], false, cs)
  | left + 1, index, cs =>
    match if 0 < left then read_separator ':' index read_ipv4_addr cs else none with
    | some (v4, rest) => ([from_be_bytes v4.a v4.b, from_be_bytes v4.c v4.d], true, rest)
    | none =>
      match read_separator ':' index (read_number 16 4 true 65536) cs with
      | some (group, rest) =>
        let tail := read_groups left (index + 1) rest
        (.ofNat group :: tail.1, tail.2)
      | none => ([], false, cs)

def read_ipv6_addr (cs : List Char) : Option (Ipv6Addr × List Char) :=
  let (head, head_ipv4, cs) := read_groups 8 0 cs
  if head.length = 8 then some (.of_segments head, cs)
  else if head_ipv4 then none -- no IPv4 part before `::`
  else do
    let cs ← read_given_char ':' cs
    let cs ← read_given_char ':' cs
    let (tail, _, cs) := read_groups (8 - (head.length + 1)) 0 cs
    return (.of_segments
      (head ++ List.replicate (8 - head.length - tail.length) 0 ++ tail), cs)

/-- `parse_with`: nothing may be left over. -/
def parse_with {α : Type} : Option (α × List Char) → Option α
  | some (a, []) => some a
  | some (_, _ :: _) => none
  | none => none

def Ipv4Addr.from_str (s : String) : Option Ipv4Addr :=
  if 15 < s.length then none else parse_with (read_ipv4_addr s.toList)

def Ipv6Addr.from_str (s : String) : Option Ipv6Addr := parse_with (read_ipv6_addr s.toList)

/-- `IpAddr::from_str`: once an IPv4 address is read, no IPv6 one is tried. -/
def IpAddr.from_str (s : String) : Option IpAddr :=
  parse_with <|
    match read_ipv4_addr s.toList with
    | some (ip, rest) => some (.v4 ip, rest)
    | none => (read_ipv6_addr s.toList).map fun r => (.v6 r.1, r.2)

/-! ## Name resolution -/

/-- One `getaddrinfo`: what the system resolver answers for a name. -/
abbrev Dns := String → Except String (List IpAddr)

/-- The addresses of a host: a literal is itself, anything else is looked up. -/
def lookup_host (dns : Dns) (host : String) : Except String (List IpAddr) :=
  match Ipv4Addr.from_str host with
  | some ip => .ok [.v4 ip]
  | none =>
    match Ipv6Addr.from_str host with
    | some ip => .ok [.v6 ip]
    | none => dns host

/-- `(host, port).to_socket_addrs()`. -/
def to_socket_addrs (dns : Dns) (host : String) (port : UInt16) :
    Except String (List SocketAddr) :=
  (lookup_host dns host).map fun ips => ips.map fun ip => ⟨ip, port⟩

/-- A resolver knows no name that starts with a bracket. -/
def RejectsBrackets (dns : Dns) : Prop :=
  ∀ (name : String) (cs : List Char), name.toList = '[' :: cs → ∃ err, dns name = .error err

/-! ## A bracketed text is no address -/

/-- A number starts with a digit. -/
theorem read_number_of_not_digit {radix : ℕ} {c : Char} (hc : to_digit radix c = none)
    (max_digits : ℕ) (allow_leading_zero : Bool) (bound : ℕ) (cs : List Char) :
    read_number radix max_digits allow_leading_zero bound (c :: cs) = none := by
  have hdigits : (c :: cs).takeWhile (fun c => (to_digit radix c).isSome) = [] := by
    rw [List.takeWhile_cons, hc]
    rfl
  rw [read_number, hdigits]
  exact if_pos (Or.inl rfl)

theorem read_ipv4_addr_bracket (cs : List Char) : read_ipv4_addr ('[' :: cs) = none := by
  have hoctet : read_octet 0 ('[' :: cs) = none := by
    rw [read_octet, read_separator, if_neg (lt_irrefl 0)]
    exact read_number_of_not_digit (by decide) 3 false 256 cs
  rw [read_ipv4_addr, hoctet]
  rfl

theorem read_ipv6_addr_bracket (cs : List Char) : read_ipv6_addr ('[' :: cs) = none := by
  have hgroups : read_groups 8 0 ('[' :: cs) = ([], false, '[' :: cs) := by
    have hgroup : read_number 16 4 true 65536 ('[' :: cs) = none :=
      read_number_of_not_digit (by decide) 4 true 65536 cs
    rw [read_groups]
    simp [read_separator, read_ipv4_addr_bracket, hgroup]
  simp [read_ipv6_addr, hgroups, read_given_char]

/-- `IpAddr`'s parser rejects a bracketed text. -/
theorem from_str_bracket {s : String} {cs : List Char} (h : s.toList = '[' :: cs) :
    IpAddr.from_str s = none := by
  rw [IpAddr.from_str, h, read_ipv4_addr_bracket, read_ipv6_addr_bracket]
  rfl

/-- Nor is a bracketed text found by a resolver that rejects brackets. -/
theorem lookup_host_bracket {dns : Dns} (hdns : RejectsBrackets dns) {s : String}
    {cs : List Char} (h : s.toList = '[' :: cs) : ∃ err, lookup_host dns s = .error err := by
  obtain ⟨err, herr⟩ := hdns s cs h
  refine ⟨err, ?_⟩
  have h4 : Ipv4Addr.from_str s = none := by
    rw [Ipv4Addr.from_str, h, read_ipv4_addr_bracket]
    exact ite_self none
  have h6 : Ipv6Addr.from_str s = none := by
    rw [Ipv6Addr.from_str, h, read_ipv6_addr_bracket]
    rfl
  simp only [lookup_host, h4, h6, herr]

/-! ## What is no literal is looked up -/

/-- After a dotted quad, an IPv6 address cannot go on. -/
theorem read_ipv6_addr_of_ipv4 {cs rest : List Char} {ip : Ipv4Addr}
    (h : read_ipv4_addr cs = some (ip, rest)) : read_ipv6_addr cs = none := by
  have hgroups : read_groups 8 0 cs
      = ([from_be_bytes ip.a ip.b, from_be_bytes ip.c ip.d], true, rest) := by
    rw [read_groups]
    simp [read_separator, h]
  simp [read_ipv6_addr, hgroups]

/-- What is no literal is looked up. -/
theorem lookup_host_of_not_literal {s : String} (h : IpAddr.from_str s = none) (dns : Dns) :
    lookup_host dns s = dns s := by
  rw [IpAddr.from_str] at h
  cases h4 : read_ipv4_addr s.toList with
  | none =>
      rw [h4] at h
      cases h6 : read_ipv6_addr s.toList with
      | none => simp [lookup_host, Ipv4Addr.from_str, Ipv6Addr.from_str, h4, h6, parse_with]
      | some r =>
          obtain ⟨ip, rest⟩ := r
          cases rest with
          | nil => simp [h6, parse_with] at h
          | cons c rest =>
              simp [lookup_host, Ipv4Addr.from_str, Ipv6Addr.from_str, h4, h6, parse_with]
  | some r =>
      obtain ⟨ip, rest⟩ := r
      rw [h4] at h
      cases rest with
      | nil => simp [parse_with] at h
      | cons c rest =>
          simp [lookup_host, Ipv4Addr.from_str, Ipv6Addr.from_str, h4,
            read_ipv6_addr_of_ipv4 h4, parse_with]

/-! ## A dotted quad reads back -/

theorem to_digit_digitChar {d : ℕ} (h : d < 10) :
    to_digit 10 d.digitChar = some d ∧ (d.digitChar = '0' → d = 0) := by
  have hall : ∀ d : Fin 10, to_digit 10 d.val.digitChar = some d.val
      ∧ (d.val.digitChar = '0' → d.val = 0) := by decide
  exact hall ⟨d, h⟩

/-- What reading needs of the digits of an octet: one to three of them, no zero
in front, and their value. -/
theorem octet_digits_spec (o : UInt8) :
    octet_digits o ≠ [] ∧ (octet_digits o).length ≤ 3
      ∧ ((octet_digits o).head? == some '0' && 1 < (octet_digits o).length) = false
      ∧ (∀ c ∈ octet_digits o, (to_digit 10 c).isSome)
      ∧ digits_value 10 (octet_digits o) = o.toNat := by
  have hlt := o.toNat_lt
  rw [octet_digits]
  generalize o.toNat = n at hlt ⊢
  obtain ⟨hlast, -⟩ := to_digit_digitChar (Nat.mod_lt n (by decide))
  -- one, two or three digits
  by_cases hone : n < 10
  · obtain ⟨hn, -⟩ := to_digit_digitChar hone
    rw [Nat.toDigits_of_lt_base hone]
    simp [digits_value, hn]
  rw [Nat.toDigits_of_base_le (by decide) (not_lt.mp hone)]
  by_cases htwo : n / 10 < 10
  · obtain ⟨hfirst, hzero⟩ := to_digit_digitChar htwo
    have hlead : (n / 10).digitChar ≠ '0' := by
      intro h
      have := hzero h
      omega
    rw [Nat.toDigits_of_lt_base htwo]
    refine ⟨by simp, by simp, by simp [hlead], by simp [hfirst, hlast], ?_⟩
    have hvalue : digits_value 10 ([(n / 10).digitChar] ++ [(n % 10).digitChar])
        = n / 10 * 10 + n % 10 := by simp [digits_value, hfirst, hlast]
    omega
  · have hthree : n / 10 / 10 < 10 := by omega
    obtain ⟨hfirst, hzero⟩ := to_digit_digitChar hthree
    obtain ⟨hsecond, -⟩ := to_digit_digitChar (Nat.mod_lt (n / 10) (by decide))
    have hlead : (n / 10 / 10).digitChar ≠ '0' := by
      intro h
      have := hzero h
      omega
    rw [Nat.toDigits_of_base_le (by decide) (not_lt.mp htwo), Nat.toDigits_of_lt_base hthree]
    refine ⟨by simp, by simp, by simp [hlead], by simp [hfirst, hsecond, hlast], ?_⟩
    have hvalue : digits_value 10 ([(n / 10 / 10).digitChar] ++ [(n / 10 % 10).digitChar]
          ++ [(n % 10).digitChar])
        = (n / 10 / 10 * 10 + n / 10 % 10) * 10 + n % 10 := by
      simp [digits_value, hfirst, hsecond, hlast]
    omega

/-- Reading one octet in front of anything that is not a digit. -/
theorem read_number_octet (o : UInt8) (rest : List Char)
    (hrest : ∀ c ∈ rest.head?, (to_digit 10 c).isSome = false) :
    read_number 10 3 false 256 (octet_digits o ++ rest) = some (o.toNat, rest) := by
  obtain ⟨hne, hlen, hzero, hall, hval⟩ := octet_digits_spec o
  have htake : (octet_digits o ++ rest).takeWhile (fun c => (to_digit 10 c).isSome)
      = octet_digits o := by
    rw [List.takeWhile_append_of_pos hall]
    cases rest with
    | nil => simp
    | cons c rest =>
        rw [List.takeWhile_cons, hrest c rfl]
        simp
  rw [read_number]
  simp only [htake, hval]
  rw [if_neg (not_or.mpr ⟨hne, not_lt.mpr hlen⟩), if_neg, if_pos o.toNat_lt, List.drop_left]
  rw [Bool.and_assoc, hzero]
  simp

theorem read_octet_first (o : UInt8) (rest : List Char)
    (hrest : ∀ c ∈ rest.head?, (to_digit 10 c).isSome = false) :
    read_octet 0 (octet_digits o ++ rest) = some (o.toNat, rest) := by
  simp [read_octet, read_separator, read_number_octet o rest hrest]

theorem read_octet_next (index : ℕ) (o : UInt8) (rest : List Char)
    (hrest : ∀ c ∈ rest.head?, (to_digit 10 c).isSome = false) :
    read_octet (index + 1) ('.' :: (octet_digits o ++ rest)) = some (o.toNat, rest) := by
  simp [read_octet, read_separator, read_given_char, read_number_octet o rest hrest]

/-- An address is read as it was written. -/
theorem read_ipv4_addr_to_string (ip : Ipv4Addr) :
    read_ipv4_addr ip.to_string.toList = some (ip, []) := by
  have hdot : ∀ rest : List Char, ∀ c ∈ ('.' :: rest).head?, (to_digit 10 c).isSome = false := by
    rintro rest c ⟨⟩
    decide
  rw [Ipv4Addr.to_string, String.toList_ofList, read_ipv4_addr,
    read_octet_first ip.a _ (hdot _)]
  simp only [Option.bind_eq_bind, Option.bind_some]
  rw [read_octet_next 0 ip.b _ (hdot _)]
  simp only [Option.bind_some]
  rw [read_octet_next 1 ip.c _ (hdot _)]
  simp only [Option.bind_some]
  rw [← List.append_nil (octet_digits ip.d), read_octet_next 2 ip.d [] (by nofun)]
  simp

/-- `IpAddr`'s parser reads back the dotted form of an IPv4 address. -/
theorem from_str_to_string_v4 (ip : Ipv4Addr) : IpAddr.from_str ip.to_string = some (.v4 ip) := by
  rw [IpAddr.from_str, read_ipv4_addr_to_string]
  rfl

/-! ## Networks -/

def Ipv4Addr.octets (ip : Ipv4Addr) : List UInt8 := [ip.a, ip.b, ip.c, ip.d]

/-- The address as one number. -/
def Ipv4Addr.to_bits (ip : Ipv4Addr) : ℕ := Nat.ofDigits 256 (ip.octets.reverse.map UInt8.toNat)

def Ipv6Addr.to_bits (ip : Ipv6Addr) : ℕ :=
  Nat.ofDigits 65536 (ip.segments.reverse.map UInt16.toNat)

/-- A network: its first address and the length of its prefix. -/
structure Network (Addr : Type) where
  first : Addr
  len : ℕ
  deriving DecidableEq, Repr

/-- The leading bits of the address are the network's. -/
def Ipv4Addr.within (ip : Ipv4Addr) (net : Network Ipv4Addr) : Prop :=
  ip.to_bits / 2 ^ (32 - net.len) = net.first.to_bits / 2 ^ (32 - net.len)

def Ipv6Addr.within (ip : Ipv6Addr) (net : Network Ipv6Addr) : Prop :=
  ip.to_bits / 2 ^ (128 - net.len) = net.first.to_bits / 2 ^ (128 - net.len)

theorem Ipv4Addr.to_bits_eq (ip : Ipv4Addr) : ip.to_bits
    = ((ip.a.toNat * 256 + ip.b.toNat) * 256 + ip.c.toNat) * 256 + ip.d.toNat := by
  simp only [to_bits, octets, List.reverse_cons, List.reverse_nil, List.nil_append,
    List.cons_append, List.map_cons, List.map_nil, Nat.ofDigits_cons, Nat.ofDigits_nil]
  ring

theorem Ipv6Addr.to_bits_eq (ip : Ipv6Addr) : ip.to_bits
    = ((((((ip.s0.toNat * 65536 + ip.s1.toNat) * 65536 + ip.s2.toNat) * 65536 + ip.s3.toNat)
      * 65536 + ip.s4.toNat) * 65536 + ip.s5.toNat) * 65536 + ip.s6.toNat) * 65536 + ip.s7.toNat := by
  simp only [to_bits, segments, List.reverse_cons, List.reverse_nil, List.nil_append,
    List.cons_append, List.map_cons, List.map_nil, Nat.ofDigits_cons, Nat.ofDigits_nil]
  ring

theorem Ipv6Addr.segments_lt (ip : Ipv6Addr) :
    ip.s0.toNat < 65536 ∧ ip.s1.toNat < 65536 ∧ ip.s2.toNat < 65536 ∧ ip.s3.toNat < 65536
      ∧ ip.s4.toNat < 65536 ∧ ip.s5.toNat < 65536 ∧ ip.s6.toNat < 65536 ∧ ip.s7.toNat < 65536 :=
  ⟨ip.s0.toNat_lt, ip.s1.toNat_lt, ip.s2.toNat_lt, ip.s3.toNat_lt, ip.s4.toNat_lt, ip.s5.toNat_lt,
    ip.s6.toNat_lt, ip.s7.toNat_lt⟩

/-- Pieces of one width are read off the number they make. -/
theorem ofDigits_map_inj {α : Type} {f : α → ℕ} {b : ℕ} (hb : 1 < b) (hf : Function.Injective f)
    (hlt : ∀ x, f x < b) {xs ys : List α} (hlen : xs.length = ys.length)
    (h : Nat.ofDigits b (xs.map f) = Nat.ofDigits b (ys.map f)) : xs = ys := by
  have hdigit : ∀ zs : List α, ∀ n ∈ zs.map f, n < b := by
    intro zs n hn
    obtain ⟨z, -, rfl⟩ := List.mem_map.mp hn
    exact hlt z
  have hmap : (xs.map f).length = (ys.map f).length := by
    rw [List.length_map, List.length_map, hlen]
  exact List.map_injective_iff.mpr hf (Nat.ofDigits_inj_of_len_eq hb hmap (hdigit xs) (hdigit ys) h)

/-- An address is its bits. -/
theorem Ipv4Addr.to_bits_inj {v w : Ipv4Addr} : v.to_bits = w.to_bits ↔ v = w := by
  constructor
  · intro h
    have hoctets := List.reverse_inj.mp (ofDigits_map_inj (by decide)
      (fun _ _ => UInt8.toNat_inj.mp) UInt8.toNat_lt (by simp [octets]) h)
    cases v
    cases w
    simpa [octets] using hoctets
  · rintro rfl
    rfl

/-- An address is its bits. -/
theorem Ipv6Addr.to_bits_inj {v w : Ipv6Addr} : v.to_bits = w.to_bits ↔ v = w := by
  constructor
  · intro h
    have hsegments := List.reverse_inj.mp (ofDigits_map_inj (by decide)
      (fun _ _ => UInt16.toNat_inj.mp) UInt16.toNat_lt (by simp [segments]) h)
    cases v
    cases w
    simpa [segments] using hsegments
  · rintro rfl
    rfl

/-- Two bytes are their segment. -/
theorem hi_lo (s : UInt16) : (hi s).toNat * 256 + (lo s).toNat = s.toNat := by
  have hlt := s.toNat_lt
  have hshift : (8 : UInt16).toNat % 16 = 8 := rfl
  have hhi : (hi s).toNat = s.toNat / 256 := by
    rw [hi, UInt16.toNat_toUInt8, UInt16.toNat_shiftRight, hshift, Nat.shiftRight_eq_div_pow,
      Nat.mod_eq_of_lt (by omega)]
  have hlo : (lo s).toNat = s.toNat % 256 := UInt16.toNat_toUInt8 s
  rw [hhi, hlo]
  omega

/-- A mask of leading ones cuts the other bits off. -/
theorem and_mask {w k n : ℕ} (hk : k ≤ w) (h : n < 2 ^ w) :
    n &&& ((2 ^ (w - k) - 1) * 2 ^ k) = n / 2 ^ k * 2 ^ k := by
  apply Nat.eq_of_testBit_eq
  intro i
  rw [Nat.testBit_and, Nat.testBit_mul_two_pow, Nat.testBit_mul_two_pow,
    Nat.testBit_two_pow_sub_one, Nat.testBit_div_two_pow]
  by_cases hi : k ≤ i
  · rw [Nat.sub_add_cancel hi]
    by_cases hw : i < w
    · have hlt : i - k < w - k := by omega
      simp [hi, hlt]
    · have hbit : n.testBit i = false :=
        Nat.testBit_lt_two_pow (lt_of_lt_of_le h (Nat.pow_le_pow_right (by decide) (by omega)))
      simp [hbit]
  · simp [hi]

/-- A prefix of one to two octets: the first octet as a whole, and of the second the bits that the
prefix has left. -/
theorem Ipv4Addr.within_iff (v : Ipv4Addr) {n m : UInt8} {k : ℕ} (hk : k ≤ 8) :
    v.within ⟨⟨n, m, 0, 0⟩, 8 + k⟩
      ↔ v.a = n ∧ v.b.toNat / 2 ^ (8 - k) = m.toNat / 2 ^ (8 - k) := by
  have hpow : 2 ^ (8 - k) * 2 ^ k = 256 := by
    rw [← pow_add, Nat.sub_add_cancel hk]
    rfl
  have hdiv : ∀ w : Ipv4Addr,
      w.to_bits / 2 ^ (32 - (8 + k)) = w.b.toNat / 2 ^ (8 - k) + 2 ^ k * w.a.toNat := by
    intro w
    have hc := w.c.toNat_lt
    have hd := w.d.toNat_lt
    have hlen : 32 - (8 + k) = 16 + (8 - k) := by omega
    rw [hlen, pow_add, ← Nat.div_div_eq_div_mul, Ipv4Addr.to_bits_eq]
    have hhead : (((w.a.toNat * 256 + w.b.toNat) * 256 + w.c.toNat) * 256 + w.d.toNat) / 2 ^ 16
        = w.b.toNat + 2 ^ (8 - k) * (2 ^ k * w.a.toNat) := by
      rw [← Nat.mul_assoc, hpow]
      omega
    rw [hhead, Nat.add_mul_div_left _ _ (Nat.two_pow_pos _)]
  have hlt : ∀ o : UInt8, o.toNat / 2 ^ (8 - k) < 2 ^ k := by
    intro o
    rw [Nat.div_lt_iff_lt_mul (Nat.two_pow_pos _), Nat.mul_comm, hpow]
    exact o.toNat_lt
  rw [Ipv4Addr.within, hdiv, hdiv, ← UInt8.toNat_inj]
  constructor
  · intro h
    have hquot := congrArg (· / 2 ^ k) h
    have hrest := congrArg (· % 2 ^ k) h
    simp only [Nat.add_mul_div_left _ _ (Nat.two_pow_pos k), Nat.div_eq_of_lt (hlt _),
      Nat.zero_add] at hquot
    simp only [Nat.add_mul_mod_self_left, Nat.mod_eq_of_lt (hlt _)] at hrest
    exact ⟨hquot, hrest⟩
  · rintro ⟨ha, hb⟩
    rw [ha, hb]

theorem Ipv4Addr.within_self (v w : Ipv4Addr) : v.within ⟨w, 32⟩ ↔ v = w := by
  rw [Ipv4Addr.within, Nat.sub_self, pow_zero, Nat.div_one, Nat.div_one, Ipv4Addr.to_bits_inj]

/-- A mask of leading ones compares the bits it leaves. -/
theorem mask_eq_iff {s mask base : UInt16} {k n : ℕ} (hk : k ≤ 16)
    (hmask : mask.toNat = (2 ^ (16 - k) - 1) * 2 ^ k) (hbase : base.toNat = n * 2 ^ k) :
    (s &&& mask == base) = true ↔ s.toNat / 2 ^ k = n := by
  rw [beq_iff_eq, ← UInt16.toNat_inj, UInt16.toNat_and, hmask, hbase, and_mask hk s.toNat_lt]
  exact Nat.mul_left_inj (Nat.two_pow_pos k).ne'

end Net
