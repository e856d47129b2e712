/-
Base64 (the `base64` crate): the standard alphabet with padding, and the URL-safe one without.

Decoding is strict, as the crate's is: the padding is exactly the one an encoder writes, and the
bits of the last symbol that carry nothing are zero. Hence a text decodes if and only if it is what
encoding writes (`decode_eq_some`).
-/
import Mathlib.Data.List.Basic
import Mathlib.Tactic.IntervalCases

set_option autoImplicit false

namespace Base64

/-- `general_purpose::STANDARD` and `general_purpose::URL_SAFE_NO_PAD`. -/
inductive Variant
  | standard
  | url_safe_no_pad
  deriving DecidableEq, Repr

namespace Variant

/-- The symbols for 62 and 63. -/
def last_symbols : Variant → Char × Char
  | standard => ('+', '/')
  | url_safe_no_pad => ('-', '_')

def padding : Variant → ℕ → List Char
  | standard, n => List.replicate n '='
  | url_safe_no_pad, _ => []

end Variant

variable (v : Variant)

/-- The symbol of six bits. -/
def symbol (n : ℕ) : Char :=
  if n < 26 then Char.ofNat (0x41 + n)
  else if n < 52 then Char.ofNat (0x61 + (n - 26))
  else if n < 62 then Char.ofNat (0x30 + (n - 52))
  else if n = 62 then v.last_symbols.1
  else v.last_symbols.2

/-- The six bits of a symbol. -/
def sextet (c : Char) : Option ℕ := (List.range 64).find? fun n => symbol v n == c

/-! ## Encoding -/

/-- Three bytes are four symbols; one or two that are left over are two or three, and padding. -/
def encode : List UInt8 → List Char
  | [] => []
  | [a] => [symbol v (a.toNat / 4), symbol v (a.toNat % 4 * 16)] ++ v.padding 2
  | [a, b] =>
    [symbol v (a.toNat / 4), symbol v (a.toNat % 4 * 16 + b.toNat / 16),
      symbol v (b.toNat % 16 * 4)] ++ v.padding 1
  | a :: b :: c :: rest =>
    symbol v (a.toNat / 4) :: symbol v (a.toNat % 4 * 16 + b.toNat / 16)
      :: symbol v (b.toNat % 16 * 4 + c.toNat / 64) :: symbol v (c.toNat % 64) :: encode rest

/-! ## Decoding -/

def first_byte (w x : ℕ) : UInt8 := UInt8.ofNat (w * 4 + x / 16)

def second_byte (x y : ℕ) : UInt8 := UInt8.ofNat (x % 16 * 16 + y / 4)

def third_byte (y z : ℕ) : UInt8 := UInt8.ofNat (y % 4 * 64 + z)

/-- The bytes of a group that is not whole: `tail` is what stands behind its symbols. -/
def decode_last (symbols tail : List Char) : Option (List UInt8) := do
  let sextets ← symbols.mapM (sextet v)
  match sextets with
  | [w, x] => if x % 16 = 0 ∧ tail = v.padding 2 then some [first_byte w x] else none
  | [w, x, y] =>
    if y % 4 = 0 ∧ tail = v.padding 1 then some [first_byte w x, second_byte x y] else none
  | _ => none

def decode : List Char → Option (List UInt8)
  | [] => some []
  | [a, b] => decode_last v [a, b] []
  | [a, b, c] => decode_last v [a, b, c] []
  | [a, b, c, d] =>
    match sextet v a, sextet v b, sextet v c, sextet v d with
    | some w, some x, some y, some z => some [first_byte w x, second_byte x y, third_byte y z]
    | some _, some _, some _, none => decode_last v [a, b, c] [d]
    | _, _, _, _ => decode_last v [a, b] [c, d]
  | a :: b :: c :: d :: rest =>
    match sextet v a, sextet v b, sextet v c, sextet v d with
    | some w, some x, some y, some z =>
      (decode rest).map fun bytes => first_byte w x :: second_byte x y :: third_byte y z :: bytes
    | _, _, _, _ => none
  | [_] => none

/-! ## Symbols -/

variable {v}

/-- A symbol is read as what it was written for. -/
theorem sextet_symbol {n : ℕ} (hn : n < 64) : sextet v (symbol v n) = some n := by
  have hall : ∀ v : Variant, ∀ n : Fin 64, sextet v (symbol v n.val) = some n.val := by
    intro v
    cases v <;> decide +kernel
  exact hall v ⟨n, hn⟩

theorem sextet_eq_some {c : Char} {n : ℕ} (h : sextet v c = some n) : n < 64 ∧ c = symbol v n := by
  have hmem := List.mem_of_find?_eq_some h
  have heq := List.find?_some h
  exact ⟨List.mem_range.mp hmem, (beq_iff_eq.mp heq).symm⟩

/-- A padding character is no symbol. -/
theorem sextet_pad : sextet v '=' = none := by
  cases v <;> decide +kernel

/-- The characters of an encoding. -/
theorem symbol_plain {n : ℕ} (hn : n < 64) :
    (symbol v n).isAlphanum = true ∨ symbol v n ∈ ['+', '/', '-', '_'] := by
  have hall : ∀ v : Variant, ∀ n : Fin 64,
      (symbol v n.val).isAlphanum = true ∨ symbol v n.val ∈ ['+', '/', '-', '_'] := by
    intro v
    cases v <;> decide +kernel
  exact hall v ⟨n, hn⟩

/-! ## The round trip -/

/-- The first byte of a group, out of its two sextets, -/
theorem first_byte_of (a : UInt8) {x : ℕ} (hx : x < 16) :
    first_byte (a.toNat / 4) (a.toNat % 4 * 16 + x) = a := by
  have ha := a.toNat_lt
  apply UInt8.toNat_inj.mp
  rw [first_byte, UInt8.toNat_ofNat']
  omega

/-- the second, -/
theorem second_byte_of (b : UInt8) (w : ℕ) {y : ℕ} (hy : y < 4) :
    second_byte (w * 16 + b.toNat / 16) (b.toNat % 16 * 4 + y) = b := by
  have hb := b.toNat_lt
  apply UInt8.toNat_inj.mp
  rw [second_byte, UInt8.toNat_ofNat']
  omega

/-- and the third. -/
theorem third_byte_of (c : UInt8) (x : ℕ) :
    third_byte (x * 4 + c.toNat / 64) (c.toNat % 64) = c := by
  have hc := c.toNat_lt
  apply UInt8.toNat_inj.mp
  rw [third_byte, UInt8.toNat_ofNat']
  omega

/-- One byte that is left over. -/
theorem decode_last_one (a : UInt8) :
    decode_last v [symbol v (a.toNat / 4), symbol v (a.toNat % 4 * 16)] (v.padding 2)
      = some [a] := by
  have ha := a.toNat_lt
  have hbyte := first_byte_of a (x := 0) (by omega)
  rw [Nat.add_zero] at hbyte
  unfold decode_last
  simp only [List.mapM_cons, List.mapM_nil, sextet_symbol (show a.toNat / 4 < 64 by omega),
    sextet_symbol (show a.toNat % 4 * 16 < 64 by omega), Option.pure_def, Option.bind_eq_bind,
    Option.bind_some]
  rw [if_pos ⟨by omega, trivial⟩, hbyte]

/-- Two bytes that are left over. -/
theorem decode_last_two (a b : UInt8) :
    decode_last v [symbol v (a.toNat / 4), symbol v (a.toNat % 4 * 16 + b.toNat / 16),
      symbol v (b.toNat % 16 * 4)] (v.padding 1) = some [a, b] := by
  have ha := a.toNat_lt
  have hb := b.toNat_lt
  have hsecond := second_byte_of b (a.toNat % 4) (y := 0) (by omega)
  rw [Nat.add_zero] at hsecond
  unfold decode_last
  simp only [List.mapM_cons, List.mapM_nil, sextet_symbol (show a.toNat / 4 < 64 by omega),
    sextet_symbol (show a.toNat % 4 * 16 + b.toNat / 16 < 64 by omega),
    sextet_symbol (show b.toNat % 16 * 4 < 64 by omega), Option.pure_def, Option.bind_eq_bind,
    Option.bind_some]
  rw [if_pos ⟨by omega, trivial⟩, first_byte_of a (by omega), hsecond]

/-- Two symbols and their padding are the last group. -/
theorem decode_pad_two (a b : Char) :
    decode v ([a, b] ++ v.padding 2) = decode_last v [a, b] (v.padding 2) := by
  cases v with
  | url_safe_no_pad => rfl
  | standard =>
      show decode _ [a, b, '=', '='] = _
      simp only [decode, sextet_pad]
      cases sextet .standard a <;> cases sextet .standard b <;> rfl

/-- So are three symbols and theirs. -/
theorem decode_pad_one {a b c : Char} {w x y : ℕ} (ha : sextet v a = some w)
    (hb : sextet v b = some x) (hc : sextet v c = some y) :
    decode v ([a, b, c] ++ v.padding 1) = decode_last v [a, b, c] (v.padding 1) := by
  cases v with
  | url_safe_no_pad => rfl
  | standard =>
      show decode _ [a, b, c, '='] = _
      simp only [decode, sextet_pad, ha, hb, hc]
      rfl

/-- A whole group in front of the rest. -/
theorem decode_group {w x y z : ℕ} (hw : w < 64) (hx : x < 64) (hy : y < 64) (hz : z < 64)
    (rest : List Char) :
    decode v (symbol v w :: symbol v x :: symbol v y :: symbol v z :: rest)
      = (decode v rest).map fun bytes =>
          first_byte w x :: second_byte x y :: third_byte y z :: bytes := by
  cases rest with
  | nil =>
      simp only [decode, sextet_symbol hw, sextet_symbol hx, sextet_symbol hy, sextet_symbol hz]
      rfl
  | cons c rest =>
      rw [decode, sextet_symbol hw, sextet_symbol hx, sextet_symbol hy, sextet_symbol hz]
      simp

/-- **Decoding undoes encoding.** Three bytes at a time, and then one, two or none at the end. -/
theorem decode_encode (bytes : List UInt8) : decode v (encode v bytes) = some bytes := by
  fun_induction encode v bytes with
  | case1 => rfl
  | case2 a => rw [decode_pad_two, decode_last_one]
  | case3 a b =>
      have ha := a.toNat_lt
      have hb := b.toNat_lt
      rw [decode_pad_one (sextet_symbol (by omega)) (sextet_symbol (by omega))
        (sextet_symbol (by omega)), decode_last_two]
  | case4 a b c rest ih =>
      have ha := a.toNat_lt
      have hb := b.toNat_lt
      have hc := c.toNat_lt
      rw [decode_group (by omega) (by omega) (by omega) (by omega), ih, Option.map_some,
        first_byte_of a (by omega), second_byte_of b _ (by omega), third_byte_of c]

/-- Bytes are known by their text. -/
theorem encode_injective {bytes bytes' : List UInt8} (h : encode v bytes = encode v bytes') :
    bytes = bytes' := by
  have hdecode := decode_encode (v := v) bytes
  rw [h, decode_encode, Option.some.injEq] at hdecode
  exact hdecode.symm

/-! ## What decodes -/

/-- Symbols that are read are those that are written for what was read. -/
theorem symbols_of_sextets {symbols : List Char} {sextets : List ℕ}
    (h : symbols.mapM (sextet v) = some sextets) :
    symbols = sextets.map (symbol v) ∧ ∀ n ∈ sextets, n < 64 := by
  induction symbols generalizing sextets with
  | nil =>
      rw [List.mapM_nil, Option.pure_def, Option.some.injEq] at h
      subst h
      exact ⟨rfl, nofun⟩
  | cons c symbols ih =>
      rw [List.mapM_cons] at h
      obtain ⟨n, hn, h⟩ := Option.bind_eq_some_iff.mp h
      obtain ⟨rest, hrest, h⟩ := Option.bind_eq_some_iff.mp h
      rw [Option.pure_def, Option.some.injEq] at h
      subst h
      obtain ⟨hlt, rfl⟩ := sextet_eq_some hn
      obtain ⟨rfl, hall⟩ := ih hrest
      exact ⟨rfl, List.forall_mem_cons.mpr ⟨hlt, hall⟩⟩

theorem first_byte_toNat {w x : ℕ} (hw : w < 64) (hx : x < 64) :
    (first_byte w x).toNat = w * 4 + x / 16 := by
  rw [first_byte, UInt8.toNat_ofNat']
  omega

theorem second_byte_toNat {x y : ℕ} (hy : y < 64) :
    (second_byte x y).toNat = x % 16 * 16 + y / 4 := by
  rw [second_byte, UInt8.toNat_ofNat']
  omega

theorem third_byte_toNat {y z : ℕ} (hz : z < 64) :
    (third_byte y z).toNat = y % 4 * 64 + z := by
  rw [third_byte, UInt8.toNat_ofNat']
  omega

/-- A group that is not whole decodes only from what its bytes encode to. The bits that the last
symbol has too many of must be zero, or else a second text would decode to the same bytes. -/
theorem encode_of_decode_last {symbols tail : List Char} {bytes : List UInt8}
    (h : decode_last v symbols tail = some bytes) : encode v bytes = symbols ++ tail := by
  unfold decode_last at h
  obtain ⟨sextets, hsextets, hgroup⟩ := Option.bind_eq_some_iff.mp h
  obtain ⟨hsymbols, hlt⟩ := symbols_of_sextets hsextets
  rw [hsymbols]
  clear h hsextets hsymbols
  split at hgroup
  · rename_i w x
    have hw := hlt w (by simp)
    have hx := hlt x (by simp)
    split at hgroup
    · rename_i hzero
      rw [Option.some.injEq] at hgroup
      rw [← hgroup, encode, first_byte_toNat hw hx, hzero.2]
      have hfirst : (w * 4 + x / 16) / 4 = w := by omega
      have hlast : (w * 4 + x / 16) % 4 * 16 = x := by omega
      rw [hfirst, hlast]
      rfl
    · exact absurd hgroup nofun
  · rename_i w x y
    have hw := hlt w (by simp)
    have hx := hlt x (by simp)
    have hy := hlt y (by simp)
    split at hgroup
    · rename_i hzero
      rw [Option.some.injEq] at hgroup
      rw [← hgroup, encode, first_byte_toNat hw hx, second_byte_toNat hy, hzero.2]
      have hfirst : (w * 4 + x / 16) / 4 = w := by omega
      have hsecond : (w * 4 + x / 16) % 4 * 16 + (x % 16 * 16 + y / 4) / 16 = x := by omega
      have hlast : (x % 16 * 16 + y / 4) % 16 * 4 = y := by omega
      rw [hfirst, hsecond, hlast]
      rfl
    · exact absurd hgroup nofun
  · exact absurd hgroup nofun

/-- A whole group is what its three bytes encode to. -/
theorem encode_group {w x y z : ℕ} (hw : w < 64) (hx : x < 64) (hy : y < 64) (hz : z < 64)
    (bytes : List UInt8) :
    encode v (first_byte w x :: second_byte x y :: third_byte y z :: bytes)
      = symbol v w :: symbol v x :: symbol v y :: symbol v z :: encode v bytes := by
  rw [encode, first_byte_toNat hw hx, second_byte_toNat hy, third_byte_toNat hz]
  have hfirst : (w * 4 + x / 16) / 4 = w := by omega
  have hsecond : (w * 4 + x / 16) % 4 * 16 + (x % 16 * 16 + y / 4) / 16 = x := by omega
  have hthird : (x % 16 * 16 + y / 4) % 16 * 4 + (y % 4 * 64 + z) / 64 = y := by omega
  have hlast : (y % 4 * 64 + z) % 64 = z := by omega
  rw [hfirst, hsecond, hthird, hlast]

/-- **Encoding undoes decoding**, so a text that decodes is the only one of its bytes. By the
decoder's own recursion: four symbols at a time, and then the group that is not whole. -/
theorem encode_of_decode {text : List Char} {bytes : List UInt8}
    (h : decode v text = some bytes) : encode v bytes = text := by
  fun_induction decode v text generalizing bytes with
  | case1 =>
      rw [Option.some.injEq] at h
      rw [← h, encode]
  | case2 a b => rw [encode_of_decode_last h, List.append_nil]
  | case3 a b c => rw [encode_of_decode_last h, List.append_nil]
  | case4 a b c d w x y z hd hc hb ha =>
      obtain ⟨hw, rfl⟩ := sextet_eq_some ha
      obtain ⟨hx, rfl⟩ := sextet_eq_some hb
      obtain ⟨hy, rfl⟩ := sextet_eq_some hc
      obtain ⟨hz, rfl⟩ := sextet_eq_some hd
      rw [Option.some.injEq] at h
      rw [← h, encode_group hw hx hy hz, encode]
  | case5 => rw [encode_of_decode_last h, List.cons_append, List.cons_append, List.singleton_append]
  | case6 => rw [encode_of_decode_last h, List.cons_append, List.singleton_append]
  | case7 a b c d rest hne w x y z hd hc hb ha ih =>
      obtain ⟨hw, rfl⟩ := sextet_eq_some ha
      obtain ⟨hx, rfl⟩ := sextet_eq_some hb
      obtain ⟨hy, rfl⟩ := sextet_eq_some hc
      obtain ⟨hz, rfl⟩ := sextet_eq_some hd
      obtain ⟨bytes', hrest, rfl⟩ := Option.map_eq_some_iff.mp h
      rw [encode_group hw hx hy hz, ih hrest]
  | case8 => exact absurd h nofun
  | case9 => exact absurd h nofun

theorem mem_padding {n : ℕ} {c : Char} (h : c ∈ v.padding n) : c = '=' := by
  cases v with
  | standard => exact List.eq_of_mem_replicate h
  | url_safe_no_pad => exact absurd h List.not_mem_nil

/-- The characters of an encoding: letters, digits, the two others of the variant, and the
padding. None of them is special where the text is put. -/
theorem encode_plain (bytes : List UInt8) : ∀ c ∈ encode v bytes,
    c.isAlphanum = true ∨ c ∈ ['+', '/', '-', '_', '='] := by
  have hsymbol : ∀ n < 64, (symbol v n).isAlphanum = true
      ∨ symbol v n ∈ ['+', '/', '-', '_', '='] := by
    intro n hn
    refine (symbol_plain hn).imp_right fun hmem => ?_
    exact List.mem_append_left ['='] hmem
  have hpad : ∀ n, ∀ c ∈ v.padding n, c.isAlphanum = true ∨ c ∈ ['+', '/', '-', '_', '='] := by
    intro n c hc
    rw [mem_padding hc]
    exact Or.inr (by decide)
  fun_induction encode v bytes with
  | case1 => nofun
  | case2 a =>
      have ha := a.toNat_lt
      refine List.forall_mem_append.mpr ⟨?_, hpad 2⟩
      exact List.forall_mem_cons.mpr ⟨hsymbol _ (by omega),
        List.forall_mem_singleton.mpr (hsymbol _ (by omega))⟩
  | case3 a b =>
      have ha := a.toNat_lt
      have hb := b.toNat_lt
      refine List.forall_mem_append.mpr ⟨?_, hpad 1⟩
      exact List.forall_mem_cons.mpr ⟨hsymbol _ (by omega), List.forall_mem_cons.mpr
        ⟨hsymbol _ (by omega), List.forall_mem_singleton.mpr (hsymbol _ (by omega))⟩⟩
  | case4 a b c rest ih =>
      have ha := a.toNat_lt
      have hb := b.toNat_lt
      have hc := c.toNat_lt
      exact List.forall_mem_cons.mpr ⟨hsymbol _ (by omega), List.forall_mem_cons.mpr
        ⟨hsymbol _ (by omega), List.forall_mem_cons.mpr ⟨hsymbol _ (by omega),
          List.forall_mem_cons.mpr ⟨hsymbol _ (by omega), ih⟩⟩⟩⟩

/-- **Strictness.** A text decodes exactly when it is what an encoder writes. -/
theorem decode_eq_some {text : List Char} {bytes : List UInt8} :
    decode v text = some bytes ↔ text = encode v bytes := by
  constructor
  · intro h
    exact (encode_of_decode h).symm
  · rintro rfl
    exact decode_encode bytes

end Base64
