/-
Percent-encoding (the `percent_encoding` crate): `utf8_percent_encode` writes
every byte outside a set of ASCII bytes as `%XX`, and decoding undoes it.

The set to leave alone is a parameter. All that a set must satisfy is `Plain`:
ASCII, and not `%` itself.
-/
import Runlet.Lib.Hex
import Runlet.Lib.Text

set_option autoImplicit false

namespace Percent

open Hex

/-! ## Encoding -/

/-- An uppercase hexadecimal digit. -/
def hex_digit (n : ℕ) : Char := Char.ofNat (if n < 10 then 0x30 + n else 0x37 + n)

/-- One byte, kept or written as `%XX`. -/
def encode_byte (keep : UInt8 → Bool) (b : UInt8) : List Char :=
  if keep b then [Char.ofNat b.toNat]
  else ['%', hex_digit (b.toNat / 16), hex_digit (b.toNat % 16)]

def encode (keep : UInt8 → Bool) (bytes : List UInt8) : List Char :=
  bytes.flatMap (encode_byte keep)

/-- `utf8_percent_encode(text, set)`, with the complement of the set. -/
def utf8_percent_encode (keep : UInt8 → Bool) (text : String) : List Char :=
  encode keep (Text.utf8 text)

/-! ## Decoding -/

/-- `percent_decode`: a `%` that two hexadecimal digits do not follow stays. -/
def decode : List Char → List UInt8
  | [] => []
  | '%' :: h :: l :: rest =>
    match hex_value h, hex_value l with
    | some hi, some lo => UInt8.ofNat (16 * hi + lo) :: decode rest
    | _, _ => String.utf8EncodeChar '%' ++ decode (h :: l :: rest)
  | c :: rest => String.utf8EncodeChar c ++ decode rest

/-! ## The round trip -/

/-- The bytes that may be left alone. -/
def Plain (keep : UInt8 → Bool) : Prop := ∀ b, keep b = true → b.toNat < 128 ∧ b ≠ 0x25

/-- A set of bytes is looked through one byte after the other. -/
theorem plain_of_forall {keep : UInt8 → Bool}
    (h : ∀ n : Fin 256, keep (UInt8.ofNat n.val) = true → n.val < 128 ∧ n.val ≠ 0x25) :
    Plain keep := by
  intro b hb
  have hplain := h ⟨b.toNat, b.toNat_lt⟩
  rw [UInt8.ofNat_toNat] at hplain
  refine ⟨(hplain hb).1, ?_⟩
  rintro rfl
  exact (hplain hb).2 rfl

theorem hex_value_hex_digit : ∀ n : Fin 16, hex_value (hex_digit n.val) = some n.val := by decide

/-- An escaped byte reads back. -/
theorem decode_escaped (b : UInt8) (rest : List Char) :
    decode ('%' :: hex_digit (b.toNat / 16) :: hex_digit (b.toNat % 16) :: rest)
      = b :: decode rest := by
  have hb := b.toNat_lt
  have hhi := hex_value_hex_digit ⟨b.toNat / 16, by omega⟩
  have hlo := hex_value_hex_digit ⟨b.toNat % 16, by omega⟩
  rw [decode, hhi, hlo]
  dsimp only
  rw [Nat.div_add_mod, UInt8.ofNat_toNat]

/-- A kept byte reads back: it is its own UTF-8 encoding, and starts no escape. -/
theorem decode_kept {b : UInt8} (hlt : b.toNat < 128) (hne : b ≠ 0x25) (rest : List Char) :
    decode (Char.ofNat b.toNat :: rest) = b :: decode rest := by
  have hall : ∀ n : Fin 128, String.utf8EncodeChar (Char.ofNat n.val) = [UInt8.ofNat n.val]
      ∧ (Char.ofNat n.val = '%' → n.val = 0x25) := by decide +kernel
  obtain ⟨henc, hpercent⟩ := hall ⟨b.toNat, hlt⟩
  have hchar : Char.ofNat b.toNat ≠ '%' := by
    intro h
    apply hne
    apply UInt8.toNat_inj.mp
    exact hpercent h
  rw [decode]
  · rw [henc, UInt8.ofNat_toNat]
    rfl
  · intro h l rest' hc _
    exact hchar hc

/-- **Decoding undoes encoding**, for every set of plain bytes left alone. By induction on the
bytes: a plain one is no `%`, and any other is an escape of two digits. -/
theorem decode_encode {keep : UInt8 → Bool} (hkeep : Plain keep) (bytes : List UInt8) :
    decode (encode keep bytes) = bytes := by
  induction bytes with
  | nil => rfl
  | cons b bytes ih =>
      rw [encode, List.flatMap_cons, ← encode, encode_byte]
      by_cases hb : keep b = true
      · obtain ⟨hlt, hne⟩ := hkeep b hb
        rw [if_pos hb, List.singleton_append, decode_kept hlt hne, ih]
      · rw [if_neg hb]
        simp only [List.cons_append, List.nil_append]
        rw [decode_escaped, ih]

/-- A character that is not kept and no part of an escape does not occur. -/
theorem not_mem_encode {keep : UInt8 → Bool} {c : Char}
    (hkeep : ∀ n : Fin 256, keep (UInt8.ofNat n.val) = true → Char.ofNat n.val ≠ c)
    (hpercent : '%' ≠ c) (hhex : ∀ n : Fin 16, hex_digit n.val ≠ c) (bytes : List UInt8) :
    c ∉ encode keep bytes := by
  intro h
  obtain ⟨b, -, hb⟩ := List.mem_flatMap.mp h
  have hlt := b.toNat_lt
  rw [encode_byte] at hb
  split at hb
  · rename_i hkept
    have hne := hkeep ⟨b.toNat, hlt⟩
    rw [UInt8.ofNat_toNat] at hne
    exact hne hkept (List.mem_singleton.mp hb).symm
  · simp only [List.mem_cons, List.not_mem_nil, or_false] at hb
    rcases hb with rfl | rfl | rfl
    · exact hpercent rfl
    · exact hhex ⟨b.toNat / 16, by omega⟩ rfl
    · exact hhex ⟨b.toNat % 16, by omega⟩ rfl

end Percent
