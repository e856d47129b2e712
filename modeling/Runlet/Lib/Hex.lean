/-
Hexadecimal digits and the `hex` text of bytes.

A digit is read in either case (`hex_value`) and written in the lower one, two of them to a
byte (`hex_encode`). All that is said of a text follows from its characters being the sixteen
digits (`mem_hex_encode`), each of which reads back as its own value.
-/
import Mathlib.Data.Nat.Notation
import Mathlib.Data.String.Basic

set_option autoImplicit false

namespace Hex

/-- The value of a hexadecimal digit. -/
def hex_value (c : Char) : Option ℕ :=
  if '0' ≤ c ∧ c ≤ '9' then some (c.toNat - 0x30)
  else if 'A' ≤ c ∧ c ≤ 'F' then some (c.toNat - 0x37)
  else if 'a' ≤ c ∧ c ≤ 'f' then some (c.toNat - 0x57)
  else none

/-- `hex::encode`. -/
def hex_encode (bytes : List UInt8) : String :=
  String.ofList (bytes.flatMap fun b =>
    [Nat.digitChar (b.toNat / 16), Nat.digitChar (b.toNat % 16)])

/-- Each of the sixteen digits reads back as its own value. -/
theorem hex_value_digitChar : ∀ n : Fin 16, hex_value (Nat.digitChar n.val) = some n.val := by
  decide

theorem digitChar_inj {m n : ℕ} (hm : m < 16) (hn : n < 16)
    (h : Nat.digitChar m = Nat.digitChar n) : m = n := by
  have hvalue := hex_value_digitChar ⟨m, hm⟩
  rw [h, hex_value_digitChar ⟨n, hn⟩] at hvalue
  exact (Option.some.inj hvalue).symm

/-- A character of a text is a digit. -/
theorem mem_hex_encode {bytes : List UInt8} {c : Char} (h : c ∈ (hex_encode bytes).toList) :
    ∃ n : Fin 16, c = Nat.digitChar n.val := by
  rw [hex_encode, String.toList_ofList, List.mem_flatMap] at h
  obtain ⟨b, -, hb⟩ := h
  have hlt := b.toNat_lt
  rw [List.mem_cons, List.mem_singleton] at hb
  rcases hb with rfl | rfl
  · exact ⟨⟨b.toNat / 16, by omega⟩, rfl⟩
  · exact ⟨⟨b.toNat % 16, by omega⟩, rfl⟩

/-- **Bytes are known by their text.** Two bytes with the same two digits are the same byte, one
pair of digits after the other. -/
theorem hex_encode_injective {as bs : List UInt8} (h : hex_encode as = hex_encode bs) :
    as = bs := by
  have hchars := String.ofList_injective h
  clear h
  induction as generalizing bs with
  | nil =>
      cases bs with
      | nil => rfl
      | cons b bs => cases hchars
  | cons a as ih =>
      cases bs with
      | nil => cases hchars
      | cons b bs =>
          have ha := a.toNat_lt
          have hb := b.toNat_lt
          simp only [List.flatMap_cons, List.cons_append, List.nil_append, List.cons.injEq] at hchars
          obtain ⟨hhi, hlo, hrest⟩ := hchars
          have hhigh := digitChar_inj (by omega) (by omega) hhi
          have hlow := digitChar_inj (by omega) (by omega) hlo
          have hbyte : a = b := by
            apply UInt8.toNat_inj.mp
            omega
          rw [hbyte, ih hrest]

end Hex
