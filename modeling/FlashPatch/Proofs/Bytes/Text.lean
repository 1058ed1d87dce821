import FlashPatch.Bytes.Hex
import FlashPatch.Proofs.Numeral.Positional

/-!
# Bytes as text

A byte is shown as the character with its code, or by its two hexadecimal digits. Either way the
byte can be read off, so no two byte sequences are shown alike.
-/

namespace FlashPatch

namespace Text

/-- The character with the code of a byte gives the byte back. -/
theorem toUInt8_ofNat_toNat (b : UInt8) : (Char.ofNat b.toNat).toUInt8 = b := by
  have hv : b.toNat.isValidChar := Or.inl (Nat.lt_trans b.toNat_lt (by decide))
  rw [Char.ofNat, dif_pos hv, Char.toUInt8, ← UInt8.toNat_inj, UInt32.toNat_toUInt8]
  exact Nat.mod_eq_of_lt b.toNat_lt

/-- A character below 256 becomes the byte with its code. -/
theorem toNat_toUInt8 {c : Char} (h : c.toNat < 256) : c.toUInt8.toNat = c.toNat := by
  rw [Char.toUInt8, UInt32.toNat_toUInt8]
  exact Nat.mod_eq_of_lt h

end Text

namespace Hex

/-- The byte that two digits write. -/
def readByte? (digits : List Char) : Option UInt8 :=
  if digits.length = 2 then (Numeral.read? 16 digits).map UInt8.ofNat else none

/-- A written byte is read back. -/
theorem readByte?_byte (b : UInt8) : readByte? (byte b) = some b := by
  have hread : Numeral.read? 16 (byte b) = some b.toNat :=
    Numeral.read?_write (by decide) (by decide) 2 b.toNat
  rw [readByte?, if_pos (length_byte b), hread, Option.map_some, UInt8.ofNat_toNat]

/-- The digits of a byte are those of its two places. -/
theorem byte_eq (b : UInt8) :
    byte b = [Nat.digitChar (b.toNat / 16), Nat.digitChar (b.toNat % 16)] := by
  have hb : b.toNat < 16 ^ 2 := b.toNat_lt
  have hhigh : b.toNat / 16 < 16 := Nat.div_lt_of_lt_mul hb
  rw [byte, Numeral.write_eq_map_range (by decide) (by decide) hb]
  change [Nat.digitChar (b.toNat / 16 ^ 1 % 16), Nat.digitChar (b.toNat / 16 ^ 0 % 16)] = _
  rw [Nat.pow_one, Nat.mod_eq_of_lt hhigh, Nat.pow_zero, Nat.div_one]

/-- The digits of a byte are in lower case. -/
theorem mem_lowerDigits_of_mem_byte {b : UInt8} {c : Char} (h : c ∈ byte b) :
    c ∈ Numeral.lowerDigits :=
  Numeral.mem_lowerDigits_of_mem_write (by decide : 0 < 2) b.toNat_lt c h

/-- Two digits for each byte determine all bytes. -/
theorem flatMap_byte_inj {left right : List UInt8} :
    left.flatMap byte = right.flatMap byte ↔ left = right := by
  refine ⟨fun h ↦ ?_, congrArg _⟩
  have hlen : left.length = right.length := by simpa using congrArg List.length h
  induction left generalizing right with
  | nil => exact (List.eq_nil_of_length_eq_zero hlen.symm).symm
  | cons a left ih =>
    cases right with
    | nil => simp at hlen
    | cons b right =>
      rw [List.flatMap_cons, List.flatMap_cons] at h
      obtain ⟨hfirst, hrest⟩ := List.append_inj h (by rw [length_byte, length_byte])
      have hbyte : some a = some b := by rw [← readByte?_byte a, hfirst, readByte?_byte]
      rw [Option.some.inj hbyte, ih hrest (Nat.succ.inj hlen)]

end Hex

end FlashPatch
