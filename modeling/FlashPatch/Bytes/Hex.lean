import FlashPatch.Numeral

/-!
# Bytes as hexadecimal text

Each byte is two lower-case hexadecimal digits.
-/

namespace FlashPatch.Hex

/-- The two hexadecimal digits of a byte. -/
def byte (b : UInt8) : List Char := Numeral.write 16 2 b.toNat

/-- The digits of all bytes, in order and without separators. -/
def text (bytes : List UInt8) : String := String.ofList (bytes.flatMap byte)

/-- A byte takes two characters. -/
@[simp] theorem length_byte (b : UInt8) : (byte b).length = 2 := by
  have h : (Nat.toDigits 16 b.toNat).length ≤ 2 :=
    (Nat.length_toDigits_le_iff (by omega) (by omega)).2 b.toNat_lt
  rw [byte, Numeral.length_write]
  omega

end FlashPatch.Hex
