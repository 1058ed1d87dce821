import FlashPatch.Bytes.Hex

/-!
# Hex dumps

Bytes in lines of sixteen. A line is the offset of its first byte in at least four hexadecimal
digits, a colon, and the bytes separated by single spaces.
-/

namespace FlashPatch.Dump

/-- The number of bytes in a full line. -/
def lineLength : Nat := 16

/-- The line for the bytes at an offset. -/
def line (offset : Nat) (bytes : List UInt8) : List Char :=
  Numeral.write 16 4 offset ++ [':', ' '] ++ [' '].intercalate (bytes.map Hex.byte)

/-- The lines for the bytes from an offset on, each but the last for sixteen bytes. -/
def lines (offset : Nat) (bytes : List UInt8) : List (List Char) :=
  if bytes.isEmpty then []
  else line offset (bytes.take lineLength) :: lines (offset + lineLength) (bytes.drop lineLength)
termination_by bytes.length
decreasing_by
  have : bytes.length ≠ 0 := by simpa using ‹¬bytes.isEmpty = true›
  simp only [List.length_drop, lineLength]
  omega

/-- The dump of a byte sequence, one line under the other. -/
def text (bytes : List UInt8) : String :=
  String.ofList (['\n'].intercalate (lines 0 bytes))

/-- No bytes give no line. -/
@[simp] theorem lines_nil (offset : Nat) : lines offset [] = [] := by
  rw [lines]
  rfl

end FlashPatch.Dump
