import FlashPatch.Bytes.LittleEndian
import FlashPatch.Numeral

/-!
# Size fields

The part of a header that holds the payload size, in both formats. Each format has a writer, which
refuses a size that needs more room than the field has, and a reader. The reader of hexadecimal
fields takes more than the writer makes: the mark is optional, letters may be of either case, and
trailing NUL bytes pad the field.
-/

namespace FlashPatch.SizeField

/-- The bytes of a 64-bit size. A wider binary field holds zeros beyond them. -/
def wordLength : Nat := 8

/-- The binary field of the given width for a size, if the size fits into it. -/
def writeBinary? (width : Nat) (size : UInt64) : Option (List UInt8) :=
  if wordLength ≤ width ∨ size.toNat >>> (8 * width) = 0 then
    let n := min width wordLength
    some (LittleEndian.encode n size.toNat ++ List.replicate (width - n) 0)
  else none

/-- The size in a binary field, if all bytes beyond a 64-bit size are zero. -/
def readBinary? (field : List UInt8) : Option UInt64 :=
  if (field.drop wordLength).all (· == 0) then
    some (UInt64.ofNat (LittleEndian.value (field.take wordLength)))
  else none

/-- The characters that mark hexadecimal digits. -/
def hexMark : List Char := ['0', 'x']

/-- The number of digits in a hexadecimal field. -/
def hexDigits : Nat := 14

/-- The width of a hexadecimal field: its mark and its digits. -/
def hexWidth : Nat := hexMark.length + hexDigits

/-- The hexadecimal field for a size, if the digits suffice. -/
def writeHex? (size : UInt64) : Option (List UInt8) :=
  if size.toNat >>> (4 * hexDigits) = 0 then
    some ((hexMark ++ Numeral.write 16 hexDigits size.toNat).map Char.toUInt8)
  else none

/-- A field without the NUL bytes at its end. -/
def withoutPadding (field : List UInt8) : List UInt8 :=
  (field.reverse.dropWhile (· == 0)).reverse

/-- Digits without the mark in front of them, if there is one, its letter in either case. -/
def withoutMark : List Char → List Char
  | '0' :: 'x' :: digits => digits
  | '0' :: 'X' :: digits => digits
  | digits => digits

/-- The size in a hexadecimal field, if what stands between mark and padding are digits of a 64-bit
number. -/
def readHex? (field : List UInt8) : Option UInt64 :=
  let text := (withoutPadding field).map fun b ↦ Char.ofNat b.toNat
  match Numeral.read? 16 (withoutMark text) with
  | some size => if size < UInt64.size then some (UInt64.ofNat size) else none
  | none => none

end FlashPatch.SizeField
