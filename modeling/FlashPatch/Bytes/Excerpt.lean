import FlashPatch.Bytes.Hex

/-!
# Byte excerpts

A short rendering of bytes for messages: quoted when the shown bytes are printable ASCII, otherwise
hexadecimal. What lies past the shown bytes is replaced by its length.
-/

namespace FlashPatch.Excerpt

/-- The number of bytes that are shown. -/
def shownLimit : Nat := 16

/-- Printable ASCII bytes, the space included. -/
def isPrintable (b : UInt8) : Bool := 0x20 ≤ b && b ≤ 0x7e

/-- The shown bytes, quoted when all of them are printable. Quotes inside are not escaped. -/
def shown (bytes : List UInt8) : String :=
  if bytes.all isPrintable then
    "b\"" ++ String.ofList (bytes.map fun b ↦ Char.ofNat b.toNat) ++ "\""
  else "0x" ++ Hex.text bytes

/-- The excerpt of a byte sequence, with the length of what it leaves out. -/
def text (bytes : List UInt8) : String :=
  let rest := bytes.drop shownLimit
  let elided := if rest.isEmpty then "" else "... (+" ++ toString rest.length ++ " bytes)"
  shown (bytes.take shownLimit) ++ elided

end FlashPatch.Excerpt
