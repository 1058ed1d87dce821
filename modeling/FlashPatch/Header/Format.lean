import FlashPatch.Header.Error

/-!
# Header formats

The two layouts of a patch header, their names and identifiers, and the length that a header has
when a size is asked for. The same length is used for writing and for reading.
-/

namespace FlashPatch

/-- The layouts of a patch header. A loader built for one is not meant to recognise the other. -/
inductive Format where
  /-- The tag `NEWPATCH`, then the size as hexadecimal text. -/
  | hexText
  /-- The tag `NEWP`, then the size as a little-endian integer that fills the header. -/
  | binary
deriving DecidableEq, Repr

namespace Format

/-- The binary format is the one in use; the other is kept for older loaders. -/
instance : Inhabited Format := ⟨binary⟩

/-- The name in configurations and reports. -/
def name : Format → String
  | hexText => "hex_ascii_v1"
  | binary => "binary_le_v2"

/-- The format with the name. -/
def ofName? (name : String) : Option Format :=
  [hexText, binary].find? fun f ↦ f.name = name

/-- The numeric identifier. -/
def id : Format → UInt16
  | hexText => 1
  | binary => 2

/-- The format with the numeric identifier. -/
def ofId (id : UInt16) : Except HeaderError Format :=
  match [hexText, binary].find? fun f ↦ f.id = id with
  | some format => .ok format
  | none => .error (.unknownFormat id)

/-- The bytes at offset zero that announce the format. -/
def magic : Format → List UInt8
  | hexText => "NEWPATCH".toList.map Char.toUInt8
  | binary => "NEWP".toList.map Char.toUInt8

/-- The length of every hexadecimal header: its tag, a mark of two characters, fourteen digits. -/
def hexTextLength : Nat := 24

/-- The least length of a binary header: its tag and four size bytes. -/
def minBinaryLength : Nat := 8

/-- The length of a header for which a size is requested. A binary header is at least as long as
its minimum, a hexadecimal one ignores the request, and a negative request is refused. -/
def headerLength (format : Format) (requested : Int64) : Except HeaderError Nat :=
  if requested.toInt < 0 then .error (.negativeSize requested)
  else
    match format with
    | hexText => .ok hexTextLength
    | binary => .ok (max requested.toInt.toNat minBinaryLength)

/-- The bytes left for the size in a header of the given length, if the magic fits into it. -/
def sizeFieldWidth? (format : Format) (length : Nat) : Option Nat :=
  if format.magic.length ≤ length then some (length - format.magic.length) else none

end Format

end FlashPatch
