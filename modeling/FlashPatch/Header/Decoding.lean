import FlashPatch.Header.Basic
import FlashPatch.Header.SizeField

/-!
# Reading headers

The loader's side: a header is read from the start of a byte sequence. Its length follows from the
requested size as it does for writing, so the value that a patch was prepared with can be passed
on unchanged.
-/

namespace FlashPatch.Header

/-- Fails unless the bytes start with the magic of the format. -/
def checkMagic (bytes : List UInt8) (format : Format) : Except HeaderError Unit :=
  let found := bytes.take format.magic.length
  if found = format.magic then .ok () else .error (.wrongMagic found format.magic)

/-- The size in a size field of the format. -/
def readSize? (format : Format) (field : List UInt8) : Option UInt64 :=
  match format with
  | .binary => SizeField.readBinary? field
  | .hexText => SizeField.readHex? field

/-- The header at the start of the bytes. What follows it is not looked at. -/
def decode (bytes : List UInt8) (format : Format) (requested : Int64) :
    Except HeaderError Header := do
  let size ← format.headerLength requested
  if bytes.length < size then throw (.tooShort bytes.length size)
  checkMagic bytes format
  let field := (bytes.take size).drop format.magic.length
  match readSize? format field with
  | some payloadSize => return { format, size, payloadSize }
  | none => throw (.badSizeField field)

end FlashPatch.Header
