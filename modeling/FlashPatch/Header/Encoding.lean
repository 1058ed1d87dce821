import FlashPatch.Header.Basic
import FlashPatch.Header.SizeField
import FlashPatch.Partition.Capacity

/-!
# Writing headers

A header is the magic of its format and a size field. A payload whose size does not fit its field
is refused, never cut; a patch that does not fit its partition is only reported.
-/

namespace FlashPatch.Header

/-- The size field of a header of the given length. -/
def sizeField (format : Format) (length : Nat) (payloadSize : UInt64) :
    Except HeaderError (List UInt8) :=
  match format with
  | .binary =>
    let width := length - format.magic.length
    match SizeField.writeBinary? width payloadSize with
    | some field => .ok field
    | none => .error (.oversizedPayload payloadSize width)
  | .hexText =>
    match SizeField.writeHex? payloadSize with
    | some field => .ok field
    | none => .error (.oversizedPayload payloadSize SizeField.hexWidth)

/-- The header for a payload, in the requested size as far as the format allows, with the verdict
on a partition of the given capacity. -/
def encode (format : Format) (payloadSize : UInt64) (requested : Int64) (capacity : UInt64) :
    Except HeaderError EncodedHeader := do
  let length ← format.headerLength requested
  let field ← sizeField format length payloadSize
  return { format
           bytes := format.magic ++ field
           fits := Partition.fits payloadSize length capacity }

/-- The header for a payload in the format that is in use. -/
def encodeCanonical (payloadSize : UInt64) (requested : Int64) (capacity : UInt64) :
    Except HeaderError EncodedHeader :=
  encode .binary payloadSize requested capacity

end FlashPatch.Header
