import FlashPatch.Bytes.Excerpt

/-!
# Header errors

Why a patch header cannot be written or read, and the message for each cause.
-/

namespace FlashPatch

/-- Why a header cannot be written or read. -/
inductive HeaderError where
  /-- The payload size needs more than the bytes of its field. -/
  | oversizedPayload (size : UInt64) (width : Nat)
  /-- The requested header size is negative. -/
  | negativeSize (requested : Int64)
  /-- The bytes end before the header does. -/
  | tooShort (length required : Nat)
  /-- The bytes do not start with the magic of the format. -/
  | wrongMagic (found expected : List UInt8)
  /-- The size field holds no size. -/
  | badSizeField (field : List UInt8)
  /-- No format has this identifier. -/
  | unknownFormat (id : UInt16)
deriving DecidableEq, Repr

/-- The message for the cause. -/
def HeaderError.message : HeaderError → String
  | .oversizedPayload size width =>
    "payload size " ++ Numeral.hex size.toNat ++ " does not fit in a " ++ toString width
      ++ "-byte size field"
  | .negativeSize requested => "invalid header size: " ++ toString requested.toInt
  | .tooShort length required =>
    "header buffer too short: " ++ toString length ++ " < " ++ toString required
  | .wrongMagic found expected =>
    "invalid magic: expected " ++ Excerpt.text expected ++ ", got " ++ Excerpt.text found
  | .badSizeField field => "invalid size field: " ++ Excerpt.text field
  | .unknownFormat id =>
    "unknown header format: 0x" ++ String.ofList (Numeral.write 16 4 id.toNat)

end FlashPatch
