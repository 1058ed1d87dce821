import FlashPatch.Header.Format

/-!
# Patch headers

A header as the loader sees it, and a header as it is written in front of a payload.
-/

namespace FlashPatch

/-- A header as the loader sees it. -/
structure Header where
  /-- The layout. -/
  format : Format
  /-- The length of the header. The payload starts at this offset. -/
  size : Nat
  /-- The length of the payload. -/
  payloadSize : UInt64
deriving DecidableEq, Repr

/-- The offset just past the payload, if 64 bits can hold it. -/
def Header.endOffset? (header : Header) : Option UInt64 :=
  let offset := header.size + header.payloadSize.toNat
  if offset < UInt64.size then some (UInt64.ofNat offset) else none

/-- The bytes of a header, with the verdict whether the patch fits its partition. The bytes are
valid whatever the verdict. -/
structure EncodedHeader where
  /-- The layout. -/
  format : Format
  /-- The header itself. -/
  bytes : List UInt8
  /-- Whether header and payload fit into the declared capacity. -/
  fits : Bool
deriving DecidableEq, Repr

/-- The length of the header. -/
def EncodedHeader.size (header : EncodedHeader) : Nat := header.bytes.length

end FlashPatch
