import FlashPatch.Header.Encoding

/-!
# Preparation settings

What has to be known to prepare a patch.
-/

namespace FlashPatch

/-- The settings for the preparation of a patch. -/
structure Config where
  /-- The layout of the header. -/
  format : Format
  /-- The header size that is asked for. It may be negative until it is used. -/
  headerSize : Int64
  /-- The capacity of the patch partition, header included. -/
  maxPartitionSize : UInt64
deriving DecidableEq, Repr

namespace Config

/-- The header size that loaders expect unless told otherwise. -/
def defaultHeaderSize : Int64 := 24

/-- The settings for a partition of the given capacity, all else by default. -/
def ofCapacity (maxPartitionSize : UInt64) : Config :=
  { format := default, headerSize := defaultHeaderSize, maxPartitionSize }

/-- The header for a payload of the given size. -/
def encode (config : Config) (payloadSize : UInt64) : Except HeaderError EncodedHeader :=
  Header.encode config.format payloadSize config.headerSize config.maxPartitionSize

end Config

end FlashPatch
