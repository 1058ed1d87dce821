import FlashPatch.Header.Basic

/-!
# Preparation reports

The summary of a prepared patch.
-/

namespace FlashPatch

/-- The summary of a prepared patch. -/
structure Report where
  /-- The layout of the header. -/
  format : Format
  /-- The length of the payload. -/
  payloadSize : UInt64
  /-- The length of the header. -/
  headerSize : UInt64
  /-- The declared capacity of the partition. -/
  maxPartitionSize : UInt64
  /-- Whether header and payload fit into the capacity. -/
  fits : Bool
deriving DecidableEq, Repr

namespace Report

/-- The report on a header written for a payload and a partition. -/
def ofHeader (header : EncodedHeader) (payloadSize maxPartitionSize : UInt64) : Report :=
  { format := header.format
    payloadSize
    headerSize := UInt64.ofNat header.size
    maxPartitionSize
    fits := header.fits }

/-- The length of header and payload together, if 64 bits can hold it. -/
def totalSize? (report : Report) : Option UInt64 :=
  let total := report.headerSize.toNat + report.payloadSize.toNat
  if total < UInt64.size then some (UInt64.ofNat total) else none

/-- The report in one line. -/
def line (report : Report) : String :=
  "Patch size: " ++ Numeral.hex report.payloadSize.toNat ++ " + "
    ++ Numeral.hex report.headerSize.toNat ++ " (header)"

end Report

end FlashPatch
