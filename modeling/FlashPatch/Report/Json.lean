import FlashPatch.Json.Writer
import FlashPatch.Record.Basic
import FlashPatch.Record.Field
import FlashPatch.Report.Basic

/-!
# Reports in JSON

A report is a record of five fields without defaults, its sizes plain numbers.
-/

namespace FlashPatch.Report

/-- The fields of a report. -/
inductive Field where
  | format
  | payloadSize
  | headerSize
  | maxPartitionSize
  | fits
deriving DecidableEq, Repr

/-- The name of a field in a document. -/
def Field.name : Field → String
  | format => "format"
  | payloadSize => "payload_size"
  | headerSize => "header_size"
  | maxPartitionSize => "max_partition_size"
  | fits => "fits"

/-- A report of which fields may be missing. -/
structure Draft where
  format : Option Format := none
  payloadSize : Option UInt64 := none
  headerSize : Option UInt64 := none
  maxPartitionSize : Option UInt64 := none
  fits : Option Bool := none
deriving DecidableEq, Repr

namespace Draft

/-- Whether the draft has the field. -/
def has (draft : Draft) : Field → Bool
  | .format => draft.format.isSome
  | .payloadSize => draft.payloadSize.isSome
  | .headerSize => draft.headerSize.isSome
  | .maxPartitionSize => draft.maxPartitionSize.isSome
  | .fits => draft.fits.isSome

/-- Adds a field with its value in a document. -/
def put (draft : Draft) (field : Field) (tree : Json.Tree) : Except RecordError Draft :=
  match field with
  | .format => do return { draft with format := ← Record.readFormat tree }
  | .payloadSize => do return { draft with payloadSize := ← Record.readNatural "u64" tree }
  | .headerSize => do return { draft with headerSize := ← Record.readNatural "usize" tree }
  | .maxPartitionSize => do
    return { draft with maxPartitionSize := ← Record.readNatural "u64" tree }
  | .fits => do return { draft with fits := ← Record.readBool tree }

/-- The report of a draft, or the first field that it lacks. -/
def complete (draft : Draft) : Except Field Report := do
  let format ← draft.format.elim (throw .format) pure
  let payloadSize ← draft.payloadSize.elim (throw .payloadSize) pure
  let headerSize ← draft.headerSize.elim (throw .headerSize) pure
  let maxPartitionSize ← draft.maxPartitionSize.elim (throw .maxPartitionSize) pure
  let fits ← draft.fits.elim (throw .fits) pure
  return { format, payloadSize, headerSize, maxPartitionSize, fits }

end Draft

/-- A report as a record. -/
def record : Record Field Draft Report where
  name := "PatchReport"
  fields := [.format, .payloadSize, .headerSize, .maxPartitionSize, .fits]
  fieldName := Field.name
  blank := {}
  has := Draft.has
  put := Draft.put
  complete := Draft.complete

/-- Reads a report from a document. -/
def ofJson (text : String) : Except RecordError Report := record.ofText text

/-- The document of a report. -/
def toJson (report : Report) : String :=
  String.ofList <| Json.writeObject
    [(Field.format.name, .text report.format.name),
      (Field.payloadSize.name, .integer report.payloadSize.toNat),
      (Field.headerSize.name, .integer report.headerSize.toNat),
      (Field.maxPartitionSize.name, .integer report.maxPartitionSize.toNat),
      (Field.fits.name, .bool report.fits)]

end FlashPatch.Report
