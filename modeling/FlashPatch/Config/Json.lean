import FlashPatch.Config.Basic
import FlashPatch.Json.Writer
import FlashPatch.Record.Basic
import FlashPatch.Record.Field

/-!
# Settings in JSON

Settings are a record of a format, a header size and a partition capacity. The first two have
defaults, and the sizes may be strings in any base.
-/

namespace FlashPatch.Config

/-- The fields of the settings. -/
inductive Field where
  | format
  | headerSize
  | maxPartitionSize
deriving DecidableEq, Repr

/-- The name of a field in a document. -/
def Field.name : Field → String
  | format => "format"
  | headerSize => "header_size"
  | maxPartitionSize => "max_partition_size"

/-- Settings of which fields may be missing. -/
structure Draft where
  format : Option Format := none
  headerSize : Option Int64 := none
  maxPartitionSize : Option UInt64 := none
deriving DecidableEq, Repr

namespace Draft

/-- Whether the draft has the field. -/
def has (draft : Draft) : Field → Bool
  | .format => draft.format.isSome
  | .headerSize => draft.headerSize.isSome
  | .maxPartitionSize => draft.maxPartitionSize.isSome

/-- Adds a field with its value in a document. -/
def put (draft : Draft) (field : Field) (tree : Json.Tree) : Except RecordError Draft :=
  match field with
  | .format => do return { draft with format := ← Record.readFormat tree }
  | .headerSize => do return { draft with headerSize := ← Record.readInt64 tree }
  | .maxPartitionSize => do return { draft with maxPartitionSize := ← Record.readUInt64 tree }

/-- The settings of a draft. Only the capacity has no default. -/
def complete (draft : Draft) : Except Field Config :=
  match draft.maxPartitionSize with
  | some maxPartitionSize =>
    .ok { format := draft.format.getD default
          headerSize := draft.headerSize.getD defaultHeaderSize
          maxPartitionSize }
  | none => .error .maxPartitionSize

end Draft

/-- Settings as a record. -/
def record : Record Field Draft Config where
  name := "PatchConfig"
  fields := [.format, .headerSize, .maxPartitionSize]
  fieldName := Field.name
  blank := {}
  has := Draft.has
  put := Draft.put
  complete := Draft.complete

/-- Reads settings from a document. -/
def ofJson (text : String) : Except RecordError Config := record.ofText text

/-- The document of the settings. -/
def toJson (config : Config) : String :=
  String.ofList <| Json.writeObject
    [(Field.format.name, .text config.format.name),
      (Field.headerSize.name, .integer config.headerSize.toInt),
      (Field.maxPartitionSize.name, .integer config.maxPartitionSize.toNat)]

end FlashPatch.Config
