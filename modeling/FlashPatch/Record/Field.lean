import FlashPatch.Record.Error

/-!
# Field values

The kinds of values that fields of a record have in a document.
-/

namespace FlashPatch.Record

/-- The format with the name. -/
def formatNamed (name : String) : Except RecordError Format :=
  match Format.ofName? name with
  | some format => .ok format
  | none => .error (.unknownFormat name)

/-- A format is written as its name, or as an object with its name as the only key and null as the
value. -/
def readFormat : Json.Tree → Except RecordError Format
  | .string (some name) => formatNamed name
  | .object ((some name, value) :: members) closed => do
    let format ← formatNamed name
    match value with
    | .null => if closed && members.isEmpty then return format else throw .malformed
    | value => throw (.notOfKind (FoundValue.ofTree? value) "unit")
  | _ => .error .malformed

/-- The number of containers that may be open around a value in a document. -/
def maxDepth : Nat := 127

/-- A size is written as an integer or as a string that holds an integer literal. -/
def readSize : Json.Tree → Except RecordError Int
  | .number (some (.integer value)) => .ok value
  | .string (some text) => (IntLiteral.read text).mapError .badLiteral
  | tree =>
    -- the record itself is one of the open containers
    if tree.isSound true && tree.depth < maxDepth then .error .notASize else .error .malformed

/-- A size in the range of 64-bit signed integers. -/
def readInt64 (tree : Json.Tree) : Except RecordError Int64 := do
  let value ← readSize tree
  if Int64.minValue.toInt ≤ value ∧ value ≤ Int64.maxValue.toInt then return Int64.ofInt value
  else throw (.outOfRange value)

/-- A size in the range of 64-bit unsigned integers. -/
def readUInt64 (tree : Json.Tree) : Except RecordError UInt64 := do
  let value ← readSize tree
  if 0 ≤ value ∧ value < UInt64.size then return UInt64.ofNat value.toNat
  else throw (.outOfRange value)

/-- A plain unsigned number, by its name in messages. -/
def readNatural (wanted : String) : Json.Tree → Except RecordError UInt64
  | .number (some (.integer value)) =>
    if 0 ≤ value then .ok (UInt64.ofNat value.toNat) else .error (.negative value wanted)
  | tree => .error (.notOfKind (FoundValue.ofTree? tree) wanted)

/-- A truth value. -/
def readBool : Json.Tree → Except RecordError Bool
  | .bool value => .ok value
  | tree => .error (.notOfKind (FoundValue.ofTree? tree) "a boolean")

end FlashPatch.Record
