import FlashPatch.Header.Format
import FlashPatch.IntLiteral
import FlashPatch.Json.Tree

/-!
# Record errors

Why a JSON document is no record of the wanted kind, and the message for each cause.
-/

namespace FlashPatch

/-- What stands in a document where something else is wanted. -/
inductive FoundValue where
  | null
  | bool (value : Bool)
  | integer (value : Int)
  | float (negative : Bool) (magnitude : Binary64)
  | string (text : String)
  | array
  | object
deriving DecidableEq, Repr

namespace FoundValue

/-- The description of a value in messages. -/
def description : FoundValue → String
  | null => "null"
  | bool value => "boolean `" ++ toString value ++ "`"
  | integer value => "integer `" ++ toString value ++ "`"
  | float negative magnitude => "floating point `" ++ Decimal.text negative magnitude ++ "`"
  | string text => "string " ++ Text.quoted text
  | array => "sequence"
  | object => "map"

/-- The value of a number. -/
def ofNumber : Json.Number → FoundValue
  | .integer value => integer value
  | .float negative magnitude => float negative magnitude

/-- What can be said about a tree that should have been something else, if the text has a value
there. Of an array or object only the start is looked at. -/
def ofTree? : Json.Tree → Option FoundValue
  | .null => some null
  | .bool value => some (bool value)
  | .number value => value.map ofNumber
  | .string text => text.map string
  | .array _ _ => some array
  | .object _ _ => some object
  | .broken => none

end FoundValue

/-- Why a document is no record of the wanted kind. -/
inductive RecordError where
  /-- The text is no JSON document. -/
  | malformed
  /-- A field without a default is absent from an object. -/
  | missingField (name : String)
  /-- A field occurs twice in an object. -/
  | duplicateField (name : String)
  /-- An array ends in front of a field without a default, which has the given position. -/
  | tooFewElements (position : Nat) (record : String) (fields : Nat)
  /-- No format has the name. -/
  | unknownFormat (name : String)
  /-- A value is not of the kind that is wanted in its place. -/
  | wrongKind (found : FoundValue) (wanted : String)
  /-- A negative integer stands for an unsigned number. -/
  | negative (value : Int) (wanted : String)
  /-- A size is neither an integer nor a string. -/
  | notASize
  /-- The string for a size is no integer literal. -/
  | badLiteral (cause : IntLiteral.Malformed)
  /-- The integer for a size is beyond the range of its field. -/
  | outOfRange (value : Int)
deriving DecidableEq, Repr

namespace RecordError

/-- The failure to find a value of the wanted kind at a place. -/
def notOfKind (found? : Option FoundValue) (wanted : String) : RecordError :=
  match found? with
  | some found => .wrongKind found wanted
  | none => .malformed

/-- The message for the cause. -/
def message : RecordError → String
  | malformed => "malformed JSON"
  | missingField name => "missing field `" ++ name ++ "`"
  | duplicateField name => "duplicate field `" ++ name ++ "`"
  | tooFewElements position record fields =>
    "invalid length " ++ toString position ++ ", expected struct " ++ record ++ " with "
      ++ toString fields ++ " elements"
  | unknownFormat name =>
    "unknown variant `" ++ name ++ "`, expected `" ++ Format.hexText.name ++ "` or `"
      ++ Format.binary.name ++ "`"
  | wrongKind found wanted =>
    "invalid type: " ++ found.description ++ ", expected " ++ wanted
  | negative value wanted =>
    "invalid value: integer `" ++ toString value ++ "`, expected " ++ wanted
  | notASize => "data did not match any variant of untagged enum IntOrString"
  | badLiteral cause => "config error: " ++ cause.message
  | outOfRange value => "value out of range: " ++ toString value

end RecordError

end FlashPatch
