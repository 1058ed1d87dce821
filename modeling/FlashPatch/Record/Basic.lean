import FlashPatch.Record.Error

/-!
# Records in JSON

A record is a set of named fields in a fixed order. Its document is an object, with the fields in
any order and other members skipped, or an array of the fields in their order. A document is read
from left to right, and the first problem in the text is the one reported.
-/

namespace FlashPatch

/-- How a kind of record is read: the fields are collected in a draft, which is then completed. -/
structure Record (Field Draft Value : Type) where
  /-- The name of the record in messages. -/
  name : String
  /-- The fields, in order. -/
  fields : List Field
  /-- The name of a field. -/
  fieldName : Field → String
  /-- The draft without any field. -/
  blank : Draft
  /-- Whether the draft has the field. -/
  has : Draft → Field → Bool
  /-- Adds a field to the draft, from its value in the document. -/
  put : Draft → Field → Json.Tree → Except RecordError Draft
  /-- The record of a draft, or the first field that is absent and has no default. -/
  complete : Draft → Except Field Value

namespace Record

variable {Field Draft Value : Type}

/-- The name of a record in messages about its kind. -/
def wanted (record : Record Field Draft Value) : String := "struct " ++ record.name

/-- The number of fields in front of a field. -/
def position (record : Record Field Draft Value) (field : Field) : Nat :=
  record.fields.findIdx fun other ↦ record.fieldName other = record.fieldName field

/-- Adds a member of an object to the draft. Members other than fields only have to be well
formed. -/
def putMember (record : Record Field Draft Value) (draft : Draft)
    (member : Option String × Json.Tree) : Except RecordError Draft :=
  match member.1 with
  | some key =>
    match record.fields.find? fun field ↦ record.fieldName field = key with
    | some field =>
      if record.has draft field then .error (.duplicateField key)
      else record.put draft field member.2
    | none => if member.2.isSound false then .ok draft else .error .malformed
  | none => .error .malformed

/-- Reads the members of an object. -/
def ofMembers (record : Record Field Draft Value) (members : List (Option String × Json.Tree))
    (closed : Bool) : Except RecordError Value := do
  let draft ← members.foldlM record.putMember record.blank
  if !closed then throw .malformed
  match record.complete draft with
  | .ok value => return value
  | .error field => throw (.missingField (record.fieldName field))

/-- Reads the elements of an array. -/
def ofElements (record : Record Field Draft Value) (elements : List Json.Tree) (closed : Bool) :
    Except RecordError Value := do
  let draft ← (record.fields.zip elements).foldlM
    (fun draft (field, element) ↦ record.put draft field element) record.blank
  if !closed || record.fields.length < elements.length then throw .malformed
  match record.complete draft with
  | .ok value => return value
  | .error field => throw (.tooFewElements (record.position field) record.name record.fields.length)

/-- Reads the value of a document. -/
def ofTree (record : Record Field Draft Value) : Json.Tree → Except RecordError Value
  | .object members closed => record.ofMembers members closed
  | .array elements closed => record.ofElements elements closed
  | tree => .error (.notOfKind (FoundValue.ofTree? tree) record.wanted)

/-- Reads a document. -/
def ofText (record : Record Field Draft Value) (text : String) : Except RecordError Value := do
  let document := Json.Document.ofText text
  let value ← record.ofTree document.root
  if document.ended then return value else throw .malformed

end Record

end FlashPatch
