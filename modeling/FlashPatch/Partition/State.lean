import FlashPatch.Header.Decoding

/-!
# Partition states

What the start of a patch partition says to the loader. After applying a patch the loader
overwrites the magic, so that the patch is not applied twice.
-/

namespace FlashPatch.Partition

/-- The state of a patch partition. -/
inductive State where
  /-- A patch waits to be applied. -/
  | pending (header : Header)
  /-- The patch was applied and its magic overwritten. -/
  | applied
  /-- There is no patch: erased flash or foreign data. -/
  | absent
deriving DecidableEq, Repr

/-- The byte that the loader writes over the magic of an applied patch. -/
def appliedFill : UInt8 := 'F'.toUInt8

/-- The state of a partition with the given contents. A recognised magic must be followed by a
readable header. -/
def inspect (contents : List UInt8) (format : Format) (requested : Int64) :
    Except HeaderError State := do
  let length := format.magic.length
  if contents.length < length then throw (.tooShort contents.length length)
  let head := contents.take length
  if head = format.magic then
    return .pending (← Header.decode contents format requested)
  else if head.all (· == appliedFill) then return .applied
  else return .absent

/-- The contents with the magic overwritten. Everything behind the magic stays as it is, and only
contents that start with the magic can be marked. -/
def markApplied (contents : List UInt8) (format : Format) : Except HeaderError (List UInt8) := do
  let length := format.magic.length
  if contents.length < length then throw (.tooShort contents.length length)
  Header.checkMagic contents format
  return List.replicate length appliedFill ++ contents.drop length

end FlashPatch.Partition
