/-!
# Writing JSON

Flat objects in compact form: no spaces, members in the given order.
-/

namespace FlashPatch.Json

/-- A scalar to be written. -/
inductive Scalar where
  /-- Text without quotes, backslashes and control characters, which needs no escapes. -/
  | text (value : String)
  | integer (value : Int)
  | bool (value : Bool)
deriving DecidableEq, Repr

/-- Text between quotes. -/
def writeText (text : String) : List Char := ['"'] ++ text.toList ++ ['"']

/-- An integer in decimal, a minus sign in front of a negative one. -/
def writeInt : Int → List Char
  | .ofNat n => Nat.toDigits 10 n
  | .negSucc n => '-' :: Nat.toDigits 10 (n + 1)

/-- The written form of a scalar. -/
def Scalar.write : Scalar → List Char
  | text value => writeText value
  | integer value => writeInt value
  | bool true => "true".toList
  | bool false => "false".toList

/-- A member of an object. -/
def writeMember (member : String × Scalar) : List Char :=
  writeText member.1 ++ [':'] ++ member.2.write

/-- An object with the members in their order. -/
def writeObject (members : List (String × Scalar)) : List Char :=
  ['\x7b'] ++ [','].intercalate (members.map writeMember) ++ ['\x7d']

end FlashPatch.Json
