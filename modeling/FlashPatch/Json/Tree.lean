import FlashPatch.Json.Token

/-!
# JSON trees

The structure of a document as far as it goes. Where the tokens do not continue a document, the
tree ends in a break, and the containers around the break stay open. Reading a tree from left to
right therefore meets the first problem of the text first.
-/

namespace FlashPatch.Json

/-- A value, as far as the text has one. -/
inductive Tree where
  | null
  | bool (value : Bool)
  | number (value : Option Number)
  | string (text : Option String)
  /-- The elements, and whether the closing bracket follows them. -/
  | array (elements : List Tree) (closed : Bool)
  /-- The members, and whether the closing brace follows them. A key has a text as a string has. -/
  | object (members : List (Option String × Tree)) (closed : Bool)
  /-- The place where the text stops to be a document. -/
  | broken
deriving Repr

namespace Tree

/-- A container that is being read, with what it holds so far, last first. -/
inductive Frame where
  | array (elements : List Tree)
  | object (members : List (Option String × Tree)) (key : Option String)

/-- The container with one more value. -/
def Frame.fill (frame : Frame) (value : Tree) (closed : Bool) : Tree :=
  match frame with
  | .array elements => .array (value :: elements).reverse closed
  | .object members key => .object ((key, value) :: members).reverse closed

/-- The tree of a document that ends inside the frames, innermost first. -/
def abandon (value : Tree) (frames : List Frame) : Tree :=
  frames.foldl (fun inner frame ↦ frame.fill inner false) value

end Tree

/-- A document: its value, and whether nothing follows it. -/
structure Document where
  /-- The value, as far as the text has one. -/
  root : Tree
  /-- Whether the text ends behind the value. -/
  ended : Bool
deriving Repr

namespace Document

/-- The document that breaks off where a value is due. -/
def breakOff (frames : List Tree.Frame) : Document := ⟨Tree.abandon .broken frames, false⟩

mutual

/-- Goes on where a value is due inside the frames. -/
def value (frames : List Tree.Frame) : List Token → Document
  | .null :: rest => next .null frames rest
  | .bool b :: rest => next (.bool b) frames rest
  | .number n :: rest => next (.number n) frames rest
  | .string s :: rest => next (.string s) frames rest
  | .openBracket :: .closeBracket :: rest => next (.array [] true) frames rest
  | .openBracket :: rest => value (.array [] :: frames) rest
  | .openBrace :: .closeBrace :: rest => next (.object [] true) frames rest
  | .openBrace :: rest => member [] frames rest
  | _ => breakOff frames

/-- Goes on where the key of a member is due, behind the given members. -/
def member (members : List (Option String × Tree)) (frames : List Tree.Frame) :
    List Token → Document
  | .string key :: .colon :: rest => value (.object members key :: frames) rest
  | .string key :: _ => breakOff (.object members key :: frames)
  | _ => ⟨Tree.abandon (.object members.reverse false) frames, false⟩

/-- Goes on behind a value. -/
def next (before : Tree) (frames : List Tree.Frame) (rest : List Token) : Document :=
  match frames, rest with
  | [], rest => ⟨before, rest.isEmpty⟩
  | .array elements :: frames, .comma :: rest => value (.array (before :: elements) :: frames) rest
  | .array elements :: frames, .closeBracket :: rest =>
    next (.array (before :: elements).reverse true) frames rest
  | .object members key :: frames, .comma :: rest => member ((key, before) :: members) frames rest
  | .object members key :: frames, .closeBrace :: rest =>
    next (.object ((key, before) :: members).reverse true) frames rest
  | frames, _ => ⟨Tree.abandon before frames, false⟩

end

/-- The document that the tokens write. -/
def ofTokens (tokens : List Token) : Document := value [] tokens

/-- The document that a text writes. -/
def ofText (text : String) : Document := ofTokens (tokens text.toList)

end Document

namespace Tree

mutual

/-- Whether the value was read to its end. With `strict`, every number and string must also have a
value. -/
def isSound (strict : Bool) : Tree → Bool
  | null => true
  | bool _ => true
  | number n => !strict || n.isSome
  | string s => !strict || s.isSome
  | array elements closed => closed && areSound strict elements
  | object members closed => closed && membersAreSound strict members
  | broken => false

/-- Whether all elements were read to their end. -/
def areSound (strict : Bool) : List Tree → Bool
  | [] => true
  | element :: rest => element.isSound strict && areSound strict rest

/-- Whether all members were read to their end. -/
def membersAreSound (strict : Bool) : List (Option String × Tree) → Bool
  | [] => true
  | (key, value) :: rest =>
    (!strict || key.isSome) && value.isSound strict && membersAreSound strict rest

end

mutual

/-- The number of containers around the innermost value. -/
def depth : Tree → Nat
  | array elements _ => depthOfElements elements + 1
  | object members _ => depthOfMembers members + 1
  | _ => 0

/-- The greatest depth of an element. -/
def depthOfElements : List Tree → Nat
  | [] => 0
  | element :: rest => max element.depth (depthOfElements rest)

/-- The greatest depth of a value among the members. -/
def depthOfMembers : List (Option String × Tree) → Nat
  | [] => 0
  | (_, value) :: rest => max value.depth (depthOfMembers rest)

end

end Tree

end FlashPatch.Json
