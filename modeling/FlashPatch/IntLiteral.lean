import FlashPatch.Numeral
import FlashPatch.Text.Blank
import FlashPatch.Text.Quoted

/-!
# Integer literals

Integers as they are copied from a flash map: a sign, a base mark, and digits that may be grouped
by single underscores, with white space around. A decimal literal has no leading zeros unless it
is all zeros, and the magnitude of a literal is below two to the power 127.
-/

namespace FlashPatch.IntLiteral

/-- Text that is no integer literal. -/
structure Malformed where
  /-- The text as it was given. -/
  text : String
deriving DecidableEq, Repr

/-- The message for text that is no integer literal. -/
def Malformed.message (error : Malformed) : String :=
  "invalid integer literal: " ++ Text.quoted error.text

/-- Whether the literal is negative, and the text without its sign. -/
def splitSign : List Char → Bool × List Char
  | '-' :: rest => (true, rest)
  | '+' :: rest => (false, rest)
  | text => (false, text)

/-- The base named by the letter of a mark, in either case. -/
def markedBase? (c : Char) : Option Nat :=
  match c.toLower with
  | 'x' => some 16
  | 'o' => some 8
  | 'b' => some 2
  | _ => none

/-- The base and the grouped digits. A mark may be followed by one underscore. -/
def splitBase (text : List Char) : Nat × List Char :=
  match text with
  | '0' :: c :: rest =>
    match markedBase? c with
    | some base =>
      match rest with
      | '_' :: digits => (base, digits)
      | digits => (base, digits)
    | none => (10, text)
  | _ => (10, text)

/-- The digits of the groups between underscores, none of which may be empty. -/
def ungroup? (text : List Char) : Option (List Char) :=
  let groups := text.splitOn '_'
  if groups.any (·.isEmpty) then none else some groups.flatten

/-- Digits of which the first of several is a zero and another is not. -/
def hasLeadingZero : List Char → Bool
  | '0' :: rest => rest.any (· != '0')
  | _ => false

/-- Magnitudes are below this bound. -/
def magnitudeBound : Nat := Nat.pow 2 127

/-- The magnitude that digits of the base write. -/
def magnitude? (base : Nat) (digits : List Char) : Option Nat :=
  if base = 10 ∧ hasLeadingZero digits then none
  else (Numeral.read? base digits).filter (· < magnitudeBound)

/-- The integer that a literal stands for. -/
def value? (text : List Char) : Option Int := do
  let (negative, unsigned) := splitSign (Text.trim text)
  let (base, grouped) := splitBase unsigned
  let digits ← ungroup? grouped
  let magnitude ← magnitude? base digits
  return if negative then -(magnitude : Int) else magnitude

/-- Reads an integer literal. -/
def read (text : String) : Except Malformed Int :=
  match value? text.toList with
  | some v => .ok v
  | none => .error ⟨text⟩

end FlashPatch.IntLiteral
