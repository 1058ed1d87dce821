/-!
# Numerals

Natural numbers in a base from two to thirty-six, written and read as characters with the most
significant digit first. Writing uses lower-case letters, reading takes letters of either case.
-/

namespace FlashPatch.Numeral

/-- The numeral of `n` in the base, filled with zeros on the left up to `width` characters. -/
def write (base width n : Nat) : List Char := (Nat.toDigits base n).leftpad width '0'

/-- A padded numeral is as long as its padding or as its digits, whichever is longer. -/
theorem length_write (base width n : Nat) :
    (write base width n).length = max width (Nat.toDigits base n).length :=
  List.length_leftpad

/-- Lower-case hexadecimal text without padding, after its `0x` mark. -/
def hex (n : Nat) : String := "0x" ++ String.ofList (write 16 0 n)

/-- The value of an ASCII digit or letter as a digit, letters counting on from ten. -/
def digit? (c : Char) : Option Nat :=
  if c.isDigit then some (c.toNat - '0'.toNat)
  else if c.isLower then some (c.toNat - 'a'.toNat + 10)
  else if c.isUpper then some (c.toNat - 'A'.toNat + 10)
  else none

/-- The digits that the characters stand for, if each is a digit below the base. -/
def digits? (base : Nat) (text : List Char) : Option (List Nat) :=
  text.mapM fun c ↦ (digit? c).filter (· < base)

/-- The number with the given digits, most significant first. -/
def value (base : Nat) (digits : List Nat) : Nat := digits.foldl (fun v d ↦ base * v + d) 0

/-- The number that the characters write in the base. No characters write no number. -/
def read? (base : Nat) (text : List Char) : Option Nat :=
  if text.isEmpty then none else (digits? base text).map (value base)

/-- Appending a digit multiplies by the base and adds. -/
theorem value_append_singleton (base : Nat) (ds : List Nat) (d : Nat) :
    value base (ds ++ [d]) = base * value base ds + d := by
  simp [value]

end FlashPatch.Numeral
