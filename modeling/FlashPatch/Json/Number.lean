import FlashPatch.Decimal.Shortest
import FlashPatch.Numeral

/-!
# JSON numbers

A number literal and its value. An integer literal within 64 bits is an integer; every other
literal, minus zero included, is a floating-point number, or has no value if it is too large.
-/

namespace FlashPatch.Json

/-- The value of a number. -/
inductive Number where
  /-- An integer between `-2 ^ 63` and `2 ^ 64`, the upper end excluded. -/
  | integer (value : Int)
  /-- Any other number, as sign and magnitude. -/
  | float (negative : Bool) (magnitude : Binary64)
deriving DecidableEq, Repr

/-- A number literal, split into its parts. -/
structure NumberLiteral where
  /-- Whether a minus sign stands in front. -/
  negative : Bool
  /-- The digits in front of the point. -/
  whole : List Char
  /-- The digits behind the point, if there is one. -/
  fraction : Option (List Char)
  /-- The exponent, if there is one. -/
  exponent : Option Int
deriving DecidableEq, Repr

namespace NumberLiteral

/-- The number that decimal digits write. -/
def amount (digits : List Char) : Nat := Numeral.value 10 (digits.map fun c ↦ c.toNat - '0'.toNat)

/-- The digits at the start of the text, of which there must be one. -/
def digits? (text : List Char) : Option (List Char × List Char) :=
  let digits := text.takeWhile Char.isDigit
  if digits.isEmpty then none else some (digits, text.dropWhile Char.isDigit)

/-- The digits in front of the point: a zero alone, or digits that do not start with a zero. -/
def whole? (text : List Char) : Option (List Char × List Char) := do
  let (digits, rest) ← digits? text
  match digits with
  | '0' :: _ :: _ => none
  | _ => some (digits, rest)

/-- The digits behind the point, if a point comes next. -/
def fraction? : List Char → Option (Option (List Char) × List Char)
  | '.' :: text => (digits? text).map fun (digits, rest) ↦ (some digits, rest)
  | text => some (none, text)

/-- The exponent, if its mark comes next. -/
def exponent? : List Char → Option (Option Int × List Char)
  | 'e' :: text => (signed? text).map fun (e, rest) ↦ (some e, rest)
  | 'E' :: text => (signed? text).map fun (e, rest) ↦ (some e, rest)
  | text => some (none, text)
where
  /-- Digits with an optional sign. -/
  signed? : List Char → Option (Int × List Char)
    | '-' :: text => (digits? text).map fun (digits, rest) ↦ (-(amount digits : Int), rest)
    | '+' :: text => (digits? text).map fun (digits, rest) ↦ ((amount digits : Int), rest)
    | text => (digits? text).map fun (digits, rest) ↦ ((amount digits : Int), rest)

/-- Whether a minus sign comes first, and the text behind it. -/
def sign : List Char → Bool × List Char
  | '-' :: text => (true, text)
  | text => (false, text)

/-- The number literal at the start of the text, and the text behind it. -/
def scan? (text : List Char) : Option (NumberLiteral × List Char) := do
  let (negative, text) := sign text
  let (whole, text) ← whole? text
  let (fraction, text) ← fraction? text
  let (exponent, text) ← exponent? text
  return ({ negative, whole, fraction, exponent }, text)

/-- Appends digits to a significand while it stays below two to the power 64. Also gives the digits
that were left over. -/
def absorb (significand : Nat) : List Char → Nat × List Char
  | [] => (significand, [])
  | c :: digits =>
    let next := 10 * significand + (c.toNat - '0'.toNat)
    if next < UInt64.size then absorb next digits else (significand, c :: digits)

/-- The floating-point magnitude. Digits that the significand has no room for only count as places
in front of the point, and not at all behind it. -/
def magnitude? (literal : NumberLiteral) : Option Binary64 :=
  let fraction := literal.fraction.getD []
  let (significand, excess) := absorb 0 literal.whole
  let (significand, dropped) := absorb significand fraction
  let places : Int := (excess.length : Int) - (fraction.length - dropped.length : Nat)
  Binary64.ofDecimal? significand (places + literal.exponent.getD 0)

/-- The integer that a literal without point and exponent writes, if 64 bits hold it. Minus zero
is no integer. -/
def integer? (literal : NumberLiteral) : Option Int :=
  let amount := amount literal.whole
  if literal.fraction.isSome || literal.exponent.isSome then none
  else if literal.negative then
    if 0 < amount ∧ amount ≤ Nat.pow 2 63 then some (-(amount : Int)) else none
  else if amount < Nat.pow 2 64 then some amount
  else none

/-- The value of a literal, unless it is too large to have one. -/
def value? (literal : NumberLiteral) : Option Number :=
  match literal.integer? with
  | some i => some (.integer i)
  | none => literal.magnitude?.map (.float literal.negative)

/-- Reading digits takes at least one character. -/
theorem length_lt_of_digits? {text digits rest : List Char}
    (h : digits? text = some (digits, rest)) : rest.length < text.length := by
  simp only [digits?] at h
  split at h
  · simp at h
  · next nonempty =>
    cases h
    have parts : (text.takeWhile Char.isDigit ++ text.dropWhile Char.isDigit).length
        = text.length := by rw [List.takeWhile_append_dropWhile]
    have : (text.takeWhile Char.isDigit).length ≠ 0 := by simpa using nonempty
    rw [List.length_append] at parts
    omega

/-- A fraction takes no more than there is. -/
theorem length_le_of_fraction? {text rest : List Char} {fraction : Option (List Char)}
    (h : fraction? text = some (fraction, rest)) : rest.length ≤ text.length := by
  unfold fraction? at h
  split at h
  · obtain ⟨⟨_, _⟩, hd, h⟩ := Option.map_eq_some_iff.1 h
    cases h
    have := length_lt_of_digits? hd
    simp only [List.length_cons]
    omega
  · cases h
    exact Nat.le_refl _

/-- The digits of an exponent take at least one character. -/
theorem length_lt_of_signed? {text rest : List Char} {e : Int}
    (h : exponent?.signed? text = some (e, rest)) : rest.length < text.length := by
  unfold exponent?.signed? at h
  split at h
  all_goals
    obtain ⟨⟨_, _⟩, hd, h⟩ := Option.map_eq_some_iff.1 h
    cases h
    have := length_lt_of_digits? hd
    grind

/-- An exponent takes no more than there is. -/
theorem length_le_of_exponent? {text rest : List Char} {exponent : Option Int}
    (h : exponent? text = some (exponent, rest)) : rest.length ≤ text.length := by
  unfold exponent? at h
  split at h
  · obtain ⟨⟨_, _⟩, hs, h⟩ := Option.map_eq_some_iff.1 h
    cases h
    have := length_lt_of_signed? hs
    simp only [List.length_cons]
    omega
  · obtain ⟨⟨_, _⟩, hs, h⟩ := Option.map_eq_some_iff.1 h
    cases h
    have := length_lt_of_signed? hs
    simp only [List.length_cons]
    omega
  · cases h
    exact Nat.le_refl _

/-- A sign takes no more than there is. -/
theorem length_le_of_sign (text : List Char) : (sign text).2.length ≤ text.length := by
  unfold sign
  split <;> simp

/-- A number literal takes at least one character. -/
theorem length_lt_of_scan? {text rest : List Char} {literal : NumberLiteral}
    (h : scan? text = some (literal, rest)) : rest.length < text.length := by
  have hsign := length_le_of_sign text
  simp only [scan?, Option.bind_eq_bind, Option.bind_eq_some_iff, Prod.exists] at h
  obtain ⟨whole, afterWhole, hw, fraction, afterFraction, hf, exponent, afterExponent, he, h⟩ := h
  cases h
  simp only [whole?, Option.bind_eq_bind, Option.bind_eq_some_iff, Prod.exists] at hw
  obtain ⟨digits, afterDigits, hd, hw⟩ := hw
  split at hw
  · simp at hw
  · cases hw
    have := length_lt_of_digits? hd
    have := length_le_of_fraction? hf
    have := length_le_of_exponent? he
    omega

end NumberLiteral

end FlashPatch.Json
