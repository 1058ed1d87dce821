/-!
# Magnitudes of binary floating-point numbers

The finite non-negative numbers that 64-bit binary floating point can hold, as exact integers, with
product and quotient rounded to nearest and ties to even.
-/

namespace FlashPatch

/-- A finite non-negative 64-bit floating-point number, `mantissa * 2 ^ exponent`. The mantissa is
below `2 ^ 53`, and at least `2 ^ 52` unless the exponent is the least one. -/
structure Binary64 where
  /-- The significant bits. -/
  mantissa : Nat
  /-- The power of two that scales them. -/
  exponent : Int
deriving DecidableEq, Repr

namespace Binary64

/-- The least exponent of two. Mantissas with fewer bits occur only here. -/
def minExponent : Int := -1074

/-- The greatest exponent of two. -/
def maxExponent : Int := 971

/-- The quotient of two naturals, rounded to nearest and a tie to the even neighbour. -/
def roundDiv (num den : Nat) : Nat :=
  let q := num / den
  match compare (2 * (num % den)) den with
  | .lt => q
  | .gt => q + 1
  | .eq => q + q % 2

/-- The exponent of the leading bit of a positive quotient. -/
def leadingBit (num den : Nat) : Int :=
  let k : Int := (num.log2 : Int) - den.log2
  if num * Nat.pow 2 (-k).toNat < den * Nat.pow 2 k.toNat then k - 1 else k

/-- The number nearest to a quotient, or `none` if the quotient is beyond all of them. -/
def ofQuotient? (num den : Nat) : Option Binary64 :=
  if num = 0 then some ⟨0, minExponent⟩
  else
    let exponent := max (leadingBit num den - 52) minExponent
    let mantissa := roundDiv (num * Nat.pow 2 (-exponent).toNat) (den * Nat.pow 2 exponent.toNat)
    let rounded : Binary64 :=
      if mantissa = Nat.pow 2 53 then ⟨Nat.pow 2 52, exponent + 1⟩ else ⟨mantissa, exponent⟩
    if rounded.exponent ≤ maxExponent then some rounded else none

/-- Numerator and denominator of the value. -/
def toQuotient (x : Binary64) : Nat × Nat :=
  (x.mantissa * Nat.pow 2 x.exponent.toNat, Nat.pow 2 (-x.exponent).toNat)

/-- The rounded product, or `none` if it is too large. -/
def mul? (x y : Binary64) : Option Binary64 :=
  ofQuotient? (x.toQuotient.1 * y.toQuotient.1) (x.toQuotient.2 * y.toQuotient.2)

/-- The rounded quotient by a positive number, or `none` if it is too large. -/
def div? (x y : Binary64) : Option Binary64 :=
  ofQuotient? (x.toQuotient.1 * y.toQuotient.2) (x.toQuotient.2 * y.toQuotient.1)

/-- The greatest power of ten that is a number of this kind. -/
def maxPowerOfTen : Nat := 308

/-- The number with the given significand and decimal exponent. The significand and the powers of
ten are rounded first and then multiplied or divided; a power of ten below all numbers is taken in
steps. There is no number if a product is too large. -/
def ofDecimal? (significand : Nat) (exponent : Int) : Option Binary64 := do
  scale (← ofQuotient? significand 1) exponent
where
  /-- Multiplies by a power of ten. -/
  scale (x : Binary64) (exponent : Int) : Option Binary64 := do
    if 0 ≤ exponent then
      if exponent ≤ maxPowerOfTen then x.mul? (← ofQuotient? (Nat.pow 10 exponent.toNat) 1)
      else if x.mantissa = 0 then some x
      else none
    else if -exponent ≤ maxPowerOfTen then x.div? (← ofQuotient? (Nat.pow 10 (-exponent).toNat) 1)
    else if x.mantissa = 0 then some x
    else scale (← x.div? (← ofQuotient? (Nat.pow 10 maxPowerOfTen) 1)) (exponent + maxPowerOfTen)
  termination_by exponent.natAbs
  decreasing_by
    simp only [maxPowerOfTen] at *
    omega

end Binary64

end FlashPatch
