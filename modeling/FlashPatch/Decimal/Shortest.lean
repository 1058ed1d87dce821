import FlashPatch.Decimal.Binary64

/-!
# Shortest decimals

The decimal with the fewest digits that still rounds to a given floating-point number, the nearest
one if there are several.
-/

namespace FlashPatch

/-- A decimal, `digits * 10 ^ exponent`. -/
structure Decimal where
  /-- The significant digits as a number. -/
  digits : Nat
  /-- The power of ten that scales them. -/
  exponent : Int
deriving DecidableEq, Repr

namespace Decimal

/-- The order of `a * 10 ^ i` and `n * 2 ^ j`. -/
def compareScaled (a : Nat) (i : Int) (n : Nat) (j : Int) : Ordering :=
  compare (a * Nat.pow 10 i.toNat * Nat.pow 2 (-j).toNat)
    (n * Nat.pow 2 j.toNat * Nat.pow 10 (-i).toNat)

/-- Whether the number below `x` is only half as far away as the number above. -/
def isNarrowBelow (x : Binary64) : Bool :=
  x.mantissa = Nat.pow 2 52 && Binary64.minExponent < x.exponent

/-- Whether the decimal lies among the reals that round to `x`: between the midpoints to the
neighbours of `x`, these included if the mantissa is even. -/
def readsBack (x : Binary64) (d : Decimal) : Bool :=
  let low := if isNarrowBelow x then 4 * x.mantissa - 1 else 4 * x.mantissa - 2
  let high := 4 * x.mantissa + 2
  let closed := x.mantissa % 2 = 0
  let atLow := compareScaled d.digits d.exponent low (x.exponent - 2)
  let atHigh := compareScaled d.digits d.exponent high (x.exponent - 2)
  (atLow = .gt || (closed && atLow = .eq)) && (atHigh = .lt || (closed && atHigh = .eq))

/-- The exponent of the leading decimal digit of a positive number. -/
def leadingDigit (x : Binary64) : Int :=
  -- the leading bit times log 2, which is too small by at most one
  let k := (x.mantissa.log2 + x.exponent) * 30103 / 100000
  let isBelow (k : Int) : Bool := compareScaled 1 k x.mantissa x.exponent != .gt
  if isBelow (k + 1) then k + 1 else if isBelow k then k else k - 1

/-- The whole number of steps of `10 ^ exponent` in `x`. -/
def steps (x : Binary64) (exponent : Int) : Nat :=
  (x.mantissa * Nat.pow 2 x.exponent.toNat * Nat.pow 10 (-exponent).toNat)
    / (Nat.pow 2 (-x.exponent).toNat * Nat.pow 10 exponent.toNat)

/-- Of the two multiples of `10 ^ exponent` around `x` the one that reads back, if one does; of two
the nearer, and of two equally near the even one. -/
def onGrid? (x : Binary64) (exponent : Int) : Option Decimal :=
  let below : Decimal := ⟨steps x exponent, exponent⟩
  let above : Decimal := ⟨below.digits + 1, exponent⟩
  match readsBack x below, readsBack x above with
  | true, false => some below
  | false, true => some above
  | false, false => none
  | true, true =>
    match compareScaled (below.digits + above.digits) exponent x.mantissa (x.exponent + 1) with
    | .gt => some below
    | .lt => some above
    | .eq => some (if below.digits % 2 = 0 then below else above)

/-- The decimal without zeros at the end of its digits. -/
def strip (d : Decimal) : Decimal :=
  if d.digits ≠ 0 ∧ d.digits % 10 = 0 then strip ⟨d.digits / 10, d.exponent + 1⟩ else d
termination_by d.digits
decreasing_by
  show d.digits / 10 < d.digits
  omega

/-- The shortest decimal that reads back to `x`: the coarsest grid that has one is found among the
first seventeen, where every number has one. -/
def shortest (x : Binary64) : Decimal :=
  if x.mantissa = 0 then ⟨0, 0⟩
  else
    let lead := leadingDigit x
    match (List.range 17).findSome? fun (n : Nat) ↦ onGrid? x (lead - n) with
    | some d => strip d
    | none => ⟨steps x (lead - 16), lead - 16⟩

/-- Text of a floating-point number in messages: positional with at least one place after the point
while the leading digit is between `10 ^ -5` and `10 ^ 15`, otherwise in exponent form. -/
def text (negative : Bool) (x : Binary64) : String :=
  let d := shortest x
  let digits := Nat.toDigits 10 d.digits
  let lead : Int := if d.digits = 0 then 0 else d.exponent + digits.length - 1
  let body :=
    if -5 ≤ lead ∧ lead ≤ 15 then positional digits d.exponent else scientific digits lead
  String.ofList (if negative then '-' :: body else body)
where
  /-- Digits with a point: behind them, among them or in front of them. -/
  positional (digits : List Char) (exponent : Int) : List Char :=
    if 0 ≤ exponent then digits ++ List.replicate exponent.toNat '0' ++ ['.', '0']
    else
      let places := (-exponent).toNat
      let padded := digits.leftpad (places + 1) '0'
      padded.take (padded.length - places) ++ ['.'] ++ padded.drop (padded.length - places)
  /-- The first digit, a point if more digits follow, and a signed exponent. -/
  scientific (digits : List Char) (lead : Int) : List Char :=
    let fraction := digits.drop 1
    let sign := if lead < 0 then '-' else '+'
    digits.take 1 ++ (if fraction.isEmpty then [] else '.' :: fraction) ++ ['e', sign]
      ++ Nat.toDigits 10 lead.natAbs

end Decimal

end FlashPatch
