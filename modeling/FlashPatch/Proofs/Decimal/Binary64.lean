import FlashPatch.Decimal.Binary64
import Mathlib.Algebra.Group.Nat.Defs

/-!
# Magnitudes that are in range

A quotient whose numerator has far fewer bits than the greatest number is never beyond all numbers.
So a significand of 64 bits with a few zeros behind it always is a number, however it is rounded.
The bounds are coarse, because the integers that they are for stay far below the greatest number.
-/

namespace FlashPatch.Binary64

/-! ## Quotients -/

/-- The leading bit of a quotient does not stand above that of the numerator. -/
theorem leadingBit_le (num den : Nat) : leadingBit num den ≤ num.log2 := by
  unfold leadingBit
  simp only
  split <;> omega

/-- The leading bit of a natural is at most one place below the one of its logarithm. -/
theorem neg_one_le_leadingBit (num : Nat) : -1 ≤ leadingBit num 1 := by
  have hone : Nat.log2 1 = 0 := rfl
  unfold leadingBit
  simp only [hone]
  split <;> omega

/-- Rounding goes up by one at most. -/
theorem roundDiv_le (num den : Nat) : roundDiv num den ≤ num + 1 := by
  have hdiv := Nat.div_le_self num den
  unfold roundDiv
  simp only
  split <;> omega

/-- A quotient is in range if its numerator has few bits. -/
theorem exists_ofQuotient? {num bits : Nat} (h : num < 2 ^ bits) (hbits : bits ≤ 1000) (den : Nat) :
    ∃ x, ofQuotient? num den = some x := by
  have hmin : minExponent = -1074 := rfl
  have hmax : maxExponent = 971 := rfl
  unfold ofQuotient?
  by_cases hzero : num = 0
  · exact ⟨_, if_pos hzero⟩
  · have hlog : num.log2 < bits := (Nat.log2_lt hzero).mpr h
    have hlead := leadingBit_le num den
    rw [if_neg hzero]
    refine ⟨_, if_pos ?_⟩
    split
    · simp only
      omega
    · simp only
      omega

/-- The parts of a natural that is rounded have about as many bits as it. -/
theorem bounds_of_ofQuotient? {num bits : Nat} {x : Binary64} (h : num < 2 ^ bits)
    (hx : ofQuotient? num 1 = some x) : x.mantissa ≤ 2 ^ (bits + 53) ∧ x.exponent ≤ bits := by
  have hmin : minExponent = -1074 := rfl
  unfold ofQuotient? at hx
  by_cases hzero : num = 0
  · rw [if_pos hzero] at hx
    obtain rfl := Option.some.inj hx
    exact ⟨Nat.zero_le _, by simp only; omega⟩
  · have hlog : num.log2 < bits := (Nat.log2_lt hzero).mpr h
    have hlow := neg_one_le_leadingBit num
    have hhigh := leadingBit_le num 1
    rw [if_neg hzero, Option.ite_none_right_eq_some] at hx
    obtain ⟨-, hx⟩ := hx
    generalize hexponent : max (leadingBit num 1 - 52) minExponent = exponent at hx
    obtain rfl := Option.some.inj hx
    have hshift : num * 2 ^ (-exponent).toNat ≤ num * 2 ^ 53 :=
      Nat.mul_le_mul_left num (Nat.pow_le_pow_right (by decide) (by omega))
    have hwide : (num + 1) * 2 ^ 53 ≤ 2 ^ (bits + 53) := by
      rw [Nat.pow_add]
      exact Nat.mul_le_mul_right _ h
    have hround := roundDiv_le (num * 2 ^ (-exponent).toNat) (1 * Nat.pow 2 exponent.toNat)
    split
    · have hfull : 2 ^ 52 ≤ 2 ^ (bits + 53) := Nat.pow_le_pow_right (by decide) (by omega)
      exact ⟨hfull, by simp only; omega⟩
    · refine ⟨?_, by simp only; omega⟩
      change roundDiv (num * 2 ^ (-exponent).toNat) (1 * Nat.pow 2 exponent.toNat) ≤ _
      omega

/-- The numerator of a natural that is rounded has at most about twice its bits. -/
theorem toQuotient_lt {num bits : Nat} {x : Binary64} (h : num < 2 ^ bits)
    (hx : ofQuotient? num 1 = some x) : x.toQuotient.1 < 2 ^ (2 * bits + 54) := by
  obtain ⟨hmantissa, hexponent⟩ := bounds_of_ofQuotient? h hx
  have hpower : 2 ^ x.exponent.toNat ≤ 2 ^ bits :=
    Nat.pow_le_pow_right (by decide) (by omega)
  calc x.toQuotient.1
      ≤ 2 ^ (bits + 53) * 2 ^ bits := Nat.mul_le_mul hmantissa hpower
    _ = 2 ^ (2 * bits + 53) := by rw [← Nat.pow_add]; congr 1; omega
    _ < 2 ^ (2 * bits + 54) := Nat.pow_lt_pow_right (by decide) (Nat.lt_succ_self _)

/-- A product is in range if its factors have few bits. -/
theorem exists_mul? {x y : Binary64} {xBits yBits : Nat} (hx : x.toQuotient.1 < 2 ^ xBits)
    (hy : y.toQuotient.1 < 2 ^ yBits) (hbits : xBits + yBits ≤ 1000) :
    ∃ z, x.mul? y = some z := by
  refine exists_ofQuotient? ?_ hbits _
  rw [Nat.pow_add]
  exact Nat.mul_lt_mul'' hx hy

/-! ## Decimals -/

/-- A significand of 64 bits is a number with up to eighty zeros behind it. -/
theorem exists_ofDecimal? {significand places : Nat} (hs : significand < 2 ^ 64)
    (hplaces : places ≤ 80) : ∃ x, ofDecimal? significand places = some x := by
  have hmax : maxPowerOfTen = 308 := rfl
  have hten : Nat.pow 10 places < 2 ^ (4 * places + 1) := by
    have hsixteen : 10 ^ places ≤ (2 ^ 4) ^ places := Nat.pow_le_pow_left (by decide) places
    rw [← Nat.pow_mul] at hsixteen
    exact Nat.lt_of_le_of_lt hsixteen (Nat.pow_lt_pow_right (by decide) (Nat.lt_succ_self _))
  obtain ⟨front, hfront⟩ := exists_ofQuotient? hs (by decide) 1
  obtain ⟨power, hpower⟩ := exists_ofQuotient? hten (by omega) 1
  obtain ⟨x, hx⟩ := exists_mul? (toQuotient_lt hs hfront) (toQuotient_lt hten hpower) (by omega)
  refine ⟨x, ?_⟩
  rw [ofDecimal?, hfront]
  change ofDecimal?.scale front places = some x
  rw [ofDecimal?.scale, if_pos (Int.natCast_nonneg places), if_pos (by omega), Int.toNat_natCast,
    hpower]
  exact hx

end FlashPatch.Binary64
