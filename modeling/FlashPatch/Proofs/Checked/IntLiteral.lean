import FlashPatch.Proofs.Checked.Operation
import FlashPatch.Proofs.Numeral

/-!
# Integer literals, with checked operations

Reading a literal cuts text behind its sign, reads digits in a base and negates a magnitude. The
text is only cut behind a character, and the magnitude is none that cannot be negated.
-/

namespace FlashPatch.Checked

open Operation

/-! ## Signs -/

/-- Whether the literal is negative, and the text without its sign. -/
def splitSign (text : List Char) : Except Violation (Bool × List Char) := do
  let first := (utf8 text).head?
  if first = some '-'.toUInt8 then return (true, ← cut 1 text)
  else if first = some '+'.toUInt8 then return (false, ← cut 1 text)
  else return (false, text)

/-- A sign is a character of one byte, so the text behind it can be had. -/
theorem splitSign_eq (text : List Char) : splitSign text = .ok (IntLiteral.splitSign text) := by
  have hminus := head?_utf8_eq_some_iff text (by decide : '-'.toNat < 128)
  have hplus := head?_utf8_eq_some_iff text (by decide : '+'.toNat < 128)
  unfold splitSign
  by_cases hm : ∃ rest, text = '-' :: rest
  · obtain ⟨rest, rfl⟩ := hm
    rw [if_pos (hminus.mpr ⟨rest, rfl⟩), cut_one (by decide)]
    rfl
  · rw [if_neg (mt hminus.mp hm)]
    by_cases hp : ∃ rest, text = '+' :: rest
    · obtain ⟨rest, rfl⟩ := hp
      rw [if_pos (hplus.mpr ⟨rest, rfl⟩), cut_one (by decide)]
      rfl
    · rw [if_neg (mt hplus.mp hp)]
      unfold IntLiteral.splitSign
      split
      · exact absurd ⟨_, rfl⟩ hm
      · exact absurd ⟨_, rfl⟩ hp
      · rfl

/-! ## Digits -/

/-- Reads an integer literal. -/
def readLiteral (text : String) : Checked IntLiteral.Malformed Int := do
  let (negative, unsigned) ← splitSign (Text.trim text.toList)
  let (base, grouped) := IntLiteral.splitBase unsigned
  match IntLiteral.ungroup? grouped with
  | none => throw ⟨text⟩
  | some digits =>
    if digits.all Char.isAlphanum = false ∨ base = 10 ∧ IntLiteral.hasLeadingZero digits then
      throw ⟨text⟩
    else
      match ← readSigned? base digits with
      | none => throw ⟨text⟩
      | some magnitude => if negative then negate magnitude else return magnitude

private theorem all_isAlphanum_of_read? {base n : Nat} {digits : List Char}
    (h : Numeral.read? base digits = some n) : digits.all Char.isAlphanum = true := by
  rw [List.all_eq_true]
  intro c hc
  obtain ⟨d, hd, -⟩ := Numeral.digit?_of_mem_of_read? h hc
  unfold Numeral.digit? at hd
  change (c.isUpper || c.isLower || c.isDigit) = true
  rw [Bool.or_eq_true, Bool.or_eq_true]
  by_cases hdigit : c.isDigit = true
  · exact .inr hdigit
  · by_cases hlower : c.isLower = true
    · exact .inl (.inr hlower)
    · by_cases hupper : c.isUpper = true
      · exact .inl (.inl hupper)
      · simp [hdigit, hlower, hupper] at hd

private theorem splitSign_of_all_isAlphanum {digits : List Char}
    (h : digits.all Char.isAlphanum = true) : IntLiteral.splitSign digits = (false, digits) := by
  unfold IntLiteral.splitSign
  split
  · simp at h
  · simp at h
  · rfl

private theorem splitBase_bounds (text : List Char) :
    2 ≤ (IntLiteral.splitBase text).1 ∧ (IntLiteral.splitBase text).1 ≤ 36 := by
  have hmark (c : Char) (base : Nat) (h : IntLiteral.markedBase? c = some base) :
      2 ≤ base ∧ base ≤ 36 := by
    unfold IntLiteral.markedBase? at h
    split at h
    · obtain rfl := Option.some.inj h
      decide
    · obtain rfl := Option.some.inj h
      decide
    · obtain rfl := Option.some.inj h
      decide
    · cases h
  unfold IntLiteral.splitBase
  split
  · next c rest =>
    split
    · next base h => split <;> exact hmark c base h
    · exact ⟨by omega, by omega⟩
  · exact ⟨by omega, by omega⟩

private theorem readSigned?_eq {base : Nat} {digits : List Char} (hbase : 2 ≤ base ∧ base ≤ 36)
    (h : digits.all Char.isAlphanum = true)
    (hzero : ¬(base = 10 ∧ IntLiteral.hasLeadingZero digits = true)) :
    readSigned? base digits = .ok ((IntLiteral.magnitude? base digits).map Int.ofNat) := by
  have hrange (n : Nat) : (-2 ^ 127 ≤ (n : Int) ∧ (n : Int) < 2 ^ 127) ↔
      n < IntLiteral.magnitudeBound := by
    change _ ↔ n < 2 ^ 127
    omega
  unfold readSigned? IntLiteral.magnitude?
  rw [if_pos hbase, if_neg hzero]
  simp only [splitSign_of_all_isAlphanum h, Bool.false_eq_true, if_false]
  congr 1
  cases Numeral.read? base digits with
  | none => rfl
  | some n =>
    simp only [Option.map_some, Option.filter_some, decide_eq_true_eq, hrange]
    split
    · rfl
    · rfl

private theorem read_eq (text : String) :
    IntLiteral.read text =
      let (negative, unsigned) := IntLiteral.splitSign (Text.trim text.toList)
      let (base, grouped) := IntLiteral.splitBase unsigned
      match (IntLiteral.ungroup? grouped).bind (IntLiteral.magnitude? base) with
      | some magnitude => .ok (if negative then -(magnitude : Int) else magnitude)
      | none => .error ⟨text⟩ := by
  unfold IntLiteral.read IntLiteral.value?
  rcases IntLiteral.splitSign (Text.trim text.toList) with ⟨negative, unsigned⟩
  simp only [Option.bind_eq_bind]
  rcases IntLiteral.splitBase unsigned with ⟨base, grouped⟩
  simp only
  cases IntLiteral.ungroup? grouped with
  | none => rfl
  | some digits =>
    simp only [Option.bind_some]
    cases IntLiteral.magnitude? base digits with
    | none => rfl
    | some magnitude => rfl

private theorem magnitude?_eq_none {base : Nat} {digits : List Char}
    (h : digits.all Char.isAlphanum = false ∨
      base = 10 ∧ IntLiteral.hasLeadingZero digits = true) :
    IntLiteral.magnitude? base digits = none := by
  unfold IntLiteral.magnitude?
  split
  · rfl
  · next hzero =>
    have hread : Numeral.read? base digits = none := by
      cases hread : Numeral.read? base digits with
      | none => rfl
      | some n =>
        have hall := h.resolve_right hzero
        rw [all_isAlphanum_of_read? hread] at hall
        cases hall
    rw [hread, Option.filter_none]

/-- No text leads out of a domain, and all text is read as it is without the checks. -/
theorem readLiteral_gives (text : String) : Gives (readLiteral text) (IntLiteral.read text) := by
  rw [read_eq]
  unfold readLiteral
  apply Gives.bind (Gives.lift (splitSign_eq _))
  rcases IntLiteral.splitSign (Text.trim text.toList) with ⟨negative, unsigned⟩
  have hbase := splitBase_bounds unsigned
  simp only
  generalize IntLiteral.splitBase unsigned = marked at hbase
  obtain ⟨base, grouped⟩ := marked
  simp only at hbase ⊢
  cases IntLiteral.ungroup? grouped with
  | none => exact Gives.throw _
  | some digits =>
    simp only [Option.bind_some]
    by_cases hbad : digits.all Char.isAlphanum = false ∨
        base = 10 ∧ IntLiteral.hasLeadingZero digits = true
    · rw [if_pos hbad, magnitude?_eq_none hbad]
      exact Gives.throw _
    · obtain ⟨hall, hzero⟩ := not_or.mp hbad
      rw [if_neg hbad]
      apply Gives.bind (Gives.lift (readSigned?_eq hbase (by simpa using hall) hzero))
      cases IntLiteral.magnitude? base digits with
      | none => exact Gives.throw _
      | some magnitude =>
        cases negative with
        | false => exact Gives.pure _
        | true =>
          apply Gives.lift
          apply negate_of_lt
          simp only [Int.ofNat_eq_natCast]
          omega

end FlashPatch.Checked
