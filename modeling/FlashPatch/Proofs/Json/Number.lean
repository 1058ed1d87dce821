import FlashPatch.Proofs.Decimal.Binary64
import FlashPatch.Proofs.Json.Grammar

/-!
# Reading numbers

A number literal is read as the grammar spells it, if what follows ends it. Its value is an integer
exactly if the literal writes one that 64 bits hold. The other integers have a value too, unless
they have very many digits.
-/

namespace FlashPatch.Json

/-! ## What follows -/

/-- Whether a text is empty or begins with one of the characters. -/
def StartsIn (chars text : List Char) : Prop := ∀ c, text.head? = some c → c ∈ chars

/-- The characters that can follow a value. -/
def delimiters : List Char := [' ', '\t', '\n', '\r', ',', ']', '}']

/-- A text that begins with one of the characters. -/
theorem startsIn_cons {chars : List Char} {c : Char} (h : c ∈ chars) (text : List Char) :
    StartsIn chars (c :: text) := by
  rintro d ⟨⟩
  exact h

/-- More characters to begin with. -/
theorem StartsIn.mono {chars more text : List Char} (h : StartsIn chars text)
    (hsub : chars ⊆ more) : StartsIn more text :=
  fun c hc ↦ hsub (h c hc)

namespace NumberLiteral

/-- The characters that can follow the digits in front of the point. -/
private def afterWhole : List Char := '.' :: 'e' :: 'E' :: delimiters

/-- The characters that can follow the digits behind the point. -/
private def afterFraction : List Char := 'e' :: 'E' :: delimiters

private theorem afterFraction_subset : afterFraction ⊆ afterWhole := List.subset_cons_self _ _

private theorem delimiters_subset_afterFraction : delimiters ⊆ afterFraction := by decide

private theorem delimiters_subset_afterWhole : delimiters ⊆ afterWhole := by decide

private theorem not_isDigit_of_mem : ∀ c ∈ afterWhole, c.isDigit = false := by
  simp [afterWhole, delimiters]

/-! ## Literals -/

private theorem digits?_append {digits rest : List Char} (h : AreDigits digits)
    (hrest : StartsIn afterWhole rest) : digits? (digits ++ rest) = some (digits, rest) := by
  have htake : rest.takeWhile Char.isDigit = [] ∧ rest.dropWhile Char.isDigit = rest := by
    cases rest with
    | nil => exact ⟨rfl, rfl⟩
    | cons c rest =>
      have hc : c.isDigit = false := not_isDigit_of_mem c (hrest c rfl)
      simp [hc]
  rw [digits?, List.takeWhile_append_of_pos h.2, List.dropWhile_append_of_pos h.2, htake.1, htake.2,
    List.append_nil]
  exact if_neg (by simpa using h.1)

private theorem IsWhole.areDigits {whole : List Char} (h : IsWhole whole) : AreDigits whole := by
  rcases h with rfl | ⟨h, -⟩
  · exact ⟨by simp, by simp⟩
  · exact h

private theorem whole?_append {whole rest : List Char} (h : IsWhole whole)
    (hrest : StartsIn afterWhole rest) : whole? (whole ++ rest) = some (whole, rest) := by
  simp only [whole?, digits?_append h.areDigits hrest, Option.bind_eq_bind, Option.bind_some]
  rcases h with rfl | ⟨-, hzero⟩
  · rfl
  · split
    · simp at hzero
    · rfl

private theorem fraction?_append {point rest : List Char} {fraction : Option (List Char)}
    (h : SpellsFraction point fraction) (hrest : StartsIn afterFraction rest) :
    fraction? (point ++ rest) = some (fraction, rest) := by
  cases h with
  | absent =>
    have hpoint : '.' ∉ afterFraction := by decide
    rw [List.nil_append]
    unfold fraction?
    split
    · next text => exact absurd (hrest '.' rfl) hpoint
    · rfl
  | present h =>
    rw [List.cons_append, fraction?, digits?_append h (hrest.mono afterFraction_subset)]
    rfl

private theorem digit?_of_isDigit {c : Char} (h : c.isDigit = true) :
    Numeral.digit? c = some (c.toNat - '0'.toNat) ∧ c.toNat - '0'.toNat < 10 := by
  have hrange : 48 ≤ c.toNat ∧ c.toNat ≤ 57 := Char.isDigit_iff_toNat.mp h
  refine ⟨if_pos h, ?_⟩
  change c.toNat - 48 < 10
  omega

private theorem isDigit_of_digit? {c : Char} {d : Nat} (h : Numeral.digit? c = some d)
    (hd : d < 10) : c.isDigit = true := by
  have hc := Numeral.toNat_of_digit? h
  have hrange : c.isDigit = true ↔ 48 ≤ c.toNat ∧ c.toNat ≤ 57 := Char.isDigit_iff_toNat
  rw [hrange]
  omega

private theorem digits?_ten_eq_some_iff {text : List Char} {digits : List Nat} :
    Numeral.digits? 10 text = some digits ↔
      (∀ c ∈ text, c.isDigit = true) ∧ text.map (fun c ↦ c.toNat - '0'.toNat) = digits := by
  have hmap (h : ∀ c ∈ text, c.isDigit = true) :
      text.map Numeral.digit? = (text.map fun c ↦ c.toNat - '0'.toNat).map some := by
    rw [List.map_map]
    exact List.map_congr_left fun c hc ↦ (digit?_of_isDigit (h c hc)).1
  rw [Numeral.digits?_eq_some_iff]
  constructor
  · rintro ⟨hread, hlt⟩
    have hall : ∀ c ∈ text, c.isDigit = true := by
      intro c hc
      have hmem : Numeral.digit? c ∈ digits.map some := hread ▸ List.mem_map_of_mem hc
      obtain ⟨d, hd, he⟩ := List.mem_map.mp hmem
      exact isDigit_of_digit? he.symm (hlt d hd)
    rw [hmap hall] at hread
    exact ⟨hall, List.map_injective_iff.mpr (Option.some_injective Nat) hread⟩
  · rintro ⟨hall, rfl⟩
    refine ⟨hmap hall, ?_⟩
    intro d hd
    obtain ⟨c, hc, rfl⟩ := List.mem_map.mp hd
    exact (digit?_of_isDigit (hall c hc)).2

/-- A number is written in base ten by decimal digits, and it is their amount. -/
theorem writes_iff {text : List Char} {n : Nat} :
    Numeral.Writes 10 text n ↔ AreDigits text ∧ amount text = n := by
  have hten : 10 ≤ 16 := by decide
  simp only [← Numeral.read?_eq_some_iff_writes hten, Numeral.read?_eq_some_iff,
    digits?_ten_eq_some_iff, AreDigits, amount, and_assoc, exists_and_left, exists_eq_left']

private theorem AreDigits.head?_append {digits : List Char} (h : AreDigits digits)
    (rest : List Char) {c : Char} (hc : (digits ++ rest).head? = some c) : c.isDigit = true := by
  cases digits with
  | nil => exact absurd rfl h.1
  | cons d digits =>
    obtain rfl : d = c := by simpa using hc
    exact h.2 d List.mem_cons_self

private theorem signed?_digits {digits rest : List Char} {n : Nat}
    (h : Numeral.Writes 10 digits n) (hrest : StartsIn afterWhole rest) :
    exponent?.signed? (digits ++ rest) = some ((n : Int), rest) := by
  obtain ⟨hdigits, rfl⟩ := writes_iff.mp h
  unfold exponent?.signed?
  split
  · next text htext =>
    have := hdigits.head?_append rest (c := '-') (by rw [htext]; rfl)
    simp at this
  · next text htext =>
    have := hdigits.head?_append rest (c := '+') (by rw [htext]; rfl)
    simp at this
  · rw [digits?_append hdigits hrest]
    rfl

private theorem signed?_plus {digits rest : List Char} {n : Nat}
    (h : Numeral.Writes 10 digits n) (hrest : StartsIn afterWhole rest) :
    exponent?.signed? ('+' :: (digits ++ rest)) = some ((n : Int), rest) := by
  obtain ⟨hdigits, rfl⟩ := writes_iff.mp h
  rw [exponent?.signed?, digits?_append hdigits hrest]
  rfl

private theorem signed?_minus {digits rest : List Char} {n : Nat}
    (h : Numeral.Writes 10 digits n) (hrest : StartsIn afterWhole rest) :
    exponent?.signed? ('-' :: (digits ++ rest)) = some (-(n : Int), rest) := by
  obtain ⟨hdigits, rfl⟩ := writes_iff.mp h
  rw [exponent?.signed?, digits?_append hdigits hrest]
  rfl

private theorem exponent?_mark {mark : Char} (hmark : mark = 'e' ∨ mark = 'E')
    (text : List Char) :
    exponent? (mark :: text) = (exponent?.signed? text).map fun (e, rest) ↦ (some e, rest) := by
  rcases hmark with rfl | rfl <;> rfl

private theorem exponent?_append {power rest : List Char} {exponent : Option Int}
    (h : SpellsExponent power exponent) (hrest : StartsIn delimiters rest) :
    exponent? (power ++ rest) = some (exponent, rest) := by
  have hdigits := hrest.mono delimiters_subset_afterWhole
  cases h with
  | absent =>
    have hmarks : 'e' ∉ delimiters ∧ 'E' ∉ delimiters := by decide
    rw [List.nil_append]
    unfold exponent?
    split
    · exact absurd (hrest 'e' rfl) hmarks.1
    · exact absurd (hrest 'E' rfl) hmarks.2
    · rfl
  | unsigned hmark h =>
    rw [List.cons_append, exponent?_mark hmark, signed?_digits h hdigits]
    rfl
  | plus hmark h =>
    rw [List.cons_append, List.cons_append, exponent?_mark hmark, signed?_plus h hdigits]
    rfl
  | minus hmark h =>
    rw [List.cons_append, List.cons_append, exponent?_mark hmark, signed?_minus h hdigits]
    rfl

private theorem startsIn_power {power rest : List Char} {exponent : Option Int}
    (h : SpellsExponent power exponent) (hrest : StartsIn delimiters rest) :
    StartsIn afterFraction (power ++ rest) := by
  have hmark {mark : Char} (hmark : mark = 'e' ∨ mark = 'E') : mark ∈ afterFraction := by
    rcases hmark with rfl | rfl <;> decide
  cases h with
  | absent => exact hrest.mono delimiters_subset_afterFraction
  | unsigned h => exact startsIn_cons (hmark h) _
  | plus h => exact startsIn_cons (hmark h) _
  | minus h => exact startsIn_cons (hmark h) _

private theorem startsIn_point {point rest : List Char} {fraction : Option (List Char)}
    (h : SpellsFraction point fraction) (hrest : StartsIn afterFraction rest) :
    StartsIn afterWhole (point ++ rest) := by
  cases h with
  | absent => exact hrest.mono afterFraction_subset
  | present h => exact startsIn_cons (by decide) _

private theorem sign_append {text rest : List Char} {negative : Bool} (h : SpellsSign text negative)
    (hrest : rest.head? ≠ some '-') : sign (text ++ rest) = (negative, rest) := by
  cases h with
  | absent =>
    rw [List.nil_append]
    unfold sign
    split
    · simp at hrest
    · rfl
  | minus => rfl

/-- A literal is read up to what ends it. -/
theorem scan?_append {text rest : List Char} {literal : NumberLiteral} (h : Spells text literal)
    (hrest : StartsIn delimiters rest) : scan? (text ++ rest) = some (literal, rest) := by
  cases h with
  | @parts sign whole point power negative fraction exponent hsign hwhole hfraction hexponent =>
    have hpower := startsIn_power hexponent hrest
    have hpoint := startsIn_point hfraction hpower
    have hminus : (whole ++ (point ++ (power ++ rest))).head? ≠ some '-' := by
      intro hhead
      have := hwhole.areDigits.head?_append _ hhead
      simp at this
    simp only [scan?, List.append_assoc, sign_append hsign hminus, whole?_append hwhole hpoint,
      fraction?_append hfraction hpower, exponent?_append hexponent hrest, Option.bind_eq_bind,
      Option.bind_some, Option.pure_def]

/-- A literal begins with a digit or a minus sign. -/
theorem Spells.exists_cons {text : List Char} {literal : NumberLiteral} (h : Spells text literal) :
    ∃ c more, text = c :: more ∧ (c.isDigit = true ∨ c = '-') := by
  cases h with
  | @parts sign whole point power negative fraction exponent hsign hwhole hfraction hexponent =>
    cases hsign with
    | minus => exact ⟨'-', _, rfl, .inr rfl⟩
    | absent =>
      cases whole with
      | nil => exact absurd rfl hwhole.areDigits.1
      | cons c whole => exact ⟨c, _, rfl, .inl (hwhole.areDigits.2 c List.mem_cons_self)⟩

/-! ## Integers -/

private theorem isInteger_iff {text : List Char} {literal : NumberLiteral}
    (h : Spells text literal) {v : Int} :
    literal.IsInteger v ↔ literal.fraction = none ∧ literal.exponent = none ∧
      (literal.negative = false ∧ v = amount literal.whole ∨
        literal.negative = true ∧ 0 < amount literal.whole ∧ v = -(amount literal.whole : Int)) := by
  constructor
  · intro hv
    cases hv with
    | unsigned hn =>
      obtain ⟨-, rfl⟩ := writes_iff.mp hn
      exact ⟨rfl, rfl, .inl ⟨rfl, rfl⟩⟩
    | minus hn hpos =>
      obtain ⟨-, rfl⟩ := writes_iff.mp hn
      exact ⟨rfl, rfl, .inr ⟨rfl, hpos, rfl⟩⟩
  · obtain ⟨-, hwhole, -, -⟩ := h
    rintro ⟨rfl, rfl, ⟨rfl, rfl⟩ | ⟨rfl, hpos, rfl⟩⟩
    · exact .unsigned (writes_iff.mpr ⟨hwhole.areDigits, rfl⟩)
    · exact .minus (writes_iff.mpr ⟨hwhole.areDigits, rfl⟩) hpos

/-- A literal writes one integer only. -/
theorem IsInteger.unique {literal : NumberLiteral} {v w : Int} (hv : literal.IsInteger v)
    (hw : literal.IsInteger w) : v = w := by
  cases hv with
  | unsigned hv =>
    cases hw with
    | unsigned hw => rw [← (writes_iff.mp hv).2, ← (writes_iff.mp hw).2]
  | minus hv =>
    cases hw with
    | minus hw => rw [← (writes_iff.mp hv).2, ← (writes_iff.mp hw).2]

/-- A literal is read as an integer exactly if it writes one that 64 bits hold. -/
theorem integer?_eq_some_iff {text : List Char} {literal : NumberLiteral} (h : Spells text literal)
    {v : Int} : literal.integer? = some v ↔ literal.IsInteger v ∧ -2 ^ 63 ≤ v ∧ v < 2 ^ 64 := by
  rw [isInteger_iff h, integer?]
  obtain ⟨negative, whole, fraction, exponent⟩ := literal
  generalize amount whole = n
  have hlow : Nat.pow 2 63 = 2 ^ 63 := rfl
  have hhigh : Nat.pow 2 64 = 2 ^ 64 := rfl
  cases fraction with
  | some digits => simp
  | none =>
    cases exponent with
    | some power => simp
    | none =>
      cases negative with
      | false =>
        simp only [Option.isSome_none, Bool.or_self, Bool.false_eq_true, if_false, hhigh,
          Option.ite_none_right_eq_some, Option.some.injEq, true_and, false_and, or_false]
        omega
      | true =>
        simp only [Option.isSome_none, Bool.or_self, Bool.false_eq_true, Bool.true_eq_false,
          if_false, if_true, hlow, Option.ite_none_right_eq_some, Option.some.injEq, true_and,
          false_and, false_or]
        omega

/-- The value of a literal is an integer exactly if it is read as one. -/
theorem value?_eq_integer_iff {literal : NumberLiteral} {v : Int} :
    literal.value? = some (.integer v) ↔ literal.integer? = some v := by
  unfold NumberLiteral.value?
  cases literal.integer? with
  | some i => simp
  | none => simp

/-! ## Integers beyond 64 bits -/

/-- The significand stays within 64 bits, and of the digits no more are left than there were. -/
theorem absorb_spec (digits : List Char) {significand : Nat} (h : significand < 2 ^ 64) :
    (absorb significand digits).1 < 2 ^ 64 ∧
      (absorb significand digits).2.length ≤ digits.length := by
  induction digits generalizing significand with
  | nil => exact ⟨h, Nat.le_refl _⟩
  | cons c digits ih =>
    rw [absorb]
    split
    · next hnext =>
      obtain ⟨hlt, hle⟩ := ih hnext
      exact ⟨hlt, Nat.le_succ_of_le hle⟩
    · exact ⟨h, Nat.le_refl _⟩

/-- Up to eighty digits that are not read as an integer write a floating-point number. -/
theorem exists_value?_of_integer?_eq_none {literal : NumberLiteral}
    (hinteger : literal.integer? = none) (hfraction : literal.fraction = none)
    (hexponent : literal.exponent = none) (hlen : literal.whole.length ≤ 80) :
    ∃ magnitude, literal.value? = some (.float literal.negative magnitude) := by
  obtain ⟨hlt, hle⟩ := absorb_spec literal.whole (Nat.two_pow_pos 64)
  obtain ⟨magnitude, hmagnitude⟩ := Binary64.exists_ofDecimal? hlt (hle.trans hlen)
  refine ⟨magnitude, ?_⟩
  rw [value?, hinteger]
  change literal.magnitude?.map _ = _
  rw [magnitude?, hfraction, hexponent]
  simp only [Option.getD_none, absorb, List.length_nil, Nat.sub_zero, Int.natCast_zero,
    Int.sub_zero, Int.add_zero, hmagnitude, Option.map_some]

end NumberLiteral

end FlashPatch.Json
