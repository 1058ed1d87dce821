import FlashPatch.Proofs.Json.Grammar

/-!
# Reading strings

A string literal is read up to its closing quote, and its text is that of the grammar: surrogates
come in pairs there, so there always is one.
-/

namespace FlashPatch.Json.StringLiteral

/-! ## Pieces -/

private theorem shortEscape?_of_mem :
    ∀ escape ∈ shortEscapes, shortEscape? escape.1 = some escape.2 ∧ escape.1 ≠ 'u' := by
  decide

private theorem pieces?_short {letter c : Char} (h : (letter, c) ∈ shortEscapes)
    (rest : List Char) : pieces? ('\\' :: letter :: rest) =
      (pieces? rest).map fun (pieces, rest) ↦ (.char c :: pieces, rest) := by
  obtain ⟨hletter, hunit⟩ := shortEscape?_of_mem _ h
  rw [pieces?, hletter]
  · cases pieces? rest <;> rfl
  · exact fun _ _ _ _ _ h ↦ absurd h hunit

private theorem pieces?_plain {c : Char} (hquote : c ≠ '"') (hslash : c ≠ '\\')
    (hcontrol : 0x20 ≤ c.toNat) (rest : List Char) : pieces? (c :: rest) =
      (pieces? rest).map fun (pieces, rest) ↦ (.char c :: pieces, rest) := by
  rw [pieces?, if_neg (Nat.not_lt.mpr hcontrol)]
  · exact fun h ↦ absurd h hquote
  · exact fun _ _ _ _ _ h ↦ absurd h hslash
  · exact fun _ _ h ↦ absurd h hslash

private theorem pieces?_unit {unit : List Char} {n : Nat} (hlength : unit.length = 4)
    (hunit : Numeral.Writes 16 unit n) (rest : List Char) :
    pieces? ('\\' :: 'u' :: (unit ++ rest)) =
      (pieces? rest).map fun (pieces, rest) ↦ (.unit n :: pieces, rest) := by
  have hread := (Numeral.read?_eq_some_iff_writes (by decide)).mpr hunit
  match unit, hlength with
  | [a, b, c, d], _ =>
    simp only [List.cons_append, List.nil_append, pieces?, hread, Option.bind_eq_bind,
      Option.bind_some, Option.pure_def]
    cases pieces? rest <;> rfl

/-! ## Texts -/

private theorem not_surrogate (c : Char) :
    isHighSurrogate c.toNat = false ∧ isLowSurrogate c.toNat = false := by
  have hvalid : c.toNat < 0xD800 ∨ 0xDFFF < c.toNat ∧ c.toNat < 0x110000 := c.valid
  simp only [isHighSurrogate, isLowSurrogate, Bool.and_eq_false_iff, decide_eq_false_iff_not]
  omega

private theorem text?_unit (c : Char) (pieces : List StringPiece) :
    text? (.unit c.toNat :: pieces) = (text? pieces).map (c :: ·) := by
  obtain ⟨hhigh, hlow⟩ := not_surrogate c
  by_cases hunit : ∃ low tail, pieces = .unit low :: tail
  · obtain ⟨low, tail, rfl⟩ := hunit
    rw [text?, hhigh, hlow, Char.ofNat_toNat]
    rfl
  · rw [text?, hhigh, hlow, Char.ofNat_toNat]
    · rfl
    · exact fun low tail h ↦ hunit ⟨low, tail, h⟩

private theorem text?_pair {c : Char} (hplane : 0x10000 ≤ c.toNat) (pieces : List StringPiece) :
    text? (.unit (0xD800 + (c.toNat - 0x10000) / 0x400) ::
      .unit (0xDC00 + (c.toNat - 0x10000) % 0x400) :: pieces) = (text? pieces).map (c :: ·) := by
  have hvalid : c.toNat < 0xD800 ∨ 0xDFFF < c.toNat ∧ c.toNat < 0x110000 := c.valid
  obtain ⟨n, hn⟩ : ∃ n, c.toNat = 0x10000 + n := ⟨c.toNat - 0x10000, by omega⟩
  have hsub : c.toNat - 0x10000 = n := by omega
  have hhigh : isHighSurrogate (0xD800 + n / 0x400) = true := by
    simp only [isHighSurrogate, Bool.and_eq_true, decide_eq_true_eq]
    omega
  have hlow : isLowSurrogate (0xDC00 + n % 0x400) = true := by
    simp only [isLowSurrogate, Bool.and_eq_true, decide_eq_true_eq]
    omega
  have hchar : ofSurrogates (0xD800 + n / 0x400) (0xDC00 + n % 0x400) = c := by
    have hsum : 0x10000 + (0xD800 + n / 0x400 - 0xD800) * 0x400 +
        (0xDC00 + n % 0x400 - 0xDC00) = c.toNat := by omega
    rw [ofSurrogates, hsum, Char.ofNat_toNat]
  rw [hsub, text?, if_pos hhigh, if_pos hlow, hchar]

/-- A literal is read up to its closing quote, and has the text that it spells. -/
theorem exists_pieces?_append {text chars : List Char} (h : Spells text chars)
    (rest : List Char) : ∃ pieces, pieces? (text ++ '"' :: rest) = some (pieces, rest) ∧
      text? pieces = some chars := by
  induction h with
  | nil => exact ⟨[], rfl, rfl⟩
  | @plain c text chars hquote hslash hcontrol h ih =>
    obtain ⟨pieces, hpieces, htext⟩ := ih
    refine ⟨.char c :: pieces, ?_, ?_⟩
    · rw [List.cons_append, pieces?_plain hquote hslash hcontrol, hpieces]
      rfl
    · rw [text?, htext]
      rfl
  | @short letter c text chars hescape h ih =>
    obtain ⟨pieces, hpieces, htext⟩ := ih
    refine ⟨.char c :: pieces, ?_, ?_⟩
    · rw [List.cons_append, List.cons_append, pieces?_short hescape, hpieces]
      rfl
    · rw [text?, htext]
      rfl
  | @unit unit text chars c hlength hunit h ih =>
    obtain ⟨pieces, hpieces, htext⟩ := ih
    refine ⟨.unit c.toNat :: pieces, ?_, ?_⟩
    · rw [List.cons_append, List.cons_append, List.append_assoc, pieces?_unit hlength hunit,
        hpieces]
      rfl
    · rw [text?_unit, htext]
      rfl
  | @pair high low text chars c hplane hhighLength hlowLength hhigh hlow h ih =>
    obtain ⟨pieces, hpieces, htext⟩ := ih
    refine ⟨.unit (0xD800 + (c.toNat - 0x10000) / 0x400) ::
      .unit (0xDC00 + (c.toNat - 0x10000) % 0x400) :: pieces, ?_, ?_⟩
    · simp only [List.cons_append, List.append_assoc]
      rw [pieces?_unit hhighLength hhigh, pieces?_unit hlowLength hlow, hpieces]
      rfl
    · rw [text?_pair hplane, htext]
      rfl

end FlashPatch.Json.StringLiteral
