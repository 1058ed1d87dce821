import FlashPatch.Proofs.Numeral
import FlashPatch.Text.Quoted
import Mathlib.Data.List.Basic

/-!
# What quoted text says

Text that shows as it is stands unchanged between the quotes, and any two texts are quoted
differently, so a message with a quoted text says which text it is about.
-/

namespace FlashPatch.Text

variable {c d letter : Char} {front back : List Char} {text : String}

/-- A visible character without a short escape stands for itself. -/
theorem quotedChar_of_isVisible (hescape : escapeLetter? c = none) (h : isVisible c = true) :
    quotedChar c = [c] := by
  rw [quotedChar, hescape]
  exact if_pos h

/-- Text without characters to escape is kept between the quotes. -/
theorem quoted_of_isVisible
    (h : ∀ c ∈ text.toList, escapeLetter? c = none ∧ isVisible c = true) :
    quoted text = "\"" ++ text ++ "\"" := by
  have hchars : text.toList.flatMap quotedChar = text.toList := by
    calc text.toList.flatMap quotedChar
        = text.toList.flatMap fun c ↦ [c] :=
          List.flatMap_congr fun c hc ↦ quotedChar_of_isVisible (h c hc).1 (h c hc).2
      _ = text.toList := List.flatMap_singleton' _
  apply String.toList_injective
  rw [quoted, hchars, String.toList_ofList, String.toList_append, String.toList_append]
  rfl

/-! ## No two texts are quoted alike -/

private def unescape : Char → Char
  | '0' => '\x00'
  | 't' => '\t'
  | 'n' => '\n'
  | 'r' => '\r'
  | letter => letter

private theorem unescape_of_escapeLetter? (h : escapeLetter? c = some letter) :
    unescape letter = c := by
  unfold escapeLetter? at h
  split at h <;> cases h <;> rfl

private theorem escapeLetter?_ne_u : escapeLetter? c ≠ some 'u' := by
  unfold escapeLetter?
  split <;> decide

-- The three forms of a character: a short escape, the character itself, and its code point.
private theorem quotedChar_cases (c : Char) :
    (∃ letter, escapeLetter? c = some letter ∧ quotedChar c = ['\\', letter]) ∨
      (c ≠ '\\' ∧ quotedChar c = [c]) ∨
      quotedChar c = '\\' :: 'u' :: '\x7b' :: (Numeral.write 16 0 c.toNat ++ ['\x7d']) := by
  unfold quotedChar
  cases h : escapeLetter? c with
  | some letter => exact .inl ⟨letter, rfl, rfl⟩
  | none =>
    by_cases hvisible : isVisible c = true
    · right
      left
      constructor
      · rintro rfl
        simp [escapeLetter?] at h
      · exact if_pos hvisible
    · right
      right
      simp [hvisible]

private theorem notMem_write (n : Nat) : '\x7d' ∉ Numeral.write 16 0 n := by
  intro hmem
  obtain ⟨d, hd, -⟩ :=
    Numeral.digit?_of_mem_of_read? (Numeral.read?_write (by decide) (by decide) 0 n) hmem
  simp [Numeral.digit?] at hd

private theorem takeWhile_write (n : Nat) :
    (Numeral.write 16 0 n ++ '\x7d' :: back).takeWhile (· ≠ '\x7d') = Numeral.write 16 0 n := by
  rw [List.takeWhile_append_of_pos, List.takeWhile_cons_of_neg (by simp), List.append_nil]
  intro c hc
  apply decide_eq_true
  rintro rfl
  exact notMem_write n hc

private theorem quotedChar_append_inj (h : quotedChar c ++ front = quotedChar d ++ back) :
    c = d ∧ front = back := by
  rcases quotedChar_cases c with ⟨letter, hc, hform⟩ | ⟨hc, hform⟩ | hform
  · rcases quotedChar_cases d with ⟨letter', hd, hform'⟩ | ⟨hd, hform'⟩ | hform'
    · rw [hform, hform'] at h
      obtain ⟨rfl, rfl⟩ : letter = letter' ∧ front = back := by simpa using h
      exact ⟨(unescape_of_escapeLetter? hc).symm.trans (unescape_of_escapeLetter? hd), rfl⟩
    · rw [hform, hform'] at h
      simp [hd.symm] at h
    · rw [hform, hform'] at h
      obtain ⟨rfl, -⟩ : letter = 'u' ∧ _ := by simpa using h
      exact absurd hc escapeLetter?_ne_u
  · rcases quotedChar_cases d with ⟨letter', hd, hform'⟩ | ⟨hd, hform'⟩ | hform'
    · rw [hform, hform'] at h
      simp [hc] at h
    · rw [hform, hform'] at h
      simpa using h
    · rw [hform, hform'] at h
      simp [hc] at h
  · rcases quotedChar_cases d with ⟨letter', hd, hform'⟩ | ⟨hd, hform'⟩ | hform'
    · rw [hform, hform'] at h
      obtain ⟨rfl, -⟩ : letter' = 'u' ∧ _ := by simpa [eq_comm] using h
      exact absurd hd escapeLetter?_ne_u
    · rw [hform, hform'] at h
      simp [hd.symm] at h
    · rw [hform, hform'] at h
      simp only [List.cons_append, List.append_assoc, List.cons.injEq, true_and,
        List.nil_append] at h
      -- No digit is a closing brace, so both numerals end at the first one.
      have hwrite : Numeral.write 16 0 c.toNat = Numeral.write 16 0 d.toNat := by
        rw [← takeWhile_write c.toNat, h, takeWhile_write]
      obtain rfl : c = d :=
        Char.toNat_inj.mp ((Numeral.write_inj (by decide) (by decide)).mp hwrite)
      rw [List.append_cancel_left_eq, List.cons.injEq] at h
      exact ⟨rfl, h.2⟩

private theorem quotedChar_ne_nil (c : Char) : quotedChar c ≠ [] := by
  rcases quotedChar_cases c with ⟨letter, hc, hform⟩ | ⟨hc, hform⟩ | hform <;> simp [hform]

private theorem flatMap_quotedChar_inj {chars others : List Char}
    (h : chars.flatMap quotedChar = others.flatMap quotedChar) : chars = others := by
  induction chars generalizing others with
  | nil =>
    cases others with
    | nil => rfl
    | cons d others => simp [quotedChar_ne_nil] at h
  | cons c chars ih =>
    cases others with
    | nil => simp [quotedChar_ne_nil] at h
    | cons d others =>
      obtain ⟨rfl, hrest⟩ := quotedChar_append_inj h
      rw [ih hrest]

/-- Two texts are quoted alike only if they are the same. -/
theorem quoted_injective : Function.Injective quoted := by
  intro text other h
  have hchars := congrArg String.toList h
  rw [quoted, quoted, String.toList_ofList, String.toList_ofList, List.append_left_inj,
    List.append_right_inj] at hchars
  exact String.toList_injective (flatMap_quotedChar_inj hchars)

example : quoted "it's\t\"\x01\"" = "\"it's\\t\\\"\\u\x7b1\x7d\\\"\"" := by decide

end FlashPatch.Text
