import FlashPatch.Proofs.Json.Number
import FlashPatch.Proofs.Json.StringLiteral

/-!
# Reading documents

Every text of the grammar is read as the tree of its value, and nothing follows it. White space and
the way in which strings are written leave no trace.
-/

namespace FlashPatch.Json

/-! ## Tokens -/

private theorem tokens_of_scan? {c : Char} {text rest : List Char} {token : Token}
    (hspace : Token.isSpace c = false) (h : Token.scan? (c :: text) = some (token, rest)) :
    tokens (c :: text) = token :: tokens rest := by
  rw [tokens, if_neg (by simp [hspace])]
  split
  · next found after heq =>
    obtain ⟨rfl, rfl⟩ := Prod.mk.inj (Option.some.inj (heq.symm.trans h))
    rfl
  · next hnone => simp [h] at hnone

private theorem isSpace_iff {c : Char} :
    Token.isSpace c = true ↔ c = ' ' ∨ c = '\t' ∨ c = '\n' ∨ c = '\r' := by
  simp [Token.isSpace, or_assoc]

/-- White space is no token. -/
theorem tokens_append_of_areSpaces {gap : List Char} (h : AreSpaces gap) (rest : List Char) :
    tokens (gap ++ rest) = tokens rest := by
  induction gap with
  | nil => rfl
  | cons c gap ih =>
    have hspace : Token.isSpace c = true := isSpace_iff.mpr (h c List.mem_cons_self)
    rw [List.cons_append, tokens, if_pos hspace]
    exact ih fun d hd ↦ h d (List.mem_cons_of_mem c hd)

private theorem startsIn_gap {gap rest : List Char} (h : AreSpaces gap)
    (hrest : StartsIn delimiters rest) : StartsIn delimiters (gap ++ rest) := by
  cases gap with
  | nil => exact hrest
  | cons c gap =>
    have hc : c ∈ delimiters := by
      rcases h c List.mem_cons_self with rfl | rfl | rfl | rfl <;> decide
    exact startsIn_cons hc _

private theorem scan?_of_number {c : Char} (hc : c.isDigit = true ∨ c = '-') (text : List Char) :
    Token.scan? (c :: text) = Token.scanNumber? (c :: text) := by
  unfold Token.scan?
  split
  case h_11 => rfl
  all_goals
    next heq =>
    obtain ⟨rfl, -⟩ := List.cons.inj heq
    simp at hc

private theorem tokens_number {text rest : List Char} {literal : NumberLiteral}
    (h : literal.Spells text) (hrest : StartsIn delimiters rest) :
    tokens (text ++ rest) = .number literal.value? :: tokens rest := by
  have hscan := NumberLiteral.scan?_append h hrest
  obtain ⟨c, more, rfl, hc⟩ := h.exists_cons
  have hspace : Token.isSpace c = false := by
    refine Bool.eq_false_iff.mpr fun hspace ↦ ?_
    rcases isSpace_iff.mp hspace with rfl | rfl | rfl | rfl <;> simp at hc
  rw [List.cons_append] at hscan ⊢
  refine tokens_of_scan? hspace ?_
  rw [scan?_of_number hc, Token.scanNumber?, hscan]
  rfl

private theorem tokens_string {text chars : List Char} (h : StringLiteral.Spells text chars)
    (rest : List Char) :
    tokens ('"' :: (text ++ '"' :: rest)) = .string (some (String.ofList chars)) :: tokens rest := by
  obtain ⟨pieces, hpieces, htext⟩ := StringLiteral.exists_pieces?_append h rest
  refine tokens_of_scan? (by decide) ?_
  change Token.scanString? (text ++ '"' :: rest) = _
  simp only [Token.scanString?, hpieces, Option.map_some, htext]

private theorem tokens_key {text : List Char} {key : String} (h : SpellsKey text key)
    (rest : List Char) : tokens (text ++ rest) = .string (some key) :: .colon :: tokens rest := by
  obtain @⟨front, text, chars, back, hfront, h, hback⟩ := h
  have hcolon : tokens (':' :: rest) = .colon :: tokens rest := tokens_of_scan? (by decide) rfl
  simp only [List.append_assoc, List.cons_append, List.nil_append]
  rw [tokens_append_of_areSpaces hfront, tokens_string h, tokens_append_of_areSpaces hback, hcolon]

private theorem tokens_null (rest : List Char) :
    tokens ('n' :: 'u' :: 'l' :: 'l' :: rest) = .null :: tokens rest :=
  tokens_of_scan? (by decide) rfl

private theorem tokens_true (rest : List Char) :
    tokens ('t' :: 'r' :: 'u' :: 'e' :: rest) = .bool true :: tokens rest :=
  tokens_of_scan? (by decide) rfl

private theorem tokens_false (rest : List Char) :
    tokens ('f' :: 'a' :: 'l' :: 's' :: 'e' :: rest) = .bool false :: tokens rest :=
  tokens_of_scan? (by decide) rfl

private theorem tokens_comma (rest : List Char) : tokens (',' :: rest) = .comma :: tokens rest :=
  tokens_of_scan? (by decide) rfl

private theorem tokens_openBracket (rest : List Char) :
    tokens ('[' :: rest) = .openBracket :: tokens rest :=
  tokens_of_scan? (by decide) rfl

private theorem tokens_closeBracket (rest : List Char) :
    tokens (']' :: rest) = .closeBracket :: tokens rest :=
  tokens_of_scan? (by decide) rfl

private theorem tokens_openBrace (rest : List Char) :
    tokens ('{' :: rest) = .openBrace :: tokens rest :=
  tokens_of_scan? (by decide) rfl

private theorem tokens_closeBrace (rest : List Char) :
    tokens ('}' :: rest) = .closeBrace :: tokens rest :=
  tokens_of_scan? (by decide) rfl

/-! ## First tokens -/

private theorem head?_tokens {text rest : List Char} {value : Value} (h : Spells text value)
    (hrest : StartsIn delimiters rest) :
    (tokens (text ++ rest)).head? ≠ some .closeBracket := by
  cases h with
  | null => simp [tokens_null]
  | true => simp [tokens_true]
  | false => simp [tokens_false]
  | number h => simp [tokens_number h hrest]
  | string h => simp [tokens_string h]
  | emptyArray _ => simp [tokens_openBracket]
  | array _ => simp [tokens_openBracket]
  | emptyObject _ => simp [tokens_openBrace]
  | object _ => simp [tokens_openBrace]

private theorem head?_tokens_padded {text rest : List Char} {value : Value}
    (h : SpellsPadded text value) (hrest : StartsIn delimiters rest) :
    (tokens (text ++ rest)).head? ≠ some .closeBracket := by
  cases h with
  | spaced hfront h hback =>
    rw [List.append_assoc, List.append_assoc, tokens_append_of_areSpaces hfront]
    exact head?_tokens h (startsIn_gap hback hrest)

private theorem startsIn_comma (rest : List Char) : StartsIn delimiters (',' :: rest) :=
  startsIn_cons (by decide) rest

private theorem startsIn_closeBracket (rest : List Char) : StartsIn delimiters (']' :: rest) :=
  startsIn_cons (by decide) rest

private theorem startsIn_closeBrace (rest : List Char) : StartsIn delimiters ('}' :: rest) :=
  startsIn_cons (by decide) rest

private theorem head?_tokens_elements {text : List Char} {elements : List Value}
    (h : SpellsElements text elements) (rest : List Char) :
    (tokens (text ++ ']' :: rest)).head? ≠ some .closeBracket := by
  cases h with
  | last h => exact head?_tokens_padded h (startsIn_closeBracket rest)
  | more h hrest =>
    rw [List.append_assoc]
    exact head?_tokens_padded h (startsIn_comma _)

private theorem head?_tokens_members {text : List Char} {members : List (String × Value)}
    (h : SpellsMembers text members) (rest : List Char) :
    (tokens (text ++ rest)).head? ≠ some .closeBrace := by
  cases h with
  | last hkey h => simp [tokens_key hkey]
  | more hkey h hrest => simp [tokens_key hkey]

/-! ## Trees -/

namespace Document

private theorem value_openBracket (frames : List Tree.Frame) {rest : List Token}
    (h : rest.head? ≠ some .closeBracket) :
    value frames (.openBracket :: rest) = value (.array [] :: frames) rest := by
  rw [value]
  rintro tail rfl
  exact h rfl

private theorem value_openBrace (frames : List Tree.Frame) {rest : List Token}
    (h : rest.head? ≠ some .closeBrace) :
    value frames (.openBrace :: rest) = member [] frames rest := by
  rw [value]
  rintro tail rfl
  exact h rfl

-- One recursion over all four kinds of derivations: elements and members go on with those that
-- the innermost frame holds already.
mutual

private theorem value_tokens : ∀ {text : List Char} {v : Value}, Spells text v →
    ∀ (frames : List Tree.Frame) {rest : List Char}, StartsIn delimiters rest →
      value frames (tokens (text ++ rest)) = next v.tree frames (tokens rest)
  | _, _, .null, frames, rest, _ => congrArg (value frames) (tokens_null rest)
  | _, _, .true, frames, rest, _ => congrArg (value frames) (tokens_true rest)
  | _, _, .false, frames, rest, _ => congrArg (value frames) (tokens_false rest)
  | _, _, .number h, frames, rest, hrest => by
    rw [tokens_number h hrest, value]
    rfl
  | _, _, .string h, frames, rest, _ => by
    rw [List.cons_append, List.append_assoc, List.singleton_append, tokens_string h, value]
    rfl
  | _, _, .emptyArray hgap, frames, rest, _ => by
    rw [List.cons_append, List.append_assoc, List.singleton_append, tokens_openBracket,
      tokens_append_of_areSpaces hgap, tokens_closeBracket, value]
    rfl
  | _, _, .array h, frames, rest, _ => by
    rw [List.cons_append, List.append_assoc, List.singleton_append, tokens_openBracket,
      value_openBracket frames (head?_tokens_elements h rest), value_tokens_elements h]
    rfl
  | _, _, .emptyObject hgap, frames, rest, _ => by
    rw [List.cons_append, List.append_assoc, List.singleton_append, tokens_openBrace,
      tokens_append_of_areSpaces hgap, tokens_closeBrace, value]
    rfl
  | _, _, .object h, frames, rest, _ => by
    rw [List.cons_append, List.append_assoc, List.singleton_append, tokens_openBrace,
      value_openBrace frames (head?_tokens_members h _), member_tokens h]
    rfl

private theorem value_tokens_padded : ∀ {text : List Char} {v : Value}, SpellsPadded text v →
    ∀ (frames : List Tree.Frame) {rest : List Char}, StartsIn delimiters rest →
      value frames (tokens (text ++ rest)) = next v.tree frames (tokens rest)
  | _, _, .spaced hfront h hback, frames, rest, hrest => by
    rw [List.append_assoc, List.append_assoc, tokens_append_of_areSpaces hfront,
      value_tokens h frames (startsIn_gap hback hrest), tokens_append_of_areSpaces hback]

private theorem value_tokens_elements : ∀ {text : List Char} {elements : List Value},
    SpellsElements text elements →
    ∀ (before : List Tree) (frames : List Tree.Frame) (rest : List Char),
      value (.array before :: frames) (tokens (text ++ ']' :: rest)) =
        next (.array (before.reverse ++ Value.treesOfElements elements) true) frames (tokens rest)
  | _, _, .last h, before, frames, rest => by
    rw [value_tokens_padded h _ (startsIn_closeBracket rest), tokens_closeBracket, next,
      List.reverse_cons]
    rfl
  | _, _, .more h hmore, before, frames, rest => by
    rw [List.append_assoc, List.cons_append, value_tokens_padded h _ (startsIn_comma _),
      tokens_comma, next, value_tokens_elements hmore, List.reverse_cons, List.append_assoc]
    rfl

private theorem member_tokens : ∀ {text : List Char} {members : List (String × Value)},
    SpellsMembers text members →
    ∀ (before : List (Option String × Tree)) (frames : List Tree.Frame) (rest : List Char),
      member before frames (tokens (text ++ '}' :: rest)) =
        next (.object (before.reverse ++ Value.treesOfMembers members) true) frames (tokens rest)
  | _, _, .last hkey h, before, frames, rest => by
    rw [List.append_assoc, tokens_key hkey, member,
      value_tokens_padded h _ (startsIn_closeBrace rest), tokens_closeBrace, next,
      List.reverse_cons]
    rfl
  | _, _, .more hkey h hmore, before, frames, rest => by
    rw [List.append_assoc, List.append_assoc, tokens_key hkey, member, List.cons_append,
      value_tokens_padded h _ (startsIn_comma _), tokens_comma, next, member_tokens hmore,
      List.reverse_cons, List.append_assoc]
    rfl

end

/-- A document is read as the tree of its value. -/
theorem ofText_of_isDocument {text : String} {v : Value} (h : IsDocument text v) :
    ofText text = ⟨v.tree, true⟩ := by
  have hends : StartsIn delimiters [] := by rintro c ⟨⟩
  have hread := value_tokens_padded h [] hends
  have hnil : tokens [] = [] := by rw [tokens]
  rw [List.append_nil, hnil, next] at hread
  exact hread

end Document

end FlashPatch.Json
