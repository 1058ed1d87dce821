import FlashPatch.Json.Number
import FlashPatch.Json.StringLiteral

/-!
# JSON tokens

The text of a JSON document as brackets, separators and scalars. Tokens end with the text, or with
a mark where the text goes on in a way that starts no token.
-/

namespace FlashPatch.Json

/-- A token. A number or a string that is well formed may still have no value. -/
inductive Token where
  | openBrace
  | closeBrace
  | openBracket
  | closeBracket
  | comma
  | colon
  | null
  | bool (value : Bool)
  | number (value : Option Number)
  | string (text : Option String)
  /-- Text that starts no token. Nothing follows. -/
  | malformed
deriving DecidableEq, Repr

namespace Token

/-- The white space between tokens. -/
def isSpace (c : Char) : Bool := c = ' ' || c = '\t' || c = '\n' || c = '\r'

/-- The string token behind an opening quote. -/
def scanString? (text : List Char) : Option (Token × List Char) :=
  (StringLiteral.pieces? text).map fun (pieces, rest) ↦
    (.string ((StringLiteral.text? pieces).map String.ofList), rest)

/-- The number token at the start of the text. -/
def scanNumber? (text : List Char) : Option (Token × List Char) :=
  (NumberLiteral.scan? text).map fun (literal, rest) ↦ (.number literal.value?, rest)

/-- The token at the start of the text, and the text behind it. -/
def scan? : List Char → Option (Token × List Char)
  | '{' :: rest => some (.openBrace, rest)
  | '}' :: rest => some (.closeBrace, rest)
  | '[' :: rest => some (.openBracket, rest)
  | ']' :: rest => some (.closeBracket, rest)
  | ',' :: rest => some (.comma, rest)
  | ':' :: rest => some (.colon, rest)
  | '"' :: rest => scanString? rest
  | 'n' :: 'u' :: 'l' :: 'l' :: rest => some (.null, rest)
  | 't' :: 'r' :: 'u' :: 'e' :: rest => some (.bool true, rest)
  | 'f' :: 'a' :: 'l' :: 's' :: 'e' :: rest => some (.bool false, rest)
  | text => scanNumber? text

/-- A token takes at least one character. -/
theorem length_lt_of_scan? {text rest : List Char} {token : Token}
    (h : scan? text = some (token, rest)) : rest.length < text.length := by
  unfold scan? at h
  split at h
  case h_7 =>
    obtain ⟨⟨_, _⟩, hp, h⟩ := Option.map_eq_some_iff.1 h
    cases h
    have := StringLiteral.length_lt_of_pieces? hp
    simp only [List.length_cons]
    omega
  case h_11 =>
    obtain ⟨⟨_, _⟩, hs, h⟩ := Option.map_eq_some_iff.1 h
    cases h
    exact NumberLiteral.length_lt_of_scan? hs
  all_goals
    cases h
    simp only [List.length_cons]
    omega

end Token

/-- The tokens of a text, spaces between them dropped. -/
def tokens (text : List Char) : List Token :=
  match text with
  | [] => []
  | c :: rest =>
    if Token.isSpace c then tokens rest
    else
      match _h : Token.scan? (c :: rest) with
      | some (token, rest) => token :: tokens rest
      | none => [.malformed]
termination_by text.length
decreasing_by
  · simp
  · exact Token.length_lt_of_scan? _h

end FlashPatch.Json
