import FlashPatch.Numeral

/-!
# JSON strings

A string literal is first split into pieces, single characters and 16-bit units written in
hexadecimal. Units in the surrogate range only have a meaning as a pair, so a literal may be well
formed and have no text.
-/

namespace FlashPatch.Json

/-- One element of a string literal. -/
inductive StringPiece where
  /-- A character that stands for itself or has a short escape. -/
  | char (c : Char)
  /-- A 16-bit unit written by its four hexadecimal digits. -/
  | unit (value : Nat)
deriving DecidableEq, Repr

namespace StringLiteral

/-- The character with the short escape. -/
def shortEscape? : Char → Option Char
  | '"' => some '"'
  | '\\' => some '\\'
  | '/' => some '/'
  | 'b' => some '\x08'
  | 'f' => some '\x0c'
  | 'n' => some '\n'
  | 'r' => some '\r'
  | 't' => some '\t'
  | _ => none

/-- The pieces up to the closing quote, and the text behind it. Control characters must be
escaped. -/
def pieces? : List Char → Option (List StringPiece × List Char)
  | [] => none
  | '"' :: rest => some ([], rest)
  | '\\' :: 'u' :: a :: b :: c :: d :: rest => do
    let unit ← Numeral.read? 16 [a, b, c, d]
    let (pieces, rest) ← pieces? rest
    return (.unit unit :: pieces, rest)
  | '\\' :: letter :: rest => do
    let c ← shortEscape? letter
    let (pieces, rest) ← pieces? rest
    return (.char c :: pieces, rest)
  | c :: rest =>
    if c.toNat < 0x20 then none
    else (pieces? rest).map fun (pieces, rest) ↦ (.char c :: pieces, rest)

/-- The first units of surrogate pairs. -/
def isHighSurrogate (unit : Nat) : Bool := 0xD800 ≤ unit && unit < 0xDC00

/-- The second units of surrogate pairs. -/
def isLowSurrogate (unit : Nat) : Bool := 0xDC00 ≤ unit && unit < 0xE000

/-- The character beyond the first plane that a surrogate pair stands for. -/
def ofSurrogates (high low : Nat) : Char :=
  Char.ofNat (0x10000 + (high - 0xD800) * 0x400 + (low - 0xDC00))

/-- The text of the pieces, unless a surrogate stands alone. -/
def text? : List StringPiece → Option (List Char)
  | [] => some []
  | .char c :: pieces => (text? pieces).map (c :: ·)
  | .unit high :: .unit low :: pieces =>
    if isHighSurrogate high then
      if isLowSurrogate low then (text? pieces).map (ofSurrogates high low :: ·) else none
    else if isLowSurrogate high then none
    else (text? (.unit low :: pieces)).map (Char.ofNat high :: ·)
  | .unit unit :: pieces =>
    if isHighSurrogate unit || isLowSurrogate unit then none
    else (text? pieces).map (Char.ofNat unit :: ·)

/-- Reading the pieces takes at least the closing quote. -/
theorem length_lt_of_pieces? {text rest : List Char} {pieces : List StringPiece}
    (h : pieces? text = some (pieces, rest)) : rest.length < text.length := by
  fun_induction pieces? text generalizing pieces rest with
  | case1 => simp at h
  | case2 => simp_all
  | case3 a b c d tail ih =>
    simp only [bind, Option.bind_eq_some_iff] at h
    obtain ⟨_, _, ⟨_, _⟩, hp, h⟩ := h
    cases h
    have := ih hp
    simp only [List.length_cons]
    omega
  | case4 letter tail _ ih =>
    simp only [bind, Option.bind_eq_some_iff] at h
    obtain ⟨_, _, ⟨_, _⟩, hp, h⟩ := h
    cases h
    have := ih hp
    simp only [List.length_cons]
    omega
  | case5 => simp_all
  | case6 c tail _ _ _ _ ih =>
    obtain ⟨⟨_, _⟩, hp, h⟩ := Option.map_eq_some_iff.1 h
    cases h
    have := ih hp
    simp only [List.length_cons]
    omega

end StringLiteral

end FlashPatch.Json
