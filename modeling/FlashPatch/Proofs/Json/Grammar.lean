import FlashPatch.Json.Tree
import FlashPatch.Proofs.Numeral.Positional

/-!
# The grammar of JSON

The values of JSON and the texts that spell them, said without reading: literals, numbers, strings
with their escapes, and containers with white space between their parts. A string has a text, so
surrogates occur in pairs only. A number is kept as its literal.
-/

namespace FlashPatch.Json

/-- A JSON value. -/
inductive Value where
  | null
  | bool (value : Bool)
  | number (literal : NumberLiteral)
  | string (text : String)
  | array (elements : List Value)
  | object (members : List (String × Value))

/-! ## Numbers -/

namespace NumberLiteral

/-- One or more decimal digits. -/
def AreDigits (text : List Char) : Prop := text ≠ [] ∧ ∀ c ∈ text, c.isDigit = true

/-- The digits in front of the point: a zero alone, or digits that do not start with a zero. -/
def IsWhole (text : List Char) : Prop := text = ['0'] ∨ AreDigits text ∧ text.head? ≠ some '0'

/-- A sign and whether it makes the number negative. -/
inductive SpellsSign : List Char → Bool → Prop
  | absent : SpellsSign [] false
  | minus : SpellsSign ['-'] true

/-- A point with digits, and these digits. -/
inductive SpellsFraction : List Char → Option (List Char) → Prop
  | absent : SpellsFraction [] none
  | present {digits : List Char} (h : AreDigits digits) :
      SpellsFraction ('.' :: digits) (some digits)

/-- An exponent behind its mark, which is a letter of either case. -/
inductive SpellsExponent : List Char → Option Int → Prop
  | absent : SpellsExponent [] none
  | unsigned {mark : Char} {digits : List Char} {n : Nat} (hmark : mark = 'e' ∨ mark = 'E')
      (h : Numeral.Writes 10 digits n) : SpellsExponent (mark :: digits) (some n)
  | plus {mark : Char} {digits : List Char} {n : Nat} (hmark : mark = 'e' ∨ mark = 'E')
      (h : Numeral.Writes 10 digits n) : SpellsExponent (mark :: '+' :: digits) (some n)
  | minus {mark : Char} {digits : List Char} {n : Nat} (hmark : mark = 'e' ∨ mark = 'E')
      (h : Numeral.Writes 10 digits n) : SpellsExponent (mark :: '-' :: digits) (some (-n))

/-- The text of a number literal. -/
inductive Spells : List Char → NumberLiteral → Prop
  | parts {sign whole point power : List Char} {negative : Bool} {fraction : Option (List Char)}
      {exponent : Option Int} (hsign : SpellsSign sign negative) (hwhole : IsWhole whole)
      (hfraction : SpellsFraction point fraction) (hexponent : SpellsExponent power exponent) :
      Spells (sign ++ whole ++ point ++ power) { negative, whole, fraction, exponent }

/-- A literal without point and exponent and the integer that it writes. Minus zero writes none. -/
inductive IsInteger : NumberLiteral → Int → Prop
  | unsigned {whole : List Char} {n : Nat} (h : Numeral.Writes 10 whole n) :
      IsInteger { negative := false, whole, fraction := none, exponent := none } n
  | minus {whole : List Char} {n : Nat} (h : Numeral.Writes 10 whole n) (hpos : 0 < n) :
      IsInteger { negative := true, whole, fraction := none, exponent := none } (-n)

end NumberLiteral

/-! ## Strings -/

namespace StringLiteral

/-- The letters of the short escapes, and what they stand for. -/
def shortEscapes : List (Char × Char) :=
  [('"', '"'), ('\\', '\\'), ('/', '/'), ('b', '\x08'), ('f', '\x0c'), ('n', '\n'), ('r', '\r'),
    ('t', '\t')]

/-- A text between the quotes of a string, and the characters that it stands for. A character beyond
the first plane takes two escapes, with ten bits of what it exceeds that plane by in each. -/
inductive Spells : List Char → List Char → Prop
  | nil : Spells [] []
  | plain {c : Char} {text chars : List Char} (hquote : c ≠ '"') (hslash : c ≠ '\\')
      (hcontrol : 0x20 ≤ c.toNat) (h : Spells text chars) : Spells (c :: text) (c :: chars)
  | short {letter c : Char} {text chars : List Char} (hescape : (letter, c) ∈ shortEscapes)
      (h : Spells text chars) : Spells ('\\' :: letter :: text) (c :: chars)
  | unit {unit text chars : List Char} {c : Char} (hlength : unit.length = 4)
      (hunit : Numeral.Writes 16 unit c.toNat) (h : Spells text chars) :
      Spells ('\\' :: 'u' :: (unit ++ text)) (c :: chars)
  | pair {high low text chars : List Char} {c : Char} (hplane : 0x10000 ≤ c.toNat)
      (hhighLength : high.length = 4) (hlowLength : low.length = 4)
      (hhigh : Numeral.Writes 16 high (0xD800 + (c.toNat - 0x10000) / 0x400))
      (hlow : Numeral.Writes 16 low (0xDC00 + (c.toNat - 0x10000) % 0x400))
      (h : Spells text chars) :
      Spells ('\\' :: 'u' :: (high ++ '\\' :: 'u' :: (low ++ text))) (c :: chars)

end StringLiteral

/-! ## Documents -/

/-- White space between the parts of a document. -/
def AreSpaces (text : List Char) : Prop := ∀ c ∈ text, c = ' ' ∨ c = '\t' ∨ c = '\n' ∨ c = '\r'

/-- The key of a member with the colon behind it. -/
inductive SpellsKey : List Char → String → Prop
  | spaced {front text chars back : List Char} (hfront : AreSpaces front)
      (h : StringLiteral.Spells text chars) (hback : AreSpaces back) :
      SpellsKey (front ++ '"' :: (text ++ '"' :: (back ++ [':']))) (String.ofList chars)

mutual

/-- A text and the value that it spells. -/
inductive Spells : List Char → Value → Prop
  | null : Spells ['n', 'u', 'l', 'l'] .null
  | true : Spells ['t', 'r', 'u', 'e'] (.bool true)
  | false : Spells ['f', 'a', 'l', 's', 'e'] (.bool false)
  | number {text : List Char} {literal : NumberLiteral} (h : literal.Spells text) :
      Spells text (.number literal)
  | string {text chars : List Char} (h : StringLiteral.Spells text chars) :
      Spells ('"' :: (text ++ ['"'])) (.string (String.ofList chars))
  | emptyArray {gap : List Char} (h : AreSpaces gap) : Spells ('[' :: (gap ++ [']'])) (.array [])
  | array {text : List Char} {elements : List Value} (h : SpellsElements text elements) :
      Spells ('[' :: (text ++ [']'])) (.array elements)
  | emptyObject {gap : List Char} (h : AreSpaces gap) :
      Spells ('{' :: (gap ++ ['}'])) (.object [])
  | object {text : List Char} {members : List (String × Value)} (h : SpellsMembers text members) :
      Spells ('{' :: (text ++ ['}'])) (.object members)

/-- A text that spells a value, with white space around it. -/
inductive SpellsPadded : List Char → Value → Prop
  | spaced {front text back : List Char} {value : Value} (hfront : AreSpaces front)
      (h : Spells text value) (hback : AreSpaces back) :
      SpellsPadded (front ++ text ++ back) value

/-- The elements of an array, with commas between them. -/
inductive SpellsElements : List Char → List Value → Prop
  | last {text : List Char} {value : Value} (h : SpellsPadded text value) :
      SpellsElements text [value]
  | more {text rest : List Char} {value : Value} {elements : List Value}
      (h : SpellsPadded text value) (hrest : SpellsElements rest elements) :
      SpellsElements (text ++ ',' :: rest) (value :: elements)

/-- The members of an object, with commas between them. -/
inductive SpellsMembers : List Char → List (String × Value) → Prop
  | last {keyText text : List Char} {key : String} {value : Value} (hkey : SpellsKey keyText key)
      (h : SpellsPadded text value) : SpellsMembers (keyText ++ text) [(key, value)]
  | more {keyText text rest : List Char} {key : String} {value : Value}
      {members : List (String × Value)} (hkey : SpellsKey keyText key)
      (h : SpellsPadded text value) (hrest : SpellsMembers rest members) :
      SpellsMembers (keyText ++ text ++ ',' :: rest) ((key, value) :: members)

end

/-- Whether a text is a document with the value. -/
def IsDocument (text : String) (value : Value) : Prop := SpellsPadded text.toList value

/-- Between the white space there is the text of the value. -/
theorem SpellsPadded.exists_spells {text : List Char} {value : Value}
    (h : SpellsPadded text value) : ∃ part, Spells part value := by
  cases h with
  | spaced _ h _ => exact ⟨_, h⟩

/-- Every element is spelled in the text of its array. -/
theorem SpellsElements.exists_spells {elements : List Value} :
    ∀ {text : List Char}, SpellsElements text elements →
      ∀ element ∈ elements, ∃ part, Spells part element := by
  induction elements with
  | nil => simp
  | cons element rest ih =>
    intro text h
    cases h with
    | last h => simpa using h.exists_spells
    | more h hmore => exact List.forall_mem_cons.mpr ⟨h.exists_spells, ih hmore⟩

/-- The value of every member is spelled in the text of its object. -/
theorem SpellsMembers.exists_spells {members : List (String × Value)} :
    ∀ {text : List Char}, SpellsMembers text members →
      ∀ member ∈ members, ∃ part, Spells part member.2 := by
  induction members with
  | nil => simp
  | cons member rest ih =>
    intro text h
    cases h with
    | last _ h => simpa using h.exists_spells
    | more _ h hmore => exact List.forall_mem_cons.mpr ⟨h.exists_spells, ih hmore⟩

/-- The elements of a document that is an array are spelled in it. -/
theorem IsDocument.exists_spells_element {text : String} {elements : List Value}
    (h : IsDocument text (.array elements)) : ∀ element ∈ elements, ∃ part, Spells part element := by
  obtain ⟨part, h⟩ := SpellsPadded.exists_spells h
  cases h with
  | emptyArray _ => simp
  | array h => exact h.exists_spells

/-- The values of the members of a document that is an object are spelled in it. -/
theorem IsDocument.exists_spells_member {text : String} {members : List (String × Value)}
    (h : IsDocument text (.object members)) :
    ∀ member ∈ members, ∃ part, Spells part member.2 := by
  obtain ⟨part, h⟩ := SpellsPadded.exists_spells h
  cases h with
  | emptyObject _ => simp
  | object h => exact h.exists_spells

/-! ## Trees -/

namespace Value

mutual

/-- The tree of a value that is there to its end. -/
def tree : Value → Tree
  | null => .null
  | bool value => .bool value
  | number literal => .number literal.value?
  | string text => .string (some text)
  | array elements => .array (treesOfElements elements) true
  | object members => .object (treesOfMembers members) true

/-- The trees of elements. -/
def treesOfElements : List Value → List Tree
  | [] => []
  | element :: rest => element.tree :: treesOfElements rest

/-- The trees of members, under their keys. -/
def treesOfMembers : List (String × Value) → List (Option String × Tree)
  | [] => []
  | (key, value) :: rest => (some key, value.tree) :: treesOfMembers rest

end

/-- The trees of elements, one by one. -/
theorem treesOfElements_eq_map (elements : List Value) :
    treesOfElements elements = elements.map tree := by
  induction elements with
  | nil => rfl
  | cons element rest ih => rw [treesOfElements, ih, List.map_cons]

end Value

end FlashPatch.Json
