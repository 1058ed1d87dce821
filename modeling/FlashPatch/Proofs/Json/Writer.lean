import FlashPatch.Json.Writer
import FlashPatch.Proofs.Json.Number

/-!
# What is written is JSON

A written object is spelled by the grammar, with a value for each scalar. Its texts stand for
themselves, because characters that need escapes are not written.
-/

namespace FlashPatch.Json

/-! ## Texts -/

/-- Whether a character stands for itself in a string. -/
def IsPlainChar (c : Char) : Prop := c ≠ '"' ∧ c ≠ '\\' ∧ 0x20 ≤ c.toNat

/-- Whether a text can be written without escapes. -/
def IsPlain (text : String) : Prop := ∀ c ∈ text.toList, IsPlainChar c

instance (c : Char) : Decidable (IsPlainChar c) :=
  inferInstanceAs (Decidable (c ≠ '"' ∧ c ≠ '\\' ∧ 0x20 ≤ c.toNat))

-- The instance is named, because the search may find one that goes over all characters.
instance (text : String) : Decidable (IsPlain text) :=
  List.decidableBAll IsPlainChar text.toList

/-- Plain characters spell themselves. -/
theorem StringLiteral.spells_self {chars : List Char} (h : ∀ c ∈ chars, IsPlainChar c) :
    StringLiteral.Spells chars chars := by
  induction chars with
  | nil => exact .nil
  | cons c chars ih =>
    obtain ⟨⟨hquote, hslash, hcontrol⟩, hrest⟩ := List.forall_mem_cons.mp h
    exact .plain hquote hslash hcontrol (ih hrest)

/-! ## Integers -/

namespace NumberLiteral

/-- The digits of a number can stand in front of a point. -/
theorem isWhole_toDigits (n : Nat) : IsWhole (Nat.toDigits 10 n) := by
  rcases Nat.eq_zero_or_pos n with rfl | hpos
  · exact .inl rfl
  · have hten : 0 < 10 ∧ 10 ≤ 10 := by decide
    exact .inr ⟨⟨Nat.toDigits_ne_nil, fun c ↦ Nat.isDigit_of_mem_toDigits hten.1 hten.2⟩,
      Numeral.head?_toDigits (by decide) (by decide) hpos⟩

/-- The digits of a number write it. -/
theorem writes_toDigits (n : Nat) : Numeral.Writes 10 (Nat.toDigits 10 n) n := by
  rw [← Numeral.write_zero]
  exact Numeral.writes_write (by decide) (by decide) 0 n

/-- The literal of an integer in decimal. -/
def ofInt : Int → NumberLiteral
  | .ofNat n =>
    { negative := false, whole := Nat.toDigits 10 n, fraction := none, exponent := none }
  | .negSucc n =>
    { negative := true, whole := Nat.toDigits 10 (n + 1), fraction := none, exponent := none }

/-- A written integer is its literal. -/
theorem spells_writeInt (value : Int) : Spells (writeInt value) (ofInt value) := by
  cases value with
  | ofNat n =>
    simpa only [writeInt, ofInt, List.append_nil, List.nil_append] using
      Spells.parts .absent (isWhole_toDigits n) .absent .absent
  | negSucc n =>
    simpa only [writeInt, ofInt, List.append_nil, List.singleton_append] using
      Spells.parts .minus (isWhole_toDigits (n + 1)) .absent .absent

/-- The literal of an integer writes it. -/
theorem isInteger_ofInt (value : Int) : (ofInt value).IsInteger value := by
  cases value with
  | ofNat n => exact .unsigned (writes_toDigits n)
  | negSucc n =>
    rw [Int.negSucc_eq, ← Int.natCast_succ]
    exact .minus (writes_toDigits (n + 1)) (Nat.succ_pos n)

/-- The literal of an integer that 64 bits hold has it as its value. -/
theorem value?_ofInt {value : Int} (hlow : -2 ^ 63 ≤ value) (hhigh : value < 2 ^ 64) :
    (ofInt value).value? = some (.integer value) :=
  value?_eq_integer_iff.mpr
    ((integer?_eq_some_iff (spells_writeInt value)).mpr ⟨isInteger_ofInt value, hlow, hhigh⟩)

/-- The literal of any other integer of up to 127 bits has a floating-point number as its value. -/
theorem exists_value?_ofInt {value : Int} (hbits : value.natAbs < 2 ^ 127)
    (hwide : ¬(-2 ^ 63 ≤ value ∧ value < 2 ^ 64)) :
    ∃ negative magnitude, (ofInt value).value? = some (.float negative magnitude) := by
  have hinteger : (ofInt value).integer? = none := by
    rw [Option.eq_none_iff_forall_ne_some]
    intro other hother
    obtain ⟨hvalue, hrange⟩ := (integer?_eq_some_iff (spells_writeInt value)).mp hother
    obtain rfl := hvalue.unique (isInteger_ofInt value)
    exact hwide hrange
  have hlen : (Nat.toDigits 10 value.natAbs).length ≤ 80 :=
    Nat.toDigits_length 10 _ 80 (by decide) (hbits.trans (by decide))
  cases value with
  | ofNat n => exact ⟨_, exists_value?_of_integer?_eq_none hinteger rfl rfl hlen⟩
  | negSucc n => exact ⟨_, exists_value?_of_integer?_eq_none hinteger rfl rfl hlen⟩

end NumberLiteral

/-! ## Objects -/

namespace Scalar

/-- The value that a scalar is written as. -/
def value : Scalar → Value
  | text value => .string value
  | integer value => .number (.ofInt value)
  | bool value => .bool value

/-- Whether a scalar can be written without escapes. -/
def IsPlain : Scalar → Prop
  | text value => Json.IsPlain value
  | integer _ => True
  | bool _ => True

instance : DecidablePred IsPlain
  | text value => inferInstanceAs (Decidable (Json.IsPlain value))
  | integer _ => .isTrue trivial
  | bool _ => .isTrue trivial

end Scalar

/-- A written text is a string. -/
theorem spells_writeText {text : String} (h : IsPlain text) :
    Spells (writeText text) (.string text) := by
  simpa [writeText] using Spells.string (StringLiteral.spells_self h)

/-- A written scalar is its value. -/
theorem Scalar.spells_write {scalar : Scalar} (h : scalar.IsPlain) :
    Spells scalar.write scalar.value := by
  cases scalar with
  | text value => exact spells_writeText h
  | integer value => exact .number (NumberLiteral.spells_writeInt value)
  | bool value =>
    cases value with
    | true => exact .true
    | false => exact .false

private theorem areSpaces_nil : AreSpaces [] := nofun

/-- White space can be left out. -/
theorem SpellsPadded.of_spells {text : List Char} {value : Value} (h : Spells text value) :
    SpellsPadded text value := by
  simpa using SpellsPadded.spaced areSpaces_nil h areSpaces_nil

private theorem spellsKey_writeText {key : String} (h : IsPlain key) :
    SpellsKey (writeText key ++ [':']) key := by
  simpa [writeText] using
    SpellsKey.spaced areSpaces_nil (StringLiteral.spells_self h) areSpaces_nil

private theorem spellsMembers_write {member : String × Scalar} {rest : List (String × Scalar)}
    (h : ∀ other ∈ member :: rest, IsPlain other.1 ∧ other.2.IsPlain) :
    SpellsMembers ([','].intercalate ((member :: rest).map writeMember))
      ((member :: rest).map fun other ↦ (other.1, other.2.value)) := by
  induction rest generalizing member with
  | nil =>
    obtain ⟨hkey, hvalue⟩ := h member List.mem_cons_self
    simpa [writeMember] using
      SpellsMembers.last (spellsKey_writeText hkey) (.of_spells (Scalar.spells_write hvalue))
  | cons next rest ih =>
    obtain ⟨⟨hkey, hvalue⟩, hrest⟩ := List.forall_mem_cons.mp h
    rw [List.map_cons, List.map_cons, List.intercalate_cons_cons, List.append_assoc]
    exact .more (spellsKey_writeText hkey) (.of_spells (Scalar.spells_write hvalue)) (ih hrest)

/-- A written object is a document with its members. -/
theorem isDocument_writeObject {members : List (String × Scalar)}
    (h : ∀ member ∈ members, IsPlain member.1 ∧ member.2.IsPlain) :
    IsDocument (String.ofList (writeObject members))
      (.object (members.map fun member ↦ (member.1, member.2.value))) := by
  rw [IsDocument, String.toList_ofList, writeObject, List.append_assoc]
  refine .of_spells ?_
  cases members with
  | nil => exact .emptyObject areSpaces_nil
  | cons member rest => exact .object (spellsMembers_write h)

end FlashPatch.Json
