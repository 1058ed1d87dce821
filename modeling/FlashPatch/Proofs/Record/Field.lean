import FlashPatch.Proofs.IntLiteral
import FlashPatch.Proofs.Record.Basic
import FlashPatch.Record.Field

/-!
# Reading field values

What the value of a field means, said apart from reading: a format is its name, alone or as the key
of null, and a size is an integer or a string that spells one. Reading agrees with this on all
values of the grammar, and refuses the integers that the field cannot hold.
-/

namespace FlashPatch.Record

open Json (Value NumberLiteral)

/-! ## Meanings -/

/-- A text and the format that it names. -/
inductive NamesFormat : String → Format → Prop
  | hexText : NamesFormat "hex_ascii_v1" .hexText
  | binary : NamesFormat "binary_le_v2" .binary

/-- A value and the format that it means. -/
inductive MeansFormat : Value → Format → Prop
  | name {name : String} {format : Format} (h : NamesFormat name format) :
      MeansFormat (.string name) format
  | key {name : String} {format : Format} (h : NamesFormat name format) :
      MeansFormat (.object [(name, .null)]) format

/-- A value and the size that it means, as a number or as a string in any base. -/
inductive MeansSize : Value → Int → Prop
  | integer {literal : NumberLiteral} {v : Int} (h : literal.IsInteger v) :
      MeansSize (.number literal) v
  | literal {text : String} {v : Int} (h : IntLiteral.Spells text.toList v) :
      MeansSize (.string text) v

/-! ## Formats -/

/-- Every format has one name. -/
theorem namesFormat_iff {name : String} {format : Format} :
    NamesFormat name format ↔ name = format.name := by
  constructor
  · intro h
    cases h with
    | hexText => rfl
    | binary => rfl
  · rintro rfl
    cases format with
    | hexText => exact .hexText
    | binary => exact .binary

/-- The name of a format means it. -/
theorem meansFormat_name (format : Format) : MeansFormat (.string format.name) format :=
  .name (namesFormat_iff.mpr rfl)

private theorem formatNamed_eq_ok_iff {name : String} {format : Format} :
    formatNamed name = .ok format ↔ NamesFormat name format := by
  rw [namesFormat_iff]
  have hnames : Format.hexText.name ≠ Format.binary.name := by decide
  unfold formatNamed Format.ofName?
  by_cases hhex : Format.hexText.name = name
  · subst hhex
    cases format <;> simp [hnames]
  · by_cases hbinary : Format.binary.name = name
    · subst hbinary
      cases format <;> simp [hnames, hnames.symm]
    · cases format <;> simp [hhex, hbinary, Ne.symm]

/-- A format is read from exactly the values that mean it. -/
theorem readFormat_tree_eq_ok_iff {v : Value} {format : Format} :
    readFormat v.tree = .ok format ↔ MeansFormat v format := by
  constructor
  · intro h
    cases v with
    | string name => exact .name (formatNamed_eq_ok_iff.mp h)
    | object members =>
      cases members with
      | nil => cases h
      | cons member rest =>
        obtain ⟨name, value⟩ := member
        obtain ⟨found, hname, h⟩ := bind_eq_ok_iff.mp h
        cases value with
        | null =>
          cases rest with
          | nil =>
            obtain rfl : found = format := Except.ok.inj h
            exact .key (formatNamed_eq_ok_iff.mp hname)
          | cons next rest => cases h
        | _ => cases h
    | _ => cases h
  · intro h
    cases h with
    | name h => exact formatNamed_eq_ok_iff.mpr h
    | @key name _ h =>
      have hname : formatNamed name = .ok format := formatNamed_eq_ok_iff.mpr h
      simp only [Value.tree, Value.treesOfMembers, readFormat, hname]
      rfl

/-! ## Sizes -/

private theorem readSize_number (n : Option Json.Number) {v : Int} :
    readSize (.number n) = .ok v ↔ n = some (.integer v) := by
  unfold readSize
  split
  · next heq =>
    obtain rfl := Json.Tree.number.inj heq
    simp
  · next heq => cases heq
  · next hinteger _ =>
    have hne : n ≠ some (.integer v) := by
      rintro rfl
      exact hinteger v rfl
    split <;> simp [hne]

/-- A string is read as the integer of its literal. -/
theorem readSize_string {text : String} {v : Int} :
    readSize (Value.string text).tree = .ok v ↔ IntLiteral.read text = .ok v := by
  change (IntLiteral.read text).mapError RecordError.badLiteral = .ok v ↔ _
  cases IntLiteral.read text with
  | ok w => simp [Except.mapError]
  | error cause => simp [Except.mapError]

/-- A size that 64 bits hold is read from exactly the values that mean it. -/
theorem readSize_tree_eq_ok_iff {value : Value} (hspelled : ∃ text, Json.Spells text value)
    {v : Int} (hlow : -2 ^ 63 ≤ v) (hhigh : v < 2 ^ 64) :
    readSize value.tree = .ok v ↔ MeansSize value v := by
  cases value with
  | number literal =>
    obtain ⟨text, hspelled⟩ := hspelled
    cases hspelled with
    | number hliteral =>
      rw [Value.tree, readSize_number, NumberLiteral.value?_eq_integer_iff,
        NumberLiteral.integer?_eq_some_iff hliteral]
      constructor
      · exact fun h ↦ .integer h.1
      · rintro (h | _)
        exact ⟨h, hlow, hhigh⟩
  | string text =>
    rw [readSize_string, IntLiteral.read_eq_ok_iff, IntLiteral.value?_eq_some_iff]
    constructor
    · exact fun h ↦ .literal h.1
    · rintro (_ | h)
      exact ⟨h, by omega⟩
  | _ =>
    constructor
    · intro h
      simp only [Value.tree, readSize] at h
      split at h <;> cases h
    · rintro ⟨⟩

/-- A signed number is read from the values for its size. -/
theorem readInt64_eq_ok_iff {tree : Json.Tree} {n : Int64} :
    readInt64 tree = .ok n ↔ readSize tree = .ok n.toInt := by
  have hlow : Int64.minValue.toInt = -2 ^ 63 := rfl
  have hhigh : Int64.maxValue.toInt = 2 ^ 63 - 1 := rfl
  rw [readInt64, bind_eq_ok_iff, hlow, hhigh]
  constructor
  · rintro ⟨v, hv, h⟩
    split at h
    · next hrange =>
      obtain rfl : Int64.ofInt v = n := Except.ok.inj h
      rw [Int64.toInt_ofInt_of_le hrange.1 (by omega), hv]
    · cases h
  · intro h
    have := n.le_toInt
    have := n.toInt_lt
    refine ⟨n.toInt, h, ?_⟩
    rw [if_pos (by omega), Int64.ofInt_toInt]
    rfl

/-- An unsigned number is read from the values for its size. -/
theorem readUInt64_eq_ok_iff {tree : Json.Tree} {n : UInt64} :
    readUInt64 tree = .ok n ↔ readSize tree = .ok (n.toNat : Int) := by
  rw [readUInt64, bind_eq_ok_iff]
  constructor
  · rintro ⟨v, hv, h⟩
    split at h
    · next hrange =>
      obtain rfl : UInt64.ofNat v.toNat = n := Except.ok.inj h
      have hlt : v.toNat < UInt64.size := by omega
      rw [UInt64.toNat_ofNat_of_lt' hlt, Int.toNat_of_nonneg hrange.1, hv]
    · cases h
  · intro h
    have hlt : (n.toNat : Int) < UInt64.size := Int.ofNat_lt.mpr n.toNat_lt
    refine ⟨n.toNat, h, ?_⟩
    rw [if_pos ⟨Int.natCast_nonneg _, hlt⟩, Int.toNat_natCast, UInt64.ofNat_toNat]
    rfl

/-- A signed number is read from exactly the values that mean it. -/
theorem readInt64_tree_eq_ok_iff {value : Value} (hspelled : ∃ text, Json.Spells text value)
    {n : Int64} : readInt64 value.tree = .ok n ↔ MeansSize value n.toInt := by
  have := n.toInt_lt
  rw [readInt64_eq_ok_iff, readSize_tree_eq_ok_iff hspelled n.le_toInt (by omega)]

/-- An unsigned number is read from exactly the values that mean it. -/
theorem readUInt64_tree_eq_ok_iff {value : Value} (hspelled : ∃ text, Json.Spells text value)
    {n : UInt64} : readUInt64 value.tree = .ok n ↔ MeansSize value n.toNat := by
  have := n.toNat_lt
  rw [readUInt64_eq_ok_iff, readSize_tree_eq_ok_iff hspelled (by omega) (by omega)]

/-! ## Plain numbers -/

/-- A plain number is read from exactly the literals that write it. -/
theorem readNatural_tree_eq_ok_iff {text : List Char} {literal : NumberLiteral}
    (hspelled : literal.Spells text) {n : UInt64} {wanted : String} :
    readNatural wanted (Value.number literal).tree = .ok n ↔ literal.IsInteger n.toNat := by
  have hinteger : literal.value? = some (.integer n.toNat) ↔ literal.IsInteger n.toNat := by
    have := n.toNat_lt
    rw [NumberLiteral.value?_eq_integer_iff, NumberLiteral.integer?_eq_some_iff hspelled]
    exact ⟨And.left, fun h ↦ ⟨h, by omega, by omega⟩⟩
  rw [← hinteger, Value.tree]
  constructor
  · intro h
    unfold readNatural at h
    split at h
    · next v heq =>
      obtain hvalue := Json.Tree.number.inj heq
      have hv := ((NumberLiteral.integer?_eq_some_iff hspelled).mp
        (NumberLiteral.value?_eq_integer_iff.mp hvalue)).2.2
      split at h
      · next hnonneg =>
        obtain rfl : UInt64.ofNat v.toNat = n := Except.ok.inj h
        have hlt : v.toNat < 2 ^ 64 := by omega
        rw [hvalue, UInt64.toNat_ofNat_of_lt' hlt, Int.toNat_of_nonneg hnonneg]
      · cases h
    · cases h
  · intro h
    rw [h, readNatural, if_pos (Int.natCast_nonneg _), Int.toNat_natCast, UInt64.ofNat_toNat]

end FlashPatch.Record
