import FlashPatch.Error
import FlashPatch.Proofs.Config.Json

/-!
# Sizes as numbers and as texts

A size may stand in a document as a number or as a text that holds an integer literal. In an object
that is valid otherwise both give the same: settings with exactly this size if the field can hold
it, and the refusal of this size if not. Only for integers beyond 64 bits the refusals differ,
because such a number is not read as an integer.
-/

namespace FlashPatch.Config

open Json (Value IsDocument)
open Record (HasValue MeansSize)

/-- The least and the greatest size that a field can hold, if it holds one. -/
def Field.sizeRange? : Field → Option (Int × Int)
  | format => none
  | headerSize => some (-2 ^ 63, 2 ^ 63 - 1)
  | maxPartitionSize => some (0, 2 ^ 64 - 1)

/-- The size that a field of the settings has, if it holds one. -/
def size? (config : Config) : Field → Option Int
  | .format => none
  | .headerSize => some config.headerSize.toInt
  | .maxPartitionSize => some config.maxPartitionSize.toNat

/-- What a field can hold has 64 bits. -/
theorem Field.word_of_sizeRange? {field : Field} {low high v : Int}
    (hrange : field.sizeRange? = some (low, high)) (h : low ≤ v ∧ v ≤ high) :
    -2 ^ 63 ≤ v ∧ v < 2 ^ 64 := by
  cases field with
  | format => cases hrange
  | headerSize =>
    obtain ⟨rfl, rfl⟩ := Prod.mk.inj (Option.some.inj hrange)
    omega
  | maxPartitionSize =>
    obtain ⟨rfl, rfl⟩ := Prod.mk.inj (Option.some.inj hrange)
    omega

/-! ## What is read for a size -/

/-- A number that 64 bits hold is read as it is. -/
theorem readSize_number_of_word {v : Int} (h : -2 ^ 63 ≤ v ∧ v < 2 ^ 64) :
    Record.readSize (Value.number (.ofInt v)).tree = .ok v := by
  rw [Value.tree, Json.NumberLiteral.value?_ofInt h.1 h.2]
  rfl

/-- A number that 64 bits do not hold is no size. -/
theorem readSize_number_of_not_word {v : Int} (hbits : v.natAbs < 2 ^ 127)
    (h : ¬(-2 ^ 63 ≤ v ∧ v < 2 ^ 64)) :
    Record.readSize (Value.number (.ofInt v)).tree = .error .notASize := by
  obtain ⟨negative, magnitude, hvalue⟩ := Json.NumberLiteral.exists_value?_ofInt hbits h
  rw [Value.tree, hvalue]
  rfl

section Putting

variable {field : Field} {low high : Int} {tree other : Json.Tree}

private theorem takes_in_range {α : Type} {inRange held : Prop} [Decidable inRange]
    [Decidable held] (hsame : inRange ↔ held) (n : α) (cause : RecordError) (next : α → Draft) :
    ((if inRange then pure n else throw cause : Except RecordError α) >>= fun n ↦ pure (next n)) =
      if held then .ok (next n) else .error cause := by
  by_cases h : held
  · rw [if_pos h, if_pos (hsame.mpr h)]
    rfl
  · rw [if_neg h, if_neg (mt hsame.mp h)]
    rfl

/-- A draft takes what is read as a size, unless the field cannot hold it. -/
theorem exists_put_eq (hrange : field.sizeRange? = some (low, high)) (draft : Draft) :
    ∃ next : Int → Draft, ∀ tree, record.put draft field tree =
      Record.readSize tree >>= fun v ↦
        if low ≤ v ∧ v ≤ high then .ok (next v) else .error (.outOfRange v) := by
  cases field with
  | format => cases hrange
  | headerSize =>
    obtain ⟨rfl, rfl⟩ := Prod.mk.inj (Option.some.inj hrange)
    refine ⟨fun v ↦ { draft with headerSize := Int64.ofInt v }, fun tree ↦ ?_⟩
    change (Record.readInt64 tree >>= fun n ↦ pure { draft with headerSize := n }) = _
    rw [Record.readInt64, bind_assoc]
    exact bind_congr fun v ↦ takes_in_range Iff.rfl _ _ _
  | maxPartitionSize =>
    obtain ⟨rfl, rfl⟩ := Prod.mk.inj (Option.some.inj hrange)
    refine ⟨fun v ↦ { draft with maxPartitionSize := UInt64.ofNat v.toNat }, fun tree ↦ ?_⟩
    change (Record.readUInt64 tree >>= fun n ↦ pure { draft with maxPartitionSize := n }) = _
    rw [Record.readUInt64, bind_assoc]
    refine bind_congr fun v ↦ takes_in_range ?_ _ _ _
    exact and_congr_right fun _ ↦ Int.le_sub_one_iff.symm

/-- Drafts do not tell apart what is read alike. -/
theorem put_congr (hrange : field.sizeRange? = some (low, high))
    (h : Record.readSize tree = Record.readSize other) (draft : Draft) :
    record.put draft field tree = record.put draft field other := by
  obtain ⟨next, hput⟩ := exists_put_eq hrange draft
  rw [hput, hput, h]

/-- No draft takes what is not read as a size. -/
theorem put_eq_error (hrange : field.sizeRange? = some (low, high)) {cause : RecordError}
    (h : Record.readSize tree = .error cause) (draft : Draft) :
    record.put draft field tree = .error cause := by
  obtain ⟨next, hput⟩ := exists_put_eq hrange draft
  rw [hput, h]
  rfl

/-- No draft takes a size that its field cannot hold. -/
theorem put_eq_outOfRange (hrange : field.sizeRange? = some (low, high)) {v : Int}
    (h : Record.readSize tree = .ok v) (hout : ¬(low ≤ v ∧ v ≤ high)) (draft : Draft) :
    record.put draft field tree = .error (.outOfRange v) := by
  obtain ⟨next, hput⟩ := exists_put_eq hrange draft
  rw [hput, h]
  exact if_neg hout

end Putting

/-! ## What the settings are -/

section Settings

variable {field : Field} {low high v : Int} {front back : List (String × Value)}
  {value other : Value} {config : Config}

/-- The settings that an object describes with another size in place of the one of a field. -/
theorem exists_describes_of_size (hrange : field.sizeRange? = some (low, high)) (hlow : low ≤ v)
    (hhigh : v ≤ high) (h : Describes (front ++ (field.name, value) :: back) config) :
    ∃ found : Config,
      (∀ other, MeansSize other v → Describes (front ++ (field.name, other) :: back) found) ∧
      found.size? field = some v ∧ found.format = config.format ∧
      ∀ kept, kept ≠ field → found.size? kept = config.size? kept := by
  obtain ⟨hformat, hheaderSize, hcapacity⟩ := h
  cases field with
  | format => cases hrange
  | headerSize =>
    obtain ⟨rfl, rfl⟩ := Prod.mk.inj (Option.some.inj hrange)
    have hv : (Int64.ofInt v).toInt = v := Int64.toInt_ofInt_of_le hlow (by omega)
    refine ⟨{ config with headerSize := Int64.ofInt v }, ?_, congrArg some hv, rfl, ?_⟩
    · intro other hother
      exact ⟨hformat.keep (by decide) other, hheaderSize.replace (hv.symm ▸ hother),
        hcapacity.keep (by decide) other⟩
    · intro kept hkept
      cases kept with
      | headerSize => exact absurd rfl hkept
      | _ => rfl
  | maxPartitionSize =>
    obtain ⟨rfl, rfl⟩ := Prod.mk.inj (Option.some.inj hrange)
    have hlt : v.toNat < 2 ^ 64 := by omega
    have hv : ((UInt64.ofNat v.toNat).toNat : Int) = v := by
      rw [UInt64.toNat_ofNat_of_lt' hlt, Int.toNat_of_nonneg hlow]
    refine ⟨{ config with maxPartitionSize := UInt64.ofNat v.toNat }, ?_, congrArg some hv, rfl, ?_⟩
    · intro other hother
      exact ⟨hformat.keep (by decide) other, hheaderSize.keep (by decide) other,
        hcapacity.replace (hv.symm ▸ hother)⟩
    · intro kept hkept
      cases kept with
      | maxPartitionSize => exact absurd rfl hkept
      | _ => rfl

end Settings

/-! ## Documents -/

section Documents

variable {field : Field} {low high v : Int} {front back : List (String × Value)}
  {value other : Value} {text text' : String} {config : Config}

private theorem ofJson_between
    (h : IsDocument text (.object (front ++ (field.name, value) :: back))) :
    ofJson text = record.ofMembers (Value.treesOfMembers front ++
      (some field.name, value.tree) :: Value.treesOfMembers back) true := by
  rw [ofJson_object h, Value.treesOfMembers_append, Value.treesOfMembers]

/-- Documents with values for a size that are read alike are read alike. -/
theorem ofJson_congr (hrange : field.sizeRange? = some (low, high))
    (h : IsDocument text (.object (front ++ (field.name, value) :: back)))
    (h' : IsDocument text' (.object (front ++ (field.name, other) :: back)))
    (hsame : Record.readSize value.tree = Record.readSize other.tree) :
    ofJson text = ofJson text' := by
  rw [ofJson_between h, ofJson_between h']
  exact Record.ofMembers_congr (find?_name field) (put_congr hrange hsame) true

/-- In a document that is valid otherwise the reason for which drafts do not take a value is the
outcome. -/
theorem ofJson_eq_error {cause : RecordError}
    (h : IsDocument text (.object (front ++ (field.name, value) :: back)))
    (hconfig : ofJson text = .ok config)
    (h' : IsDocument text' (.object (front ++ (field.name, other) :: back)))
    (hput : ∀ draft, record.put draft field other.tree = .error cause) :
    ofJson text' = .error cause := by
  rw [ofJson_between h] at hconfig
  rw [ofJson_between h']
  exact Record.ofMembers_eq_error (find?_name field) hconfig hput

end Documents

/-- In an object that is valid otherwise an integer given for a size means the same as any literal
of it: settings with exactly this size, and all else as it was, if the field can hold it, and its
refusal as out of range if not. Beyond 64 bits the literal is still refused so, and the number is
refused as no size. -/
theorem ofJson_size_exact {field : Field} {low high v : Int}
    (hrange : field.sizeRange? = some (low, high)) {literal : String}
    (hliteral : IntLiteral.read literal = .ok v) {front back : List (String × Value)}
    {valid : Value} {base asNumber asText : String} {config : Config}
    (hbase : IsDocument base (.object (front ++ (field.name, valid) :: back)))
    (hconfig : ofJson base = .ok config)
    (hnumber : IsDocument asNumber
      (.object (front ++ (field.name, .number (.ofInt v)) :: back)))
    (htext : IsDocument asText (.object (front ++ (field.name, .string literal) :: back))) :
    (-2 ^ 63 ≤ v ∧ v < 2 ^ 64 → ofJson asNumber = ofJson asText) ∧
    (low ≤ v ∧ v ≤ high → ∃ found : Config,
      ofJson asText = .ok found ∧ ofJson asNumber = .ok found ∧ found.size? field = some v ∧
        found.format = config.format ∧
        ∀ kept, kept ≠ field → found.size? kept = config.size? kept) ∧
    (¬(low ≤ v ∧ v ≤ high) → ofJson asText = .error (.outOfRange v) ∧
      ofJson asNumber =
        if -2 ^ 63 ≤ v ∧ v < 2 ^ 64 then .error (.outOfRange v) else .error .notASize) ∧
    (PatchError.document (.outOfRange v)).message? =
      some ("config error: value out of range: " ++ toString v) ∧
    (PatchError.document .notASize).message? =
      some "config error: data did not match any variant of untagged enum IntOrString" := by
  obtain ⟨hspells, hbits⟩ :=
    IntLiteral.value?_eq_some_iff.mp (IntLiteral.read_eq_ok_iff.mp hliteral)
  have hread : Record.readSize (Value.string literal).tree = .ok v :=
    Record.readSize_string.mpr hliteral
  have hsame (hword : -2 ^ 63 ≤ v ∧ v < 2 ^ 64) : ofJson asNumber = ofJson asText :=
    ofJson_congr hrange hnumber htext ((readSize_number_of_word hword).trans hread.symm)
  refine ⟨hsame, ?held, ?refused, ?message, rfl⟩
  case held =>
    intro hheld
    rw [ofJson_object_eq_ok_iff hbase] at hconfig
    obtain ⟨found, hfound, hkept⟩ := exists_describes_of_size hrange hheld.1 hheld.2 hconfig
    have hok : ofJson asText = .ok found :=
      (ofJson_object_eq_ok_iff htext).mpr (hfound _ (.literal hspells))
    exact ⟨found, hok, (hsame (Field.word_of_sizeRange? hrange hheld)).trans hok, hkept⟩
  case refused =>
    intro hout
    have herror : ofJson asText = .error (.outOfRange v) :=
      ofJson_eq_error hbase hconfig htext (put_eq_outOfRange hrange hread hout)
    refine ⟨herror, ?_⟩
    by_cases hword : -2 ^ 63 ≤ v ∧ v < 2 ^ 64
    · rw [if_pos hword, hsame hword, herror]
    · rw [if_neg hword]
      exact ofJson_eq_error hbase hconfig hnumber
        (put_eq_error hrange (readSize_number_of_not_word hbits hword))
  case message =>
    change some ("config error: " ++ ("value out of range: " ++ toString v)) = _
    rw [← String.append_assoc]
    rfl

/-- A grouped hexadecimal literal and its number, a capacity below zero, and the first integer that
is too small for 64 bits. -/
theorem ofJson_size_exact_at_limits :
    let document (headerSize capacity : Json.Scalar) := String.ofList (Json.writeObject
      [("header_size", headerSize), ("max_partition_size", capacity)])
    (∃ found, ofJson (document (.text " 0x1_8 ") (.integer 64)) = .ok found ∧
      ofJson (document (.integer 24) (.integer 64)) = .ok found ∧
      found.size? .headerSize = some 24 ∧ found.size? .maxPartitionSize = some 64) ∧
    (ofJson (document (.integer 8) (.text "-0b1")) = .error (.outOfRange (-1)) ∧
      ofJson (document (.integer 8) (.integer (-1))) = .error (.outOfRange (-1))) ∧
    (ofJson (document (.text "-9223372036854775809") (.integer 64)) =
        .error (.outOfRange (-9223372036854775809)) ∧
      ofJson (document (.integer (-9223372036854775809)) (.integer 64)) = .error .notASize) := by
  intro document
  have hplain : Json.IsPlain "header_size" ∧ Json.IsPlain "max_partition_size" := by decide
  have hheader (headerSize capacity : Json.Scalar) (h : headerSize.IsPlain)
      (h' : capacity.IsPlain) : IsDocument (document headerSize capacity) (.object ([] ++
        (Field.headerSize.name, headerSize.value) :: [("max_partition_size", capacity.value)])) :=
    Json.isDocument_writeObject (List.forall_mem_cons.mpr
      ⟨⟨hplain.1, h⟩, List.forall_mem_singleton.mpr ⟨hplain.2, h'⟩⟩)
  have hcapacity (headerSize capacity : Json.Scalar) (h : headerSize.IsPlain)
      (h' : capacity.IsPlain) : IsDocument (document headerSize capacity) (.object
        ([("header_size", headerSize.value)] ++
          (Field.maxPartitionSize.name, capacity.value) :: [])) :=
    hheader headerSize capacity h h'
  have hsize (n : Int) : MeansSize (.number (.ofInt n)) n :=
    .integer (Json.NumberLiteral.isInteger_ofInt n)
  have hbase := hheader (.integer 8) (.integer 64) trivial trivial
  have hconfig : ofJson (document (.integer 8) (.integer 64)) = .ok ⟨.binary, 8, 64⟩ :=
    (ofJson_object_eq_ok_iff hbase).mpr ⟨.absent rfl, .given (hsize 8), .given (hsize 64)⟩
  refine ⟨?_, ?_, ?_⟩
  · obtain ⟨-, hheld, -⟩ := ofJson_size_exact rfl
      (by decide : IntLiteral.read " 0x1_8 " = .ok 24) hbase hconfig
      (hheader (.integer 24) _ trivial trivial) (hheader (.text " 0x1_8 ") _ (by decide) trivial)
    obtain ⟨found, htext, hnumber, hfound, -, hkept⟩ := hheld (by decide)
    exact ⟨found, htext, hnumber, hfound, hkept .maxPartitionSize (by decide)⟩
  · obtain ⟨-, -, hrefused, -⟩ := ofJson_size_exact rfl
      (by decide : IntLiteral.read "-0b1" = .ok (-1))
      (hcapacity (.integer 8) (.integer 64) trivial trivial) hconfig
      (hcapacity _ (.integer (-1)) trivial trivial) (hcapacity _ (.text "-0b1") trivial (by decide))
    exact hrefused (by decide)
  · obtain ⟨-, -, hrefused, -⟩ := ofJson_size_exact rfl
      (by decide : IntLiteral.read "-9223372036854775809" = .ok (-9223372036854775809))
      hbase hconfig (hheader (.integer (-9223372036854775809)) _ trivial trivial)
      (hheader (.text "-9223372036854775809") _ (by decide) trivial)
    exact hrefused (by decide)

end FlashPatch.Config
