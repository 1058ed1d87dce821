import FlashPatch.Config.Json
import FlashPatch.Proofs.Json.Writer
import FlashPatch.Proofs.Record.Basic
import FlashPatch.Proofs.Record.Field

/-!
# Settings in JSON documents

Which documents are settings, and which settings they are. Of an object only the members under the
three names count, in any order; an array has one element for each.
-/

namespace FlashPatch.Config

open Json (Value IsDocument)
open Record (Collects HasValue MeansFormat MeansSize)

/-! ## Drafts -/

private theorem name_injective {field other : Field} (h : field.name = other.name) :
    field = other := by
  revert h
  cases field <;> cases other <;> decide

/-- The field with the name of a field is this field. -/
theorem find?_name (field : Field) :
    record.fields.find? (fun other ↦ record.fieldName other = field.name) = some field := by
  cases field <;> decide

private theorem find?_eq_none {key : String} (h : ∀ field : Field, field.name ≠ key) :
    record.fields.find? (fun field ↦ record.fieldName field = key) = none :=
  List.find?_eq_none.mpr fun field _ hkey ↦ h field (of_decide_eq_true hkey)

private theorem complete_eq_ok_iff {draft : Draft} {config : Config} :
    draft.complete = .ok config ↔
      draft.format.or (some default) = some config.format ∧
        draft.headerSize.or (some defaultHeaderSize) = some config.headerSize ∧
        draft.maxPartitionSize.or none = some config.maxPartitionSize := by
  obtain ⟨format, headerSize, maxPartitionSize⟩ := draft
  obtain ⟨configFormat, configHeaderSize, configMaxPartitionSize⟩ := config
  cases maxPartitionSize with
  | none => simp [Draft.complete]
  | some m =>
    cases format <;> cases headerSize <;> simp [Draft.complete]

-- A member under the name of a field is put into a draft without it if it can be read.
private theorem exists_put_iff {α : Type} {before : Option α} {read : Except RecordError α}
    {set : α → Draft} {P : Draft → Prop} {cause : RecordError} :
    (∃ draft, (if before.isSome then .error cause else do return set (← read)) = .ok draft ∧
      P draft) ↔ before = none ∧ ∃ x, read = .ok x ∧ P (set x) := by
  cases before with
  | some y => simp
  | none =>
    cases read with
    | error cause => simp [bind, Except.bind]
    | ok x => simp [bind, Except.bind, pure, Except.pure]

private theorem foldlM_putMember_eq_ok_iff {members : List (String × Value)}
    {before after : Draft} :
    (Value.treesOfMembers members).foldlM record.putMember before = .ok after ↔
      Collects Record.readFormat before.format (Value.underKey Field.format.name members)
          after.format ∧
        Collects Record.readInt64 before.headerSize
          (Value.underKey Field.headerSize.name members) after.headerSize ∧
        Collects Record.readUInt64 before.maxPartitionSize
          (Value.underKey Field.maxPartitionSize.name members) after.maxPartitionSize := by
  induction members generalizing before with
  | nil =>
    obtain ⟨format, headerSize, maxPartitionSize⟩ := before
    obtain ⟨format', headerSize', maxPartitionSize'⟩ := after
    simp [Value.treesOfMembers, Value.underKey, Collects, pure, Except.pure, eq_comm]
  | cons member members ih =>
    obtain ⟨key, value⟩ := member
    rw [Value.treesOfMembers, List.foldlM_cons, Record.bind_eq_ok_iff]
    by_cases hkey : ∃ field : Field, field.name = key
    · obtain ⟨field, rfl⟩ := hkey
      have hvalues (other : Field) :
          Value.underKey other.name ((field.name, value) :: members) =
            if field = other then value :: Value.underKey other.name members
            else Value.underKey other.name members := by
        split
        · next h => rw [h, Value.underKey_cons_self]
        · next h => exact Value.underKey_cons_of_ne (mt name_injective h) value members
      rw [Record.putMember_of_find? _ _ _ (find?_name field)]
      -- in each case the values for one field begin with this one, the others are those behind it
      cases field
      all_goals
        simp only [hvalues, reduceCtorEq, if_true, if_false, Collects]
        refine exists_put_iff.trans ?_
        simp only [ih]
        grind
    · have hne (field : Field) : key ≠ field.name := fun h ↦ hkey ⟨field, h.symm⟩
      have hskip := record.putMember_of_find?_eq_none before value
        (find?_eq_none fun field ↦ (hne field).symm)
      rw [hskip, Value.underKey_cons_of_ne (hne .format), Value.underKey_cons_of_ne (hne .headerSize),
        Value.underKey_cons_of_ne (hne .maxPartitionSize)]
      simp only [Except.ok.injEq, exists_eq_left', ih]

/-! ## Objects -/

/-- Whether the members of an object mean the settings. Other members than those of the three fields
do not count. -/
structure Describes (members : List (String × Value)) (config : Config) : Prop where
  /-- The format is the binary one unless it is given. -/
  format : HasValue MeansFormat (some .binary) (Value.underKey "format" members) config.format
  /-- The header size is 24 unless it is given. -/
  headerSize : HasValue (fun value (n : Int64) ↦ MeansSize value n.toInt) (some 24)
    (Value.underKey "header_size" members) config.headerSize
  /-- The capacity has to be given. -/
  maxPartitionSize : HasValue (fun value (n : UInt64) ↦ MeansSize value n.toNat) none
    (Value.underKey "max_partition_size" members) config.maxPartitionSize

private theorem ofMembers_eq_ok_iff_complete {members : List (Option String × Json.Tree)}
    {config : Config} : record.ofMembers members true = .ok config ↔
      ∃ draft, members.foldlM record.putMember {} = .ok draft ∧ draft.complete = .ok config := by
  rw [Record.ofMembers, Record.bind_eq_ok_iff]
  refine exists_congr fun draft ↦ and_congr_right fun _ ↦ ?_
  have hcomplete : record.complete draft = draft.complete := rfl
  rw [hcomplete]
  cases draft.complete with
  | ok found => simp [pure, Except.pure]
  | error field => simp [throw, throwThe, MonadExceptOf.throw]

private theorem ofMembers_eq_ok_iff {members : List (String × Value)}
    (hspelled : ∀ member ∈ members, ∃ part, Json.Spells part member.2) {config : Config} :
    record.ofMembers (Value.treesOfMembers members) true = .ok config ↔
      Describes members config := by
  have hvalue (key : String) : ∀ value ∈ Value.underKey key members,
      ∃ part, Json.Spells part value :=
    fun value h ↦ hspelled (key, value) (Value.mem_underKey.mp h)
  have hformat : (∃ after, Collects Record.readFormat none (Value.underKey "format" members) after ∧
      after.or (some .binary) = some config.format) ↔ _ :=
    Record.exists_collects_iff fun value _ _ ↦ Record.readFormat_tree_eq_ok_iff
  have hheaderSize : (∃ after, Collects Record.readInt64 none
      (Value.underKey "header_size" members) after ∧
      after.or (some 24) = some config.headerSize) ↔ _ :=
    Record.exists_collects_iff fun value h _ ↦ Record.readInt64_tree_eq_ok_iff (hvalue _ value h)
  have hcapacity : (∃ after, Collects Record.readUInt64 none
      (Value.underKey "max_partition_size" members) after ∧
      after.or none = some config.maxPartitionSize) ↔ _ :=
    Record.exists_collects_iff fun value h _ ↦ Record.readUInt64_tree_eq_ok_iff (hvalue _ value h)
  simp only [ofMembers_eq_ok_iff_complete, foldlM_putMember_eq_ok_iff, complete_eq_ok_iff]
  constructor
  · rintro ⟨draft, ⟨hf, hh, hm⟩, hf', hh', hm'⟩
    exact ⟨hformat.mp ⟨_, hf, hf'⟩, hheaderSize.mp ⟨_, hh, hh'⟩, hcapacity.mp ⟨_, hm, hm'⟩⟩
  · rintro ⟨hf, hh, hm⟩
    obtain ⟨format, hf, hf'⟩ := hformat.mpr hf
    obtain ⟨headerSize, hh, hh'⟩ := hheaderSize.mpr hh
    obtain ⟨maxPartitionSize, hm, hm'⟩ := hcapacity.mpr hm
    exact ⟨⟨format, headerSize, maxPartitionSize⟩, ⟨hf, hh, hm⟩, hf', hh', hm'⟩

/-! ## Arrays -/

private theorem ofElements_three_eq_ok_iff {format headerSize maxPartitionSize : Json.Tree}
    {config : Config} :
    record.ofElements [format, headerSize, maxPartitionSize] true = .ok config ↔
      Record.readFormat format = .ok config.format ∧
        Record.readInt64 headerSize = .ok config.headerSize ∧
        Record.readUInt64 maxPartitionSize = .ok config.maxPartitionSize := by
  obtain ⟨configFormat, configHeaderSize, configMaxPartitionSize⟩ := config
  cases hf : Record.readFormat format with
  | error cause =>
    simp [Record.ofElements, record, Draft.put, hf, bind, Except.bind]
  | ok f =>
    cases hh : Record.readInt64 headerSize with
    | error cause =>
      simp [Record.ofElements, record, Draft.put, hf, hh, bind, Except.bind, pure, Except.pure]
    | ok h =>
      cases hm : Record.readUInt64 maxPartitionSize with
      | error cause =>
        simp [Record.ofElements, record, Draft.put, hf, hh, hm, bind, Except.bind, pure,
          Except.pure]
      | ok m =>
        simp [Record.ofElements, record, Draft.put, Draft.complete, hf, hh, hm, bind, Except.bind,
          pure, Except.pure]

private theorem ofElements_ne_ok {elements : List Json.Tree} (h : elements.length ≠ 3)
    (config : Config) : record.ofElements elements true ≠ .ok config := by
  match elements, h with
  | [], _ => simp [Record.ofElements, record, Draft.complete, bind, Except.bind, pure, Except.pure]
  | [format], _ =>
    cases hf : Record.readFormat format <;>
      simp [Record.ofElements, record, Draft.put, Draft.complete, hf, bind, Except.bind, pure,
        Except.pure]
  | [format, headerSize], _ =>
    cases hf : Record.readFormat format <;> cases hh : Record.readInt64 headerSize <;>
      simp [Record.ofElements, record, Draft.put, Draft.complete, hf, hh, bind, Except.bind, pure,
        Except.pure]
  | [_, _, _], h => exact absurd rfl h
  | format :: headerSize :: maxPartitionSize :: next :: rest, _ =>
    intro hok
    rw [Record.ofElements, Record.bind_eq_ok_iff] at hok
    obtain ⟨draft, -, hok⟩ := hok
    simp [record, throw, throwThe, MonadExceptOf.throw, bind, Except.bind] at hok

private theorem ofElements_eq_ok_iff {elements : List Json.Tree} {config : Config} :
    record.ofElements elements true = .ok config ↔
      ∃ format headerSize maxPartitionSize, elements = [format, headerSize, maxPartitionSize] ∧
        Record.readFormat format = .ok config.format ∧
        Record.readInt64 headerSize = .ok config.headerSize ∧
        Record.readUInt64 maxPartitionSize = .ok config.maxPartitionSize := by
  constructor
  · intro h
    have hthree : elements.length = 3 := by
      by_contra hlength
      exact ofElements_ne_ok hlength config h
    obtain ⟨format, headerSize, maxPartitionSize, rfl⟩ := List.length_eq_three.mp hthree
    exact ⟨_, _, _, rfl, ofElements_three_eq_ok_iff.mp h⟩
  · rintro ⟨format, headerSize, maxPartitionSize, rfl, h⟩
    exact ofElements_three_eq_ok_iff.mpr h

/-! ## Documents -/

/-- Whether the member is one for a field. -/
def IsKnown (member : String × Value) : Bool :=
  ["format", "header_size", "max_partition_size"].contains member.1

/-- Whether the members of an object mean some settings. -/
structure Acceptable (members : List (String × Value)) : Prop where
  /-- No field has two members. -/
  once : ∀ key ∈ ["format", "header_size", "max_partition_size"],
    members.countP (fun member ↦ member.1 = key) ≤ 1
  /-- The capacity has a member. -/
  capacity : ∃ value, ("max_partition_size", value) ∈ members
  /-- A format that is given is one. -/
  format : ∀ value, ("format", value) ∈ members → ∃ format, MeansFormat value format
  /-- A header size that is given is a signed number of 64 bits. -/
  headerSize : ∀ value, ("header_size", value) ∈ members → ∃ n : Int64, MeansSize value n.toInt
  /-- The capacity is an unsigned number of 64 bits. -/
  maxPartitionSize : ∀ value, ("max_partition_size", value) ∈ members →
    ∃ n : UInt64, MeansSize value n.toNat

private theorem exists_describes_iff {members : List (String × Value)} :
    (∃ config, Describes members config) ↔ Acceptable members := by
  have hlength (key : String) : (Value.underKey key members).length =
      members.countP fun member ↦ member.1 = key := by
    rw [Value.underKey, List.length_map, List.countP_eq_length_filter]
  constructor
  · rintro ⟨config, h⟩
    obtain ⟨hformat, -, hformats⟩ := Record.exists_hasValue_iff.mp ⟨_, h.format⟩
    obtain ⟨hheaderSize, -, hheaderSizes⟩ := Record.exists_hasValue_iff.mp ⟨_, h.headerSize⟩
    obtain ⟨hcapacity, hsome, hcapacities⟩ := Record.exists_hasValue_iff.mp ⟨_, h.maxPartitionSize⟩
    constructor
    case once => simpa [← hlength] using ⟨hformat, hheaderSize, hcapacity⟩
    case capacity =>
      obtain ⟨value, hvalue⟩ := List.exists_mem_of_ne_nil _ (mt hsome (by simp))
      exact ⟨value, Value.mem_underKey.mp hvalue⟩
    case format => exact fun value hvalue ↦ hformats value (Value.mem_underKey.mpr hvalue)
    case headerSize => exact fun value hvalue ↦ hheaderSizes value (Value.mem_underKey.mpr hvalue)
    case maxPartitionSize =>
      exact fun value hvalue ↦ hcapacities value (Value.mem_underKey.mpr hvalue)
  · intro h
    have honce (key : String) (hkey : key ∈ ["format", "header_size", "max_partition_size"]) :
        (Value.underKey key members).length ≤ 1 := by
      rw [hlength]
      exact h.once key hkey
    have hformat : ∃ x, HasValue MeansFormat (some .binary) (Value.underKey "format" members) x :=
      Record.exists_hasValue_iff.mpr ⟨honce "format" (by simp), fun _ ↦ rfl,
        fun value hvalue ↦ h.format value (Value.mem_underKey.mp hvalue)⟩
    have hheaderSize : ∃ x, HasValue (fun value (n : Int64) ↦ MeansSize value n.toInt) (some 24)
        (Value.underKey "header_size" members) x :=
      Record.exists_hasValue_iff.mpr ⟨honce "header_size" (by simp), fun _ ↦ rfl,
        fun value hvalue ↦ h.headerSize value (Value.mem_underKey.mp hvalue)⟩
    have hcapacity : ∃ x, HasValue (fun value (n : UInt64) ↦ MeansSize value n.toNat) none
        (Value.underKey "max_partition_size" members) x := by
      obtain ⟨value, hvalue⟩ := h.capacity
      have hne : Value.underKey "max_partition_size" members ≠ [] :=
        List.ne_nil_of_mem (Value.mem_underKey.mpr hvalue)
      exact Record.exists_hasValue_iff.mpr ⟨honce "max_partition_size" (by simp),
        fun hnil ↦ absurd hnil hne,
        fun value hvalue ↦ h.maxPartitionSize value (Value.mem_underKey.mp hvalue)⟩
    obtain ⟨format, hformat⟩ := hformat
    obtain ⟨headerSize, hheaderSize⟩ := hheaderSize
    obtain ⟨maxPartitionSize, hcapacity⟩ := hcapacity
    exact ⟨⟨format, headerSize, maxPartitionSize⟩, hformat, hheaderSize, hcapacity⟩

private theorem Describes.perm {members others : List (String × Value)} {config : Config}
    (h : Describes members config) (hperm : (members.filter IsKnown).Perm (others.filter IsKnown)) :
    Describes others config := by
  have hvalues (key : String) (hkey : ∀ value, IsKnown (key, value) = true) :
      (Value.underKey key members).Perm (Value.underKey key others) := by
    rw [← Value.underKey_filter hkey members, ← Value.underKey_filter hkey others]
    exact Value.underKey_perm hperm key
  exact ⟨h.format.perm (hvalues _ fun _ ↦ rfl), h.headerSize.perm (hvalues _ fun _ ↦ rfl),
    h.maxPartitionSize.perm (hvalues _ fun _ ↦ rfl)⟩

/-- A document that is an object is read by its members. -/
theorem ofJson_object {text : String} {members : List (String × Value)}
    (h : IsDocument text (.object members)) :
    ofJson text = record.ofMembers (Value.treesOfMembers members) true := by
  rw [ofJson, record.ofText_of_isDocument h, Value.tree, Record.ofTree]

/-- The settings of a document that is an object are those that its members describe. -/
theorem ofJson_object_eq_ok_iff {text : String} {members : List (String × Value)}
    (h : IsDocument text (.object members)) {config : Config} :
    ofJson text = .ok config ↔ Describes members config := by
  rw [ofJson_object h]
  exact ofMembers_eq_ok_iff h.exists_spells_member

/-- The settings of a document that is an array are what its three elements mean. -/
theorem ofJson_array_eq_ok_iff {text : String} {elements : List Value}
    (h : IsDocument text (.array elements)) {config : Config} :
    ofJson text = .ok config ↔
      ∃ format headerSize maxPartitionSize, elements = [format, headerSize, maxPartitionSize] ∧
        MeansFormat format config.format ∧ MeansSize headerSize config.headerSize.toInt ∧
        MeansSize maxPartitionSize config.maxPartitionSize.toNat := by
  have hspelled := h.exists_spells_element
  rw [ofJson, record.ofText_of_isDocument h, Value.tree, Record.ofTree, ofElements_eq_ok_iff,
    Value.treesOfElements_eq_map]
  constructor
  · rintro ⟨f, s, m, hmap, hf, hs, hm⟩
    match elements, hmap with
    | [format, headerSize, maxPartitionSize], hmap =>
      obtain ⟨rfl, rfl, rfl⟩ : format.tree = f ∧ headerSize.tree = s ∧
          maxPartitionSize.tree = m := by simpa using hmap
      exact ⟨format, headerSize, maxPartitionSize, rfl, Record.readFormat_tree_eq_ok_iff.mp hf,
        (Record.readInt64_tree_eq_ok_iff (hspelled _ (by simp))).mp hs,
        (Record.readUInt64_tree_eq_ok_iff (hspelled _ (by simp))).mp hm⟩
  · rintro ⟨format, headerSize, maxPartitionSize, rfl, hf, hs, hm⟩
    exact ⟨_, _, _, rfl, Record.readFormat_tree_eq_ok_iff.mpr hf,
      (Record.readInt64_tree_eq_ok_iff (hspelled _ (by simp))).mpr hs,
      (Record.readUInt64_tree_eq_ok_iff (hspelled _ (by simp))).mpr hm⟩

/-- A document that is an object is read as settings exactly if each field has at most one member,
the capacity has one, and what is given means something. The settings are what the members for the
fields mean, whatever their order and whatever stands between them. An array is read exactly if its
elements are a format, a header size and a capacity. -/
theorem ofJson_exact :
    (∀ (text : String) (members : List (String × Value)), IsDocument text (.object members) →
      ((∃ config, ofJson text = .ok config) ↔ Acceptable members) ∧
      (∀ config, ofJson text = .ok config → Describes members config) ∧
      ∀ (other : String) (others : List (String × Value)), IsDocument other (.object others) →
        (members.filter IsKnown).Perm (others.filter IsKnown) →
          ∀ config, ofJson text = .ok config ↔ ofJson other = .ok config) ∧
    ∀ (text : String) (elements : List Value), IsDocument text (.array elements) →
      ∀ config, ofJson text = .ok config ↔
        ∃ format headerSize maxPartitionSize, elements = [format, headerSize, maxPartitionSize] ∧
          MeansFormat format config.format ∧ MeansSize headerSize config.headerSize.toInt ∧
          MeansSize maxPartitionSize config.maxPartitionSize.toNat := by
  refine ⟨fun text members h ↦ ⟨?_, fun config ↦ (ofJson_object_eq_ok_iff h).mp, ?_⟩,
    fun text elements h config ↦ ofJson_array_eq_ok_iff h⟩
  · simp only [ofJson_object_eq_ok_iff h]
    exact exists_describes_iff
  · intro other others hother hperm config
    rw [ofJson_object_eq_ok_iff h, ofJson_object_eq_ok_iff hother]
    exact ⟨fun hd ↦ hd.perm hperm, fun hd ↦ hd.perm hperm.symm⟩

/-- A size in hexadecimal: alone, behind another member, and as the last of three elements. -/
theorem ofJson_exact_hex :
    (∃ config, ofJson "\x7b\"max_partition_size\":\"0x40\"\x7d" = .ok config ∧
      ofJson "\x7b\"note\":true,\"max_partition_size\":\"0x40\"\x7d" = .ok config) ∧
    ofJson "[\"binary_le_v2\",24,\"0x40\"]" = .ok ⟨.binary, 24, 64⟩ := by
  have hsize : MeansSize (.string "0x40") 64 :=
    .literal (IntLiteral.value?_eq_some_iff.mp (by decide)).1
  constructor
  · have hplain : ∀ member ∈
        [("note", Json.Scalar.bool true), ("max_partition_size", .text "0x40")],
        Json.IsPlain member.1 ∧ member.2.IsPlain := by decide
    have halone : "\x7b\"max_partition_size\":\"0x40\"\x7d" =
        String.ofList (Json.writeObject [("max_partition_size", .text "0x40")]) := by decide
    have hbehind : "\x7b\"note\":true,\"max_partition_size\":\"0x40\"\x7d" = String.ofList
        (Json.writeObject [("note", .bool true), ("max_partition_size", .text "0x40")]) := by decide
    have hobject := Json.isDocument_writeObject (List.forall_mem_cons.mp hplain).2
    have hacceptable : Acceptable [("max_partition_size", .string "0x40")] :=
      { once := by decide
        capacity := ⟨_, List.mem_cons_self⟩
        format := by simp
        headerSize := by simp
        maxPartitionSize := by simpa using ⟨64, hsize⟩ }
    rw [halone, hbehind]
    obtain ⟨hread, -, hsame⟩ := ofJson_exact.1 _ _ hobject
    obtain ⟨config, hconfig⟩ := hread.mpr hacceptable
    exact ⟨config, hconfig,
      (hsame _ _ (Json.isDocument_writeObject hplain) (.refl _) config).mp hconfig⟩
  · have htext : "[\"binary_le_v2\",24,\"0x40\"]".toList =
        '[' :: (Json.writeText "binary_le_v2" ++
          ',' :: (Json.writeInt 24 ++ ',' :: Json.writeText "0x40") ++ [']']) := by decide
    have helements : Json.SpellsElements
        (Json.writeText "binary_le_v2" ++ ',' :: (Json.writeInt 24 ++ ',' :: Json.writeText "0x40"))
        [.string "binary_le_v2", .number (.ofInt 24), .string "0x40"] :=
      .more (.of_spells (Json.spells_writeText (by decide)))
        (.more (.of_spells (.number (Json.NumberLiteral.spells_writeInt 24)))
          (.last (.of_spells (Json.spells_writeText (by decide)))))
    refine (ofJson_exact.2 _ _ ?_ _).mpr ⟨_, _, _, rfl, .name .binary,
      .integer (Json.NumberLiteral.isInteger_ofInt 24), hsize⟩
    rw [IsDocument, htext]
    exact .of_spells (.array helements)

/-! ## Written settings -/

private theorem isDocument_toJson (config : Config) :
    IsDocument config.toJson (.object
      [("format", .string config.format.name),
        ("header_size", .number (.ofInt config.headerSize.toInt)),
        ("max_partition_size", .number (.ofInt config.maxPartitionSize.toNat))]) := by
  have hname : Json.IsPlain config.format.name := by cases config.format <;> decide
  have hkey : ∀ field : Field, Json.IsPlain field.name := by rintro ⟨⟩ <;> decide
  refine Json.isDocument_writeObject (List.forall_mem_cons.mpr ⟨⟨hkey .format, hname⟩, ?_⟩)
  exact List.forall_mem_cons.mpr ⟨⟨hkey .headerSize, trivial⟩,
    List.forall_mem_singleton.mpr ⟨hkey .maxPartitionSize, trivial⟩⟩

/-- Settings are read back from their document, whatever the sizes. -/
theorem ofJson_toJson (config : Config) : ofJson config.toJson = .ok config := by
  have hsize (value : Int) : MeansSize (.number (.ofInt value)) value :=
    .integer (Json.NumberLiteral.isInteger_ofInt value)
  rw [ofJson_object_eq_ok_iff (isDocument_toJson config)]
  exact
    { format := .given (Record.meansFormat_name config.format)
      headerSize := .given (hsize config.headerSize.toInt)
      maxPartitionSize := .given (hsize config.maxPartitionSize.toNat) }

end FlashPatch.Config
