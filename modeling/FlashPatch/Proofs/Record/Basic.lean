import FlashPatch.Proofs.Json.Document
import FlashPatch.Record.Basic

/-!
# Reading records

A record is read from the value that a document spells. Of an object only the members under the
names of fields count: a field takes the value of its only member, two members for a field are
refused, and a field without a member has its default.
-/

namespace FlashPatch

/-! ## Sound values -/

namespace Json.Value

mutual

/-- Nothing is missing in the tree of a value. -/
theorem isSound_tree : ∀ value : Value, value.tree.isSound false = true
  | null => rfl
  | bool _ => rfl
  | number _ => rfl
  | string _ => rfl
  | array elements => by
    rw [tree, Tree.isSound, areSound_treesOfElements elements]
    rfl
  | object members => by
    rw [tree, Tree.isSound, membersAreSound_treesOfMembers members]
    rfl

private theorem areSound_treesOfElements :
    ∀ elements : List Value, Tree.areSound false (treesOfElements elements) = true
  | [] => rfl
  | element :: rest => by
    rw [treesOfElements, Tree.areSound, isSound_tree element, areSound_treesOfElements rest]
    rfl

private theorem membersAreSound_treesOfMembers :
    ∀ members : List (String × Value), Tree.membersAreSound false (treesOfMembers members) = true
  | [] => rfl
  | (key, value) :: rest => by
    rw [treesOfMembers, Tree.membersAreSound, isSound_tree value,
      membersAreSound_treesOfMembers rest]
    rfl

end

/-- Members one behind the other have their trees so. -/
theorem treesOfMembers_append (front back : List (String × Value)) :
    treesOfMembers (front ++ back) = treesOfMembers front ++ treesOfMembers back := by
  induction front with
  | nil => rfl
  | cons member front ih =>
    obtain ⟨key, value⟩ := member
    rw [List.cons_append, treesOfMembers, treesOfMembers, ih, List.cons_append]

/-- The values of the members under a key. -/
def underKey (key : String) (members : List (String × Value)) : List Value :=
  (members.filter fun member ↦ member.1 = key).map (·.2)

/-- A member under the key gives the first value. -/
theorem underKey_cons_self (key : String) (value : Value) (members : List (String × Value)) :
    underKey key ((key, value) :: members) = value :: underKey key members := by
  simp [underKey]

/-- A member under another key gives no value. -/
theorem underKey_cons_of_ne {key other : String} (h : other ≠ key) (value : Value)
    (members : List (String × Value)) :
    underKey key ((other, value) :: members) = underKey key members := by
  simp [underKey, h]

/-- Members under other keys give no values. -/
theorem underKey_filter {key : String} {p : String × Value → Bool}
    (h : ∀ value, p (key, value) = true) (members : List (String × Value)) :
    underKey key (members.filter p) = underKey key members := by
  rw [underKey, List.filter_filter, underKey]
  congr 1
  refine List.filter_congr fun member _ ↦ ?_
  by_cases hkey : member.1 = key
  · obtain ⟨_, value⟩ := member
    subst hkey
    simp [h value]
  · simp [hkey]

/-- The values under a key come in the order of the members. -/
theorem underKey_perm {members others : List (String × Value)} (h : members.Perm others)
    (key : String) : (underKey key members).Perm (underKey key others) :=
  (h.filter _).map _

/-- The values under a key are those of members. -/
theorem mem_underKey {key : String} {value : Value} {members : List (String × Value)} :
    value ∈ underKey key members ↔ (key, value) ∈ members := by
  simp [underKey]

end Json.Value

namespace Record

open Json (Value IsDocument)

/-- A step can succeed behind another one exactly if that one succeeds. -/
theorem bind_eq_ok_iff {ε α β : Type} {first : Except ε α} {step : α → Except ε β} {b : β} :
    (first >>= step) = .ok b ↔ ∃ a, first = .ok a ∧ step a = .ok b := by
  cases first with
  | error cause => simp [bind, Except.bind]
  | ok a => simp [bind, Except.bind]

section Reading

variable {Field Draft Result : Type} (record : Record Field Draft Result)

/-- A document is read by the value that it spells. -/
theorem ofText_of_isDocument {text : String} {value : Value} (h : IsDocument text value) :
    record.ofText text = record.ofTree value.tree := by
  rw [ofText, Json.Document.ofText_of_isDocument h]
  change (record.ofTree value.tree >>= fun result ↦ pure result) = _
  exact bind_pure _

/-- A member under the name of a field is put into the draft, unless the draft has the field. -/
theorem putMember_of_find? {key : String} {field : Field} (draft : Draft) (tree : Json.Tree)
    (h : record.fields.find? (fun field ↦ record.fieldName field = key) = some field) :
    record.putMember draft (some key, tree) =
      if record.has draft field then .error (.duplicateField key)
      else record.put draft field tree := by
  simp only [putMember, h]

/-- Members are read with their first one, for a field that the draft lacks, put into the draft. -/
theorem foldlM_putMember_cons {key : String} {field : Field} {before after : Draft}
    {tree : Json.Tree} (members : List (Option String × Json.Tree))
    (hfield : record.fields.find? (fun field ↦ record.fieldName field = key) = some field)
    (hnew : record.has before field = false) (hput : record.put before field tree = .ok after) :
    ((some key, tree) :: members).foldlM record.putMember before =
      members.foldlM record.putMember after := by
  rw [List.foldlM_cons, record.putMember_of_find? before tree hfield, hnew, hput]
  rfl

/-- A member under another name is skipped. -/
theorem putMember_of_find?_eq_none {key : String} (draft : Draft) (value : Value)
    (h : record.fields.find? (fun field ↦ record.fieldName field = key) = none) :
    record.putMember draft (some key, value.tree) = .ok draft := by
  simp only [putMember, h, Value.isSound_tree, if_true]

/-! ## One value in place of another -/

variable {record} {key : String} {field : Field} {front back : List (Option String × Json.Tree)}
  {tree other : Json.Tree}

/-- Two values that every draft takes alike are read alike, wherever they stand. -/
theorem ofMembers_congr
    (hfield : record.fields.find? (fun field ↦ record.fieldName field = key) = some field)
    (hput : ∀ draft, record.put draft field tree = record.put draft field other) (closed : Bool) :
    record.ofMembers (front ++ (some key, tree) :: back) closed =
      record.ofMembers (front ++ (some key, other) :: back) closed := by
  have hmember (draft : Draft) :
      record.putMember draft (some key, tree) = record.putMember draft (some key, other) := by
    rw [record.putMember_of_find? _ _ hfield, record.putMember_of_find? _ _ hfield, hput]
  simp only [ofMembers, List.foldlM_append, List.foldlM_cons, hmember]

/-- Where members are read with one value for a field, a value that no draft takes is refused for
its own reason. -/
theorem ofMembers_eq_error {result : Result} {cause : RecordError}
    (hfield : record.fields.find? (fun field ↦ record.fieldName field = key) = some field)
    (h : record.ofMembers (front ++ (some key, tree) :: back) true = .ok result)
    (hput : ∀ draft, record.put draft field other = .error cause) :
    record.ofMembers (front ++ (some key, other) :: back) true = .error cause := by
  -- The members in front are read, and give a draft that still lacks the field.
  rw [ofMembers, List.foldlM_append, bind_eq_ok_iff] at h
  obtain ⟨draft, hfold, -⟩ := h
  obtain ⟨before, hfront, hrest⟩ := bind_eq_ok_iff.mp hfold
  rw [List.foldlM_cons, bind_eq_ok_iff] at hrest
  obtain ⟨after, hmember, -⟩ := hrest
  have hnew : ¬record.has before field := by
    intro hhas
    rw [record.putMember_of_find? _ _ hfield, if_pos hhas] at hmember
    cases hmember
  have hrefused : record.putMember before (some key, other) = .error cause := by
    rw [record.putMember_of_find? _ _ hfield, if_neg hnew, hput]
  rw [ofMembers, List.foldlM_append, hfront]
  change List.foldlM _ before ((some key, other) :: back) >>= _ = _
  rw [List.foldlM_cons, hrefused]
  rfl

end Reading

section Fields

variable {α : Type}

/-- Whether a field that was filled or not is filled or not after the given values are read for
it. -/
def Collects (read : Json.Tree → Except RecordError α) : Option α → List Value → Option α → Prop
  | before, [], after => after = before
  | before, value :: values, after =>
    before = none ∧ ∃ x, read value.tree = .ok x ∧ Collects read (some x) values after

/-- The value of a field, where a value may mean one for it: what the only value means, or the
default if there is none. -/
inductive HasValue (means : Value → α → Prop) (default : Option α) : List Value → α → Prop
  | given {value : Value} {x : α} (h : means value x) : HasValue means default [value] x
  | absent {x : α} (h : default = some x) : HasValue means default [] x

/-- A field has a value exactly if it has no two values, the one that it has means something, and
there is a default for none. -/
theorem exists_hasValue_iff {means : Value → α → Prop} {default : Option α}
    {values : List Value} :
    (∃ x, HasValue means default values x) ↔ values.length ≤ 1 ∧
      (values = [] → default.isSome = true) ∧ ∀ value ∈ values, ∃ x, means value x := by
  constructor
  · rintro ⟨x, h | h⟩
    · exact ⟨Nat.le_refl 1, nofun, List.forall_mem_singleton.mpr ⟨x, h⟩⟩
    · exact ⟨Nat.zero_le 1, fun _ ↦ Option.isSome_iff_exists.mpr ⟨x, h⟩, nofun⟩
  · rintro ⟨hlength, hdefault, hmeans⟩
    match values, hlength with
    | [], _ =>
      obtain ⟨x, h⟩ := Option.isSome_iff_exists.mp (hdefault rfl)
      exact ⟨x, .absent h⟩
    | [value], _ =>
      obtain ⟨x, h⟩ := hmeans value List.mem_cons_self
      exact ⟨x, .given h⟩

/-- The order of the values for a field does not count. -/
theorem HasValue.perm {means : Value → α → Prop} {default : Option α} {values others : List Value}
    {x : α} (h : HasValue means default values x) (hperm : values.Perm others) :
    HasValue means default others x := by
  cases h with
  | given h =>
    obtain rfl := List.perm_singleton.mp hperm.symm
    exact .given h
  | absent h =>
    obtain rfl := List.perm_nil.mp hperm.symm
    exact .absent h

/-- A member in the place of the one for a field gives the field what it means. -/
theorem HasValue.replace {means : Value → α → Prop} {default : Option α} {key : String}
    {front back : List (String × Value)} {value other : Value} {x y : α}
    (h : HasValue means default (Value.underKey key (front ++ (key, value) :: back)) x)
    (hother : means other y) :
    HasValue means default (Value.underKey key (front ++ (key, other) :: back)) y := by
  have hvalues (value : Value) : Value.underKey key (front ++ (key, value) :: back) =
      Value.underKey key front ++ value :: Value.underKey key back := by
    simp [Value.underKey]
  obtain ⟨hlength, -⟩ := exists_hasValue_iff.mp ⟨x, h⟩
  rw [hvalues, List.length_append, List.length_cons] at hlength
  have hfront : Value.underKey key front = [] := List.eq_nil_of_length_eq_zero (by omega)
  have hback : Value.underKey key back = [] := List.eq_nil_of_length_eq_zero (by omega)
  rw [hvalues, hfront, hback]
  exact .given hother

/-- A member in the place of the one for another field does not count. -/
theorem HasValue.keep {means : Value → α → Prop} {default : Option α} {key key' : String}
    {front back : List (String × Value)} {value : Value} {x : α}
    (h : HasValue means default (Value.underKey key (front ++ (key', value) :: back)) x)
    (hkey : key' ≠ key) (other : Value) :
    HasValue means default (Value.underKey key (front ++ (key', other) :: back)) x := by
  have hvalues (value : Value) : Value.underKey key (front ++ (key', value) :: back) =
      Value.underKey key front ++ Value.underKey key back := by
    simp [Value.underKey, hkey]
  rwa [hvalues] at h ⊢

/-- Reading gives a field the value that it has. -/
theorem exists_collects_iff {read : Json.Tree → Except RecordError α} {means : Value → α → Prop}
    {values : List Value} (hread : ∀ value ∈ values, ∀ x, read value.tree = .ok x ↔ means value x)
    {default : Option α} {x : α} :
    (∃ after, Collects read none values after ∧ after.or default = some x) ↔
      HasValue means default values x := by
  constructor
  · rintro ⟨after, hcollects, hor⟩
    cases values with
    | nil =>
      obtain rfl : after = none := hcollects
      exact .absent hor
    | cons value rest =>
      obtain ⟨-, y, hy, hcollects⟩ := hcollects
      cases rest with
      | nil =>
        obtain rfl : after = some y := hcollects
        obtain rfl : y = x := Option.some.inj hor
        exact .given ((hread value List.mem_cons_self y).mp hy)
      | cons next rest => exact absurd hcollects.1 (by simp)
  · rintro (h | h)
    · exact ⟨some x, ⟨rfl, x, (hread _ List.mem_cons_self x).mpr h, rfl⟩, rfl⟩
    · exact ⟨none, rfl, h⟩

end Fields

end Record

end FlashPatch
