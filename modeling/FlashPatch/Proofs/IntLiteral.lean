import FlashPatch.Error
import FlashPatch.Proofs.Numeral.Positional
import Mathlib.Data.List.DropRight

/-!
# The grammar of integer literals

An integer literal is white space around a sign, a base mark and digits in groups. Reading accepts
exactly the texts of this grammar whose magnitude is in range, gives the integer that they spell,
and reports every other text as it was given.
-/

namespace FlashPatch

/-! ## White space -/

namespace Text

/-- Trimming leaves white space only out. -/
theorem exists_trim (text : List Char) :
    ∃ front back, text = front ++ trim text ++ back ∧
      (∀ c ∈ front, isBlank c = true) ∧ ∀ c ∈ back, isBlank c = true := by
  refine ⟨text.takeWhile isBlank, (text.dropWhile isBlank).rtakeWhile isBlank, ?_, ?_, ?_⟩
  · have hback : trim text ++ (text.dropWhile isBlank).rtakeWhile isBlank =
        text.dropWhile isBlank := List.rdropWhile_append_rtakeWhile
    rw [List.append_assoc, hback, List.takeWhile_append_dropWhile]
  · exact fun c hc ↦ List.mem_takeWhile_imp hc
  · exact fun c hc ↦ List.mem_rtakeWhile_imp hc

private theorem dropWhile_isBlank_append {front body : List Char} (hbody : body ≠ [])
    (hfront : ∀ c ∈ front, isBlank c = true) (h : ∀ c ∈ body, isBlank c = false)
    (rest : List Char) : (front ++ (body ++ rest)).dropWhile isBlank = body ++ rest := by
  rw [List.dropWhile_append_of_pos hfront]
  cases body with
  | nil => exact absurd rfl hbody
  | cons c body => exact List.dropWhile_cons_of_neg (by simp [h c])

/-- Trimming gives a text without white space back from between white space. -/
theorem trim_append {front body back : List Char} (hbody : body ≠ [])
    (h : ∀ c ∈ body, isBlank c = false) (hfront : ∀ c ∈ front, isBlank c = true)
    (hback : ∀ c ∈ back, isBlank c = true) : trim (front ++ body ++ back) = body := by
  have hrev : (back.reverse ++ (body.reverse ++ [])).dropWhile isBlank = body.reverse ++ [] :=
    dropWhile_isBlank_append (by simpa using hbody) (by simpa using hback) (by simpa using h) []
  rw [List.append_nil, ← List.reverse_append] at hrev
  rw [trim, List.append_assoc, dropWhile_isBlank_append hbody hfront h, hrev,
    List.reverse_reverse]

end Text

namespace IntLiteral

/-! ## The grammar -/

/-- Characters in groups and the same characters without the groups: there may be one underscore
between two of them. -/
inductive Grouped : List Char → List Char → Prop
  | last {c : Char} (hc : c ≠ '_') : Grouped [c] [c]
  | next {c : Char} {text digits : List Char} (hc : c ≠ '_') (h : Grouped text digits) :
      Grouped (c :: text) (c :: digits)
  | gap {c : Char} {text digits : List Char} (hc : c ≠ '_') (h : Grouped text digits) :
      Grouped (c :: '_' :: text) (c :: digits)

/-- The letters that mark a base, behind a zero. -/
def markedBases : List (Char × Nat) :=
  [('x', 16), ('X', 16), ('o', 8), ('O', 8), ('b', 2), ('B', 2)]

/-- A literal without its sign, and its magnitude. Behind a mark there may be an underscore. Without
a mark the first digit is not zero unless all digits are. -/
inductive Unsigned : List Char → Nat → Prop
  | marked {letter : Char} {base : Nat} {text digits : List Char} {n : Nat}
      (hmark : (letter, base) ∈ markedBases) (hgroups : Grouped text digits)
      (hvalue : Numeral.Writes base digits n) : Unsigned ('0' :: letter :: text) n
  | markedGap {letter : Char} {base : Nat} {text digits : List Char} {n : Nat}
      (hmark : (letter, base) ∈ markedBases) (hgroups : Grouped text digits)
      (hvalue : Numeral.Writes base digits n) : Unsigned ('0' :: letter :: '_' :: text) n
  | decimal {text digits : List Char} {n : Nat} (hgroups : Grouped text digits)
      (hvalue : Numeral.Writes 10 digits n)
      (hzeros : digits.head? ≠ some '0' ∨ ∀ c ∈ digits, c = '0') : Unsigned text n

/-- A literal and its integer. -/
inductive Signed : List Char → Int → Prop
  | unmarked {text : List Char} {n : Nat} (h : Unsigned text n) : Signed text n
  | plus {text : List Char} {n : Nat} (h : Unsigned text n) : Signed ('+' :: text) n
  | minus {text : List Char} {n : Nat} (h : Unsigned text n) : Signed ('-' :: text) (-n)

/-- A text that is a literal with white space around it, and its integer. -/
def Spells (text : List Char) (v : Int) : Prop :=
  ∃ front literal back, text = front ++ literal ++ back ∧ Signed literal v ∧
    (∀ c ∈ front, Text.isBlank c = true) ∧ ∀ c ∈ back, Text.isBlank c = true

/-! ## Groups -/

/-- Groups do not begin with an underscore. -/
theorem Grouped.exists_cons {text digits : List Char} (h : Grouped text digits) :
    ∃ c more rest, text = c :: more ∧ digits = c :: rest ∧ c ≠ '_' := by
  cases h with
  | last hc => exact ⟨_, _, _, rfl, rfl, hc⟩
  | next hc h => exact ⟨_, _, _, rfl, rfl, hc⟩
  | gap hc h => exact ⟨_, _, _, rfl, rfl, hc⟩

/-- Nothing stands in groups but digits and underscores. -/
theorem Grouped.mem {text digits : List Char} (h : Grouped text digits) {c : Char}
    (hc : c ∈ text) : c = '_' ∨ c ∈ digits := by
  induction h with
  | last _ => exact .inr hc
  | next _ _ ih =>
    rcases List.mem_cons.mp hc with rfl | hc
    · exact .inr List.mem_cons_self
    · exact (ih hc).imp_right (List.mem_cons_of_mem _)
  | gap _ _ ih =>
    rcases List.mem_cons.mp hc with rfl | hc
    · exact .inr List.mem_cons_self
    · rcases List.mem_cons.mp hc with rfl | hc
      · exact .inl rfl
      · exact (ih hc).imp_right (List.mem_cons_of_mem _)

private theorem splitOn_underscore (text : List Char) :
    ('_' :: text).splitOn '_' = [] :: text.splitOn '_' :=
  List.splitOnP_cons_eq_if_modifyHead _ _

private theorem splitOn_cons {c : Char} (hc : c ≠ '_') (text : List Char) :
    (c :: text).splitOn '_' = (text.splitOn '_').modifyHead (c :: ·) := by
  rw [List.splitOn, List.splitOnP_cons_eq_if_modifyHead, if_neg (by simpa using hc)]
  rfl

private theorem ungroup?_gap {c : Char} (hc : c ≠ '_') (text : List Char) :
    ungroup? (c :: '_' :: text) = (ungroup? text).map (c :: ·) := by
  simp only [ungroup?, splitOn_cons hc, splitOn_underscore, List.modifyHead_cons, List.any_cons,
    List.isEmpty_cons, Bool.false_or, List.flatten_cons, List.cons_append, List.nil_append]
  split <;> rfl

private theorem ungroup?_next {c d : Char} (hc : c ≠ '_') (hd : d ≠ '_') (text : List Char) :
    ungroup? (c :: d :: text) = (ungroup? (d :: text)).map (c :: ·) := by
  obtain ⟨group, groups, hgroups⟩ := List.exists_cons_of_ne_nil
    (List.splitOnP_ne_nil (· == '_') text)
  have hsplit : text.splitOn '_' = group :: groups := hgroups
  simp only [ungroup?, splitOn_cons hc, splitOn_cons hd, hsplit, List.modifyHead_cons,
    List.any_cons, List.isEmpty_cons, Bool.false_or, List.flatten_cons, List.cons_append]
  split <;> rfl

/-- Digits are found exactly in groups. -/
theorem ungroup?_eq_some_iff {text digits : List Char} :
    ungroup? text = some digits ↔ Grouped text digits := by
  constructor
  · intro h
    induction hlen : text.length using Nat.strongRecOn generalizing text digits with
    | ind length ih =>
      cases text with
      | nil => simp [ungroup?] at h
      | cons c text =>
        have hc : c ≠ '_' := by
          rintro rfl
          simp [ungroup?, splitOn_underscore] at h
        cases text with
        | nil =>
          obtain rfl : [c] = digits := by simpa [ungroup?, splitOn_cons hc] using h
          exact .last hc
        | cons d text =>
          by_cases hd : d = '_'
          · subst hd
            rw [ungroup?_gap hc] at h
            obtain ⟨rest, hrest, rfl⟩ := Option.map_eq_some_iff.mp h
            have hlt : text.length < length := by
              rw [← hlen, List.length_cons, List.length_cons]
              omega
            exact .gap hc (ih _ hlt hrest rfl)
          · rw [ungroup?_next hc hd] at h
            obtain ⟨rest, hrest, rfl⟩ := Option.map_eq_some_iff.mp h
            exact .next hc (ih _ (by simp [← hlen]) hrest rfl)
  · intro h
    induction h with
    | last hc => simp [ungroup?, splitOn_cons hc]
    | next hc h ih =>
      obtain ⟨d, more, rest, rfl, -, hd⟩ := h.exists_cons
      rw [ungroup?_next hc hd, ih]
      rfl
    | gap hc _ ih =>
      rw [ungroup?_gap hc, ih]
      rfl

/-! ## Bases -/

private theorem toNat_toLower (c : Char) :
    c.toLower.toNat = if 65 ≤ c.toNat ∧ c.toNat ≤ 90 then c.toNat + 32 else c.toNat := by
  have hupper : c.val ≥ 'A'.val ∧ c.val ≤ 'Z'.val ↔ 65 ≤ c.toNat ∧ c.toNat ≤ 90 := by
    simp [UInt32.le_iff_toNat_le]
  unfold Char.toLower
  split
  · next h =>
    have hc := hupper.mp h
    have hsum : (c.val + 32).toNat = (c.toNat + 32) % 2 ^ 32 := UInt32.toNat_add _ _
    rw [if_pos hc]
    change (c.val + 32).toNat = _
    rw [hsum]
    exact Nat.mod_eq_of_lt (by omega)
  · next h => rw [if_neg (mt hupper.mpr h)]

private theorem eq_of_toLower_eq {c lower : Char} (upper : Char) (h : c.toLower = lower)
    (hu : upper.toNat + 32 = lower.toNat) : c = lower ∨ c = upper := by
  simp only [← Char.toNat_inj, toNat_toLower] at h ⊢
  split at h <;> omega

/-- The letters of marks are those of the table. -/
theorem markedBase?_eq_some_iff {c : Char} {base : Nat} :
    markedBase? c = some base ↔ (c, base) ∈ markedBases := by
  have table : ∀ entry ∈ markedBases, markedBase? entry.1 = some entry.2 := by decide
  constructor
  · unfold markedBase?
    intro h
    split at h
    · next hx =>
      obtain rfl := Option.some.inj h
      rcases eq_of_toLower_eq 'X' hx rfl with rfl | rfl <;> decide
    · next ho =>
      obtain rfl := Option.some.inj h
      rcases eq_of_toLower_eq 'O' ho rfl with rfl | rfl <;> decide
    · next hb =>
      obtain rfl := Option.some.inj h
      rcases eq_of_toLower_eq 'B' hb rfl with rfl | rfl <;> decide
    · simp at h
  · exact table (c, base)

private theorem markedBases_spec : ∀ entry ∈ markedBases, entry.2 ≤ 16 ∧ entry.2 ≠ 10 ∧
    (∃ d, Numeral.digit? entry.1 = some d) ∧ ∀ d < 10, Numeral.digit? entry.1 ≠ some d := by
  have key : ∀ entry ∈ markedBases, entry.2 ≤ 16 ∧ entry.2 ≠ 10 ∧
      (Numeral.digit? entry.1).isSome ∧ ∀ d < 10, Numeral.digit? entry.1 ≠ some d := by decide
  simpa only [Option.isSome_iff_exists] using key

private theorem splitBase_gap {letter : Char} {base : Nat} (h : (letter, base) ∈ markedBases)
    (text : List Char) : splitBase ('0' :: letter :: '_' :: text) = (base, text) := by
  simp only [splitBase, markedBase?_eq_some_iff.mpr h]

private theorem splitBase_marked {letter : Char} {base : Nat} (h : (letter, base) ∈ markedBases)
    {text : List Char} (htext : ∀ more, text ≠ '_' :: more) :
    splitBase ('0' :: letter :: text) = (base, text) := by
  unfold splitBase
  simp only [markedBase?_eq_some_iff.mpr h]

private theorem splitBase_unmarked {text : List Char}
    (h : ∀ letter base more, text = '0' :: letter :: more → (letter, base) ∉ markedBases) :
    splitBase text = (10, text) := by
  unfold splitBase
  split
  · next letter more =>
    split
    · next base hb => exact absurd (markedBase?_eq_some_iff.mp hb) (h letter base more rfl)
    · rfl
  · rfl

/-! ## Magnitudes -/

private theorem magnitude?_eq_some_iff {base : Nat} {digits : List Char} {n : Nat} :
    magnitude? base digits = some n ↔
      ¬(base = 10 ∧ hasLeadingZero digits = true) ∧ Numeral.read? base digits = some n ∧
        n < 2 ^ 127 := by
  unfold magnitude?
  split
  · next h => simp [h]
  · next h =>
    rw [Option.filter_eq_some_iff, decide_eq_true_eq]
    simp only [h, not_false_iff, true_and]
    rfl

private theorem not_hasLeadingZero_iff {digits : List Char} :
    ¬hasLeadingZero digits = true ↔ digits.head? ≠ some '0' ∨ ∀ c ∈ digits, c = '0' := by
  unfold hasLeadingZero
  split
  · next rest => simp
  · next h =>
    cases digits with
    | nil => simp
    | cons c rest =>
      have hc : c ≠ '0' := by
        rintro rfl
        exact h rest rfl
      simp [hc]

/-- The magnitude behind a sign, if it is in range: base and groups, then the digits. -/
def unsigned? (text : List Char) : Option Nat :=
  (ungroup? (splitBase text).2).bind (magnitude? (splitBase text).1)

private theorem unsigned?_eq_some_iff {text : List Char} {n : Nat} :
    unsigned? text = some n ↔ Unsigned text n ∧ n < 2 ^ 127 := by
  simp only [unsigned?, Option.bind_eq_some_iff, ungroup?_eq_some_iff, magnitude?_eq_some_iff]
  constructor
  · rintro ⟨digits, hgroups, hzero, hread, hlt⟩
    refine ⟨?_, hlt⟩
    by_cases hmark : ∃ letter base more, text = '0' :: letter :: more ∧
        (letter, base) ∈ markedBases
    · obtain ⟨letter, base, more, rfl, hm⟩ := hmark
      obtain ⟨hb, -⟩ := markedBases_spec _ hm
      by_cases hgap : ∃ rest, more = '_' :: rest
      · obtain ⟨rest, rfl⟩ := hgap
        rw [splitBase_gap hm] at hgroups hread
        exact .markedGap hm hgroups ((Numeral.read?_eq_some_iff_writes hb).mp hread)
      · rw [splitBase_marked hm (not_exists.mp hgap)] at hgroups hread
        exact .marked hm hgroups ((Numeral.read?_eq_some_iff_writes hb).mp hread)
    · have hs : splitBase text = (10, text) := splitBase_unmarked fun letter base more ht hm ↦
        hmark ⟨letter, base, more, ht, hm⟩
      rw [hs] at hgroups hread hzero
      have hten : 10 ≤ 16 := by decide
      exact .decimal hgroups ((Numeral.read?_eq_some_iff_writes hten).mp hread)
        (not_hasLeadingZero_iff.mp fun h ↦ hzero ⟨rfl, h⟩)
  · rintro ⟨h, hlt⟩
    cases h with
    | marked hm hgroups hvalue =>
      obtain ⟨hb, hten, -⟩ := markedBases_spec _ hm
      obtain ⟨c, more, rest, rfl, -, hc⟩ := hgroups.exists_cons
      rw [splitBase_marked hm (by simpa using fun h ↦ absurd h hc)]
      have hread := (Numeral.read?_eq_some_iff_writes hb).mpr hvalue
      exact ⟨_, hgroups, fun h ↦ hten h.1, hread, hlt⟩
    | markedGap hm hgroups hvalue =>
      obtain ⟨hb, hten, -⟩ := markedBases_spec _ hm
      rw [splitBase_gap hm]
      have hread := (Numeral.read?_eq_some_iff_writes hb).mpr hvalue
      exact ⟨_, hgroups, fun h ↦ hten h.1, hread, hlt⟩
    | decimal hgroups hvalue hzeros =>
      have hread := (Numeral.read?_eq_some_iff_writes (by decide)).mpr hvalue
      -- The second character is a decimal digit or an underscore, so it is no letter of a mark.
      have hs : splitBase text = (10, text) := by
        refine splitBase_unmarked ?_
        rintro letter base more rfl hm
        obtain ⟨-, -, ⟨e, he⟩, hletter⟩ := markedBases_spec _ hm
        rcases hgroups.mem (c := letter) (by simp) with rfl | hmem
        · have hnone : Numeral.digit? '_' = none := rfl
          simp [hnone] at he
        · obtain ⟨d, hd, hlt⟩ := Numeral.digit?_of_mem_of_read? hread hmem
          exact hletter d hlt hd
      rw [hs]
      exact ⟨_, hgroups, fun h ↦ not_hasLeadingZero_iff.mpr hzeros h.2, hread, hlt⟩

/-! ## Signs -/

private theorem Unsigned.characters {text : List Char} {n : Nat} (h : Unsigned text n) :
    text ≠ [] ∧ ∀ c ∈ text, c = '_' ∨ ∃ d, Numeral.digit? c = some d := by
  have hdigits {base : Nat} (hb : base ≤ 16) {text digits : List Char} {n : Nat}
      (hgroups : Grouped text digits) (hvalue : Numeral.Writes base digits n) :
      ∀ c ∈ text, c = '_' ∨ ∃ d, Numeral.digit? c = some d := by
    intro c hc
    refine (hgroups.mem hc).imp_right fun hmem ↦ ?_
    have hread := (Numeral.read?_eq_some_iff_writes hb).mpr hvalue
    obtain ⟨d, hd, -⟩ := Numeral.digit?_of_mem_of_read? hread hmem
    exact ⟨d, hd⟩
  cases h with
  | marked hm hgroups hvalue =>
    obtain ⟨hb, -, hletter, -⟩ := markedBases_spec _ hm
    refine ⟨by simp, List.forall_mem_cons.mpr ⟨.inr ⟨0, rfl⟩, ?_⟩⟩
    exact List.forall_mem_cons.mpr ⟨.inr hletter, hdigits hb hgroups hvalue⟩
  | markedGap hm hgroups hvalue =>
    obtain ⟨hb, -, hletter, -⟩ := markedBases_spec _ hm
    refine ⟨by simp, List.forall_mem_cons.mpr ⟨.inr ⟨0, rfl⟩, ?_⟩⟩
    refine List.forall_mem_cons.mpr ⟨.inr hletter, ?_⟩
    exact List.forall_mem_cons.mpr ⟨.inl rfl, hdigits hb hgroups hvalue⟩
  | decimal hgroups hvalue _ =>
    obtain ⟨c, more, rest, rfl, -, -⟩ := hgroups.exists_cons
    exact ⟨by simp, hdigits (by decide) hgroups hvalue⟩

private theorem splitSign_unmarked {text : List Char} {n : Nat} (h : Unsigned text n) :
    splitSign text = (false, text) := by
  obtain ⟨-, hchars⟩ := h.characters
  have hsign (sign : Char) (hs : sign ≠ '_') (hnone : Numeral.digit? sign = none)
      (more : List Char) : text ≠ sign :: more := by
    rintro rfl
    rcases hchars sign (by simp) with he | ⟨d, hd⟩
    · exact hs he
    · simp [hnone] at hd
  unfold splitSign
  split
  · next more => exact absurd rfl (hsign '-' (by decide) rfl more)
  · next more => exact absurd rfl (hsign '+' (by decide) rfl more)
  · rfl

/-- The integer of a literal without white space, if it is in range: its magnitude with its sign. -/
def signed? (text : List Char) : Option Int :=
  (unsigned? (splitSign text).2).map fun n : Nat ↦
    (if (splitSign text).1 then -(n : Int) else (n : Int) : Int)

private theorem signed?_eq_some_iff {text : List Char} {v : Int} :
    signed? text = some v ↔ Signed text v ∧ v.natAbs < 2 ^ 127 := by
  simp only [signed?, Option.map_eq_some_iff, unsigned?_eq_some_iff]
  constructor
  · rintro ⟨n, ⟨h, hlt⟩, rfl⟩
    unfold splitSign at h ⊢
    split at h
    · exact ⟨.minus h, by simpa using hlt⟩
    · exact ⟨.plus h, by simpa using hlt⟩
    · exact ⟨.unmarked h, by simpa using hlt⟩
  · rintro ⟨h, hlt⟩
    cases h with
    | unmarked h =>
      rw [splitSign_unmarked h]
      exact ⟨_, ⟨h, by simpa using hlt⟩, rfl⟩
    | plus h => exact ⟨_, ⟨h, by simpa using hlt⟩, rfl⟩
    | minus h => exact ⟨_, ⟨h, by simpa using hlt⟩, rfl⟩

/-! ## Literals -/

private theorem isBlank_eq_false {c : Char} {d : Nat} (h : Numeral.digit? c = some d) :
    Text.isBlank c = false := by
  have hc := Numeral.toNat_of_digit? h
  have outside : ∀ r ∈ Text.blanks, r.2 ≤ 32 ∨ 133 ≤ r.1 := by decide
  refine Bool.eq_false_iff.mpr fun hblank ↦ ?_
  obtain ⟨r, hr, hlow, hhigh⟩ := CodeRanges.has_iff.mp hblank
  have := outside r hr
  omega

private theorem Signed.characters {text : List Char} {v : Int} (h : Signed text v) :
    text ≠ [] ∧ ∀ c ∈ text, Text.isBlank c = false := by
  have hunsigned {text : List Char} {n : Nat} (h : Unsigned text n) :
      ∀ c ∈ text, Text.isBlank c = false := by
    intro c hc
    rcases h.characters.2 c hc with rfl | ⟨d, hd⟩
    · decide
    · exact isBlank_eq_false hd
  cases h with
  | unmarked h => exact ⟨h.characters.1, hunsigned h⟩
  | plus h => exact ⟨by simp, List.forall_mem_cons.mpr ⟨by decide, hunsigned h⟩⟩
  | minus h => exact ⟨by simp, List.forall_mem_cons.mpr ⟨by decide, hunsigned h⟩⟩

private theorem value?_eq (text : List Char) : value? text = signed? (Text.trim text) := by
  simp only [value?, signed?, unsigned?, Option.bind_eq_bind, Option.pure_def,
    Option.map_eq_bind, Option.bind_assoc]
  rfl

/-- A text has the value that it spells, if the magnitude is in range. -/
theorem value?_eq_some_iff {text : List Char} {v : Int} :
    value? text = some v ↔ Spells text v ∧ v.natAbs < 2 ^ 127 := by
  rw [value?_eq, signed?_eq_some_iff]
  refine and_congr_left fun _ ↦ ?_
  constructor
  · intro h
    obtain ⟨front, back, htext, hfront, hback⟩ := Text.exists_trim text
    exact ⟨front, _, back, htext, h, hfront, hback⟩
  · rintro ⟨front, literal, back, rfl, h, hfront, hback⟩
    rw [Text.trim_append h.characters.1 h.characters.2 hfront hback]
    exact h

/-- Reading gives the value of a text that has one. -/
theorem read_eq_ok_iff {text : String} {v : Int} :
    read text = .ok v ↔ value? text.toList = some v := by
  unfold read
  cases value? text.toList with
  | none => simp
  | some w => simp

/-- Reading gives an integer exactly if the text spells it and its magnitude is in range. Every
other text is refused, and the message quotes it as it was given. -/
theorem read_exact (text : String) :
    (∀ v, read text = .ok v ↔ Spells text.toList v ∧ v.natAbs ≤ 2 ^ 127 - 1) ∧
    ((¬∃ v, Spells text.toList v ∧ v.natAbs ≤ 2 ^ 127 - 1) →
      read text = .error ⟨text⟩ ∧
        (PatchError.literal ⟨text⟩).message? =
          some ("config error: invalid integer literal: " ++ Text.quoted text)) := by
  have hvalue (v : Int) : value? text.toList = some v ↔
      Spells text.toList v ∧ v.natAbs ≤ 2 ^ 127 - 1 := by
    rw [value?_eq_some_iff]
    exact and_congr_right fun _ ↦ Nat.lt_iff_le_pred (Nat.two_pow_pos 127)
  have hmessage : (PatchError.literal ⟨text⟩).message? =
      some ("config error: invalid integer literal: " ++ Text.quoted text) := by
    change some ("config error: " ++ ("invalid integer literal: " ++ Text.quoted text)) = _
    rw [← String.append_assoc]
    rfl
  simp only [← hvalue, hmessage, and_true]
  unfold read
  cases value? text.toList with
  | none => simp
  | some v => simp

example : read "\u2003-0X_fF_1\n" = .ok (-0xff1) := by decide

end IntLiteral

end FlashPatch
