import FlashPatch.Header.Format
import FlashPatch.Proofs.Bytes.Text

/-!
# What an excerpt tells

An excerpt leaves out only what lies past the shown bytes, and says how much that is: two byte
sequences have one excerpt exactly if they have one length and begin alike. Its first character says
in which form the bytes are shown, its last one whether something was left out.
-/

namespace FlashPatch

namespace Excerpt

/-! ## Shown bytes -/

variable {bytes : List UInt8}

private theorem toList_shown_of_printable (h : bytes.all isPrintable = true) :
    (shown bytes).toList =
      ['b', '"'] ++ bytes.map (fun b ↦ Char.ofNat b.toNat) ++ ['"'] := by
  simp [shown, h]

private theorem toList_shown_of_not_printable (h : ¬bytes.all isPrintable = true) :
    (shown bytes).toList = ['0', 'x'] ++ bytes.flatMap Hex.byte := by
  simp [shown, h, Hex.text]

/-- The first character tells the form of shown bytes. -/
theorem head?_shown (bytes : List UInt8) :
    (shown bytes).toList.head? = some (if bytes.all isPrintable = true then 'b' else '0') := by
  by_cases h : bytes.all isPrintable = true
  · rw [toList_shown_of_printable h, if_pos h]
    rfl
  · rw [toList_shown_of_not_printable h, if_neg h]
    rfl

/-- Shown bytes end in a quote or a digit. -/
theorem getLast?_shown_ne (bytes : List UInt8) : (shown bytes).toList.getLast? ≠ some ')' := by
  by_cases h : bytes.all isPrintable = true
  · rw [toList_shown_of_printable h, List.getLast?_concat]
    decide
  · rw [toList_shown_of_not_printable h]
    intro hlast
    rcases List.mem_append.mp (List.mem_of_getLast? hlast) with hmark | hdigit
    · exact absurd hmark (by decide)
    · obtain ⟨b, -, hb⟩ := List.mem_flatMap.mp hdigit
      exact absurd (Hex.mem_lowerDigits_of_mem_byte hb) (by decide)

/-- Quotes take three characters, a mark two. -/
theorem length_shown (bytes : List UInt8) :
    (shown bytes).toList.length =
      if bytes.all isPrintable = true then bytes.length + 3 else bytes.length * 2 + 2 := by
  by_cases h : bytes.all isPrintable = true
  · rw [toList_shown_of_printable h, if_pos h]
    simp
  · rw [toList_shown_of_not_printable h, if_neg h]
    simp

private theorem all_isPrintable_eq {left right : List UInt8}
    (h : (shown left).toList.head? = (shown right).toList.head?) :
    left.all isPrintable = right.all isPrintable := by
  rw [head?_shown, head?_shown] at h
  cases hl : left.all isPrintable
  · cases hr : right.all isPrintable
    · rfl
    · simp [hl, hr] at h
  · cases hr : right.all isPrintable
    · simp [hl, hr] at h
    · rfl

/-- Shown bytes are told apart. -/
theorem shown_inj {left right : List UInt8} : shown left = shown right ↔ left = right := by
  refine ⟨fun h ↦ ?_, congrArg shown⟩
  have hform : left.all isPrintable = right.all isPrintable := all_isPrintable_eq (by rw [h])
  by_cases hp : left.all isPrintable = true
  · have hchars : left.map (fun b ↦ Char.ofNat b.toNat) =
        right.map fun b ↦ Char.ofNat b.toNat := by
      have hq := congrArg String.toList h
      rw [toList_shown_of_printable hp, toList_shown_of_printable (hform ▸ hp)] at hq
      exact List.append_cancel_left (List.append_cancel_right hq)
    have hbytes := congrArg (List.map Char.toUInt8) hchars
    simpa [Function.comp_def, Text.toUInt8_ofNat_toNat] using hbytes
  · have hx := congrArg String.toList h
    rw [toList_shown_of_not_printable hp, toList_shown_of_not_printable (hform ▸ hp)] at hx
    exact Hex.flatMap_byte_inj.mp (List.append_cancel_left hx)

/-- Bytes of one number are told apart whatever stands behind them. -/
theorem shown_append_inj {left right : List UInt8} (hlen : left.length = right.length)
    {rest other : String} (h : shown left ++ rest = shown right ++ other) :
    left = right ∧ rest = other := by
  have hchars := congrArg String.toList h
  rw [String.toList_append, String.toList_append] at hchars
  have hform : left.all isPrintable = right.all isPrintable := by
    apply all_isPrintable_eq
    have hhead := congrArg List.head? hchars
    rw [List.head?_append, List.head?_append, head?_shown, head?_shown] at hhead
    rw [head?_shown, head?_shown]
    exact hhead
  have hlength : (shown left).toList.length = (shown right).toList.length := by
    rw [length_shown, length_shown, hform, hlen]
  obtain ⟨hshown, hrest⟩ := List.append_inj hchars hlength
  exact ⟨shown_inj.mp (String.toList_inj.mp hshown), String.toList_inj.mp hrest⟩

/-! ## Elided bytes -/

/-- What stands for so many bytes that are left out. -/
def elision (count : Nat) : String := "... (+" ++ toString count ++ " bytes)"

/-- The number of elided bytes can be read off. -/
theorem elision_inj {count other : Nat} : elision count = elision other ↔ count = other := by
  refine ⟨fun h ↦ ?_, congrArg elision⟩
  have hrepr : count.repr = other.repr := by simpa [elision] using h
  have hdigits : Nat.toDigits 10 count = Nat.toDigits 10 other := by
    simpa using congrArg String.toList hrepr
  rw [← Numeral.write_zero, ← Numeral.write_zero] at hdigits
  exact (Numeral.write_inj (by decide) (by decide)).mp hdigits

/-- Bytes that are not too many are all shown. -/
theorem text_of_le (h : bytes.length ≤ shownLimit) : text bytes = shown bytes := by
  simp [text, h, List.take_of_length_le h]

/-- Bytes past the limit are counted. -/
theorem text_of_lt (h : shownLimit < bytes.length) :
    text bytes = shown (bytes.take shownLimit) ++ elision (bytes.length - shownLimit) := by
  have hrest : ¬bytes.length ≤ shownLimit := Nat.not_le.mpr h
  simp [text, hrest, elision]

/-- The first character tells the form. -/
theorem head?_text (bytes : List UInt8) :
    (text bytes).toList.head? =
      some (if (bytes.take shownLimit).all isPrintable = true then 'b' else '0') := by
  rw [text, String.toList_append, List.head?_append, head?_shown]
  rfl

/-- The last character tells whether bytes are left out. -/
theorem getLast?_text (bytes : List UInt8) :
    (text bytes).toList.getLast? = some ')' ↔ shownLimit < bytes.length := by
  by_cases h : bytes.length ≤ shownLimit
  · rw [text_of_le h]
    exact iff_of_false (getLast?_shown_ne bytes) (Nat.not_lt.mpr h)
  · have hlt : shownLimit < bytes.length := Nat.lt_of_not_le h
    rw [text_of_lt hlt]
    refine iff_of_true ?_ hlt
    rw [String.toList_append, elision, String.toList_append, ← List.append_assoc,
      List.getLast?_append_of_ne_nil _ (by decide)]
    rfl

/-- Two excerpts are the same exactly if the bytes are as many and begin alike. -/
theorem text_eq_text_iff {left right : List UInt8} :
    text left = text right ↔
      left.length = right.length ∧ left.take shownLimit = right.take shownLimit := by
  constructor
  · intro h
    have hlast : shownLimit < left.length ↔ shownLimit < right.length := by
      rw [← getLast?_text, ← getLast?_text, h]
    by_cases hl : left.length ≤ shownLimit
    · have hr : right.length ≤ shownLimit := by omega
      rw [text_of_le hl, text_of_le hr, shown_inj] at h
      rw [h]
      exact ⟨rfl, rfl⟩
    · have hl : shownLimit < left.length := Nat.lt_of_not_le hl
      have hr : shownLimit < right.length := hlast.mp hl
      rw [text_of_lt hl, text_of_lt hr] at h
      have hshown : (left.take shownLimit).length = (right.take shownLimit).length := by
        rw [List.length_take_of_le (Nat.le_of_lt hl), List.length_take_of_le (Nat.le_of_lt hr)]
      obtain ⟨hfirst, hcount⟩ := shown_append_inj hshown h
      have hrest := elision_inj.mp hcount
      exact ⟨by omega, hfirst⟩
  · rintro ⟨hlen, hfirst⟩
    simp only [text, hfirst]
    simp [hlen]

/-! ## Excerpts in messages -/

private theorem magic_append_inj {format other : Format} {rest rest' : String}
    (h : text format.magic ++ rest = text other.magic ++ rest') :
    format = other ∧ rest = rest' := by
  have hhex : text Format.hexText.magic = "b\"NEWPATCH\"" := by decide
  have hbinary : text Format.binary.magic = "b\"NEWP\"" := by decide
  -- Behind the four characters that the magics share there is a letter in one and a quote in the
  -- other.
  have hapart (front back : String) : "b\"NEWPATCH\"" ++ front ≠ "b\"NEWP\"" ++ back := by
    intro hboth
    have hchar := congrArg (fun line ↦ line.toList[6]?) hboth
    simp at hchar
  cases format with
  | hexText =>
    cases other with
    | hexText => exact ⟨rfl, (String.append_right_inj _).mp h⟩
    | binary => exact absurd (hhex ▸ hbinary ▸ h) (hapart rest rest')
  | binary =>
    cases other with
    | hexText => exact absurd (hhex ▸ hbinary ▸ h.symm) (hapart rest' rest)
    | binary => exact ⟨rfl, (String.append_right_inj _).mp h⟩

/-- Excerpts are the same exactly if the bytes are as many and begin with the same sixteen. The first
character says whether the bytes are quoted or hexadecimal, the last one whether any are left out,
so neither form is ever taken for the other, and the errors about a size field and about a magic say
as much about their bytes as the excerpts do. -/
theorem excerpt_exact :
    (∀ left right : List UInt8, text left = text right ↔
      left.length = right.length ∧ left.take 16 = right.take 16) ∧
    (∀ bytes : List UInt8,
      ((text bytes).toList.head? = some 'b' ↔
        ∀ b ∈ bytes.take 16, 0x20 ≤ b ∧ b ≤ 0x7e) ∧
      ((text bytes).toList.head? = some '0' ↔
        ¬∀ b ∈ bytes.take 16, 0x20 ≤ b ∧ b ≤ 0x7e) ∧
      ((text bytes).toList.getLast? = some ')' ↔ 16 < bytes.length)) ∧
    (∀ left right : List UInt8,
      (HeaderError.badSizeField left).message = (HeaderError.badSizeField right).message ↔
        left.length = right.length ∧ left.take 16 = right.take 16) ∧
    ∀ (format other : Format) (left right : List UInt8),
      (HeaderError.wrongMagic left format.magic).message =
          (HeaderError.wrongMagic right other.magic).message ↔
        format = other ∧ left.length = right.length ∧ left.take 16 = right.take 16 := by
  refine ⟨fun left right ↦ text_eq_text_iff, ?forms, ?field, ?magic⟩
  case forms =>
    intro bytes
    have hall : (bytes.take shownLimit).all isPrintable = true ↔
        ∀ b ∈ bytes.take 16, 0x20 ≤ b ∧ b ≤ 0x7e := by
      simp [isPrintable, shownLimit]
    refine ⟨?_, ?_, getLast?_text bytes⟩
    · rw [head?_text, ← hall]
      simp
    · rw [head?_text, ← hall]
      simp
  case field =>
    intro left right
    rw [← shownLimit, ← text_eq_text_iff]
    exact String.append_right_inj _
  case magic =>
    intro format other left right
    rw [← shownLimit, ← text_eq_text_iff]
    have hmessage (found expected : List UInt8) : (HeaderError.wrongMagic found expected).message =
        "invalid magic: expected " ++ (text expected ++ (", got " ++ text found)) := by
      rw [← String.append_assoc, ← String.append_assoc]
      rfl
    rw [hmessage, hmessage, String.append_right_inj]
    constructor
    · intro h
      obtain ⟨hformat, hrest⟩ := magic_append_inj h
      exact ⟨hformat, (String.append_right_inj _).mp hrest⟩
    · rintro ⟨rfl, h⟩
      rw [h]

end Excerpt

end FlashPatch
