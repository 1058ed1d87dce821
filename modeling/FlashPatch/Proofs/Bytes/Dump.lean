import FlashPatch.Bytes.Dump
import FlashPatch.Proofs.Bytes.Text

/-!
# Reading dumps

A dump is read back line by line: a line says its offset and its bytes, and the lines say all bytes
in order. So a dump is empty only for no bytes, and no two byte sequences have one dump, however far
the offsets go.
-/

namespace FlashPatch.Dump

/-! ## Offsets -/

/-- Whether the characters write an offset in lower-case hexadecimal digits: at least four, and more
only if the first is no zero. -/
structure IsOffset (offset : Nat) (text : List Char) : Prop where
  /-- The digits are in lower case. -/
  lower : ∀ c ∈ text, c ∈ Numeral.lowerDigits
  /-- They write the offset. -/
  writes : Numeral.Writes 16 text offset
  /-- Zeros fill up four digits and no more. -/
  padded : text.length = 4 ∨ 4 < text.length ∧ text.head? ≠ some '0'

/-- The offset in front of a line is written so. -/
theorem isOffset_write (offset : Nat) : IsOffset offset (Numeral.write 16 4 offset) := by
  have hlen := Numeral.length_write 16 4 offset
  refine ⟨?lower, Numeral.writes_write (by decide) (by decide) 4 offset, ?padded⟩
  case lower =>
    intro c hc
    rw [Numeral.write, List.leftpad] at hc
    rcases List.mem_append.mp hc with hzero | hdigit
    · rw [List.eq_of_mem_replicate hzero]
      decide
    · exact Numeral.mem_lowerDigits_of_mem_toDigits c hdigit
  case padded =>
    by_cases h : (Nat.toDigits 16 offset).length ≤ 4
    · exact .inl (by omega)
    · have hpos : 0 < offset := by
        apply Nat.pos_of_ne_zero
        rintro rfl
        exact h (by decide)
      have hunpadded : Numeral.write 16 4 offset = Nat.toDigits 16 offset := by
        have hnone : 4 - (Nat.toDigits 16 offset).length = 0 := by omega
        rw [Numeral.write, List.leftpad, hnone, List.replicate_zero, List.nil_append]
      rw [hunpadded]
      exact .inr ⟨by omega, Numeral.head?_toDigits (by decide) (by decide) hpos⟩

/-! ## Lines -/

/-- The offset and the bytes that a line states. -/
def readLine? (text : List Char) : Option (Nat × List UInt8) :=
  match text.splitOn ':' with
  | [offset, ' ' :: body] => do
    let offset ← Numeral.read? 16 offset
    let bytes ← (body.splitOn ' ').mapM Hex.readByte?
    return (offset, bytes)
  | _ => none

private theorem mem_intercalate {sep c : Char} {parts : List (List Char)}
    (h : c ∈ [sep].intercalate parts) : c = sep ∨ ∃ part ∈ parts, c ∈ part := by
  induction parts with
  | nil => simp at h
  | cons part parts ih =>
    cases parts with
    | nil => exact .inr ⟨part, by simp, by simpa using h⟩
    | cons next parts =>
      rw [List.intercalate_cons_cons, List.mem_append, List.mem_append, List.mem_singleton] at h
      rcases h with (hpart | hsep) | hrest
      · exact .inr ⟨part, by simp, hpart⟩
      · exact .inl hsep
      · refine (ih hrest).imp_right ?_
        rintro ⟨other, hother, hc⟩
        exact ⟨other, List.mem_cons_of_mem _ hother, hc⟩

private theorem mem_body {bytes : List UInt8} {c : Char}
    (h : c ∈ [' '].intercalate (bytes.map Hex.byte)) : c = ' ' ∨ c ∈ Numeral.lowerDigits := by
  refine (mem_intercalate h).imp_right ?_
  rintro ⟨part, hpart, hc⟩
  obtain ⟨b, -, rfl⟩ := List.mem_map.mp hpart
  exact Hex.mem_lowerDigits_of_mem_byte hc

private theorem mapM_readByte? (bytes : List UInt8) :
    (bytes.map Hex.byte).mapM Hex.readByte? = some bytes := by
  induction bytes with
  | nil => rfl
  | cons b bytes ih =>
    rw [List.map_cons, List.mapM_cons, Hex.readByte?_byte, ih]
    rfl

/-- A line is read back, with its offset. -/
theorem readLine?_line (offset : Nat) {bytes : List UInt8} (h : bytes ≠ []) :
    readLine? (line offset bytes) = some (offset, bytes) := by
  have hoffset : ':' ∉ Numeral.write 16 4 offset := by
    intro hc
    exact absurd ((isOffset_write offset).lower _ hc) (by decide)
  have hbody : ':' ∉ ' ' :: [' '].intercalate (bytes.map Hex.byte) := by
    intro hc
    rcases List.mem_cons.mp hc with hblank | hc
    · exact absurd hblank (by decide)
    · exact absurd (mem_body hc) (by decide)
  have hblank : ∀ part ∈ bytes.map Hex.byte, ' ' ∉ part := by
    intro part hpart hc
    obtain ⟨b, -, rfl⟩ := List.mem_map.mp hpart
    exact absurd (Hex.mem_lowerDigits_of_mem_byte hc) (by decide)
  have hsplit : (line offset bytes).splitOn ':' =
      [Numeral.write 16 4 offset, ' ' :: [' '].intercalate (bytes.map Hex.byte)] := by
    have hline : line offset bytes =
        Numeral.write 16 4 offset ++ ':' :: ' ' :: [' '].intercalate (bytes.map Hex.byte) := by
      rw [line, List.append_assoc]
      rfl
    rw [hline, List.splitOn_append_cons_self_of_not_mem hoffset, List.splitOn_eq_singleton hbody]
  unfold readLine?
  rw [hsplit]
  simp only [Numeral.read?_write (by decide : 1 < 16) (by decide : 16 ≤ 16),
    List.splitOn_intercalate ' ' hblank (by simpa using h), mapM_readByte?]
  rfl

/-- There is no end of a line inside a line. -/
theorem newline_notMem_line (offset : Nat) (bytes : List UInt8) : '\n' ∉ line offset bytes := by
  intro h
  rw [line, List.mem_append, List.mem_append] at h
  rcases h with (hoffset | hcolon) | hbody
  · exact absurd ((isOffset_write offset).lower _ hoffset) (by decide)
  · exact absurd hcolon (by decide)
  · exact absurd (mem_body hbody) (by decide)

/-! ## Dumps -/

/-- The bytes of lines that are to start at an offset. Each line has to state the offset at which it
stands. -/
def readLines? (offset : Nat) : List (List Char) → Option (List UInt8)
  | [] => some []
  | text :: rest => do
    let (start, bytes) ← readLine? text
    if start = offset then return bytes ++ (← readLines? (offset + bytes.length) rest) else none

/-- The bytes of a dump. -/
def read? (text : String) : Option (List UInt8) :=
  if text = "" then some [] else readLines? 0 (text.toList.splitOn '\n')

private theorem lines_of_ne_nil (offset : Nat) {bytes : List UInt8} (h : bytes ≠ []) :
    lines offset bytes =
      line offset (bytes.take 16) :: lines (offset + 16) (bytes.drop 16) := by
  rw [lines, if_neg (by simpa using h)]
  rfl

/-- There is one line for every sixteen bytes, and one for the rest. -/
theorem lines_eq_map_range (offset : Nat) (bytes : List UInt8) :
    lines offset bytes = (List.range ((bytes.length + 15) / 16)).map fun i ↦
      line (offset + 16 * i) ((bytes.drop (16 * i)).take 16) := by
  induction offset, bytes using lines.induct with
  | case1 offset bytes h =>
    obtain rfl : bytes = [] := by simpa using h
    rw [lines_nil]
    rfl
  | case2 offset bytes h ih =>
    have hne : bytes ≠ [] := by simpa using h
    have hpos : 0 < bytes.length := List.length_pos_iff.mpr hne
    have hcount : (bytes.length + 15) / 16 = (bytes.length - 16 + 15) / 16 + 1 := by omega
    rw [lineLength, List.length_drop] at ih
    rw [lines_of_ne_nil offset hne, ih, hcount, List.range_succ_eq_map, List.map_cons,
      List.map_map]
    congr 1
    apply List.map_congr_left
    intro i _
    rw [Function.comp_apply, List.drop_drop, Nat.add_assoc, Nat.mul_succ, Nat.add_comm 16]

/-- Lines are read back from their offset on. -/
theorem readLines?_lines (offset : Nat) (bytes : List UInt8) :
    readLines? offset (lines offset bytes) = some bytes := by
  induction offset, bytes using lines.induct with
  | case1 offset bytes h =>
    obtain rfl : bytes = [] := by simpa using h
    rw [lines_nil]
    rfl
  | case2 offset bytes h ih =>
    have hne : bytes ≠ [] := by simpa using h
    have htake : bytes.take 16 ≠ [] := by simpa using hne
    -- The last line may be short, but then there is no line behind it.
    have hrest : readLines? (offset + (bytes.take 16).length)
        (lines (offset + 16) (bytes.drop 16)) = some (bytes.drop 16) := by
      by_cases hfull : 16 ≤ bytes.length
      · rw [List.length_take_of_le hfull]
        exact ih
      · rw [List.drop_of_length_le (by omega), lines_nil]
        rfl
    rw [lines_of_ne_nil offset hne, readLines?, readLine?_line offset htake]
    simp only [Option.bind_eq_bind, Option.bind_some, if_true, hrest, Option.pure_def,
      List.take_append_drop]

/-- A dump that is split at the ends of its lines falls into them. -/
theorem splitOn_text {bytes : List UInt8} (h : bytes ≠ []) :
    (text bytes).toList.splitOn '\n' = lines 0 bytes := by
  rw [text, String.toList_ofList]
  apply List.splitOn_intercalate
  · intro text htext
    rw [lines_eq_map_range] at htext
    obtain ⟨i, -, rfl⟩ := List.mem_map.mp htext
    exact newline_notMem_line _ _
  · rw [lines_of_ne_nil 0 h]
    exact List.cons_ne_nil _ _

/-- Only no bytes have an empty dump. -/
theorem text_eq_empty_iff {bytes : List UInt8} : text bytes = "" ↔ bytes = [] := by
  constructor
  · intro h
    by_contra hne
    have hsplit := splitOn_text hne
    rw [h, lines_of_ne_nil 0 hne] at hsplit
    have hempty : [] = line 0 (bytes.take 16) := (List.cons.inj hsplit).1
    have hlen := congrArg List.length hempty
    simp [line] at hlen
  · rintro rfl
    rw [text, lines_nil]
    rfl

/-- A dump is read back. -/
theorem read?_text (bytes : List UInt8) : read? (text bytes) = some bytes := by
  unfold read?
  by_cases h : bytes = []
  · rw [if_pos (text_eq_empty_iff.mpr h), h]
  · rw [if_neg (mt text_eq_empty_iff.mp h), splitOn_text h]
    exact readLines?_lines 0 bytes

private theorem take_drop_eq_extract (bytes : List UInt8) (start : Nat) :
    (bytes.drop start).take 16 = bytes.extract start (min (start + 16) bytes.length) := by
  rw [List.extract_eq_take_drop, List.take_eq_take_iff, List.length_drop]
  omega

/-- A dump is empty only for no bytes. Any other dump falls, at the ends of lines, into one line for
every sixteen bytes and one for the rest. A line has the offset of its first byte, a colon and a
blank, and two lower-case digits for each of its bytes, with one blank between two of them. All
bytes are read back from the dump, so no two byte sequences have the same. -/
theorem dump_exact :
    (∀ bytes : List UInt8, text bytes = "" ↔ bytes = []) ∧
    (∀ bytes : List UInt8, bytes ≠ [] →
      let shown := (text bytes).toList.splitOn '\n'
      shown.length = (bytes.length + 15) / 16 ∧
      ∀ i < shown.length, ∃ offset, IsOffset (16 * i) offset ∧
        shown[i]? = some (offset ++ [':', ' '] ++ [' '].intercalate
          ((bytes.extract (16 * i) (min (16 * i + 16) bytes.length)).map fun b ↦
            [Nat.digitChar (b.toNat / 16), Nat.digitChar (b.toNat % 16)]))) ∧
    (∀ bytes : List UInt8, read? (text bytes) = some bytes) ∧
    Function.Injective text := by
  refine ⟨fun bytes ↦ text_eq_empty_iff, ?lines, read?_text, ?injective⟩
  case lines =>
    intro bytes h shown
    have hshown : shown = _ := (splitOn_text h).trans (lines_eq_map_range 0 bytes)
    have hlength : shown.length = (bytes.length + 15) / 16 := by
      rw [hshown, List.length_map, List.length_range]
    refine ⟨hlength, fun i hi ↦ ⟨_, isOffset_write (16 * i), ?_⟩⟩
    have hrange : (List.range ((bytes.length + 15) / 16))[i]? = some i :=
      List.getElem?_range (hlength ▸ hi)
    have hdigits : Hex.byte = fun b ↦
        [Nat.digitChar (b.toNat / 16), Nat.digitChar (b.toNat % 16)] := funext Hex.byte_eq
    rw [hshown, List.getElem?_map, hrange, Option.map_some, Nat.zero_add, line, hdigits,
      take_drop_eq_extract]
  case injective =>
    intro left right h
    have hread := read?_text left
    rw [h, read?_text] at hread
    exact (Option.some.inj hread).symm

/-- Behind 65536 bytes the offsets have five digits. -/
theorem dump_exact_wide_offset :
    let bytes : List UInt8 := List.replicate 65536 0 ++ [0xab]
    let shown := (text bytes).toList.splitOn '\n'
    bytes ≠ [] ∧ shown.length = 4097 ∧
      ∃ offset, IsOffset 65536 offset ∧ shown[4096]? = some (offset ++ ": ab".toList) := by
  intro bytes shown
  have hne : bytes ≠ [] := List.append_ne_nil_of_right_ne_nil _ (by decide)
  have hlen : bytes.length = 65537 := by
    rw [List.length_append, List.length_replicate, List.length_singleton]
  obtain ⟨hcount, hlines⟩ := dump_exact.2.1 bytes hne
  have hshown : shown.length = 4097 := by
    rw [hcount, hlen]
  obtain ⟨offset, hoffset, hline⟩ := hlines 4096 (by omega)
  have hlast : bytes.extract (16 * 4096) (min (16 * 4096 + 16) bytes.length) = [0xab] := by
    have hdrop : bytes.drop 65536 = [0xab] := List.drop_left' List.length_replicate
    rw [hlen, List.extract_eq_take_drop, hdrop]
    rfl
  rw [hlast] at hline
  refine ⟨hne, hshown, offset, hoffset, hline.trans ?_⟩
  rw [List.append_assoc]
  rfl

end FlashPatch.Dump
