import FlashPatch.Proofs.Header.Digits

/-!
# Normal form of hexadecimal headers

Of all fields that are read as the same size the writer makes one: the mark and fourteen digits in
lower case. So a header that was read is written again as it was exactly if its field is of this
form. A field can also hold sizes that need more than fourteen digits, and these are never written.
-/

namespace FlashPatch

namespace SizeField

/-- The form in which the writer leaves a hexadecimal field. -/
def NormalForm (field : List UInt8) : Prop :=
  ∃ digits : List Char, digits.length = 14 ∧ (∀ c ∈ digits, c ∈ Numeral.lowerDigits) ∧
    field = ("0x".toList ++ digits).map Char.toUInt8

variable {field : List UInt8} {n : Nat}

/-- Among the fields that write a number of at most fourteen digits, one is in normal form. -/
theorem normalForm_iff (h : WritesHex field n) (hn : n < 16 ^ 14) :
    NormalForm field ↔ ("0x".toList ++ Numeral.write 16 14 n).map Char.toUInt8 = field := by
  constructor
  · rintro ⟨digits, hlen, hlow, hfield⟩
    have hne : digits ≠ [] := List.ne_nil_of_length_pos (by omega)
    obtain ⟨other, hother⟩ := Numeral.exists_writes hne hlow
    have hmarked : WritesHex field other := by
      refine ⟨['0', 'x'], digits, 0, ?_, .inr (.inl rfl), ?_⟩
      · rw [List.replicate_zero, List.append_nil]
        exact hfield
      · exact (Numeral.read?_eq_some_iff_writes (Nat.le_refl 16)).mpr hother
    -- The digits behind the mark are those of the number that the field writes.
    obtain rfl := h.unique hmarked
    rw [(Numeral.write_eq_iff (by decide) hn).mpr ⟨hlen, hlow, hother⟩, hfield]
  · intro hfield
    obtain ⟨hlen, hlow, -⟩ := (Numeral.write_eq_iff (by decide) hn).mp rfl
    exact ⟨_, hlen, hlow, hfield.symm⟩

/-! ## Sizes beyond fourteen digits -/

private theorem length_withoutMark_le (text : List Char) :
    (withoutMark text).length ≤ text.length := by
  unfold withoutMark
  split
  · exact Nat.le_add_right _ 2
  · exact Nat.le_add_right _ 2
  · exact Nat.le_refl _

private theorem prefix_withoutPadding (field : List UInt8) : withoutPadding field <+: field :=
  List.rdropWhile_prefix _ field

private theorem length_withoutMark_of_mark {mark : List Char}
    (hm : mark = ['0', 'x'] ∨ mark = ['0', 'X']) (hfield : mark.map Char.toUInt8 <+: field)
    (hlong : 2 ≤ (withoutPadding field).length) :
    (withoutMark ((withoutPadding field).map fun b ↦ Char.ofNat b.toNat)).length + 2 ≤
      field.length := by
  have htwo : (mark.map Char.toUInt8).length = 2 := by rcases hm with rfl | rfl <;> rfl
  have hshort := (prefix_withoutPadding field).length_le
  obtain ⟨rest, hrest⟩ :=
    List.prefix_of_prefix_length_le hfield (prefix_withoutPadding field) (by omega)
  have hbehind : (withoutMark ((withoutPadding field).map fun b ↦ Char.ofNat b.toNat)).length =
      rest.length := by
    rw [← hrest, List.map_append]
    rcases hm with rfl | rfl <;> exact List.length_map _
  rw [← hrest, List.length_append, htwo] at hshort
  omega

/-- A number of more than fourteen digits leaves room neither for a mark nor for two NUL bytes. -/
theorem bare_of_writesHex (h : WritesHex field n) (hl : field.length = 16) (hn : 16 ^ 14 ≤ n) :
    (¬"0x".toList.map Char.toUInt8 <+: field) ∧ (¬"0X".toList.map Char.toUInt8 <+: field) ∧
      (field.reverse.takeWhile (· == 0)).length ≤ 1 := by
  have hread := Numeral.lt_of_read? (read?_eq_some_iff_writesHex.mpr h)
  have hdigits := (Nat.pow_lt_pow_iff_right (by decide)).mp (Nat.lt_of_le_of_lt hn hread)
  have hkept : 14 < (withoutPadding field).length := by
    have hmark := length_withoutMark_le ((withoutPadding field).map fun b ↦ Char.ofNat b.toNat)
    rw [List.length_map] at hmark
    omega
  have noMark (mark : List Char) (hm : mark = ['0', 'x'] ∨ mark = ['0', 'X']) :
      ¬mark.map Char.toUInt8 <+: field := by
    intro hfield
    have := length_withoutMark_of_mark hm hfield (by omega)
    omega
  refine ⟨noMark _ (.inl rfl), noMark _ (.inr rfl), ?_⟩
  -- What is no padding is kept, and that is all but one byte at least.
  have hsplit := congrArg List.length
    (List.takeWhile_append_dropWhile (p := (· == 0)) (l := field.reverse))
  have hback : (field.reverse.dropWhile (· == 0)).length = (withoutPadding field).length :=
    List.length_reverse.symm
  rw [List.length_append, List.length_reverse] at hsplit
  omega

end SizeField

namespace Header

/-- A hexadecimal header that was read is written again, under any request, as long as fourteen
digits are enough for its size. What is written reads as the same header, and it is what was read
exactly if the field was in normal form. A larger size is refused, and it only comes from a field
that has no mark and not more than one NUL byte at its end. -/
theorem encode_of_decode_hexText {bytes : List UInt8} {requested request : Int64} {header : Header}
    (h : decode bytes .hexText requested = .ok header) (hr : 0 ≤ request.toInt)
    (capacity : UInt64) :
    let field := (bytes.take 24).drop 8
    let size := header.payloadSize.toNat
    let result := encode .hexText header.payloadSize request capacity
    (size < 2 ^ 56 →
      ∃ encoded, result = .ok encoded ∧
        (∀ (tail : List UInt8) (other : Int64), 0 ≤ other.toInt →
          decode (encoded.bytes ++ tail) .hexText other = .ok header) ∧
        (encoded.bytes = bytes.take 24 ↔ SizeField.NormalForm field)) ∧
    (2 ^ 56 ≤ size →
      result = .error (.oversizedPayload header.payloadSize 16) ∧
        (¬"0x".toList.map Char.toUInt8 <+: field) ∧ (¬"0X".toList.map Char.toUInt8 <+: field) ∧
        (field.reverse.takeWhile (· == 0)).length ≤ 1) := by
  intro field size result
  obtain ⟨hl, hformat, hlen, hm, hs⟩ := decode_eq_ok_iff.mp h
  have hsize : header.size = 24 := Format.headerLength_hexText hl
  rw [hsize] at hlen hs
  have hwrites : SizeField.WritesHex field size := SizeField.readHex?_eq_some_iff.mp hs
  have hresult : result = _ := encode_hexText_eq header.payloadSize request capacity
  rw [if_neg (Int.not_lt.mpr hr)] at hresult
  constructor
  · intro hlt
    have hlt' : size < 16 ^ 14 := hlt
    rw [if_neg (Nat.not_le.mpr hlt')] at hresult
    refine ⟨_, hresult, ?_, ?_⟩
    · intro tail other hother
      have hsame := (Format.headerLength_hexText_of_nonneg hother).trans
        (Format.headerLength_hexText_of_nonneg hr).symm
      rw [decode_of_encode tail hresult hsame, length_of_encode_hexText hresult, ← hsize, ← hformat]
    · have hread : bytes.take 24 = Format.hexText.magic ++ field := by
        have hhead : (bytes.take 24).take 8 = Format.hexText.magic := by
          rw [List.take_take]
          exact hm
        rw [← hhead, List.take_append_drop]
      have hwritten : ("NEWPATCH0x".toList ++ Numeral.write 16 14 size).map Char.toUInt8 =
          Format.hexText.magic ++ ("0x".toList ++ Numeral.write 16 14 size).map Char.toUInt8 := rfl
      rw [SizeField.normalForm_iff hwrites hlt', hread]
      show ("NEWPATCH0x".toList ++ Numeral.write 16 14 size).map Char.toUInt8 = _ ↔ _
      rw [hwritten, List.append_right_inj]
  · intro hge
    have hge' : 16 ^ 14 ≤ size := hge
    rw [if_pos hge'] at hresult
    refine ⟨hresult, SizeField.bare_of_writesHex hwrites ?_ hge'⟩
    rw [List.length_drop, List.length_take_of_le hlen]

/-- Two fields for the same size, of which the one in normal form is written again and the one in
capitals is not, and a field of sixteen digits. -/
theorem encode_of_decode_hexText_other_forms :
    let normal := "NEWPATCH0x000000000000ff".toList.map Char.toUInt8
    let capital := "NEWPATCH0X000000000000FF".toList.map Char.toUInt8
    let large := "NEWPATCHffffffffffffffff".toList.map Char.toUInt8
    0 ≤ (9 : Int64).toInt ∧
      (decode normal .hexText 0 = .ok ⟨.hexText, 24, 255⟩ ∧
        ∃ encoded, encode .hexText 255 9 0 = .ok encoded ∧ encoded.bytes = normal) ∧
      (decode capital .hexText 3 = .ok ⟨.hexText, 24, 255⟩ ∧
        ∃ encoded, encode .hexText 255 9 0 = .ok encoded ∧ encoded.bytes ≠ capital) ∧
      decode large .hexText 0 = .ok ⟨.hexText, 24, 0xffffffffffffffff⟩ ∧
        encode .hexText 0xffffffffffffffff 9 0 =
          .error (.oversizedPayload 0xffffffffffffffff 16) := by
  intro normal capital large
  have hr : 0 ≤ (9 : Int64).toInt := by decide
  have hnormal : decode normal .hexText 0 = .ok ⟨.hexText, 24, 255⟩ := by decide
  have hcapital : decode capital .hexText 3 = .ok ⟨.hexText, 24, 255⟩ := by decide
  have hlarge : decode large .hexText 0 = .ok ⟨.hexText, 24, 0xffffffffffffffff⟩ := by decide
  obtain ⟨encoded, he, -, hkept⟩ := (encode_of_decode_hexText hnormal hr 0).1 (by decide)
  obtain ⟨other, ho, -, hchanged⟩ := (encode_of_decode_hexText hcapital hr 0).1 (by decide)
  have hform : SizeField.NormalForm ((normal.take 24).drop 8) :=
    ⟨Numeral.write 16 14 255, rfl,
      Numeral.mem_lowerDigits_of_mem_write (by decide) (by decide), rfl⟩
  have hno : ¬SizeField.NormalForm ((capital.take 24).drop 8) := by
    rintro ⟨digits, -, -, hfield⟩
    have hmark : [48, 88] = ([48, 120] : List UInt8) := congrArg (List.take 2) hfield
    exact absurd hmark (by decide)
  refine ⟨hr, ⟨hnormal, encoded, he, hkept.mpr hform⟩, ⟨hcapital, other, ho, mt hchanged.mp hno⟩,
    hlarge, ?_⟩
  exact ((encode_of_decode_hexText hlarge hr 0).2 (by decide)).1

end Header

end FlashPatch
