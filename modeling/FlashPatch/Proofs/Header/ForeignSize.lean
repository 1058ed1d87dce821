import FlashPatch.Proofs.Header.Acceptance
import FlashPatch.Proofs.Header.ForeignFormat

/-!
# Sizes in headers of the other format

What a loader gets from a header that was written in the other format: the size that it finds there,
or the reason for which it refuses the header. A binary loader takes the rest of the tag and the
first digits for a number. A hexadecimal loader needs a payload size whose low half spells the rest
of the tag and whose high half is text.
-/

namespace FlashPatch.Header

variable {payloadSize : UInt64} {requested request : Int64} {capacity : UInt64}
  {encoded : EncodedHeader}

/-! ## Hexadecimal text read as binary -/

-- To a binary loader the header is a number of 64 bits exactly if its own header ends in front
-- of the third digit.
private theorem ofDigits_field_lt_iff
    (h : encode .hexText payloadSize requested capacity = .ok encoded) (tail : List UInt8)
    (length : Nat) :
    Nat.ofDigits 256 ((((encoded.bytes ++ tail).take length).drop 4).map UInt8.toNat) < 2 ^ 64 ↔
      length ≤ 12 := by
  rw [← exists_readSize?_of_encode_hexText tail h, readSize?_binary]
  split
  · next hlt => exact iff_of_true hlt ⟨_, rfl⟩
  · next hlt => exact iff_of_false hlt (by simp)

private theorem take_of_encode_hexText
    (h : encode .hexText payloadSize requested capacity = .ok encoded) (tail : List UInt8)
    {length : Nat} (hle : length ≤ 12) :
    (encoded.bytes ++ tail).take length = encoded.bytes.take length := by
  apply List.take_append_of_le_length
  rw [length_of_encode_hexText h]
  omega

private theorem decode_binary_of_encode_hexText
    (h : encode .hexText payloadSize requested capacity = .ok encoded) (tail : List UInt8)
    (hr : 0 ≤ request.toInt) :
    let bytes := encoded.bytes ++ tail
    let length := max request.toInt.toNat 8
    decode bytes .binary request =
      if length ≤ 12 then
        .ok ⟨.binary, length, UInt64.ofNat
          (Nat.ofDigits 256 (((encoded.bytes.take length).drop 4).map UInt8.toNat))⟩
      else if length ≤ 24 + tail.length then
        .error (.badSizeField ((bytes.take length).drop 4))
      else .error (.tooShort (24 + tail.length) length) := by
  intro bytes length
  have hall : bytes.length = 24 + tail.length := by
    rw [List.length_append, length_of_encode_hexText h]
  have hmagic : bytes.take 4 = "NEWP".toList.map Char.toUInt8 := take_magic_of_encode_hexText tail h
  have hfits := ofDigits_field_lt_iff h tail length
  have hd := decode_binary_eq bytes request
  dsimp only at hd
  rw [hd, if_neg (Int.not_lt.mpr hr), if_neg (not_not.mpr hmagic)]
  by_cases hle : length ≤ 12
  · rw [if_neg (by omega), if_pos (hfits.mpr hle), if_pos hle, take_of_encode_hexText h tail hle]
  · rw [if_neg hle, if_neg (mt hfits.mp hle), hall]
    by_cases hlong : length ≤ 24 + tail.length
    · rw [if_neg (Nat.not_lt.mpr hlong), if_pos hlong]
    · rw [if_pos (Nat.not_le.mp hlong), if_neg hlong]

/-! ## Binary read as hexadecimal text -/

-- What stands in a long binary header at the place of a hexadecimal field: the high half of the
-- payload size, and zeros.
private theorem hexField_of_encode_binary
    (h : encode .binary payloadSize requested capacity = .ok encoded)
    (hlong : 24 ≤ encoded.bytes.length) (tail : List UInt8) :
    ((encoded.bytes ++ tail).take 24).drop 8 =
      LittleEndian.encode 4 (payloadSize.toNat / 2 ^ 32) ++ List.replicate 12 0 := by
  obtain ⟨length, -, -, hbytes⟩ := encode_binary h
  have hwidth : 20 ≤ length - 4 := by
    rw [hbytes, List.length_append, LittleEndian.length_encode, Format.length_magic_binary] at hlong
    omega
  have hhigh : payloadSize.toNat / 2 ^ 32 < 256 ^ 4 := by
    have := payloadSize.toNat_lt
    omega
  calc ((encoded.bytes ++ tail).take 24).drop 8
      = (Format.binary.magic ++ (LittleEndian.encode (length - 4) payloadSize.toNat).take 20).drop
          8 := by
        rw [List.take_append_of_le_length hlong, hbytes]
        rfl
    _ = (LittleEndian.encode (4 + 16) payloadSize.toNat).drop 4 := by
        rw [LittleEndian.take_encode _ hwidth]
        rfl
    _ = LittleEndian.encode (4 + 12) (payloadSize.toNat / 2 ^ 32) := by
        rw [LittleEndian.encode_add]
        exact List.drop_left' (LittleEndian.length_encode 4 _)
    _ = LittleEndian.encode 4 (payloadSize.toNat / 2 ^ 32) ++ List.replicate 12 0 :=
        LittleEndian.encode_add_of_lt 12 hhigh

private theorem decode_hexText_of_encode_binary
    (h : encode .binary payloadSize requested capacity = .ok encoded)
    (hlong : 24 ≤ encoded.bytes.length) (tail : List UInt8) (hr : 0 ≤ request.toInt)
    (header : Header) :
    decode (encoded.bytes ++ tail) .hexText request = .ok header ↔
      header.format = .hexText ∧ header.size = 24 ∧ payloadSize.toNat % 2 ^ 32 = 0x48435441 ∧
        SizeField.WritesHex (LittleEndian.encode 4 (payloadSize.toNat / 2 ^ 32))
          header.payloadSize.toNat := by
  have hall : 24 ≤ (encoded.bytes ++ tail).length := by
    rw [List.length_append]
    omega
  have hfield :
      readSize? .hexText (((encoded.bytes ++ tail).take 24).drop 8) = some header.payloadSize ↔
        SizeField.WritesHex (LittleEndian.encode 4 (payloadSize.toNat / 2 ^ 32))
          header.payloadSize.toNat := by
    rw [hexField_of_encode_binary h hlong, readSize?, SizeField.readHex?_eq_some_iff,
      SizeField.writesHex_append_replicate]
  rw [decode_eq_ok_iff, ← take_tag_iff tail h, ← hfield]
  constructor
  · rintro ⟨hl, hformat, -, hm, hs⟩
    have hsize : header.size = 24 := Format.headerLength_hexText hl
    rw [hsize] at hs
    exact ⟨hformat, hsize, hm, hs⟩
  · rintro ⟨hformat, hsize, hm, hs⟩
    rw [hsize]
    exact ⟨Format.headerLength_hexText_of_nonneg hr, hformat, hall, hm, hs⟩

private theorem not_writesHex_of_lt (hlow : payloadSize.toNat < 2 ^ 32) (n : Nat) :
    ¬SizeField.WritesHex (LittleEndian.encode 4 (payloadSize.toNat / 2 ^ 32)) n := by
  rw [Nat.div_eq_of_lt hlow, LittleEndian.encode_zero_value, ← List.nil_append (List.replicate 4 0),
    SizeField.writesHex_append_replicate]
  rintro ⟨mark, digits, padding, hnil, -, hread⟩
  have hempty : digits = [] := by
    have := congrArg List.length hnil
    simp only [List.length_nil, List.length_append, List.length_map] at this
    exact List.eq_nil_of_length_eq_zero (by omega)
  exact (Numeral.read?_eq_some_iff.mp hread).1 hempty

/-! ## Either way -/

/-- What a loader gets from a header of the other format, whatever follows it. A binary loader whose
header has at most twelve bytes finds the number that these bytes are behind the magic. A longer one
refuses the size field, unless there are not bytes enough for it. A hexadecimal loader finds a
header where a binary one of at least 24 bytes was written exactly if the low half of the payload
size spells the rest of the tag and the bytes of its high half have the form of a hexadecimal field,
and then with the number of that field. So it refuses all sizes of 32 bits. -/
theorem decode_of_other_format :
    (∀ {payloadSize : UInt64} {requested : Int64} {capacity : UInt64} {encoded : EncodedHeader},
      encode .hexText payloadSize requested capacity = .ok encoded →
      ∀ (tail : List UInt8) (request : Int64), 0 ≤ request.toInt →
        let bytes := encoded.bytes ++ tail
        let length := max request.toInt.toNat 8
        let size := Nat.ofDigits 256 (((encoded.bytes.take length).drop 4).map UInt8.toNat)
        decode bytes .binary request =
          (if length ≤ 12 then .ok ⟨.binary, length, UInt64.ofNat size⟩
          else if length ≤ 24 + tail.length then
            .error (.badSizeField ((bytes.take length).drop 4))
          else .error (.tooShort (24 + tail.length) length)) ∧
        (length ≤ 12 → size < 2 ^ 64)) ∧
    ∀ {payloadSize : UInt64} {requested : Int64} {capacity : UInt64} {encoded : EncodedHeader},
      encode .binary payloadSize requested capacity = .ok encoded → 24 ≤ encoded.bytes.length →
      ∀ (tail : List UInt8) (request : Int64), 0 ≤ request.toInt →
        let size := payloadSize.toNat
        let high := (List.range 4).map fun i ↦ UInt8.ofNat (size / 2 ^ 32 / 256 ^ i % 256)
        let result := decode (encoded.bytes ++ tail) .hexText request
        ((∃ header, result = .ok header) ↔
          size % 2 ^ 32 = 0x48435441 ∧ ∃ n, SizeField.HexForm high n) ∧
        (∀ n, size % 2 ^ 32 = 0x48435441 → SizeField.HexForm high n →
          n < 2 ^ 64 ∧ result = .ok ⟨.hexText, 24, UInt64.ofNat n⟩) ∧
        (size < 2 ^ 32 → ∃ cause, result = .error cause) := by
  refine ⟨?_, ?_⟩
  · intro payloadSize requested capacity encoded h tail request hr bytes length size
    refine ⟨decode_binary_of_encode_hexText h tail hr, fun hle ↦ ?_⟩
    have hlt := (ofDigits_field_lt_iff h tail length).mpr hle
    rwa [take_of_encode_hexText h tail hle] at hlt
  · intro payloadSize requested capacity encoded h hlong tail request hr size high result
    have hhigh : LittleEndian.encode 4 (size / 2 ^ 32) = high :=
      LittleEndian.encode_eq_map_range _ _
    have hshort : high.length ≤ SizeField.hexWidth := by
      rw [List.length_map, List.length_range]
      decide
    have hread (header : Header) : result = .ok header ↔
        header.format = .hexText ∧ header.size = 24 ∧ size % 2 ^ 32 = 0x48435441 ∧
          SizeField.HexForm high header.payloadSize.toNat := by
      rw [SizeField.hexForm_iff, ← hhigh]
      exact decode_hexText_of_encode_binary h hlong tail hr header
    have hvalue (n : Nat) (htag : size % 2 ^ 32 = 0x48435441) (hform : SizeField.HexForm high n) :
        n < 2 ^ 64 ∧ result = .ok ⟨.hexText, 24, UInt64.ofNat n⟩ := by
      have hlt : n < UInt64.size := SizeField.lt_of_writesHex (SizeField.hexForm_iff.mp hform) hshort
      refine ⟨hlt, (hread _).mpr ⟨rfl, rfl, htag, ?_⟩⟩
      rwa [UInt64.toNat_ofNat_of_lt' hlt]
    refine ⟨⟨?_, ?_⟩, hvalue, ?_⟩
    · rintro ⟨header, hresult⟩
      obtain ⟨-, -, htag, hform⟩ := (hread header).mp hresult
      exact ⟨htag, _, hform⟩
    · rintro ⟨htag, n, hform⟩
      exact ⟨_, (hvalue n htag hform).2⟩
    · intro hlow
      cases hresult : result with
      | error cause => exact ⟨cause, rfl⟩
      | ok header =>
        obtain ⟨-, -, -, hform⟩ := (hread header).mp hresult
        rw [SizeField.hexForm_iff, ← hhigh] at hform
        exact absurd hform (not_writesHex_of_lt hlow _)

/-- The tag and two digits as a size of 64 bits, a header that ends at the third digit, one that
goes on behind it and one that is longer than the bytes; and a size whose high half is `0xF`. -/
theorem decode_of_other_format_both_ways :
    let text : EncodedHeader := ⟨.hexText, "NEWPATCH0x00000000000001".toList.map Char.toUInt8, true⟩
    let tagged : EncodedHeader :=
      ⟨.binary, "NEWPATCH0xF".toList.map Char.toUInt8 ++ List.replicate 13 0, false⟩
    encode .hexText 1 24 100 = .ok text ∧
      decode (text.bytes ++ [7]) .binary 12 = .ok ⟨.binary, 12, 0x3030783048435441⟩ ∧
      decode (text.bytes ++ [7]) .binary 13 =
        .error (.badSizeField ("ATCH0x000".toList.map Char.toUInt8)) ∧
      decode (text.bytes ++ [7]) .binary 26 = .error (.tooShort 25 26) ∧
      encode .binary 0x46783048435441 24 100 = .ok tagged ∧
      decode (tagged.bytes ++ [7]) .hexText 0 = .ok ⟨.hexText, 24, 15⟩ := by
  intro text tagged
  have htext : encode .hexText 1 24 100 = .ok text := rfl
  have htagged : encode .binary 0x46783048435441 24 100 = .ok tagged := rfl
  obtain ⟨hbinary, hhex⟩ := decode_of_other_format
  have hform : SizeField.HexForm ("0xF".toList.map Char.toUInt8 ++ [0]) 15 :=
    ⟨['0', 'x'], ['F'], 1, rfl, by decide, (Numeral.read?_eq_some_iff_writes (by decide)).mp rfl⟩
  exact ⟨htext, (hbinary htext [7] 12 (by decide)).1, (hbinary htext [7] 13 (by decide)).1,
    (hbinary htext [7] 26 (by decide)).1, htagged,
    ((hhex htagged (by decide) [7] 0 (by decide)).2.1 15 (by decide) hform).2⟩

end FlashPatch.Header
