import FlashPatch.Proofs.Header.Acceptance

/-!
# Headers read under another request

A loader that expects another length than the header was written with still finds the magic of a
binary header, and takes a field of another width for the size. A shorter field loses the high
digits of the size; a longer one takes the first bytes of the payload for more of them.
-/

namespace FlashPatch.Header

variable {payloadSize : UInt64} {requested request : Int64} {capacity : UInt64}
  {encoded : EncodedHeader}

private theorem field_of_encode (h : encode .binary payloadSize requested capacity = .ok encoded)
    (tail : List UInt8) (length : Nat) :
    ((encoded.bytes ++ tail).take length).drop 4 =
      (LittleEndian.encode (max requested.toInt.toNat 8 - 4) payloadSize.toNat ++ tail).take
        (length - 4) := by
  obtain ⟨written, hl, -, hbytes⟩ := encode_binary h
  have hwritten : written = max requested.toInt.toNat 8 := Format.headerLength_binary hl
  rw [List.drop_take, hbytes, List.append_assoc, ← hwritten]
  rfl

-- Of a longer field the low digits are read.
private theorem value_of_longer (h : encode .binary payloadSize requested capacity = .ok encoded)
    (tail : List UInt8) {length : Nat} (hle : length ≤ max requested.toInt.toNat 8) :
    LittleEndian.value (((encoded.bytes ++ tail).take length).drop 4) =
      payloadSize.toNat % 256 ^ (length - 4) := by
  have hwidth : length - 4 ≤ max requested.toInt.toNat 8 - 4 := Nat.sub_le_sub_right hle 4
  rw [field_of_encode h, List.take_append_of_le_length, LittleEndian.take_encode _ hwidth,
    LittleEndian.value_encode]
  rw [LittleEndian.length_encode]
  exact hwidth

-- Behind a shorter field the payload is read on, at the places above the field.
private theorem value_of_shorter (h : encode .binary payloadSize requested capacity = .ok encoded)
    (tail : List UInt8) {length : Nat} (hlt : max requested.toInt.toNat 8 < length) :
    LittleEndian.value (((encoded.bytes ++ tail).take length).drop 4) =
      payloadSize.toNat + 256 ^ (max requested.toInt.toNat 8 - 4) *
        LittleEndian.value (tail.take (length - max requested.toInt.toNat 8)) := by
  obtain ⟨written, hl, hsize, -⟩ := encode_binary h
  obtain rfl : written = max requested.toInt.toNat 8 := Format.headerLength_binary hl
  have hbehind : length - 4 - (max requested.toInt.toNat 8 - 4) =
      length - max requested.toInt.toNat 8 := by omega
  rw [field_of_encode h, List.take_append, LittleEndian.length_encode, hbehind,
    LittleEndian.value_append, List.take_of_length_le, LittleEndian.length_encode,
    LittleEndian.value_encode_of_lt hsize]
  rw [LittleEndian.length_encode]
  omega

private theorem decode_encoded (h : encode .binary payloadSize requested capacity = .ok encoded)
    (hr : 0 ≤ request.toInt) {tail : List UInt8}
    (hlen : max request.toInt.toNat 8 ≤ max requested.toInt.toNat 8 + tail.length) {value : Nat}
    (hvalue : LittleEndian.value
      (((encoded.bytes ++ tail).take (max request.toInt.toNat 8)).drop 4) = value) :
    decode (encoded.bytes ++ tail) .binary request =
      if value < 2 ^ 64 then .ok ⟨.binary, max request.toInt.toNat 8, UInt64.ofNat value⟩
      else
        .error (.badSizeField
          (((encoded.bytes ++ tail).take (max request.toInt.toNat 8)).drop 4)) := by
  obtain ⟨written, -, -, hbytes⟩ := encode_binary h
  have hwritten : encoded.bytes.length = max requested.toInt.toNat 8 :=
    Format.headerLength_binary (headerLength_of_encode h)
  have hlong : ¬(encoded.bytes ++ tail).length < max request.toInt.toNat 8 := by
    rw [List.length_append, hwritten]
    exact Nat.not_lt.mpr hlen
  have hmagic : (encoded.bytes ++ tail).take 4 = "NEWP".toList.map Char.toUInt8 := by
    rw [hbytes]
    rfl
  have hd := decode_binary_eq (encoded.bytes ++ tail) request
  dsimp only at hd
  rw [hd, if_neg (Int.not_lt.mpr hr), if_neg hlong, if_neg (not_not.mpr hmagic),
    ← LittleEndian.value_eq_ofDigits, hvalue]

private theorem returns_iff (payloadSize : UInt64) {value length : Nat}
    {result : Except HeaderError Header} {cause : HeaderError} (h : result =
      if value < 2 ^ 64 then .ok ⟨.binary, length, UInt64.ofNat value⟩ else .error cause) :
    (∃ header, result = .ok header ∧ header.payloadSize = payloadSize) ↔
      value = payloadSize.toNat := by
  constructor
  · rintro ⟨header, hok, rfl⟩
    rw [h] at hok
    split at hok
    · next hlt =>
      rw [← Except.ok.inj hok]
      exact (UInt64.toNat_ofNat_of_lt' hlt).symm
    · simp at hok
  · rintro rfl
    have hlt : payloadSize.toNat < 2 ^ 64 := payloadSize.toNat_lt
    rw [if_pos hlt, UInt64.ofNat_toNat] at h
    exact ⟨_, h, rfl⟩

/-- A loader that expects another length than a binary header was written with, of which there are
bytes enough, finds a header of its own length. If it is no longer than the written one, the size in
it is cut to the digits of the shorter field, so it is right exactly if these are all. If it is
longer, the first bytes of the payload count as digits above those of the written field: the size
is refused if 64 bits cannot hold it, and it is right exactly if those bytes are zero. -/
theorem decode_of_other_request
    (h : encode .binary payloadSize requested capacity = .ok encoded) (hr : 0 ≤ request.toInt)
    (tail : List UInt8)
    (hlen : max request.toInt.toNat 8 ≤ max requested.toInt.toNat 8 + tail.length) :
    let size := payloadSize.toNat
    let written := max requested.toInt.toNat 8
    let length := max request.toInt.toNat 8
    let result := decode (encoded.bytes ++ tail) .binary request
    (length ≤ written →
      result = .ok ⟨.binary, length, UInt64.ofNat (size % 256 ^ min (length - 4) 8)⟩ ∧
      ((∃ header, result = .ok header ∧ header.payloadSize = payloadSize) ↔
        size < 256 ^ (length - 4))) ∧
    (written < length →
      let behind := tail.take (length - written)
      let value := size + 256 ^ (written - 4) * Nat.ofDigits 256 (behind.map UInt8.toNat)
      (result =
        if value < 2 ^ 64 then .ok ⟨.binary, length, UInt64.ofNat value⟩
        else .error (.badSizeField (((encoded.bytes ++ tail).take length).drop 4))) ∧
      ((∃ header, result = .ok header ∧ header.payloadSize = payloadSize) ↔
        ∀ b ∈ behind, b = 0)) := by
  intro size written length result
  constructor
  · intro hle
    have hd := decode_encoded h hr hlen (value_of_longer h tail hle)
    have hsize : size < 256 ^ 8 := payloadSize.toNat_lt
    -- Beyond eight digits there is nothing to cut.
    have hcut : size % 256 ^ min (length - 4) 8 = size % 256 ^ (length - 4) := by
      rcases Nat.le_total (length - 4) 8 with hw | hw
      · rw [Nat.min_eq_left hw]
      · rw [Nat.min_eq_right hw, Nat.mod_eq_of_lt hsize, Nat.mod_eq_of_lt]
        exact Nat.lt_of_lt_of_le hsize (Nat.pow_le_pow_right (by decide) hw)
    have hlt : size % 256 ^ (length - 4) < 2 ^ 64 :=
      Nat.lt_of_le_of_lt (Nat.mod_le _ _) payloadSize.toNat_lt
    constructor
    · rw [hcut]
      exact hd.trans (if_pos hlt)
    · apply (returns_iff payloadSize hd).trans
      exact Nat.mod_eq_iff_lt (Nat.pow_pos (by decide)).ne'
  · intro hlt behind value
    have hvalue : LittleEndian.value (((encoded.bytes ++ tail).take length).drop 4) = value := by
      rw [value_of_shorter h tail hlt, LittleEndian.value_eq_ofDigits]
    have hd := decode_encoded h hr hlen hvalue
    refine ⟨hd, (returns_iff payloadSize hd).trans ?_⟩
    have hweight : 256 ^ (written - 4) ≠ 0 := (Nat.pow_pos (by decide)).ne'
    show size + 256 ^ (written - 4) * Nat.ofDigits 256 (behind.map UInt8.toNat) = size ↔ _
    rw [Nat.add_eq_left, Nat.mul_eq_zero, or_iff_right hweight, ← LittleEndian.value_eq_ofDigits,
      LittleEndian.value_eq_zero_iff, List.all_eq_true]
    simp only [beq_iff_eq]

/-- A field of five bytes read as one of four, and a field of four bytes read on into the payload,
once as far as 64 bits can hold it and once beyond. -/
theorem decode_of_other_request_either_way :
    let long : EncodedHeader := ⟨.binary, [78, 69, 87, 80, 5, 0, 0, 0, 1], false⟩
    let short : EncodedHeader := ⟨.binary, [78, 69, 87, 80, 5, 0, 0, 0], true⟩
    (encode .binary 0x100000005 9 100 = .ok long ∧ 0 ≤ (3 : Int64).toInt ∧
      decode (long.bytes ++ []) .binary 3 = .ok ⟨.binary, 8, 5⟩) ∧
    (encode .binary 5 0 100 = .ok short ∧ 0 ≤ (10 : Int64).toInt ∧ 0 ≤ (13 : Int64).toInt ∧
      decode (short.bytes ++ [2, 0, 7, 7, 7]) .binary 10 = .ok ⟨.binary, 10, 0x200000005⟩ ∧
      decode (short.bytes ++ [2, 0, 7, 7, 7]) .binary 13 =
        .error (.badSizeField [5, 0, 0, 0, 2, 0, 7, 7, 7])) := by
  intro long short
  have hlong : encode .binary 0x100000005 9 100 = .ok long := rfl
  have hshort : encode .binary 5 0 100 = .ok short := rfl
  have h3 : 0 ≤ (3 : Int64).toInt := by decide
  have h10 : 0 ≤ (10 : Int64).toInt := by decide
  have h13 : 0 ≤ (13 : Int64).toInt := by decide
  obtain ⟨hcut, -⟩ := decode_of_other_request hlong h3 [] (by decide)
  obtain ⟨-, hmore⟩ := decode_of_other_request hshort h10 [2, 0, 7, 7, 7] (by decide)
  obtain ⟨-, hover⟩ := decode_of_other_request hshort h13 [2, 0, 7, 7, 7] (by decide)
  exact ⟨⟨hlong, h3, (hcut (by decide)).1⟩, hshort, h10, h13, (hmore (by decide)).1,
    (hover (by decide)).1⟩

end FlashPatch.Header
