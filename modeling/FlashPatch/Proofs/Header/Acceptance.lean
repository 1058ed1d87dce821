import FlashPatch.Proofs.Header.Layout
import FlashPatch.Proofs.Numeral.Positional

/-!
# What the readers accept

For every byte sequence the answer of the reader is said without the reader. A binary header is read
exactly if it is one that the writer makes, and with the number that its field has in base 256. A
hexadecimal header is read exactly if its field has a given form. Everything else is refused for a
stated reason.
-/

namespace FlashPatch

/-! ## Binary headers -/

namespace Header

/-- A binary field is read exactly if the number of its digits in base 256 fits into 64 bits. -/
theorem readSize?_binary (field : List UInt8) :
    readSize? .binary field =
      if Nat.ofDigits 256 (field.map UInt8.toNat) < 2 ^ 64 then
        some (UInt64.ofNat (Nat.ofDigits 256 (field.map UInt8.toNat)))
      else none := by
  rw [← LittleEndian.value_eq_ofDigits]
  exact SizeField.readBinary?_eq field

/-- The answer of the binary reader, in the order of its checks. -/
theorem decode_binary_eq (bytes : List UInt8) (requested : Int64) :
    let length := max requested.toInt.toNat 8
    let field := (bytes.take length).drop 4
    let size := Nat.ofDigits 256 (field.map UInt8.toNat)
    let magic := "NEWP".toList.map Char.toUInt8
    decode bytes .binary requested =
      if requested.toInt < 0 then .error (.negativeSize requested)
      else if bytes.length < length then .error (.tooShort bytes.length length)
      else if bytes.take 4 ≠ magic then .error (.wrongMagic (bytes.take 4) magic)
      else if size < 2 ^ 64 then .ok ⟨.binary, length, UInt64.ofNat size⟩
      else .error (.badSizeField field) := by
  intro length field size magic
  by_cases hr : requested.toInt < 0
  · rw [decode_eq, Format.headerLength, if_pos hr, if_pos hr]
  have hl : Format.binary.headerLength requested = .ok length :=
    Format.headerLength_binary_of_nonneg (Int.not_lt.mp hr)
  rw [decode_eq, hl, if_neg hr]
  by_cases hlen : bytes.length < length
  · simp only [if_pos hlen]
  by_cases hm : bytes.take Format.binary.magic.length = Format.binary.magic
  · have hm' : ¬bytes.take 4 ≠ magic := not_not.mpr hm
    have hread : readSize? .binary ((bytes.take length).drop Format.binary.magic.length) =
        if size < 2 ^ 64 then some (UInt64.ofNat size) else none := readSize?_binary field
    by_cases hs : size < 2 ^ 64
    · rw [if_pos hs] at hread
      simp only [if_neg hlen, if_pos hm, if_neg hm', if_pos hs, hread]
    · rw [if_neg hs] at hread
      simp only [if_neg hlen, if_pos hm, if_neg hm', if_neg hs, hread]
      rfl
  · have hm' : bytes.take 4 ≠ magic := hm
    simp only [if_neg hlen, if_neg hm, if_pos hm']
    rfl

/-- The payload size of a binary header that was read is the number of its field. -/
theorem payloadSize_of_decode_binary {bytes : List UInt8} {requested : Int64} {header : Header}
    (h : decode bytes .binary requested = .ok header) :
    header.payloadSize.toNat =
      Nat.ofDigits 256 (((bytes.take header.size).drop 4).map UInt8.toNat) := by
  obtain ⟨-, -, -, -, hs⟩ := decode_eq_ok_iff.mp h
  rw [readSize?_binary] at hs
  split at hs
  · next hlt =>
    rw [← Option.some.inj hs]
    exact UInt64.toNat_ofNat_of_lt' hlt
  · simp at hs

/-- A binary header that was read is written again for its payload size, under the same request. -/
theorem encode_of_decode_binary {bytes : List UInt8} {requested : Int64} {header : Header}
    (capacity : UInt64) (h : decode bytes .binary requested = .ok header) :
    encode .binary header.payloadSize requested capacity =
      .ok ⟨.binary, bytes.take header.size,
        Partition.fits header.payloadSize header.size capacity⟩ := by
  obtain ⟨hl, -, hlen, hm, -⟩ := decode_eq_ok_iff.mp h
  have hsize := Format.magic_length_add_four_le hl
  have hwidth : ((bytes.take header.size).drop 4).length = header.size - 4 := by
    rw [List.length_drop, List.length_take, Nat.min_eq_left hlen]
  -- The payload size is the value of the field, so at the width of the field it is the field.
  have hvalue : header.payloadSize.toNat =
      LittleEndian.value ((bytes.take header.size).drop 4) := by
    rw [payloadSize_of_decode_binary h, LittleEndian.value_eq_ofDigits]
  have hlt : header.payloadSize.toNat < 256 ^ (header.size - 4) := by
    rw [hvalue, ← hwidth]
    exact LittleEndian.value_lt _
  have hfield : sizeField .binary header.size header.payloadSize =
      .ok ((bytes.take header.size).drop 4) := by
    simp only [sizeField, Format.length_magic_binary, SizeField.writeBinary?_eq, if_pos hlt]
    rw [hvalue, ← hwidth, LittleEndian.encode_value]
  have hhead : Format.binary.magic = (bytes.take header.size).take 4 := by
    rw [List.take_take, Nat.min_eq_left (Nat.le_trans (Nat.le_add_right 4 4) hsize)]
    exact hm.symm
  refine encode_eq_ok_iff.mpr ⟨header.size, _, hl, hfield, ?_⟩
  rw [hhead, List.take_append_drop]

/-- Reading a binary header gives, for all bytes and requests, the first refusal in a fixed order,
or else the number in the field. What is read is exactly what the writer makes: the same bytes are
written again for the same payload size, whatever the capacity. -/
theorem decode_binary_exact (bytes : List UInt8) (requested : Int64) :
    let length := max requested.toInt.toNat 8
    let field := (bytes.take length).drop 4
    let size := Nat.ofDigits 256 (field.map UInt8.toNat)
    let magic := "NEWP".toList.map Char.toUInt8
    (decode bytes .binary requested =
      if requested.toInt < 0 then .error (.negativeSize requested)
      else if bytes.length < length then .error (.tooShort bytes.length length)
      else if bytes.take 4 ≠ magic then .error (.wrongMagic (bytes.take 4) magic)
      else if size < 2 ^ 64 then .ok ⟨.binary, length, UInt64.ofNat size⟩
      else .error (.badSizeField field)) ∧
      ∀ (header : Header) (capacity : UInt64),
        decode bytes .binary requested = .ok header ↔
          header.format = .binary ∧
            ∃ encoded, encode .binary header.payloadSize requested capacity = .ok encoded ∧
              encoded.bytes.length = header.size ∧ bytes.take header.size = encoded.bytes := by
  refine ⟨decode_binary_eq bytes requested, fun header capacity ↦ ⟨?_, ?_⟩⟩
  · intro h
    obtain ⟨-, hformat, hlen, -, -⟩ := decode_eq_ok_iff.mp h
    refine ⟨hformat, _, encode_of_decode_binary capacity h, ?_, rfl⟩
    exact List.length_take_of_le hlen
  · rintro ⟨hformat, encoded, he, hsize, hbytes⟩
    have h := decode_of_encode (bytes.drop header.size) he rfl
    rw [← hbytes, List.take_append_drop, hbytes, hsize] at h
    rw [h, ← hformat]

end Header

/-! ## Hexadecimal headers -/

/-- The form of a hexadecimal field: a mark in either case, unless it is left out, at least one
digit, letters in either case, and NUL bytes up to the end. -/
def SizeField.HexForm (field : List UInt8) (n : Nat) : Prop :=
  ∃ (mark digits : List Char) (padding : Nat),
    field = (mark ++ digits).map Char.toUInt8 ++ List.replicate padding 0 ∧
      mark ∈ [[], ['0', 'x'], ['0', 'X']] ∧ Numeral.Writes 16 digits n

/-- The fields of the form are those that the reader's digits write. -/
theorem SizeField.hexForm_iff {field : List UInt8} {n : Nat} :
    HexForm field n ↔ WritesHex field n := by
  simp only [HexForm, WritesHex, List.mem_cons, List.not_mem_nil, or_false,
    Numeral.read?_eq_some_iff_writes (Nat.le_refl 16)]

namespace Header

variable {bytes : List UInt8} {requested : Int64}

private theorem decode_hexText_eq (hr : 0 ≤ requested.toInt) (hlen : 24 ≤ bytes.length)
    (hm : bytes.take 8 = "NEWPATCH".toList.map Char.toUInt8) :
    decode bytes .hexText requested =
      match SizeField.readHex? ((bytes.take 24).drop 8) with
      | some payloadSize => .ok ⟨.hexText, 24, payloadSize⟩
      | none => .error (.badSizeField ((bytes.take 24).drop 8)) := by
  have hl := Format.headerLength_hexText_of_nonneg hr
  have hm' : bytes.take Format.hexText.magic.length = Format.hexText.magic := hm
  rw [decode_eq, hl]
  simp only [if_neg (Nat.not_lt.mpr hlen), if_pos hm']
  rfl

/-- A hexadecimal header whose length and tag are right is read exactly if its field has the form,
and with the number that the field then has. That number always fits into 64 bits, so the reader's
check of the range never fails. Any other field is refused and reported as it is. Neither the
request nor what follows the header matters. -/
theorem decode_hexText_exact (hr : 0 ≤ requested.toInt) (hlen : 24 ≤ bytes.length)
    (hm : bytes.take 8 = "NEWPATCH".toList.map Char.toUInt8) :
    let field := (bytes.take 24).drop 8
    let text := (SizeField.withoutPadding field).map fun b ↦ Char.ofNat b.toNat
    ((∃ header, decode bytes .hexText requested = .ok header) ↔
      ∃ n, SizeField.HexForm field n) ∧
    (∀ n, SizeField.HexForm field n → n < 2 ^ 64 ∧
      decode bytes .hexText requested = .ok ⟨.hexText, 24, UInt64.ofNat n⟩) ∧
    (∀ n, Numeral.read? 16 (SizeField.withoutMark text) = some n → n < 2 ^ 64) ∧
    ((¬∃ n, SizeField.HexForm field n) →
      decode bytes .hexText requested = .error (.badSizeField field)) ∧
    ∀ (request : Int64) (tail : List UInt8), 0 ≤ request.toInt →
      decode (bytes.take 24 ++ tail) .hexText request = decode bytes .hexText requested := by
  intro field text
  have hwidth : field.length ≤ SizeField.hexWidth := by
    rw [List.length_drop, List.length_take_of_le hlen]
    decide
  have hd := decode_hexText_eq hr hlen hm
  have hform (n : Nat) (h : SizeField.HexForm field n) : n < 2 ^ 64 ∧
      decode bytes .hexText requested = .ok ⟨.hexText, 24, UInt64.ofNat n⟩ := by
    have hw := SizeField.hexForm_iff.mp h
    have hlt : n < UInt64.size := SizeField.lt_of_writesHex hw hwidth
    rw [← UInt64.toNat_ofNat_of_lt' hlt] at hw
    refine ⟨hlt, ?_⟩
    rw [hd, SizeField.readHex?_eq_some_iff.mpr hw]
  have hnone (h : ¬∃ n, SizeField.HexForm field n) :
      decode bytes .hexText requested = .error (.badSizeField field) := by
    rw [hd]
    cases hs : SizeField.readHex? field with
    | none => rfl
    | some size =>
      have hw := SizeField.hexForm_iff.mpr (SizeField.readHex?_eq_some_iff.mp hs)
      exact absurd ⟨_, hw⟩ h
  refine ⟨⟨?_, ?_⟩, hform, ?_, hnone, ?_⟩
  · rintro ⟨header, h⟩
    by_contra hn
    rw [hnone hn] at h
    simp at h
  · rintro ⟨n, h⟩
    exact ⟨_, (hform n h).2⟩
  · intro n h
    exact SizeField.lt_of_writesHex (SizeField.read?_eq_some_iff_writesHex.mp h) hwidth
  · intro request tail hrequest
    have htake : (bytes.take 24 ++ tail).take 24 = bytes.take 24 :=
      List.take_left' (List.length_take_of_le hlen)
    have hlong : 24 ≤ (bytes.take 24 ++ tail).length := by
      rw [List.length_append, List.length_take_of_le hlen]
      exact Nat.le_add_right _ _
    have hl {r : Int64} (h : 0 ≤ r.toInt) : Format.hexText.headerLength r = .ok 24 :=
      Format.headerLength_eq_ok_iff.mpr ⟨h, rfl⟩
    calc decode (bytes.take 24 ++ tail) .hexText request
        = decode (bytes.take 24) .hexText request := by
          rw [← decode_take (hl hrequest) hlong, htake]
      _ = decode bytes .hexText request := decode_take (hl hrequest) hlen
      _ = decode bytes .hexText requested := by rw [decode_eq, decode_eq, hl hrequest, hl hr]

/-- A field of four digits in both cases behind a capital mark, padded with NUL bytes, in front of
one payload byte. -/
theorem decode_hexText_padded :
    let bytes := "NEWPATCH0X00fF".toList.map Char.toUInt8 ++ List.replicate 10 0 ++ [1]
    0 ≤ (5 : Int64).toInt ∧ 24 ≤ bytes.length ∧
      bytes.take 8 = "NEWPATCH".toList.map Char.toUInt8 ∧
      decode bytes .hexText 5 = .ok ⟨.hexText, 24, 255⟩ ∧
      decode (bytes.take 24 ++ [7, 7]) .hexText 0 = .ok ⟨.hexText, 24, 255⟩ := by
  intro bytes
  have hr : 0 ≤ (5 : Int64).toInt := by decide
  have hlen : 24 ≤ bytes.length := by decide
  have hm : bytes.take 8 = "NEWPATCH".toList.map Char.toUInt8 := rfl
  obtain ⟨-, hform, -, -, hsame⟩ := decode_hexText_exact hr hlen hm
  have hwrites : Numeral.Writes 16 "00fF".toList 255 :=
    (Numeral.read?_eq_some_iff_writes (Nat.le_refl 16)).mp rfl
  have hd : decode bytes .hexText 5 = .ok ⟨.hexText, 24, 255⟩ :=
    (hform 255 ⟨['0', 'X'], "00fF".toList, 10, rfl, by decide, hwrites⟩).2
  exact ⟨hr, hlen, hm, hd, (hsame 0 [7, 7] (by decide)).trans hd⟩

end Header

end FlashPatch
