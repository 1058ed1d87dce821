import FlashPatch.Proofs.Header.Layout
import FlashPatch.Proofs.Numeral.Positional

/-!
# Headers digit by digit

Every byte of a written header is said by its place: the digits of a size field are those of the
payload size, in base 256 with the lowest first or in base 16 with the highest first. A header is
refused for a negative request or for a size beyond the digits, and for nothing else.
-/

namespace FlashPatch.Header

variable (payloadSize : UInt64) (requested : Int64) (capacity : UInt64)

private theorem sizeField_binary_eq (length : Nat) :
    sizeField .binary length payloadSize =
      if 256 ^ (length - 4) ≤ payloadSize.toNat then
        .error (.oversizedPayload payloadSize (length - 4))
      else .ok (LittleEndian.encode (length - 4) payloadSize.toNat) := by
  simp only [sizeField, Format.length_magic_binary, SizeField.writeBinary?_eq]
  by_cases h : payloadSize.toNat < 256 ^ (length - 4)
  · simp only [if_pos h, if_neg (Nat.not_le.mpr h)]
  · simp only [if_neg h, if_pos (Nat.not_lt.mp h)]

private theorem sizeField_hexText_eq (length : Nat) :
    sizeField .hexText length payloadSize =
      if 16 ^ 14 ≤ payloadSize.toNat then .error (.oversizedPayload payloadSize 16)
      else .ok ((SizeField.hexMark ++ Numeral.write 16 14 payloadSize.toNat).map Char.toUInt8) := by
  simp only [sizeField, SizeField.writeHex?_eq]
  by_cases h : payloadSize.toNat < 16 ^ 14
  · have h' : payloadSize.toNat < 16 ^ SizeField.hexDigits := h
    simp only [if_pos h', if_neg (Nat.not_le.mpr h)]
    rfl
  · have h' : ¬payloadSize.toNat < 16 ^ SizeField.hexDigits := h
    simp only [if_neg h', if_pos (Nat.not_lt.mp h)]
    rfl

private theorem encode_binary_eq :
    let size := payloadSize.toNat
    let length := max requested.toInt.toNat 8
    encode .binary payloadSize requested capacity =
      if requested.toInt < 0 then .error (.negativeSize requested)
      else if 256 ^ (length - 4) ≤ size then .error (.oversizedPayload payloadSize (length - 4))
      else
        .ok ⟨.binary, "NEWP".toList.map Char.toUInt8 ++ LittleEndian.encode (length - 4) size,
          Partition.fits payloadSize length capacity⟩ := by
  intro size length
  by_cases hr : requested.toInt < 0
  · rw [encode_eq, Format.headerLength, if_pos hr, if_pos hr]
  · have hl : Format.binary.headerLength requested = .ok length :=
      Format.headerLength_binary_of_nonneg (Int.not_lt.mp hr)
    rw [encode_eq, hl, if_neg hr]
    show (sizeField .binary length payloadSize).map _ = _
    rw [sizeField_binary_eq]
    split <;> rfl

/-- A hexadecimal header is the magic, its tag and fourteen digits at least. It is refused for a
negative request and for a size with more digits, in this order. -/
theorem encode_hexText_eq :
    let size := payloadSize.toNat
    encode .hexText payloadSize requested capacity =
      if requested.toInt < 0 then .error (.negativeSize requested)
      else if 16 ^ 14 ≤ size then .error (.oversizedPayload payloadSize 16)
      else
        .ok ⟨.hexText, ("NEWPATCH0x".toList ++ Numeral.write 16 14 size).map Char.toUInt8,
          Partition.fits payloadSize 24 capacity⟩ := by
  intro size
  by_cases hr : requested.toInt < 0
  · rw [encode_eq, Format.headerLength, if_pos hr, if_pos hr]
  · have hl := Format.headerLength_hexText_of_nonneg (Int.not_lt.mp hr)
    rw [encode_eq, hl, if_neg hr]
    show (sizeField .hexText 24 payloadSize).map _ = _
    rw [sizeField_hexText_eq]
    split <;> rfl

/-- The capacity decides neither on the bytes nor on a refusal. -/
theorem bytes_encode (format : Format) (other : UInt64) :
    (encode format payloadSize requested other).map EncodedHeader.bytes =
      (encode format payloadSize requested capacity).map EncodedHeader.bytes := by
  rw [encode_eq, encode_eq]
  cases format.headerLength requested with
  | error cause => rfl
  | ok length =>
    dsimp only
    cases sizeField format length payloadSize <;> rfl

/-- Writing a header gives, for all sizes, requests and capacities, a refusal or these bytes. A
negative request is refused whatever the size, and a size is refused exactly if it has more digits
than the field has places. That never happens in binary headers from twelve bytes on. A binary field
has the digits in base 256, the lowest first and zeros at the high places, and a hexadecimal one
fourteen characters, the highest first, whatever is requested. The capacity only decides on the
verdict, and the format in use is the binary one. -/
theorem encode_exact :
    let size := payloadSize.toNat
    let length := max requested.toInt.toNat 8
    let field := (List.range (length - 4)).map fun i ↦ UInt8.ofNat (size / 256 ^ i % 256)
    let digits := (List.range 14).map fun i ↦ Nat.digitChar (size / 16 ^ (13 - i) % 16)
    (encode .binary payloadSize requested capacity =
      if requested.toInt < 0 then .error (.negativeSize requested)
      else if 256 ^ (length - 4) ≤ size then .error (.oversizedPayload payloadSize (length - 4))
      else
        .ok ⟨.binary, "NEWP".toList.map Char.toUInt8 ++ field,
          Partition.fits payloadSize length capacity⟩) ∧
    (12 ≤ length → size < 256 ^ (length - 4)) ∧
    4 + field.length = length ∧
    (size < 256 ^ (length - 4) → Nat.ofDigits 256 (field.map UInt8.toNat) = size) ∧
    (encode .hexText payloadSize requested capacity =
      if requested.toInt < 0 then .error (.negativeSize requested)
      else if 16 ^ 14 ≤ size then .error (.oversizedPayload payloadSize 16)
      else
        .ok ⟨.hexText, ("NEWPATCH0x".toList ++ digits).map Char.toUInt8,
          Partition.fits payloadSize 24 capacity⟩) ∧
    10 + digits.length = 24 ∧
    (size < 16 ^ 14 → Numeral.Writes 16 digits size) ∧
    (∀ format other, (encode format payloadSize requested other).map EncodedHeader.bytes =
      (encode format payloadSize requested capacity).map EncodedHeader.bytes) ∧
    encodeCanonical payloadSize requested capacity =
      encode .binary payloadSize requested capacity := by
  intro size length field digits
  have hfield : LittleEndian.encode (length - 4) size = field :=
    LittleEndian.encode_eq_map_range _ _
  have hdigits (h : size < 16 ^ 14) : Numeral.write 16 14 size = digits :=
    Numeral.write_eq_map_range (by decide) (by decide) h
  refine ⟨?_, ?_, ?_, ?_, ?_, ?_, ?_, fun format other ↦ ?_, rfl⟩
  · rw [← hfield]
    exact encode_binary_eq payloadSize requested capacity
  · intro hlong
    calc size < 256 ^ 8 := payloadSize.toNat_lt
      _ ≤ 256 ^ (length - 4) := Nat.pow_le_pow_right (by decide) (by omega)
  · rw [List.length_map, List.length_range]
    omega
  · intro h
    rw [← hfield, ← LittleEndian.value_eq_ofDigits, LittleEndian.value_encode_of_lt h]
  · rw [encode_hexText_eq]
    by_cases h : 16 ^ 14 ≤ size
    · rw [if_pos h, if_pos h]
    · rw [if_neg h, if_neg h, hdigits (Nat.not_le.mp h)]
  · rw [List.length_map, List.length_range]
  · intro h
    rw [← hdigits h]
    apply (Numeral.read?_eq_some_iff_writes (Nat.le_refl 16)).mp
    exact Numeral.read?_write (by decide) (by decide) 14 size
  · exact bytes_encode payloadSize requested capacity format other

example :
    encodeCanonical 256 8 1024 =
      .ok ⟨.binary, "NEWP".toList.map Char.toUInt8 ++ [0, 1, 0, 0], true⟩ :=
  rfl

end FlashPatch.Header
