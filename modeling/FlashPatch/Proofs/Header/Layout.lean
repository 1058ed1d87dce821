import FlashPatch.Header.Decoding
import FlashPatch.Header.Encoding
import FlashPatch.Proofs.Header.SizeField

/-!
# The layout of headers

What a header operation gives, as one case split for each operation. A written header is the magic
and a size field that fills its length and reads back as the payload size; reading looks at nothing
behind the header.
-/

namespace FlashPatch

/-! ## Lengths -/

namespace Format

/-- The binary magic has four bytes. -/
@[simp] theorem length_magic_binary : binary.magic.length = 4 := rfl

/-- There is a length exactly for the requests that are not negative. -/
theorem headerLength_eq_ok_iff {format : Format} {requested : Int64} {length : Nat} :
    format.headerLength requested = .ok length ↔
      0 ≤ requested.toInt ∧
        length =
          match format with
          | hexText => hexTextLength
          | binary => max requested.toInt.toNat minBinaryLength := by
  unfold headerLength
  by_cases h : requested.toInt < 0
  · simp only [if_pos h, reduceCtorEq, false_iff, not_and]
    intro hn
    omega
  · rw [if_neg h]
    cases format with
    | hexText => simp only [Except.ok.injEq, Int.not_lt.mp h, true_and, eq_comm]
    | binary => simp only [Except.ok.injEq, Int.not_lt.mp h, true_and, eq_comm]

/-- The magic fits into every header of its format, with room for a size behind it. -/
theorem magic_length_add_four_le {format : Format} {requested : Int64} {length : Nat}
    (h : format.headerLength requested = .ok length) : format.magic.length + 4 ≤ length := by
  obtain ⟨-, rfl⟩ := headerLength_eq_ok_iff.mp h
  cases format with
  | hexText =>
    show hexText.magic.length + 4 ≤ hexTextLength
    decide
  | binary => exact Nat.le_max_right _ minBinaryLength

/-- Every magic fits into every header, also into those of the other format. -/
theorem magic_length_le (other : Format) {format : Format} {requested : Int64} {length : Nat}
    (h : format.headerLength requested = .ok length) : other.magic.length ≤ length := by
  have hother : other.magic.length ≤ format.magic.length + 4 := by
    cases other <;> cases format <;> decide
  exact Nat.le_trans hother (magic_length_add_four_le h)

/-- Header lengths are below the limit of requests. -/
theorem headerLength_lt {format : Format} {requested : Int64} {length : Nat}
    (h : format.headerLength requested = .ok length) : length < 2 ^ 63 := by
  have hr := requested.toInt_lt
  obtain ⟨-, rfl⟩ := headerLength_eq_ok_iff.mp h
  cases format with
  | hexText =>
    show hexTextLength < 2 ^ 63
    decide
  | binary =>
    apply Nat.max_lt.mpr
    exact ⟨by omega, by decide⟩

/-- Hexadecimal headers have one length, whatever is requested. -/
theorem headerLength_hexText {requested : Int64} {length : Nat}
    (h : hexText.headerLength requested = .ok length) : length = hexTextLength :=
  (headerLength_eq_ok_iff.mp h).2

/-- A request that is not negative gets the one length of hexadecimal headers. -/
theorem headerLength_hexText_of_nonneg {requested : Int64} (h : 0 ≤ requested.toInt) :
    hexText.headerLength requested = .ok 24 :=
  headerLength_eq_ok_iff.mpr ⟨h, rfl⟩

/-- A request that is not negative gets its length, raised to the least one of binary headers. -/
theorem headerLength_binary_of_nonneg {requested : Int64} (h : 0 ≤ requested.toInt) :
    binary.headerLength requested = .ok (max requested.toInt.toNat 8) :=
  headerLength_eq_ok_iff.mpr ⟨h, rfl⟩

/-- Binary headers have the requested length, unless it is below the least one. -/
theorem headerLength_binary {requested : Int64} {length : Nat}
    (h : binary.headerLength requested = .ok length) :
    length = max requested.toInt.toNat minBinaryLength :=
  (headerLength_eq_ok_iff.mp h).2

end Format

namespace Header

variable {format : Format} {payloadSize : UInt64} {requested : Int64} {capacity : UInt64}

/-! ## Writing -/

/-- Writing a header looks at the request and then at the payload size. The capacity is only for the
verdict. -/
theorem encode_eq (format : Format) (payloadSize : UInt64) (requested : Int64)
    (capacity : UInt64) :
    encode format payloadSize requested capacity =
      match format.headerLength requested with
      | .error cause => .error cause
      | .ok length =>
        (sizeField format length payloadSize).map fun field ↦
          ⟨format, format.magic ++ field, Partition.fits payloadSize length capacity⟩ := by
  unfold encode
  cases format.headerLength requested with
  | error cause => rfl
  | ok length => cases sizeField format length payloadSize <;> rfl

/-- A header is written exactly if its length and its size field are, and it is the magic and that
field. -/
theorem encode_eq_ok_iff {encoded : EncodedHeader} :
    encode format payloadSize requested capacity = .ok encoded ↔
      ∃ length field, format.headerLength requested = .ok length ∧
        sizeField format length payloadSize = .ok field ∧
        encoded = ⟨format, format.magic ++ field, Partition.fits payloadSize length capacity⟩ := by
  unfold encode
  constructor
  · intro h
    cases hl : format.headerLength requested with
    | error cause => simp [hl, bind, Except.bind] at h
    | ok length =>
      cases hf : sizeField format length payloadSize with
      | error cause => simp [hl, hf, bind, Except.bind] at h
      | ok field =>
        simp only [hl, hf, bind, Except.bind, pure, Except.pure] at h
        exact ⟨length, field, rfl, hf, (Except.ok.inj h).symm⟩
  · rintro ⟨length, field, hl, hf, rfl⟩
    simp only [hl, hf, bind, Except.bind, pure, Except.pure]

private theorem sizeField_binary {length : Nat} {field : List UInt8}
    (h : sizeField .binary length payloadSize = .ok field) :
    payloadSize.toNat < 256 ^ (length - 4) ∧
      field = LittleEndian.encode (length - 4) payloadSize.toNat := by
  simp only [sizeField, Format.length_magic_binary, SizeField.writeBinary?_eq] at h
  by_cases hlt : payloadSize.toNat < 256 ^ (length - 4)
  · simp only [if_pos hlt] at h
    exact ⟨hlt, (Except.ok.inj h).symm⟩
  · simp [if_neg hlt] at h

private theorem sizeField_hexText {length : Nat} {field : List UInt8}
    (h : sizeField .hexText length payloadSize = .ok field) :
    SizeField.writeHex? payloadSize = some field := by
  simp only [sizeField] at h
  split at h
  · next hw => rw [hw, Except.ok.inj h]
  · simp at h

/-- A binary header is the magic and the payload size at the width that the length leaves. -/
theorem encode_binary {encoded : EncodedHeader}
    (h : encode .binary payloadSize requested capacity = .ok encoded) :
    ∃ length, Format.binary.headerLength requested = .ok length ∧
      payloadSize.toNat < 256 ^ (length - 4) ∧
      encoded.bytes =
        Format.binary.magic ++ LittleEndian.encode (length - 4) payloadSize.toNat := by
  obtain ⟨length, field, hl, hf, rfl⟩ := encode_eq_ok_iff.mp h
  obtain ⟨hlt, rfl⟩ := sizeField_binary hf
  exact ⟨length, hl, hlt, rfl⟩

/-- A hexadecimal header is the tag, the mark and the digits of the payload size. -/
theorem encode_hexText {encoded : EncodedHeader}
    (h : encode .hexText payloadSize requested capacity = .ok encoded) :
    encoded.bytes = Format.hexText.magic ++
      (SizeField.hexMark ++ Numeral.write 16 SizeField.hexDigits payloadSize.toNat).map
        Char.toUInt8 := by
  obtain ⟨length, field, -, hf, rfl⟩ := encode_eq_ok_iff.mp h
  have hw := sizeField_hexText hf
  rw [SizeField.writeHex?_eq] at hw
  split at hw
  · rw [Option.some.inj hw]
  · simp at hw

/-- The size field fills the header, and the payload size is read back from it. -/
theorem sizeField_spec {length : Nat} {field : List UInt8}
    (hl : format.headerLength requested = .ok length)
    (hf : sizeField format length payloadSize = .ok field) :
    format.magic.length + field.length = length ∧ readSize? format field = some payloadSize := by
  cases format with
  | binary =>
    obtain ⟨hlt, rfl⟩ := sizeField_binary hf
    have hw : 4 + 4 ≤ length := Format.magic_length_add_four_le hl
    refine ⟨?_, SizeField.readBinary?_encode hlt⟩
    rw [LittleEndian.length_encode]
    simp only [Format.length_magic_binary]
    omega
  | hexText =>
    have hw := sizeField_hexText hf
    refine ⟨?_, SizeField.readHex?_of_writeHex? hw⟩
    rw [SizeField.length_of_writeHex? hw, Format.headerLength_hexText hl]
    rfl

/-- A written header has the length that its format gives for the request. -/
theorem headerLength_of_encode {encoded : EncodedHeader}
    (h : encode format payloadSize requested capacity = .ok encoded) :
    format.headerLength requested = .ok encoded.bytes.length := by
  obtain ⟨length, field, hl, hf, rfl⟩ := encode_eq_ok_iff.mp h
  rw [List.length_append, (sizeField_spec hl hf).1, hl]

/-- Every hexadecimal header has the same length. -/
theorem length_of_encode_hexText {encoded : EncodedHeader}
    (h : encode .hexText payloadSize requested capacity = .ok encoded) :
    encoded.bytes.length = 24 :=
  Format.headerLength_hexText (headerLength_of_encode h)

/-! ## Reading -/

/-- Reading a header checks the request, the length, the magic and the size field, in this order. -/
theorem decode_eq (bytes : List UInt8) (format : Format) (requested : Int64) :
    decode bytes format requested =
      match format.headerLength requested with
      | .error cause => .error cause
      | .ok size =>
        if bytes.length < size then .error (.tooShort bytes.length size)
        else if bytes.take format.magic.length = format.magic then
          match readSize? format ((bytes.take size).drop format.magic.length) with
          | some payloadSize => .ok { format, size, payloadSize }
          | none => .error (.badSizeField ((bytes.take size).drop format.magic.length))
        else .error (.wrongMagic (bytes.take format.magic.length) format.magic) := by
  unfold decode checkMagic
  cases format.headerLength requested with
  | error cause => rfl
  | ok size =>
    simp only [bind, Except.bind, pure, Except.pure, throw, throwThe, MonadExceptOf.throw]
    by_cases hlen : bytes.length < size
    · rw [if_pos hlen, if_pos hlen]
    · rw [if_neg hlen, if_neg hlen]
      by_cases hm : bytes.take format.magic.length = format.magic
      · cases readSize? format ((bytes.take size).drop format.magic.length) with
        | some payloadSize => simp only [if_pos hm]
        | none => simp only [if_pos hm]
      · simp only [if_neg hm]

/-- A header is read exactly if the bytes are long enough, start with the magic and go on with a
readable size. -/
theorem decode_eq_ok_iff {bytes : List UInt8} {header : Header} :
    decode bytes format requested = .ok header ↔
      format.headerLength requested = .ok header.size ∧ header.format = format ∧
        header.size ≤ bytes.length ∧ bytes.take format.magic.length = format.magic ∧
        readSize? format ((bytes.take header.size).drop format.magic.length) =
          some header.payloadSize := by
  rw [decode_eq]
  constructor
  · intro h
    split at h
    · simp at h
    · next size hl =>
      split at h
      · simp at h
      · next hlen =>
        split at h
        · next hm =>
          split at h
          · next hs =>
            obtain rfl := Except.ok.inj h
            exact ⟨hl, rfl, Nat.not_lt.mp hlen, hm, hs⟩
          · simp at h
        · simp at h
  · rintro ⟨hl, rfl, hlen, hm, hs⟩
    simp only [hl, hm, hs, if_neg (Nat.not_lt.mpr hlen), if_true]

/-- Some header is read exactly if the length, the magic and the size field allow it. -/
theorem exists_decode_iff {bytes : List UInt8} :
    (∃ header, decode bytes format requested = .ok header) ↔
      ∃ length, format.headerLength requested = .ok length ∧ length ≤ bytes.length ∧
        bytes.take format.magic.length = format.magic ∧
        ∃ size, readSize? format ((bytes.take length).drop format.magic.length) = some size := by
  constructor
  · rintro ⟨header, h⟩
    obtain ⟨hl, -, hlen, hm, hs⟩ := decode_eq_ok_iff.mp h
    exact ⟨header.size, hl, hlen, hm, header.payloadSize, hs⟩
  · rintro ⟨length, hl, hlen, hm, size, hs⟩
    exact ⟨⟨format, length, size⟩, decode_eq_ok_iff.mpr ⟨hl, rfl, hlen, hm, hs⟩⟩

/-- Bytes are found too short for their header exactly if they are. -/
theorem decode_eq_tooShort_iff {bytes : List UInt8} {length : Nat}
    (hl : format.headerLength requested = .ok length) :
    decode bytes format requested = .error (.tooShort bytes.length length) ↔
      bytes.length < length := by
  rw [decode_eq, hl]
  by_cases hlen : bytes.length < length
  · refine iff_of_true ?_ hlen
    simp only [if_pos hlen]
  · refine iff_of_false ?_ hlen
    simp only [if_neg hlen]
    split
    · split <;> simp
    · simp

/-- A written header is read back under every request for its length, whatever follows it. -/
theorem decode_of_encode {encoded : EncodedHeader} {request : Int64} (tail : List UInt8)
    (h : encode format payloadSize requested capacity = .ok encoded)
    (hr : format.headerLength request = format.headerLength requested) :
    decode (encoded.bytes ++ tail) format request =
      .ok { format, size := encoded.bytes.length, payloadSize } := by
  have hl := headerLength_of_encode h
  obtain ⟨length, field, hlen, hf, rfl⟩ := encode_eq_ok_iff.mp h
  refine decode_eq_ok_iff.mpr ⟨hr.trans hl, rfl, ?_, ?_, ?_⟩
  · simp only [List.length_append]
    omega
  · rw [List.append_assoc, List.take_left]
  · rw [List.take_left, List.drop_left]
    exact (sizeField_spec hlen hf).2

/-- Nothing behind the header is looked at. -/
theorem decode_take {bytes : List UInt8} {length : Nat}
    (hl : format.headerLength requested = .ok length) (h : length ≤ bytes.length) :
    decode (bytes.take length) format requested = decode bytes format requested := by
  have hm : format.magic.length ≤ length :=
    Nat.le_trans (Nat.le_add_right _ 4) (Format.magic_length_add_four_le hl)
  rw [decode_eq, decode_eq, hl]
  simp only [List.length_take, Nat.min_eq_left h, Nat.lt_irrefl, if_false,
    if_neg (Nat.not_lt.mpr h), List.take_take, Nat.min_eq_left hm, Nat.min_self]

end Header

end FlashPatch
