import FlashPatch.Proofs.Partition.State
import FlashPatch.Proofs.Session

/-!
# Headers of the other format

The binary magic is the beginning of the hexadecimal tag, so a magic alone does not keep a loader
from the other format. What does is the size field, and not always: the exact cases are here in
which a header that was written in one format is taken for a header of the other.
-/

namespace FlashPatch.Header

/-- Whether a loader for the format takes bytes, which start with a header that was written in the
other one, for a header of its own. To a binary loader the rest of the tag and the digits are a size
field, of which only the first eight bytes may differ from zero. To a hexadecimal loader the low
half of the payload size has to spell the rest of the tag, and a field has to follow it. -/
def MistakenFor (format : Format) (payloadSize : UInt64) (bytes : List UInt8) (request : Int64) :
    Prop :=
  0 ≤ request.toInt ∧
    match format with
    | .binary => request.toInt ≤ 12
    | .hexText =>
      payloadSize.toNat % 2 ^ 32 = 0x48435441 ∧ Format.hexTextLength ≤ bytes.length ∧
        ∃ n, SizeField.WritesHex ((bytes.take Format.hexTextLength).drop 8) n

variable {payloadSize : UInt64} {requested : Int64} {capacity : UInt64} {encoded : EncodedHeader}

/-! ## Hexadecimal text read as binary -/

-- The third digit of a hexadecimal header stands at offset twelve, and it is not a zero byte.
private theorem digit_at_twelve (tail : List UInt8)
    (h : encode .hexText payloadSize requested capacity = .ok encoded) :
    ∃ digit rest, (encoded.bytes ++ tail).drop 12 = digit :: rest ∧ digit ≠ 0 := by
  have hread : Numeral.read? 16 (Numeral.write 16 SizeField.hexDigits payloadSize.toNat) =
      some payloadSize.toNat := Numeral.read?_write (by decide) (by decide) _ _
  have hlen : SizeField.hexDigits ≤
      (Numeral.write 16 SizeField.hexDigits payloadSize.toNat).length := by
    rw [Numeral.length_write]
    exact Nat.le_max_left _ _
  rw [encode_hexText h]
  generalize Numeral.write 16 SizeField.hexDigits payloadSize.toNat = digits at hread hlen
  match digits with
  | first :: second :: third :: rest =>
    have hd : third ∈ first :: second :: third :: rest := by simp
    obtain ⟨d, hd, -⟩ := Numeral.digit?_of_mem_of_read? hread hd
    refine ⟨third.toUInt8, rest.map Char.toUInt8 ++ tail, rfl, ?_⟩
    exact SizeField.toUInt8_ne_zero (Numeral.digit?_bounds hd)
  | [] | [_] | [_, _] => simp [SizeField.hexDigits] at hlen

/-- A hexadecimal header begins with the magic of binary ones. -/
theorem take_magic_of_encode_hexText (tail : List UInt8)
    (h : encode .hexText payloadSize requested capacity = .ok encoded) :
    (encoded.bytes ++ tail).take 4 = Format.binary.magic := by
  rw [encode_hexText h]
  rfl

/-- A binary loader finds a size in it exactly if its own header ends in front of that digit. -/
theorem exists_readSize?_of_encode_hexText (tail : List UInt8)
    (h : encode .hexText payloadSize requested capacity = .ok encoded) (length : Nat) :
    (∃ size, readSize? .binary (((encoded.bytes ++ tail).take length).drop 4) = some size) ↔
      length ≤ 12 := by
  obtain ⟨digit, rest, hdrop, hne⟩ := digit_at_twelve tail h
  -- Behind the eight bytes that may be anything the field goes on with that digit.
  have hbeyond : (((encoded.bytes ++ tail).take length).drop 4).drop SizeField.wordLength =
      (digit :: rest).take (length - 12) := by
    rw [List.drop_drop, List.drop_take, ← hdrop]
    rfl
  rw [readSize?, SizeField.exists_readBinary?_iff, hbeyond]
  by_cases hle : length ≤ 12
  · rw [Nat.sub_eq_zero_of_le hle]
    exact iff_of_true rfl hle
  · obtain ⟨k, hk⟩ : ∃ k, length - 12 = k + 1 := ⟨length - 13, by omega⟩
    rw [hk, List.take_succ_cons, List.all_cons]
    simp [hne, hle]

private theorem decode_binary_iff (request : Int64) (tail : List UInt8)
    (h : encode .hexText payloadSize requested capacity = .ok encoded) :
    (∃ header, decode (encoded.bytes ++ tail) .binary request = .ok header) ↔
      MistakenFor .binary payloadSize (encoded.bytes ++ tail) request := by
  have hm := take_magic_of_encode_hexText tail h
  have hfield := exists_readSize?_of_encode_hexText tail h
  have hlong : Format.hexTextLength ≤ (encoded.bytes ++ tail).length := by
    rw [List.length_append, length_of_encode_hexText h]
    exact Nat.le_add_right _ _
  rw [exists_decode_iff]
  constructor
  · rintro ⟨length, hl, -, -, hs⟩
    have hle := (hfield length).mp hs
    obtain ⟨hr, rfl⟩ := Format.headerLength_eq_ok_iff.mp hl
    refine ⟨hr, ?_⟩
    simp only at hle ⊢
    omega
  · rintro ⟨hr, hle⟩
    simp only at hle
    have hlow : max request.toInt.toNat Format.minBinaryLength ≤ 12 := by
      apply Nat.max_le.mpr
      exact ⟨by omega, by decide⟩
    refine ⟨_, Format.headerLength_eq_ok_iff.mpr ⟨hr, rfl⟩, ?_, hm, (hfield _).mpr hlow⟩
    exact hlow.trans (Nat.le_trans (by decide) hlong)

/-! ## Binary read as hexadecimal text -/

/-- A binary header goes on with the rest of the tag exactly if its low four size bytes are it. -/
theorem take_tag_iff (tail : List UInt8)
    (h : encode .binary payloadSize requested capacity = .ok encoded) :
    (encoded.bytes ++ tail).take 8 = Format.hexText.magic ↔
      payloadSize.toNat % 2 ^ 32 = 0x48435441 := by
  obtain ⟨length, hl, -, hbytes⟩ := encode_binary h
  have hlen : 4 + 4 ≤ length := Format.magic_length_add_four_le hl
  obtain ⟨more, hmore⟩ : ∃ more, length - 4 = 4 + more := ⟨length - 8, by omega⟩
  have hhead : (encoded.bytes ++ tail).take 8 =
      Format.binary.magic ++ LittleEndian.encode 4 payloadSize.toNat := by
    rw [hbytes, hmore, LittleEndian.encode_add, List.append_assoc, List.append_assoc,
      ← List.append_assoc]
    apply List.take_left'
    rw [List.length_append, LittleEndian.length_encode]
    rfl
  have hmagic : Format.hexText.magic = Format.binary.magic ++ Format.hexText.magic.drop 4 := rfl
  rw [hhead, hmagic, List.append_cancel_left_eq]
  exact LittleEndian.encode_eq_iff rfl

private theorem decode_hexText_iff (request : Int64) (tail : List UInt8)
    (h : encode .binary payloadSize requested capacity = .ok encoded) :
    (∃ header, decode (encoded.bytes ++ tail) .hexText request = .ok header) ↔
      MistakenFor .hexText payloadSize (encoded.bytes ++ tail) request := by
  have hfield : (((encoded.bytes ++ tail).take Format.hexTextLength).drop 8).length ≤
      SizeField.hexWidth := by
    rw [List.length_drop, List.length_take]
    have : Format.hexTextLength = 8 + SizeField.hexWidth := rfl
    omega
  rw [exists_decode_iff]
  constructor
  · rintro ⟨length, hl, hlen, hm, hs⟩
    obtain ⟨hr, rfl⟩ := Format.headerLength_eq_ok_iff.mp hl
    exact ⟨hr, (take_tag_iff tail h).mp hm, hlen, (SizeField.exists_readHex?_iff hfield).mp hs⟩
  · rintro ⟨hr, hm, hlen, hs⟩
    exact ⟨_, Format.headerLength_eq_ok_iff.mpr ⟨hr, rfl⟩, hlen, (take_tag_iff tail h).mpr hm,
      (SizeField.exists_readHex?_iff hfield).mpr hs⟩

/-! ## Either way -/

private theorem decode_foreign_iff {written format : Format} (request : Int64)
    (tail : List UInt8) (hne : written ≠ format)
    (h : encode written payloadSize requested capacity = .ok encoded) :
    (∃ header, decode (encoded.bytes ++ tail) format request = .ok header) ↔
      MistakenFor format payloadSize (encoded.bytes ++ tail) request := by
  cases written with
  | hexText =>
    cases format with
    | hexText => exact absurd rfl hne
    | binary => exact decode_binary_iff request tail h
  | binary =>
    cases format with
    | hexText => exact decode_hexText_iff request tail h
    | binary => exact absurd rfl hne

/-- A loader for the other format recognises a written header exactly in the cases of a mistake,
from memory, as a pending patch and from a device alike. -/
theorem foreign_recognized_iff {written format : Format} (request : Int64) (tail : List UInt8)
    (hne : written ≠ format)
    (h : encode written payloadSize requested capacity = .ok encoded) :
    let bytes := encoded.bytes ++ tail
    ((∃ header, decode bytes format request = .ok header) ↔
        MistakenFor format payloadSize bytes request) ∧
      ((∃ header, Partition.inspect bytes format request = .ok (.pending header)) ↔
        MistakenFor format payloadSize bytes request) ∧
      ∀ session : Session, session.device.unread = bytes →
        ((∃ header, ((readHeader format request).run.run session).1 = .ok header) ↔
          ¬session.device.Fails .read ∧ MistakenFor format payloadSize bytes request) := by
  intro bytes
  have hd := decode_foreign_iff request tail hne h
  refine ⟨hd, ?_, ?_⟩
  · simp only [Partition.inspect_eq_pending_iff]
    exact hd
  · intro session hu
    simp only [Session.readHeader_eq_ok_iff, hu, exists_and_left]
    exact and_congr_right fun _ ↦ hd

/-- A binary header whose size spells the rest of the tag, in front of a payload of digits. -/
theorem digits_behind_tag_recognized :
    let encoded : EncodedHeader := ⟨.binary, "NEWPATCH".toList.map Char.toUInt8, true⟩
    let digits := "0x0000000000000F".toList.map Char.toUInt8
    Format.binary ≠ .hexText ∧ encode .binary 0x48435441 8 0x50000000 = .ok encoded ∧
      (∃ header, decode (encoded.bytes ++ digits) .hexText 24 = .ok header) ∧
      (∃ header, Partition.inspect (encoded.bytes ++ digits) .hexText 24 =
        .ok (.pending header)) ∧
      ∃ header, ((readHeader .hexText 24).run.run ⟨⟨encoded.bytes ++ digits, 0, none, none, []⟩,
        []⟩).1 = .ok header := by
  intro encoded digits
  have hne : Format.binary ≠ .hexText := by decide
  have h : encode .binary 0x48435441 8 0x50000000 = .ok encoded := rfl
  have hw : SizeField.WritesHex (((encoded.bytes ++ digits).take 24).drop 8) 15 :=
    ⟨['0', 'x'], "0000000000000F".toList, 0, rfl, .inr (.inl rfl), rfl⟩
  have hm : MistakenFor .hexText 0x48435441 (encoded.bytes ++ digits) 24 :=
    ⟨by decide, rfl, by decide, 15, hw⟩
  obtain ⟨hd, hi, hs⟩ := foreign_recognized_iff 24 digits hne h
  exact ⟨hne, h, hd.mpr hm, hi.mpr hm, (hs _ rfl).mpr ⟨by decide, hm⟩⟩

/-- A loader for short binary headers takes the shortest patch with a hexadecimal header for one of
its own. -/
theorem tag_read_as_binary_size :
    let encoded : EncodedHeader :=
      ⟨.hexText, "NEWPATCH0x00000000000001".toList.map Char.toUInt8, true⟩
    encode .hexText 1 24 100 = .ok encoded ∧
      decode (encoded.bytes ++ [0]) .binary 8 = .ok ⟨.binary, 8, 0x48435441⟩ ∧
      Partition.inspect (encoded.bytes ++ [0]) .binary 8 =
        .ok (.pending ⟨.binary, 8, 0x48435441⟩) ∧
      ((readHeader .binary 8).run.run ⟨⟨encoded.bytes ++ [0], 0, none, none, []⟩, []⟩).1 =
        .ok ⟨.binary, 8, 0x48435441⟩ :=
  ⟨rfl, rfl, rfl, rfl⟩

end FlashPatch.Header
