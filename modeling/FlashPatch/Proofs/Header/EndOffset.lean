import FlashPatch.Proofs.Header.Acceptance
import FlashPatch.Proofs.Partition.Capacity
import FlashPatch.Proofs.Partition.State
import FlashPatch.Proofs.Session

/-!
# The end of a patch behind a header that was found

A loader that found a header goes on to the end of the payload, the sum of the header's length and
the payload size. The size is taken from the partition as it is, so the sum may pass 64 bits. It
does so only for the largest sizes, and which bytes give them is said for each format.
-/

namespace FlashPatch.Header

variable {bytes : List UInt8} {format : Format} {requested : Int64} {header : Header}

/-- Whether a loader finds a header in some bytes: by decoding them, by a look at the partition that
holds them, or by reading from a device on which they are left. -/
inductive Found (bytes : List UInt8) (format : Format) (requested : Int64) (header : Header) :
    Prop
  | decoded (h : decode bytes format requested = .ok header)
  | pending (h : Partition.inspect bytes format requested = .ok (.pending header))
  | read (session : Session) (hunread : session.device.unread = bytes)
      (h : ((readHeader format requested).run.run session).1 = .ok header)

/-- Every way to find a header decodes it. -/
theorem Found.decode (h : Found bytes format requested header) :
    decode bytes format requested = .ok header := by
  cases h with
  | decoded h => exact h
  | pending h => exact Partition.inspect_eq_pending_iff.mp h
  | read session hunread h =>
    rw [← hunread]
    exact (Session.readHeader_eq_ok_iff.mp h).2

private theorem le_size_of_endOffset?_eq_none
    (h : Header.decode bytes .binary requested = .ok header) (hnone : header.endOffset? = none) :
    12 ≤ header.size := by
  rw [endOffset?_eq_none_iff, payloadSize_of_decode_binary h, ← LittleEndian.value_eq_ofDigits]
    at hnone
  by_contra hshort
  have hwidth : ((bytes.take header.size).drop 4).length ≤ 7 := by
    rw [List.length_drop, List.length_take]
    omega
  have hvalue : LittleEndian.value ((bytes.take header.size).drop 4) < 256 ^ 7 :=
    Nat.lt_of_lt_of_le (LittleEndian.value_lt _) (Nat.pow_le_pow_right (by decide) hwidth)
  have hroom : 12 + 256 ^ 7 < 2 ^ 64 := by decide
  omega

private theorem writesHex_of_decode_hexText
    (h : Header.decode bytes .hexText requested = .ok header) :
    header.size = 24 ∧ ((bytes.take 24).drop 8).length = 16 ∧
      SizeField.WritesHex ((bytes.take 24).drop 8) header.payloadSize.toNat := by
  obtain ⟨hl, -, hlen, -, hs⟩ := decode_eq_ok_iff.mp h
  have hsize : header.size = 24 := Format.headerLength_hexText hl
  rw [hsize] at hlen hs
  refine ⟨hsize, ?_, SizeField.readHex?_eq_some_iff.mp hs⟩
  rw [List.length_drop, List.length_take_of_le hlen]

private theorem exists_digits_of_writesHex {field : List UInt8} {n : Nat}
    (hlen : field.length = 16) (h : SizeField.WritesHex field n) (hn : 2 ^ 64 ≤ 24 + n) :
    ∃ digits : List Char, field = digits.map Char.toUInt8 ∧ Numeral.Writes 16 digits n := by
  obtain ⟨mark, digits, padding, hfield, hmark, hread⟩ := h
  have hall : mark.length + digits.length + padding = 16 := by
    simpa [hfield, Nat.add_assoc] using hlen
  have hlong : 16 ≤ digits.length := by
    by_contra hshort
    have hlt : n < 16 ^ 15 := Nat.lt_of_lt_of_le (Numeral.lt_of_read? hread)
      (Nat.pow_le_pow_right (by decide) (by omega))
    have hroom : 24 + 16 ^ 15 < 2 ^ 64 := by decide
    omega
  obtain rfl : mark = [] := List.eq_nil_of_length_eq_zero (by omega)
  obtain rfl : padding = 0 := by omega
  refine ⟨digits, ?_, (Numeral.read?_eq_some_iff_writes (Nat.le_refl 16)).mp hread⟩
  simpa using hfield

private theorem writesHex_of_digits {digits : List Char} {n : Nat}
    (h : Numeral.Writes 16 digits n) : SizeField.WritesHex (digits.map Char.toUInt8) n :=
  ⟨[], digits, 0, by simp, .inl rfl, (Numeral.read?_eq_some_iff_writes (Nat.le_refl 16)).mpr h⟩

/-- A header that was found has an end exactly if its length and the payload size stay below 64
bits, and the end is then their sum. A binary header has none exactly if the number in its field
leaves no room for the header, and always one if it is shorter than twelve bytes. A hexadecimal
header has none exactly if sixteen digits without a mark write such a number. -/
theorem end_of_found_exact (h : Found bytes format requested header) :
    let field := (bytes.take header.size).drop format.magic.length
    (∀ offset, header.endOffset? = some offset ↔
      offset.toNat = header.size + header.payloadSize.toNat) ∧
    (header.endOffset? = none ↔ 2 ^ 64 ≤ header.size + header.payloadSize.toNat) ∧
    (format = .binary →
      (header.endOffset? = none ↔
        2 ^ 64 ≤ header.size + Nat.ofDigits 256 (field.map UInt8.toNat)) ∧
      (header.endOffset? = none → 12 ≤ header.size)) ∧
    (format = .hexText →
      (header.endOffset? = none ↔ ∃ (digits : List Char) (n : Nat), digits.length = 16 ∧
        field = digits.map Char.toUInt8 ∧ Numeral.Writes 16 digits n ∧ 2 ^ 64 ≤ 24 + n)) := by
  intro field
  have hd := h.decode
  refine ⟨fun offset ↦ endOffset?_eq_some_iff, endOffset?_eq_none_iff, ?binary, ?hexText⟩
  case binary =>
    rintro rfl
    refine ⟨?_, le_size_of_endOffset?_eq_none hd⟩
    rw [endOffset?_eq_none_iff, payloadSize_of_decode_binary hd]
    rfl
  case hexText =>
    rintro rfl
    obtain ⟨hsize, hwidth, hwrites⟩ := writesHex_of_decode_hexText hd
    have hfield : field = (bytes.take 24).drop 8 := by
      rw [← hsize]
      rfl
    rw [endOffset?_eq_none_iff, hsize, hfield]
    constructor
    · intro hpast
      obtain ⟨digits, hdigits, hn⟩ := exists_digits_of_writesHex hwidth hwrites hpast
      rw [hdigits, List.length_map] at hwidth
      exact ⟨digits, _, hwidth, hdigits, hn, hpast⟩
    · rintro ⟨digits, n, -, hdigits, hn, hpast⟩
      have hsame := writesHex_of_digits hn
      rw [← hdigits] at hsame
      rwa [hwrites.unique hsame]

/-- The largest size for which a binary header of twelve bytes has an end, and the least for which
a hexadecimal one has none. -/
theorem end_of_found_exact_at_limit :
    let last : Header := ⟨.binary, 12, 0xfffffffffffffff3⟩
    let past : Header := ⟨.hexText, 24, 0xffffffffffffffe8⟩
    Found ("NEWP".toList.map Char.toUInt8 ++ 0xf3 :: List.replicate 7 0xff) .binary 12 last ∧
      last.endOffset? = some 0xffffffffffffffff ∧
      Found ("NEWPATCHffffffffFFFFFFe8".toList.map Char.toUInt8) .hexText 0 past ∧
      past.endOffset? = none := by
  intro last past
  have hlast : Found ("NEWP".toList.map Char.toUInt8 ++ 0xf3 :: List.replicate 7 0xff) .binary 12
      last := .decoded rfl
  have hpast : Found ("NEWPATCHffffffffFFFFFFe8".toList.map Char.toUInt8) .hexText 0 past :=
    .decoded rfl
  refine ⟨hlast, ((end_of_found_exact hlast).1 _).mpr (by decide), hpast, ?_⟩
  refine ((end_of_found_exact hpast).2.2.2 rfl).mpr
    ⟨"ffffffffFFFFFFe8".toList, 0xffffffffffffffe8, rfl, rfl, ?_, by decide⟩
  exact (Numeral.read?_eq_some_iff_writes (Nat.le_refl 16)).mp rfl

/-- The largest size in a field of eight bytes: decoding finds the header, a look finds it pending,
and it is read from a device, but it has no end. -/
theorem found_without_end :
    let bytes := "NEWP".toList.map Char.toUInt8 ++ List.replicate 8 0xff
    let header : Header := ⟨.binary, 12, 0xffffffffffffffff⟩
    Header.decode bytes .binary 12 = .ok header ∧
      Partition.inspect bytes .binary 12 = .ok (.pending header) ∧
      ((readHeader .binary 12).run.run ⟨{ contents := bytes }, []⟩).1 = .ok header ∧
      header.endOffset? = none ∧ 2 ^ 64 ≤ header.size + header.payloadSize.toNat :=
  ⟨rfl, rfl, rfl, rfl, by decide⟩

end FlashPatch.Header
