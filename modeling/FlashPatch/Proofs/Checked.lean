import FlashPatch.Proofs.Checked.Header
import FlashPatch.Proofs.Checked.IntLiteral

/-!
# Checked runs

Headers, partitions and literals, with operations that stop outside their domains: none ever does.
-/

namespace FlashPatch.Checked

open Operation

/-- No operation of a checked run is ever stopped, whatever format, bytes, sizes and text it is
given, and what comes out is what comes out without the checks. In particular a written header has
the length that its request gets, the magic fits into every header whose field is measured, and
text is cut behind a sign only where a character ends. -/
theorem never_stopped :
    (∀ format payloadSize requested capacity,
      (encode format payloadSize requested capacity).run =
        .ok (Header.encode format payloadSize requested capacity)) ∧
    (∀ payloadSize headerSize capacity,
      fits payloadSize headerSize capacity =
        .ok (Partition.fits payloadSize headerSize capacity)) ∧
    (∀ bytes format requested,
      (decode bytes format requested).run = .ok (Header.decode bytes format requested)) ∧
    (∀ contents format requested,
      (inspect contents format requested).run =
        .ok (Partition.inspect contents format requested)) ∧
    (∀ contents format,
      (markApplied contents format).run = .ok (Partition.markApplied contents format)) ∧
    (∀ text, (readLiteral text).run = .ok (IntLiteral.read text)) ∧
    (∀ format payloadSize requested capacity header,
      Header.encode format payloadSize requested capacity = .ok header →
        format.headerLength requested = .ok header.bytes.length) ∧
    (∀ (format : Format) requested total, format.headerLength requested = .ok total →
      format.sizeFieldWidth? total = some (total - format.magic.length)) ∧
    ∀ text sign, sign = '-' ∨ sign = '+' → (utf8 text).head? = some sign.toUInt8 →
      cut 1 text = .ok text.tail := by
  refine ⟨encode_gives, fits_eq, decode_gives, inspect_gives, markApplied_gives, readLiteral_gives,
    ?length, ?width, ?sign⟩
  case length =>
    intro format payloadSize requested capacity header h
    exact Header.headerLength_of_encode h
  case width =>
    intro format requested total h
    exact if_pos (Nat.le_of_add_right_le (Format.magic_length_add_four_le h))
  case sign =>
    intro text sign hsign hfirst
    have hascii : sign.toNat < 128 := by
      rcases hsign with rfl | rfl
      · decide
      · decide
    obtain ⟨rest, rfl⟩ := (head?_utf8_eq_some_iff text hascii).mp hfirst
    exact cut_one hascii rest

/-- The longest request leaves room for the magic, and a hexadecimal header is as long as any. A
minus is cut off, but what follows it here cannot be cut in the middle. -/
theorem never_stopped_at_limits :
    let header : EncodedHeader :=
      ⟨.hexText, "NEWPATCH0x000000000000ff".toList.map Char.toUInt8, false⟩
    Format.binary.headerLength Int64.maxValue = .ok (2 ^ 63 - 1) ∧
      Format.binary.sizeFieldWidth? (2 ^ 63 - 1) = some (2 ^ 63 - 5) ∧
      Header.encode .hexText 255 0 0 = .ok header ∧
      Format.hexText.headerLength 0 = .ok header.bytes.length ∧
      (utf8 ['-', 'é']).head? = some '-'.toUInt8 ∧
      cut 1 ['-', 'é'] = .ok ['é'] ∧ cut 2 ['-', 'é'] = .error (.cut 1) := by
  intro header
  obtain ⟨-, -, -, -, -, -, hlength, hwidth, hsign⟩ := never_stopped
  have htotal : Format.binary.headerLength Int64.maxValue = .ok (2 ^ 63 - 1) := by decide
  have hencode : Header.encode .hexText 255 0 0 = .ok header := by decide
  have hfirst : (utf8 ['-', 'é']).head? = some '-'.toUInt8 := by decide
  exact ⟨htotal, hwidth .binary _ _ htotal, hencode, hlength _ _ _ _ _ hencode, hfirst,
    hsign _ '-' (.inl rfl) hfirst, by decide⟩

end FlashPatch.Checked
