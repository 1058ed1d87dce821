import FlashPatch.Proofs.Checked.Operation
import FlashPatch.Proofs.Partition.State

/-!
# Headers, with checked operations

Writing a header fills a buffer part by part, and reading one takes a buffer apart. Each operation
is in its domain because of what was checked before it: the magic fits into every header, a size
that is written fits its field, and a buffer that is read is as long as its header.
-/

namespace FlashPatch.Checked

open Operation

/-! ## Writing -/

/-- Whether the size fits into so many bytes. -/
def fitsWidth (size : UInt64) (width : Nat) : Except Violation Bool := do
  if SizeField.wordLength ≤ width then return true
  else return decide ((← shift size (← length (8 * width))) = 0)

/-- The bytes of a binary header. -/
def writeBinary (size : UInt64) (total : Nat) : Checked HeaderError (List UInt8) := do
  let magic := Format.binary.magic
  let width ← difference total magic.length
  if ← fitsWidth size width then
    let buffer ← onPart 0 magic.length (copy magic) (← zeros total)
    let n := min width SizeField.wordLength
    onPart magic.length buffer.length (onPart 0 n (writeInteger size n)) buffer
  else throw (.oversizedPayload size width)

/-- The bytes of a hexadecimal header. -/
def writeHexText (size : UInt64) : Checked HeaderError (List UInt8) := do
  if (← shift size (4 * SizeField.hexDigits)) = 0 then
    let digits := Numeral.write 16 SizeField.hexDigits size.toNat
    return Format.hexText.magic ++ (SizeField.hexMark ++ digits).map Char.toUInt8
  else throw (.oversizedPayload size (← length (SizeField.hexMark.length + SizeField.hexDigits)))

/-- The bytes of a header of the given length. -/
def writeBytes (format : Format) (size : UInt64) (total : Nat) :
    Checked HeaderError (List UInt8) :=
  match format with
  | .binary => writeBinary size total
  | .hexText => writeHexText size

/-- Whether the payload fits into what the header leaves of the capacity. That there may be no
difference is provided for. -/
def fits (payloadSize : UInt64) (headerSize : Nat) (capacity : UInt64) : Except Violation Bool :=
  match difference capacity.toNat headerSize with
  | .ok room => return decide (payloadSize.toNat ≤ room)
  | .error _ => return false

/-- The header for a payload. What was written has to have the length that was asked for. -/
def encode (format : Format) (payloadSize : UInt64) (requested : Int64) (capacity : UInt64) :
    Checked HeaderError EncodedHeader := do
  let total ← ofExcept (format.headerLength requested)
  let bytes ← writeBytes format payloadSize total
  same bytes.length total
  return ⟨format, bytes, ← fits payloadSize total capacity⟩

/-- Shifting stays below the width of a word, because a field of eight bytes is not looked at. -/
theorem fitsWidth_eq (size : UInt64) (width : Nat) :
    fitsWidth size width =
      .ok (decide (SizeField.wordLength ≤ width ∨ size.toNat >>> (8 * width) = 0)) := by
  unfold fitsWidth
  by_cases h : SizeField.wordLength ≤ width
  · rw [if_pos h, decide_eq_true (.inl h)]
    rfl
  · have hlt : width < 8 := Nat.not_le.mp h
    rw [if_neg h, length_of_lt (by omega)]
    change (do return decide ((← shift size (8 * width)) = 0)) = _
    rw [shift_of_lt size (by omega)]
    simp only [h, false_or]
    rfl

private theorem lt_pow_of_fits {size : UInt64} {width : Nat}
    (h : SizeField.wordLength ≤ width ∨ size.toNat >>> (8 * width) = 0) :
    size.toNat < 256 ^ min width SizeField.wordLength := by
  by_cases hwidth : SizeField.wordLength ≤ width
  · rw [Nat.min_eq_right hwidth]
    exact SizeField.word_lt_pow size (Nat.le_refl _)
  · rw [Nat.min_eq_left (Nat.le_of_not_le hwidth)]
    exact (SizeField.shift_eq_zero_iff width size.toNat).mp (h.resolve_left hwidth)

/-- The magic has room in front of its field, and the size inside it. -/
theorem writeBinary_gives (size : UInt64) {total : Nat} (hleast : 8 ≤ total)
    (hlt : total < 2 ^ 63) :
    Gives (writeBinary size total)
      ((Header.sizeField .binary total size).map (Format.binary.magic ++ ·)) := by
  have hmagic : Format.binary.magic.length ≤ total := by
    rw [Format.length_magic_binary]
    omega
  obtain ⟨width, rfl⟩ := Nat.exists_eq_add_of_le hmagic
  have hwidth : Format.binary.magic.length + width - Format.binary.magic.length = width :=
    Nat.add_sub_cancel_left _ _
  have hpos : 1 ≤ min width SizeField.wordLength := by
    rw [Format.length_magic_binary] at hleast
    exact Nat.le_min.mpr ⟨by omega, by decide⟩
  unfold writeBinary Header.sizeField SizeField.writeBinary?
  apply Gives.bind (Gives.lift (difference_of_le hmagic))
  apply Gives.bind (Gives.lift (fitsWidth_eq size _))
  simp only [hwidth]
  by_cases h : SizeField.wordLength ≤ width ∨ size.toNat >>> (8 * width) = 0
  · rw [if_pos h, if_pos (decide_eq_true h)]
    have hzeros : List.replicate (Format.binary.magic.length + width) (0 : UInt8) =
        List.replicate Format.binary.magic.length 0 ++ List.replicate width 0 :=
      List.replicate_add _ _ _
    have hfield : List.replicate width (0 : UInt8) =
        List.replicate (min width SizeField.wordLength) 0 ++
          List.replicate (width - min width SizeField.wordLength) 0 := by
      rw [← List.replicate_add, Nat.add_sub_of_le (Nat.min_le_left _ _)]
    -- The magic goes over the first zeros, the size over the next ones.
    apply Gives.bind (Gives.lift (zeros_of_lt hlt))
    rw [hzeros]
    apply Gives.bind (Gives.lift (onPart_front List.length_replicate.symm
      (copy_of_length_eq List.length_replicate.symm)))
    apply Gives.lift
    apply onPart_back rfl rfl
    rw [hfield]
    apply onPart_front List.length_replicate.symm
    rw [writeInteger_of_lt hpos (Nat.min_le_right _ _) (lt_pow_of_fits h)
      (Nat.le_of_eq List.length_replicate.symm), List.drop_replicate, Nat.sub_self,
      List.replicate_zero, List.append_nil]
  · rw [if_neg h, if_neg (by simpa using h)]
    exact Gives.throw _

/-- The size has no more digits than the field. -/
theorem writeHexText_gives (size : UInt64) (total : Nat) :
    Gives (writeHexText size)
      ((Header.sizeField .hexText total size).map (Format.hexText.magic ++ ·)) := by
  unfold writeHexText Header.sizeField SizeField.writeHex?
  apply Gives.bind (Gives.lift (shift_of_lt size (by decide)))
  by_cases h : size.toNat >>> (4 * SizeField.hexDigits) = 0
  · rw [if_pos h, if_pos h]
    exact Gives.pure _
  · rw [if_neg h, if_neg h]
    exact Gives.bind (Gives.lift (length_of_lt (by decide))) (Gives.throw _)

/-- The verdict needs no check. -/
theorem fits_eq (payloadSize : UInt64) (headerSize : Nat) (capacity : UInt64) :
    fits payloadSize headerSize capacity =
      .ok (Partition.fits payloadSize headerSize capacity) := by
  unfold fits Partition.fits
  by_cases h : headerSize ≤ capacity.toNat
  · rw [difference_of_le h, decide_eq_true h, Bool.true_and]
    rfl
  · rw [difference, if_neg h, decide_eq_false h, Bool.false_and]
    rfl

/-- No request leads writing out of a domain, and the header is the one without the checks. -/
theorem encode_gives (format : Format) (payloadSize : UInt64) (requested : Int64)
    (capacity : UInt64) :
    Gives (encode format payloadSize requested capacity)
      (Header.encode format payloadSize requested capacity) := by
  rw [Header.encode_eq]
  unfold encode
  cases htotal : format.headerLength requested with
  | error cause => exact Gives.bind_error _ (Gives.ofExcept _)
  | ok total =>
    simp only
    apply Gives.bind (Gives.ofExcept _)
    have hbytes : Gives (writeBytes format payloadSize total)
        ((Header.sizeField format total payloadSize).map (format.magic ++ ·)) := by
      cases format with
      | binary =>
        exact writeBinary_gives payloadSize (Format.magic_length_add_four_le htotal)
          (Format.headerLength_lt htotal)
      | hexText => exact writeHexText_gives payloadSize total
    cases hfield : Header.sizeField format total payloadSize with
    | error cause =>
      rw [hfield] at hbytes
      exact Gives.bind_error _ hbytes
    | ok field =>
      rw [hfield] at hbytes
      apply Gives.bind hbytes
      have hlength : (format.magic ++ field).length = total := by
        rw [List.length_append]
        exact (Header.sizeField_spec htotal hfield).1
      apply Gives.bind (Gives.lift (same_of_eq hlength))
      apply Gives.bind (Gives.lift (fits_eq _ _ _))
      exact Gives.pure _

/-! ## Reading -/

/-- Fails unless the bytes start with the magic. -/
def checkMagic (bytes : List UInt8) (format : Format) : Checked HeaderError Unit := do
  let found ← part 0 format.magic.length bytes
  if found = format.magic then return () else throw (.wrongMagic found format.magic)

/-- The size in a binary field. -/
def readBinary (field : List UInt8) : Checked HeaderError UInt64 := do
  let n := min field.length SizeField.wordLength
  if (← part n field.length field).any (· != 0) then throw (.badSizeField field)
  else readInteger n (← part 0 n field)

/-- The last index at which a byte is not zero. -/
def lastNonzero? (field : List UInt8) : Option Nat :=
  (field.reverse.findIdx? (· != 0)).map fun i ↦ field.length - 1 - i

/-- Where the padding of a field starts. -/
def paddingStart (field : List UInt8) : Except Violation Nat :=
  match lastNonzero? field with
  | some i => length (i + 1)
  | none => .ok 0

/-- Whether the character is a hexadecimal digit, a letter in either case. -/
def isHexDigit (c : Char) : Bool := (Numeral.digit? c).any (· < 16)

/-- The size in a hexadecimal field. -/
def readHexText (field : List UInt8) : Checked HeaderError UInt64 := do
  let text := (← part 0 (← paddingStart field) field).map fun b ↦ Char.ofNat b.toNat
  let digits := SizeField.withoutMark text
  if digits.isEmpty || !digits.all isHexDigit then
    throw (.badSizeField field)
  else
    match ← readWord? 16 digits with
    | some size => return size
    | none => throw (.badSizeField field)

/-- The size in a size field. -/
def readSize (format : Format) (field : List UInt8) : Checked HeaderError UInt64 :=
  match format with
  | .binary => readBinary field
  | .hexText => readHexText field

/-- The header at the start of the bytes. -/
def decode (bytes : List UInt8) (format : Format) (requested : Int64) :
    Checked HeaderError Header := do
  let size ← ofExcept (format.headerLength requested)
  if bytes.length < size then throw (.tooShort bytes.length size)
  else
    checkMagic bytes format
    let field ← part format.magic.length size bytes
    return { format, size, payloadSize := ← readSize format field }

/-- The state of a partition. -/
def inspect (contents : List UInt8) (format : Format) (requested : Int64) :
    Checked HeaderError Partition.State := do
  let magic := format.magic
  if contents.length < magic.length then throw (.tooShort contents.length magic.length)
  else
    let head ← part 0 magic.length contents
    if head = magic then return .pending (← decode contents format requested)
    else if head.all (· == Partition.appliedFill) then return .applied
    else return .absent

/-- The contents with the magic overwritten. -/
def markApplied (contents : List UInt8) (format : Format) : Checked HeaderError (List UInt8) := do
  let n := format.magic.length
  if contents.length < n then throw (.tooShort contents.length n)
  else
    checkMagic contents format
    onPart 0 n (fun head ↦ .ok (List.replicate head.length Partition.appliedFill)) contents

/-- The magic is compared with bytes that are there. -/
theorem checkMagic_gives {bytes : List UInt8} {format : Format}
    (h : format.magic.length ≤ bytes.length) :
    Gives (checkMagic bytes format)
      (if bytes.take format.magic.length = format.magic then .ok ()
      else .error (.wrongMagic (bytes.take format.magic.length) format.magic)) := by
  unfold checkMagic
  apply Gives.bind (Gives.lift (part_zero h))
  split
  · exact Gives.pure _
  · exact Gives.throw _

/-- The integer of a field has between one and eight bytes. -/
theorem readBinary_gives {field : List UInt8} (h : field ≠ []) :
    Gives (readBinary field)
      (match SizeField.readBinary? field with
        | some size => .ok size
        | none => .error (.badSizeField field)) := by
  have hpos : 1 ≤ min field.length SizeField.wordLength := by
    have := List.length_pos_iff.mpr h
    exact Nat.le_min.mpr ⟨this, by decide⟩
  have hword : min field.length SizeField.wordLength ≤ field.length := Nat.min_le_left _ _
  have hdrop : field.drop (min field.length SizeField.wordLength) =
      field.drop SizeField.wordLength := by
    rw [List.drop_eq_drop_iff]
    omega
  have htake : field.take (min field.length SizeField.wordLength) =
      field.take SizeField.wordLength := by
    rw [List.take_eq_take_iff]
    omega
  have hany : (field.drop SizeField.wordLength).any (· != 0) =
      !(field.drop SizeField.wordLength).all (· == 0) := List.not_all_eq_any_not.symm
  unfold readBinary SizeField.readBinary?
  apply Gives.bind (Gives.lift (part_of_le hword (Nat.le_refl _)))
  rw [List.take_length, hdrop, hany]
  cases (field.drop SizeField.wordLength).all (· == 0) with
  | false => exact Gives.throw _
  | true =>
    apply Gives.bind (Gives.lift (part_zero hword))
    apply Gives.lift
    rw [readInteger_of_le hpos (Nat.min_le_right _ _) (List.length_take_of_le hword).ge,
      List.take_take, Nat.min_self, htake]

private theorem paddingStart_eq {field : List UInt8} (h : field.length < 2 ^ 64) :
    paddingStart field = .ok (SizeField.withoutPadding field).length := by
  have hlength : (SizeField.withoutPadding field).length =
      field.length - field.reverse.findIdx (· != 0) := by
    rw [SizeField.withoutPadding, List.dropWhile_eq_drop_findIdx_not, List.length_reverse,
      List.length_drop, List.length_reverse]
    rfl
  unfold paddingStart lastNonzero?
  rw [hlength]
  cases hlast : field.reverse.findIdx? (· != 0) with
  | none =>
    rw [List.findIdx?_eq_none_iff_findIdx_eq] at hlast
    rw [hlast, List.length_reverse, Nat.sub_self]
    rfl
  | some i =>
    obtain ⟨hi, hfound⟩ := List.findIdx?_eq_some_iff_findIdx_eq.mp hlast
    rw [List.length_reverse] at hi
    have hstart : field.length - 1 - i + 1 = field.length - i := by omega
    rw [hfound, Option.map_some]
    simp only
    rw [hstart, length_of_lt (by omega)]

private theorem readWord?_eq {digits : List Char} (h : digits.head? ≠ some '+') :
    readWord? 16 digits =
      .ok (((Numeral.read? 16 digits).filter (· < UInt64.size)).map UInt64.ofNat) := by
  unfold readWord?
  rw [if_pos (by decide)]
  simp only [if_neg h]

private theorem read?_eq_none {digits : List Char}
    (h : (digits.isEmpty || !digits.all isHexDigit) = true) :
    Numeral.read? 16 digits = none := by
  cases hread : Numeral.read? 16 digits with
  | none => rfl
  | some n =>
    have hall : digits.all isHexDigit = true := by
      rw [List.all_eq_true]
      intro c hc
      obtain ⟨d, hd, hlt⟩ := Numeral.digit?_of_mem_of_read? hread hc
      rw [isHexDigit, hd, Option.any_some]
      exact decide_eq_true hlt
    rw [hall, Bool.not_true, Bool.or_false, List.isEmpty_iff] at h
    rw [h] at hread
    cases hread

/-- The padding lies inside the field, and the base of its digits is sixteen. -/
theorem readHexText_gives {field : List UInt8} (h : field.length < 2 ^ 64) :
    Gives (readHexText field)
      (match SizeField.readHex? field with
        | some size => .ok size
        | none => .error (.badSizeField field)) := by
  have hprefix : SizeField.withoutPadding field <+: field := List.rdropWhile_prefix _ field
  unfold readHexText SizeField.readHex?
  apply Gives.bind (Gives.lift (paddingStart_eq h))
  apply Gives.bind (Gives.lift (part_zero hprefix.length_le))
  rw [← List.prefix_iff_eq_take.mp hprefix]
  simp only
  generalize SizeField.withoutMark _ = digits
  by_cases hbad : (digits.isEmpty || !digits.all isHexDigit) = true
  · rw [if_pos hbad, read?_eq_none hbad]
    exact Gives.throw _
  · have hsign : digits.head? ≠ some '+' := by
      intro hplus
      obtain ⟨rest, rfl⟩ := List.head?_eq_some_iff.mp hplus
      have hplain : isHexDigit '+' = false := by decide
      exact hbad (by simp [hplain])
    rw [if_neg hbad]
    apply Gives.bind (Gives.lift (readWord?_eq hsign))
    cases Numeral.read? 16 digits with
    | none => exact Gives.throw _
    | some n =>
      rw [Option.filter_some]
      by_cases hlt : n < UInt64.size
      · simp only [hlt, decide_true, if_true, Option.map_some]
        exact Gives.pure _
      · simp only [hlt, decide_false, Bool.false_eq_true, if_false, Option.map_none]
        exact Gives.throw _

/-- A size field that is neither empty nor beyond all lengths is read in either format. -/
theorem readSize_gives (format : Format) {field : List UInt8} (hpos : field ≠ [])
    (hlt : field.length < 2 ^ 64) :
    Gives (readSize format field)
      (match Header.readSize? format field with
        | some size => .ok size
        | none => .error (.badSizeField field)) := by
  cases format with
  | binary => exact readBinary_gives hpos
  | hexText => exact readHexText_gives hlt

/-- No bytes and no request lead reading out of a domain, and the header is the one without the
checks. -/
theorem decode_gives (bytes : List UInt8) (format : Format) (requested : Int64) :
    Gives (decode bytes format requested) (Header.decode bytes format requested) := by
  rw [Header.decode_eq]
  unfold decode
  cases hsize : format.headerLength requested with
  | error cause => exact Gives.bind_error _ (Gives.ofExcept _)
  | ok size =>
    have hmagic := Format.magic_length_add_four_le hsize
    have hlimit := Format.headerLength_lt hsize
    apply Gives.bind (Gives.ofExcept _)
    simp only
    by_cases hlen : bytes.length < size
    · rw [if_pos hlen, if_pos hlen]
      exact Gives.throw _
    · rw [if_neg hlen, if_neg hlen]
      have hall : size ≤ bytes.length := Nat.not_lt.mp hlen
      have hcheck := checkMagic_gives (by omega : format.magic.length ≤ bytes.length)
      by_cases hfound : bytes.take format.magic.length = format.magic
      · rw [if_pos hfound] at hcheck ⊢
        have hfield : ((bytes.take size).drop format.magic.length).length =
            size - format.magic.length := by
          rw [List.length_drop, List.length_take_of_le hall]
        have hread := readSize_gives format (List.ne_nil_of_length_pos (by omega))
          (Nat.lt_of_le_of_lt (Nat.le_of_eq hfield) (by omega))
        apply Gives.bind hcheck
        apply Gives.bind (Gives.lift (part_of_le (by omega) hall))
        cases hvalue : Header.readSize? format ((bytes.take size).drop format.magic.length) with
        | none =>
          rw [hvalue] at hread
          exact Gives.bind_error _ hread
        | some payloadSize =>
          rw [hvalue] at hread
          exact Gives.bind hread (Gives.pure _)
      · rw [if_neg hfound] at hcheck ⊢
        exact Gives.bind_error _ hcheck

/-- No contents lead an inspection out of a domain, and the state is the one without the checks. -/
theorem inspect_gives (contents : List UInt8) (format : Format) (requested : Int64) :
    Gives (inspect contents format requested) (Partition.inspect contents format requested) := by
  rw [Partition.inspect_eq]
  unfold inspect
  simp only
  by_cases hlen : contents.length < format.magic.length
  · rw [if_pos hlen, if_pos hlen]
    exact Gives.throw _
  · rw [if_neg hlen, if_neg hlen]
    apply Gives.bind (Gives.lift (part_zero (Nat.not_lt.mp hlen)))
    by_cases hmagic : contents.take format.magic.length = format.magic
    · rw [if_pos hmagic, if_pos hmagic]
      exact Gives.map Partition.State.pending (decode_gives contents format requested)
    · rw [if_neg hmagic, if_neg hmagic]
      split
      · exact Gives.pure _
      · exact Gives.pure _

/-- No contents lead marking out of a domain, and they are marked as without the checks. -/
theorem markApplied_gives (contents : List UInt8) (format : Format) :
    Gives (markApplied contents format) (Partition.markApplied contents format) := by
  rw [Partition.markApplied_eq]
  unfold markApplied
  simp only
  by_cases hlen : contents.length < format.magic.length
  · rw [if_pos hlen, if_pos hlen]
    exact Gives.throw _
  · rw [if_neg hlen, if_neg hlen]
    have hall : format.magic.length ≤ contents.length := Nat.not_lt.mp hlen
    have hcheck := checkMagic_gives hall
    by_cases hfound : contents.take format.magic.length = format.magic
    · rw [if_pos hfound] at hcheck ⊢
      have hhead : (contents.take format.magic.length).length = format.magic.length :=
        List.length_take_of_le hall
      apply Gives.bind hcheck
      apply Gives.lift
      conv_lhs => rw [← List.take_append_drop format.magic.length contents]
      apply onPart_front hhead.symm
      rw [hhead]
    · rw [if_neg hfound] at hcheck ⊢
      exact Gives.bind_error _ hcheck

end FlashPatch.Checked
