import FlashPatch.Header.SizeField
import FlashPatch.Proofs.Bytes.LittleEndian
import FlashPatch.Proofs.Bytes.Text
import Mathlib.Data.List.DropRight

/-!
# Laws of size fields

A binary field is the little-endian encoding of its size at the full width of the field, and reading
accepts the fields whose value 64 bits can hold. The texts that reading accepts as a hexadecimal
field are described by a grammar; the writer makes one of them.
-/

namespace FlashPatch.SizeField

/-! ## Binary fields -/

/-- Eight bytes hold every size. -/
theorem word_lt_pow {width : Nat} (size : UInt64) (h : wordLength ≤ width) :
    size.toNat < 256 ^ width :=
  calc size.toNat < 256 ^ wordLength := size.toNat_lt
    _ ≤ 256 ^ width := Nat.pow_le_pow_right (by decide) h

/-- Nothing is left of a size behind its bytes exactly if they hold it. -/
theorem shift_eq_zero_iff (width size : Nat) :
    size >>> (8 * width) = 0 ↔ size < 256 ^ width := by
  have hp : (2 : Nat) ^ (8 * width) = 256 ^ width := Nat.pow_mul 2 8 width
  rw [Nat.shiftRight_eq_div_pow, hp, Nat.div_eq_zero_iff]
  have : 0 < 256 ^ width := Nat.pow_pos (by decide)
  omega

/-- A size that the width can hold is written at the full width, any other is refused. -/
theorem writeBinary?_eq (width : Nat) (size : UInt64) :
    writeBinary? width size =
      if size.toNat < 256 ^ width then some (LittleEndian.encode width size.toNat) else none := by
  have hc : (wordLength ≤ width ∨ size.toNat >>> (8 * width) = 0) ↔ size.toNat < 256 ^ width := by
    rw [shift_eq_zero_iff]
    constructor
    · rintro (h | h)
      · exact word_lt_pow size h
      · exact h
    · exact Or.inr
  unfold writeBinary?
  simp only [hc]
  split
  · next h =>
    congr 1
    by_cases hw : width ≤ wordLength
    · rw [Nat.min_eq_left hw, Nat.sub_self, List.replicate_zero, List.append_nil]
    · have hs : wordLength + (width - wordLength) = width := by omega
      rw [Nat.min_eq_right (by omega),
        ← LittleEndian.encode_add_of_lt _ (word_lt_pow size (Nat.le_refl _)), hs]
  · rfl

/-- A binary field is read exactly if 64 bits can hold its value. -/
theorem readBinary?_eq (field : List UInt8) :
    readBinary? field =
      if LittleEndian.value field < UInt64.size then
        some (UInt64.ofNat (LittleEndian.value field))
      else none := by
  have hs : LittleEndian.value field =
      LittleEndian.value (field.take wordLength) +
        256 ^ (field.take wordLength).length * LittleEndian.value (field.drop wordLength) := by
    rw [← LittleEndian.value_append, List.take_append_drop]
  have hlow := LittleEndian.value_lt (field.take wordLength)
  unfold readBinary?
  split
  · next h =>
    rw [LittleEndian.value_eq_zero_iff.mpr h, Nat.mul_zero, Nat.add_zero] at hs
    have hw : 256 ^ (field.take wordLength).length ≤ UInt64.size :=
      Nat.pow_le_pow_right (n := 256) (by decide) (List.length_take_le wordLength field)
    rw [hs, if_pos (Nat.lt_of_lt_of_le hlow hw)]
  · next h =>
    have hd : LittleEndian.value (field.drop wordLength) ≠ 0 := fun h0 ↦
      h (LittleEndian.value_eq_zero_iff.mp h0)
    -- Something stands behind the word, so the word itself is complete.
    have hl : (field.take wordLength).length = wordLength := by
      rw [List.length_take, Nat.min_eq_left]
      apply Nat.le_of_not_lt
      intro hlt
      rw [List.drop_of_length_le (Nat.le_of_lt hlt)] at hd
      exact hd rfl
    have hw : UInt64.size ≤ LittleEndian.value field := by
      rw [hs, hl]
      calc UInt64.size ≤ 256 ^ wordLength * LittleEndian.value (field.drop wordLength) :=
            Nat.le_mul_of_pos_right _ (Nat.pos_of_ne_zero hd)
        _ ≤ _ := Nat.le_add_left _ _
    rw [if_neg (Nat.not_lt.mpr hw)]

/-- A size that fits its field is read back. -/
theorem readBinary?_encode {width : Nat} {size : UInt64} (h : size.toNat < 256 ^ width) :
    readBinary? (LittleEndian.encode width size.toNat) = some size := by
  rw [readBinary?_eq, LittleEndian.value_encode_of_lt h, if_pos size.toNat_lt,
    UInt64.ofNat_toNat]

/-- A field holds a size exactly if nothing but zeros stands beyond a 64-bit size. -/
theorem exists_readBinary?_iff {field : List UInt8} :
    (∃ size, readBinary? field = some size) ↔
      (field.drop wordLength).all (· == 0) = true := by
  unfold readBinary?
  split
  · next h => exact iff_of_true ⟨_, rfl⟩ h
  · next h => exact iff_of_false (by rintro ⟨_, hs⟩; simp at hs) h

/-! ## Hexadecimal fields -/

/-- A hexadecimal field for a number: a mark, unless it is left out, the digits of the number in
letters of either case, and NUL bytes up to the end. -/
def WritesHex (field : List UInt8) (n : Nat) : Prop :=
  ∃ (mark digits : List Char) (padding : Nat),
    field = (mark ++ digits).map Char.toUInt8 ++ List.replicate padding 0 ∧
      (mark = [] ∨ mark = ['0', 'x'] ∨ mark = ['0', 'X']) ∧ Numeral.read? 16 digits = some n

private def toText (bytes : List UInt8) : List Char := bytes.map fun b ↦ Char.ofNat b.toNat

private theorem toUInt8_toText (bytes : List UInt8) :
    (toText bytes).map Char.toUInt8 = bytes := by
  rw [toText, List.map_map]
  conv_rhs => rw [← List.map_id bytes]
  exact List.map_congr_left fun b _ ↦ Text.toUInt8_ofNat_toNat b

private theorem toText_toUInt8 {text : List Char} (h : ∀ c ∈ text, c.toNat < 256) :
    toText (text.map Char.toUInt8) = text := by
  have key (c : Char) (hc : c.toNat < 256) : Char.ofNat c.toUInt8.toNat = c := by
    rw [Text.toNat_toUInt8 hc, Char.ofNat_toNat]
  rw [toText, List.map_map]
  conv_rhs => rw [← List.map_id text]
  exact List.map_congr_left fun c hc ↦ key c (h c hc)

private theorem withoutPadding_append_replicate (front : List UInt8) (padding : Nat) :
    withoutPadding (front ++ List.replicate padding 0) = withoutPadding front := by
  induction padding with
  | zero => rw [List.replicate_zero, List.append_nil]
  | succ padding ih =>
    rw [List.replicate_succ', ← List.append_assoc, ← ih]
    exact List.rdropWhile_concat_pos _ _ _ (by decide)

private theorem withoutPadding_of_last_ne {front : List UInt8}
    (h : ∀ hne : front ≠ [], front.getLast hne ≠ 0) : withoutPadding front = front := by
  apply List.rdropWhile_eq_self_iff.mpr
  intro hne
  simpa using h hne

private theorem exists_padding (field : List UInt8) :
    ∃ padding, field = withoutPadding field ++ List.replicate padding 0 := by
  refine ⟨(field.rtakeWhile (· == 0)).length, ?_⟩
  have hz : field.rtakeWhile (· == 0) =
      List.replicate (field.rtakeWhile (· == 0)).length 0 := by
    apply List.eq_replicate_of_mem
    intro b hb
    simpa using List.mem_rtakeWhile_imp hb
  rw [← hz]
  exact List.rdropWhile_append_rtakeWhile.symm

private theorem exists_mark (text : List Char) :
    ∃ mark, text = mark ++ withoutMark text ∧
      (mark = [] ∨ mark = ['0', 'x'] ∨ mark = ['0', 'X']) := by
  unfold withoutMark
  split
  · exact ⟨['0', 'x'], rfl, .inr (.inl rfl)⟩
  · exact ⟨['0', 'X'], rfl, .inr (.inr rfl)⟩
  · exact ⟨[], rfl, .inl rfl⟩

private theorem withoutMark_append {mark digits : List Char} {n : Nat}
    (hm : mark = [] ∨ mark = ['0', 'x'] ∨ mark = ['0', 'X'])
    (h : Numeral.read? 16 digits = some n) : withoutMark (mark ++ digits) = digits := by
  rcases hm with rfl | rfl | rfl
  · -- Without a mark the second character is a digit, so it cannot be the letter of one.
    have noMark (c : Char) (rest : List Char) (hc : ∀ d, Numeral.digit? c = some d → 16 ≤ d) :
        digits ≠ '0' :: c :: rest := by
      rintro rfl
      obtain ⟨d, hd, hlt⟩ := Numeral.digit?_of_mem_of_read? h (c := c) (by simp)
      have := hc d hd
      omega
    rw [List.nil_append]
    unfold withoutMark
    split
    · next rest => exact absurd rfl (noMark 'x' rest (by decide))
    · next rest => exact absurd rfl (noMark 'X' rest (by decide))
    · rfl
  · rfl
  · rfl

/-- Only the NUL character becomes a NUL byte. -/
theorem toUInt8_ne_zero {c : Char} (h : 0 < c.toNat ∧ c.toNat < 128) :
    c.toUInt8 ≠ 0 := by
  intro h0
  have hv := Text.toNat_toUInt8 (Nat.lt_trans h.2 (by decide))
  rw [h0] at hv
  exact absurd hv (Nat.ne_of_lt h.1)

private theorem readHex?_eq_some_text {field : List UInt8} {size : UInt64} :
    readHex? field = some size ↔
      Numeral.read? 16 (withoutMark (toText (withoutPadding field))) = some size.toNat := by
  simp only [readHex?, toText]
  split
  · next n hn =>
    rw [hn]
    constructor
    · intro h
      split at h
      · next hlt => rw [← Option.some.inj h, UInt64.toNat_ofNat_of_lt' hlt]
      · simp at h
    · intro h
      rw [Option.some.inj h, if_pos size.toNat_lt, UInt64.ofNat_toNat]
  · next hn => simp [hn]

/-- What stands between mark and padding is a number exactly if the field writes it. -/
theorem read?_eq_some_iff_writesHex {field : List UInt8} {n : Nat} :
    Numeral.read? 16 (withoutMark ((withoutPadding field).map fun b ↦ Char.ofNat b.toNat)) =
      some n ↔ WritesHex field n := by
  change Numeral.read? 16 (withoutMark (toText (withoutPadding field))) = some n ↔ _
  constructor
  · intro h
    obtain ⟨padding, hp⟩ := exists_padding field
    obtain ⟨mark, htext, hmark⟩ := exists_mark (toText (withoutPadding field))
    refine ⟨mark, _, padding, ?_, hmark, h⟩
    rw [← htext, toUInt8_toText]
    exact hp
  · rintro ⟨mark, digits, padding, rfl, hmark, hread⟩
    have hdigit (c : Char) (hc : c ∈ digits) : 0 < c.toNat ∧ c.toNat < 128 := by
      obtain ⟨d, hd, -⟩ := Numeral.digit?_of_mem_of_read? hread hc
      exact Numeral.digit?_bounds hd
    have hne : digits ≠ [] := (Numeral.read?_eq_some_iff.mp hread).1
    have hchar : ∀ c ∈ mark ++ digits, c.toNat < 256 := by
      intro c hc
      rcases List.mem_append.mp hc with hc | hc
      · rcases hmark with rfl | rfl | rfl <;> simp at hc <;> rcases hc with rfl | rfl <;> decide
      · exact Nat.lt_trans (hdigit c hc).2 (by decide)
    have hpad : withoutPadding ((mark ++ digits).map Char.toUInt8 ++ List.replicate padding 0) =
        (mark ++ digits).map Char.toUInt8 := by
      rw [withoutPadding_append_replicate]
      apply withoutPadding_of_last_ne
      intro hne'
      rw [List.getLast_map, List.getLast_append_of_ne_nil _ hne]
      exact toUInt8_ne_zero (hdigit _ (List.getLast_mem hne))
    rw [hpad, toText_toUInt8 hchar, withoutMark_append hmark hread, hread]

/-- More padding makes no difference. -/
theorem writesHex_append_replicate {field : List UInt8} (padding : Nat) {n : Nat} :
    WritesHex (field ++ List.replicate padding 0) n ↔ WritesHex field n := by
  rw [← read?_eq_some_iff_writesHex, withoutPadding_append_replicate, read?_eq_some_iff_writesHex]

/-- Reading finds a size exactly if the field writes it. -/
theorem readHex?_eq_some_iff {field : List UInt8} {size : UInt64} :
    readHex? field = some size ↔ WritesHex field size.toNat :=
  readHex?_eq_some_text.trans read?_eq_some_iff_writesHex

/-- A field writes one number only. -/
theorem WritesHex.unique {field : List UInt8} {n other : Nat} (h : WritesHex field n)
    (h' : WritesHex field other) : n = other := by
  rw [← read?_eq_some_iff_writesHex] at h h'
  exact Option.some.inj (h.symm.trans h')

/-- The number that a field of hexadecimal width writes fits into 64 bits. -/
theorem lt_of_writesHex {field : List UInt8} {n : Nat} (h : WritesHex field n)
    (hl : field.length ≤ hexWidth) : n < UInt64.size := by
  obtain ⟨mark, digits, padding, rfl, -, hread⟩ := h
  simp only [List.length_append, List.length_map] at hl
  calc n < 16 ^ digits.length := Numeral.lt_of_read? hread
    _ ≤ 16 ^ hexWidth := Nat.pow_le_pow_right (by decide) (by omega)
    _ = UInt64.size := by decide

/-- A field of the usual width holds a size exactly if it writes any number. -/
theorem exists_readHex?_iff {field : List UInt8} (hl : field.length ≤ hexWidth) :
    (∃ size, readHex? field = some size) ↔ ∃ n, WritesHex field n := by
  constructor
  · rintro ⟨size, h⟩
    exact ⟨size.toNat, readHex?_eq_some_iff.mp h⟩
  · rintro ⟨n, h⟩
    refine ⟨UInt64.ofNat n, readHex?_eq_some_iff.mpr ?_⟩
    rw [UInt64.toNat_ofNat_of_lt' (lt_of_writesHex h hl)]
    exact h

/-- A size of at most fourteen digits is written behind the mark, any other is refused. -/
theorem writeHex?_eq (size : UInt64) :
    writeHex? size =
      if size.toNat < 16 ^ hexDigits then
        some ((hexMark ++ Numeral.write 16 hexDigits size.toNat).map Char.toUInt8)
      else none := by
  have hc : size.toNat >>> (4 * hexDigits) = 0 ↔ size.toNat < 16 ^ hexDigits := by
    rw [Nat.shiftRight_eq_div_pow, Nat.div_eq_zero_iff]
    simp only [hexDigits]
    omega
  unfold writeHex?
  simp only [hc]

/-- The written field is as wide as its mark and its digits. -/
theorem length_of_writeHex? {size : UInt64} {field : List UInt8} (h : writeHex? size = some field) :
    field.length = hexWidth := by
  rw [writeHex?_eq] at h
  split at h
  · next hlt =>
    have := (Nat.length_toDigits_le_iff (b := 16) (by decide) (by decide)).mpr hlt
    rw [← Option.some.inj h, List.length_map, List.length_append, Numeral.length_write,
      Nat.max_eq_left this]
    rfl
  · simp at h

/-- A written size is read back. -/
theorem readHex?_of_writeHex? {size : UInt64} {field : List UInt8}
    (h : writeHex? size = some field) : readHex? field = some size := by
  rw [writeHex?_eq] at h
  split at h
  · refine readHex?_eq_some_iff.mpr ⟨hexMark, _, 0, ?_, .inr (.inl rfl),
      Numeral.read?_write (by decide) (by decide) hexDigits size.toNat⟩
    rw [← Option.some.inj h, List.replicate_zero, List.append_nil]
  · simp at h

end FlashPatch.SizeField
