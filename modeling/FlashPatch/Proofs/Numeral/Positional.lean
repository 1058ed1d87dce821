import FlashPatch.Proofs.Bytes.LittleEndian
import FlashPatch.Proofs.Numeral
import Mathlib.Data.List.Forall2
import Mathlib.Data.Nat.Digits.Defs

/-!
# Positional values

What numerals and bytes stand for, said without reading them: each digit is a character of one
alphabet, in either case, and a number is the sum of its digits at the weights of their places.
Reading agrees with this. What is written has at each place the digit of that place.
-/

namespace FlashPatch

namespace LittleEndian

/-- The value of bytes is that of their digits in base 256, the least significant first. -/
theorem value_eq_ofDigits (bytes : List UInt8) :
    value bytes = Nat.ofDigits 256 (bytes.map UInt8.toNat) := by
  induction bytes with
  | nil => rfl
  | cons b bytes ih => rw [value, ih, List.map_cons, Nat.ofDigits_cons]

/-- The byte at a place is the digit of that place in base 256. -/
theorem encode_eq_map_range (width n : Nat) :
    encode width n = (List.range width).map fun i ↦ UInt8.ofNat (n / 256 ^ i % 256) := by
  induction width generalizing n with
  | zero => rfl
  | succ width ih =>
    have first : UInt8.ofNat n = UInt8.ofNat (n / 256 ^ 0 % 256) := by
      rw [Nat.pow_zero, Nat.div_one]
      apply UInt8.toNat_inj.mp
      rw [UInt8.toNat_ofNat', UInt8.toNat_ofNat', Nat.mod_mod]
    rw [encode, ih, List.range_succ_eq_map, List.map_cons, List.map_map, ← first]
    congr 1
    apply List.map_congr_left
    intro i _
    rw [Function.comp_apply, Nat.div_div_eq_div_mul, Nat.succ_eq_add_one, Nat.pow_succ']

end LittleEndian

namespace Numeral

/-- Whether a character stands for a digit of the base. Letters follow the decimal digits, and both
cases are the same. -/
def Denotes (base : Nat) (c : Char) (d : Nat) : Prop :=
  d < base ∧ (c = Nat.digitChar d ∨ c = (Nat.digitChar d).toUpper)

/-- Whether the characters write the number in the base, the most significant digit first. No
characters write no number. -/
def Writes (base : Nat) (text : List Char) (n : Nat) : Prop :=
  text ≠ [] ∧
    ∃ digits, List.Forall₂ (Denotes base) text digits ∧ Nat.ofDigits base digits.reverse = n

/-! ## Digits -/

private theorem digit?_either_case :
    ∀ d < 16, digit? (Nat.digitChar d) = some d ∧ digit? (Nat.digitChar d).toUpper = some d := by
  decide

private theorem toNat_digitChar_letter :
    ∀ d < 16, 10 ≤ d →
      (Nat.digitChar d).toNat = d + 87 ∧ (Nat.digitChar d).toUpper.toNat = d + 55 := by
  decide

private theorem eq_digitChar {c : Char} {d : Nat} (h : digit? c = some d) (hd : d < 16) :
    c = Nat.digitChar d ∨ c = (Nat.digitChar d).toUpper := by
  simp only [← Char.toNat_inj]
  rcases toNat_of_digit? h with ⟨hlt, hc⟩ | ⟨hge, -, hc⟩
  · rw [hc, Nat.toNat_digitChar_of_lt_ten hlt]
    exact .inl (Nat.add_comm _ _)
  · rw [(toNat_digitChar_letter d hd hge).1, (toNat_digitChar_letter d hd hge).2]
    exact hc

variable {base : Nat}

/-- Below sixteen the digits that are read are those of the alphabet. -/
theorem denotes_iff (hb : base ≤ 16) {c : Char} {d : Nat} :
    Denotes base c d ↔ digit? c = some d ∧ d < base := by
  rw [Denotes, and_comm]
  refine and_congr_left fun hlt ↦ ?_
  have hd : d < 16 := Nat.lt_of_lt_of_le hlt hb
  constructor
  · rintro (rfl | rfl)
    · exact (digit?_either_case d hd).1
    · exact (digit?_either_case d hd).2
  · intro h
    exact eq_digitChar h hd

/-! ## Numbers -/

/-- The value of digits is their sum at the weights of their places. -/
theorem value_eq_ofDigits (digits : List Nat) :
    value base digits = Nat.ofDigits base digits.reverse := by
  induction digits using List.reverseRecOn with
  | nil => rfl
  | append_singleton digits d ih =>
    rw [value_append_singleton, ih, List.reverse_append, List.reverse_singleton,
      List.singleton_append, Nat.ofDigits_cons, Nat.add_comm]

private theorem digits?_eq_some_iff_forall₂ (hb : base ≤ 16) {text : List Char}
    {digits : List Nat} : digits? base text = some digits ↔
      List.Forall₂ (Denotes base) text digits := by
  rw [digits?_eq_some_iff]
  induction text generalizing digits with
  | nil => cases digits <;> simp
  | cons c text ih =>
    cases digits with
    | nil => simp
    | cons d digits =>
      rw [List.forall₂_cons, ← ih, denotes_iff hb, List.map_cons, List.map_cons, List.cons.injEq,
        List.forall_mem_cons]
      exact and_and_and_comm

/-- In bases up to sixteen a text is read exactly if it writes a number, and as that number. -/
theorem read?_eq_some_iff_writes (hb : base ≤ 16) {text : List Char} {n : Nat} :
    read? base text = some n ↔ Writes base text n := by
  simp only [read?_eq_some_iff, Writes, digits?_eq_some_iff_forall₂ hb, value_eq_ofDigits]

/-- What is written in the base writes its number, whatever the padding. -/
theorem writes_write (hb : 1 < base) (hb' : base ≤ 16) (width n : Nat) :
    Writes base (write base width n) n :=
  (read?_eq_some_iff_writes hb').mp (read?_write hb hb' width n)

/-! ## Places -/

/-- A place more holds the last digit, behind the numeral of the quotient. -/
theorem write_succ {base width n : Nat} (hb : 1 < base) (hw : 0 < width) :
    write base (width + 1) n = write base width (n / base) ++ [Nat.digitChar (n % base)] := by
  rw [write, write, List.leftpad, List.leftpad, Nat.toDigits_eq_if hb (n := n)]
  split
  · next h =>
    have hq : Nat.toDigits base 0 = ['0'] := Nat.toDigits_of_lt_base (by omega)
    rw [Nat.div_eq_of_lt h, Nat.mod_eq_of_lt h, hq]
    obtain ⟨rest, rfl⟩ : ∃ rest, width = rest + 1 := ⟨width - 1, by omega⟩
    simp [List.replicate_succ']
  · next h =>
    rw [List.length_append, List.length_singleton, Nat.add_sub_add_right, List.append_assoc]

/-- The character at a place is the digit of that place, as long as there are places enough. -/
theorem write_eq_map_range {base width n : Nat} (hb : 1 < base) (hw : 0 < width)
    (h : n < base ^ width) :
    write base width n =
      (List.range width).map fun i ↦ Nat.digitChar (n / base ^ (width - 1 - i) % base) := by
  induction width, hw using Nat.le_induction generalizing n with
  | base =>
    have h : n < base := by simpa using h
    simp [write, List.leftpad, Nat.toDigits_of_lt_base h, Nat.mod_eq_of_lt h]
  | succ width hw ih =>
    have hq : n / base < base ^ width := by
      apply Nat.div_lt_of_lt_mul
      rwa [← Nat.pow_succ']
    rw [write_succ hb hw, ih hq, List.range_succ, List.map_append, List.map_singleton,
      Nat.add_sub_cancel, Nat.sub_self, Nat.pow_zero, Nat.div_one]
    congr 1
    apply List.map_congr_left
    intro i hi
    have hplace : width - i = width - 1 - i + 1 := by
      have := List.mem_range.mp hi
      omega
    rw [hplace, Nat.div_div_eq_div_mul, Nat.pow_succ']

/-- The digits of a number other than zero do not begin with a zero. -/
theorem head?_toDigits {base : Nat} (hb : 1 < base) (hb' : base ≤ 16) {n : Nat} (hpos : 0 < n) :
    (Nat.toDigits base n).head? ≠ some '0' := by
  induction n using Nat.strongRecOn with
  | ind n ih =>
    rw [Nat.toDigits_eq_if hb]
    split
    · next hlt =>
      have hdigit : ∀ d < 16, 0 < d → Nat.digitChar d ≠ '0' := by decide
      simpa using hdigit n (by omega) hpos
    · next hge =>
      rw [List.head?_append_of_ne_nil _ Nat.toDigits_ne_nil]
      have hquotient : 0 < n / base := Nat.div_pos (by omega) (by omega)
      exact ih (n / base) (Nat.div_lt_self hpos hb) hquotient

/-! ## One text for each number -/

/-- The hexadecimal digits in lower case. -/
def lowerDigits : List Char := "0123456789abcdef".toList

private theorem toUpper_mem_lowerDigits :
    ∀ d < 16, (Nat.digitChar d).toUpper ∈ lowerDigits →
      (Nat.digitChar d).toUpper = Nat.digitChar d := by
  decide

private theorem eq_map_digitChar {text : List Char} {digits : List Nat}
    (h : List.Forall₂ (Denotes 16) text digits) (hlow : ∀ c ∈ text, c ∈ lowerDigits) :
    text = digits.map Nat.digitChar := by
  induction h with
  | nil => rfl
  | @cons c d text digits hc _ ih =>
    obtain ⟨hcl, hlow⟩ := List.forall_mem_cons.mp hlow
    have hfirst : c = Nat.digitChar d := by
      rcases hc.2 with rfl | rfl
      · rfl
      · exact toUpper_mem_lowerDigits d hc.1 hcl
    rw [List.map_cons, ← hfirst, ← ih hlow]

private theorem digit_lt_of_forall₂ {text : List Char} {digits : List Nat}
    (h : List.Forall₂ (Denotes base) text digits) : ∀ d ∈ digits, d < base := by
  induction h with
  | nil => simp
  | cons hc _ ih => exact List.forall_mem_cons.mpr ⟨hc.1, ih⟩

/-- In lower case there is one text of a length for each number. -/
theorem Writes.unique {text other : List Char} {n : Nat} (h : Writes 16 text n)
    (h' : Writes 16 other n) (hlen : text.length = other.length)
    (hlow : ∀ c ∈ text, c ∈ lowerDigits) (hlow' : ∀ c ∈ other, c ∈ lowerDigits) :
    text = other := by
  obtain ⟨-, digits, hdigits, hvalue⟩ := h
  obtain ⟨-, digits', hdigits', hvalue'⟩ := h'
  have hsame : digits.reverse = digits'.reverse := by
    apply Nat.ofDigits_inj_of_len_eq (by decide : 1 < 16)
    · rw [List.length_reverse, List.length_reverse, ← hdigits.length_eq, ← hdigits'.length_eq, hlen]
    · exact fun d hd ↦ digit_lt_of_forall₂ hdigits d (List.mem_reverse.mp hd)
    · exact fun d hd ↦ digit_lt_of_forall₂ hdigits' d (List.mem_reverse.mp hd)
    · exact hvalue.trans hvalue'.symm
  rw [eq_map_digitChar hdigits hlow, eq_map_digitChar hdigits' hlow', List.reverse_inj.mp hsame]

private theorem denotes_of_mem : ∀ c ∈ lowerDigits, Denotes 16 c ((digit? c).getD 0) := by
  have hchars : lowerDigits = (List.range 16).map Nat.digitChar := rfl
  rw [hchars, List.forall_mem_map]
  intro d hd
  have hlt := List.mem_range.mp hd
  rw [(digit?_either_case d hlt).1]
  exact ⟨hlt, .inl rfl⟩

/-- Digits write a number. -/
theorem exists_writes {text : List Char} (hne : text ≠ []) (hlow : ∀ c ∈ text, c ∈ lowerDigits) :
    ∃ n, Writes 16 text n := by
  refine ⟨_, hne, text.map fun c ↦ (digit? c).getD 0, ?_, rfl⟩
  rw [List.forall₂_map_right_iff, List.forall₂_same]
  exact fun c hc ↦ denotes_of_mem c (hlow c hc)

/-- What is written is in lower case. -/
theorem mem_lowerDigits_of_mem_write {width n : Nat} (hw : 0 < width) (h : n < 16 ^ width) :
    ∀ c ∈ write 16 width n, c ∈ lowerDigits := by
  have hdigit : ∀ d < 16, Nat.digitChar d ∈ lowerDigits := by decide
  rw [write_eq_map_range (by decide) hw h, List.forall_mem_map]
  exact fun i _ ↦ hdigit _ (Nat.mod_lt _ (by decide))

/-- The digits of a number are in lower case. -/
theorem mem_lowerDigits_of_mem_toDigits {n : Nat} :
    ∀ c ∈ Nat.toDigits 16 n, c ∈ lowerDigits := by
  have hunpadded : write 16 (Nat.toDigits 16 n).length n = Nat.toDigits 16 n := by
    simp [write, List.leftpad]
  have hpos : 0 < (Nat.toDigits 16 n).length := Nat.length_toDigits_pos
  have hlt : n < 16 ^ (Nat.toDigits 16 n).length :=
    (Nat.length_toDigits_le_iff (by decide) hpos).mp (Nat.le_refl _)
  rw [← hunpadded]
  exact mem_lowerDigits_of_mem_write hpos hlt

/-- The numeral of a number is the one text of its length that writes it in lower case. -/
theorem write_eq_iff {width n : Nat} (hw : 0 < width) (h : n < 16 ^ width) {text : List Char} :
    write 16 width n = text ↔
      text.length = width ∧ (∀ c ∈ text, c ∈ lowerDigits) ∧ Writes 16 text n := by
  have hlength : (write 16 width n).length = width := by
    rw [length_write, Nat.max_eq_left]
    exact (Nat.length_toDigits_le_iff (by decide) hw).mpr h
  have hlow := mem_lowerDigits_of_mem_write hw h
  have hwrites : Writes 16 (write 16 width n) n := writes_write (by decide) (by decide) width n
  constructor
  · rintro rfl
    exact ⟨hlength, hlow, hwrites⟩
  · rintro ⟨hlen, hlow', htext⟩
    exact hwrites.unique htext (hlength.trans hlen.symm) hlow hlow'

end Numeral

end FlashPatch
