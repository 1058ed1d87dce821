import FlashPatch.Bytes.LittleEndian
import Mathlib.Algebra.Group.Nat.Defs

/-!
# Laws of little-endian integers

Joining byte sequences adds their values at their weights, bytes and values determine each other at
every width, and the bytes beyond a number are zero.
-/

namespace FlashPatch.LittleEndian

/-- Reading back gives the number modulo what the width can hold. -/
theorem value_encode (width n : Nat) : value (encode width n) = n % 256 ^ width := by
  induction width generalizing n with
  | zero => simp [encode, value, Nat.mod_one]
  | succ width ih =>
    have low : (UInt8.ofNat n).toNat = n % 256 := UInt8.toNat_ofNat'
    rw [encode, value, ih, low, Nat.pow_succ', Nat.mod_mul]

/-- A number of `w` bytes is below `256 ^ w`. -/
theorem value_lt (bs : List UInt8) : value bs < 256 ^ bs.length := by
  induction bs with
  | nil => simp [value]
  | cons b bs ih =>
    have := b.toNat_lt
    simp only [value, List.length_cons, Nat.pow_succ']
    omega

/-- What stands behind some bytes counts with their weight. -/
theorem value_append (front back : List UInt8) :
    value (front ++ back) = value front + 256 ^ front.length * value back := by
  induction front with
  | nil => simp [value]
  | cons b front ih =>
    rw [List.cons_append, value, value, ih, List.length_cons, Nat.pow_succ', Nat.mul_add,
      Nat.mul_assoc, Nat.add_assoc]

/-- Bytes have no value only if all of them are zero. -/
theorem value_eq_zero_iff {bytes : List UInt8} :
    value bytes = 0 ↔ bytes.all (· == 0) = true := by
  induction bytes with
  | nil => simp [value]
  | cons b bytes ih =>
    have hb : b.toNat = 0 ↔ b = 0 := by rw [← UInt8.toNat_inj]; rfl
    rw [value, List.all_cons, Bool.and_eq_true, beq_iff_eq, ← ih, ← hb]
    omega

/-- The low bytes come first, and the high bytes are those of the quotient. -/
theorem encode_add (low high n : Nat) :
    encode (low + high) n = encode low n ++ encode high (n / 256 ^ low) := by
  induction low generalizing n with
  | zero => simp [encode]
  | succ low ih =>
    rw [Nat.succ_add, encode, encode, ih, List.cons_append, Nat.div_div_eq_div_mul, Nat.pow_succ']

/-- The first bytes of a field are the field of their width. -/
theorem take_encode {width count : Nat} (n : Nat) (h : count ≤ width) :
    (encode width n).take count = encode count n := by
  have hsplit : encode width n = encode count n ++ encode (width - count) (n / 256 ^ count) := by
    rw [← encode_add, Nat.add_sub_cancel' h]
  rw [hsplit]
  exact List.take_left' (length_encode count n)

/-- Zero is written as zero bytes. -/
theorem encode_zero_value (width : Nat) : encode width 0 = List.replicate width 0 := by
  induction width with
  | zero => rfl
  | succ width ih => rw [encode, Nat.zero_div, ih, List.replicate_succ]; rfl

/-- A field wider than its number is filled with zero bytes. -/
theorem encode_add_of_lt {width n : Nat} (extra : Nat) (h : n < 256 ^ width) :
    encode (width + extra) n = encode width n ++ List.replicate extra 0 := by
  rw [encode_add, Nat.div_eq_of_lt h, encode_zero_value]

/-- A number that fits its field is read back. -/
theorem value_encode_of_lt {width n : Nat} (h : n < 256 ^ width) : value (encode width n) = n := by
  rw [value_encode, Nat.mod_eq_of_lt h]

/-- Bytes are the encoding of their value. -/
theorem encode_value (bytes : List UInt8) : encode bytes.length (value bytes) = bytes := by
  induction bytes with
  | nil => rfl
  | cons b bytes ih =>
    have low : UInt8.ofNat (b.toNat + 256 * value bytes) = b := by
      rw [← UInt8.toNat_inj, UInt8.toNat_ofNat', Nat.add_mul_mod_self_left]
      exact Nat.mod_eq_of_lt b.toNat_lt
    have high : (b.toNat + 256 * value bytes) / 256 = value bytes := by
      have := b.toNat_lt
      omega
    rw [List.length_cons, value, encode, low, high, ih]

/-- A field holds given bytes exactly if its number has their value at the field's width. -/
theorem encode_eq_iff {width n : Nat} {bytes : List UInt8} (h : bytes.length = width) :
    encode width n = bytes ↔ n % 256 ^ width = value bytes := by
  constructor
  · intro he
    rw [← he, value_encode]
  · intro hv
    have hr : value (encode width n) = value bytes := by rw [value_encode, hv]
    calc encode width n = encode (encode width n).length (value (encode width n)) :=
          (encode_value _).symm
      _ = encode bytes.length (value bytes) := by rw [length_encode, hr, h]
      _ = bytes := encode_value bytes

end FlashPatch.LittleEndian
