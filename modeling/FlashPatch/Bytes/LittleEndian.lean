/-!
# Little-endian integers

A natural number as a fixed count of bytes, least significant first. Bytes beyond the significant
ones are zero, and a number too large for the count is cut to its low bytes.
-/

namespace FlashPatch.LittleEndian

/-- The lowest `width` bytes of `n`, least significant first. -/
def encode : Nat → Nat → List UInt8
  | 0, _ => []
  | width + 1, n => UInt8.ofNat n :: encode width (n / 256)

/-- The number whose base-256 digits are the bytes, least significant first. -/
def value : List UInt8 → Nat
  | [] => 0
  | b :: bs => b.toNat + 256 * value bs

/-- Encoding writes exactly the requested count of bytes. -/
@[simp] theorem length_encode (width n : Nat) : (encode width n).length = width := by
  induction width generalizing n with
  | zero => rfl
  | succ width ih => simp [encode, ih]

end FlashPatch.LittleEndian
