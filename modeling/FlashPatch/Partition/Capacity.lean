/-!
# Partition capacity

Whether a header and its payload fit into the partition that will hold them.
-/

namespace FlashPatch.Partition

/-- Whether the payload fits into what the header leaves of the capacity. A partition smaller than
the header holds nothing, not even an empty payload. -/
def fits (payloadSize : UInt64) (headerSize : Nat) (capacity : UInt64) : Bool :=
  headerSize ≤ capacity.toNat && payloadSize.toNat ≤ capacity.toNat - headerSize

/-- A patch fits exactly when header and payload together are at most the capacity. -/
theorem fits_iff {payloadSize capacity : UInt64} {headerSize : Nat} :
    fits payloadSize headerSize capacity = true ↔
      headerSize + payloadSize.toNat ≤ capacity.toNat := by
  simp only [fits, Bool.and_eq_true, decide_eq_true_eq]
  omega

end FlashPatch.Partition
