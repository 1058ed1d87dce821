import FlashPatch.Proofs.Header.Layout
import FlashPatch.Report.Basic

/-!
# Capacity and total length

Whether a patch fits is found without a sum, and the sum of header and payload may pass 64 bits.
Both agree with the sum of natural numbers, so a patch fits exactly if its total is a 64-bit number
and at most the capacity.
-/

namespace FlashPatch

/-! ## Sums that may pass 64 bits -/

private theorem checked_eq_some_iff {n : Nat} {word : UInt64} :
    (if n < UInt64.size then some (UInt64.ofNat n) else none) = some word ↔ word.toNat = n := by
  constructor
  · intro h
    split at h
    · next hlt =>
      rw [← Option.some.inj h]
      exact UInt64.toNat_ofNat_of_lt' hlt
    · simp at h
  · rintro rfl
    rw [if_pos word.toNat_lt, UInt64.ofNat_toNat]

private theorem checked_eq_none_iff {n : Nat} :
    (if n < UInt64.size then some (UInt64.ofNat n) else none) = none ↔ 2 ^ 64 ≤ n := by
  simp only [ite_eq_right_iff, reduceCtorEq, imp_false]
  exact Nat.not_lt

/-- The end of the payload is the sum of both lengths, if it is a 64-bit number. -/
theorem Header.endOffset?_eq_some_iff {header : Header} {offset : UInt64} :
    header.endOffset? = some offset ↔ offset.toNat = header.size + header.payloadSize.toNat :=
  checked_eq_some_iff

/-- There is no end of the payload where the sum of both lengths passes 64 bits. -/
theorem Header.endOffset?_eq_none_iff {header : Header} :
    header.endOffset? = none ↔ 2 ^ 64 ≤ header.size + header.payloadSize.toNat :=
  checked_eq_none_iff

namespace Report

variable {report : Report}

/-- The total is the sum of both lengths, if it is a 64-bit number. -/
theorem totalSize?_eq_some_iff {total : UInt64} :
    report.totalSize? = some total ↔
      total.toNat = report.headerSize.toNat + report.payloadSize.toNat :=
  checked_eq_some_iff

/-- There is no total where the sum of both lengths passes 64 bits. -/
theorem totalSize?_eq_none_iff :
    report.totalSize? = none ↔
      2 ^ 64 ≤ report.headerSize.toNat + report.payloadSize.toNat :=
  checked_eq_none_iff

/-- Both lengths are together at most a number of 64 bits exactly if they have a total that is. -/
theorem exists_totalSize?_le_iff {bound : UInt64} :
    (∃ total, report.totalSize? = some total ∧ total ≤ bound) ↔
      report.headerSize.toNat + report.payloadSize.toNat ≤ bound.toNat := by
  simp only [totalSize?_eq_some_iff, UInt64.le_iff_toNat_le]
  constructor
  · rintro ⟨total, htotal, hle⟩
    omega
  · intro hle
    have hlt : report.headerSize.toNat + report.payloadSize.toNat < UInt64.size :=
      Nat.lt_of_le_of_lt hle bound.toNat_lt
    refine ⟨UInt64.ofNat _, UInt64.toNat_ofNat_of_lt' hlt, ?_⟩
    rwa [UInt64.toNat_ofNat_of_lt' hlt]

/-- Both lengths are together more than a number of 64 bits exactly if they have no total or one
that is. -/
theorem totalSize?_eq_none_or_lt_iff {bound : UInt64} :
    (report.totalSize? = none ∨ ∃ total, report.totalSize? = some total ∧ bound < total) ↔
      bound.toNat < report.headerSize.toNat + report.payloadSize.toNat := by
  simp only [totalSize?_eq_none_iff, totalSize?_eq_some_iff, UInt64.lt_iff_toNat_lt]
  have := bound.toNat_lt
  constructor
  · rintro (hpast | ⟨total, htotal, hlt⟩)
    · omega
    · omega
  · intro hlt
    rcases Nat.lt_or_ge (report.headerSize.toNat + report.payloadSize.toNat) UInt64.size with h | h
    · have htotal := UInt64.toNat_ofNat_of_lt' h
      exact .inr ⟨UInt64.ofNat _, htotal, by rwa [htotal]⟩
    · exact .inl h

/-- The report on a written header has its length, as a number of 64 bits. -/
theorem headerSize_ofHeader {format : Format} {payloadSize : UInt64} {requested : Int64}
    {capacity : UInt64} {encoded : EncodedHeader}
    (h : Header.encode format payloadSize requested capacity = .ok encoded)
    (reportedSize reportedCapacity : UInt64) :
    (ofHeader encoded reportedSize reportedCapacity).headerSize.toNat = encoded.bytes.length := by
  apply UInt64.toNat_ofNat_of_lt'
  exact Nat.lt_trans (Format.headerLength_lt (Header.headerLength_of_encode h)) (by decide)

end Report

/-! ## Verdicts -/

namespace Partition

/-- A written header comes with the verdict on its own length. -/
theorem fits_of_encode {format : Format} {payloadSize : UInt64} {requested : Int64}
    {capacity : UInt64} {encoded : EncodedHeader}
    (h : Header.encode format payloadSize requested capacity = .ok encoded) :
    encoded.fits = fits payloadSize encoded.bytes.length capacity := by
  have hl := Header.headerLength_of_encode h
  obtain ⟨length, field, hlength, -, rfl⟩ := Header.encode_eq_ok_iff.mp h
  rw [Except.ok.inj (hl.symm.trans hlength)]

/-- The verdict on a written header, which its report repeats, is that of the natural numbers: the
header as it was written and the payload are together at most the capacity. So a patch that fits has
a total of 64 bits that is at most the capacity, and one that does not fit has a total beyond it or
none. For all lengths the verdict is that of the sum, and it is kept by a larger capacity, a
shorter payload and a shorter header. -/
theorem fits_exact :
    (∀ {format : Format} {payloadSize : UInt64} {requested : Int64} {capacity : UInt64}
      {encoded : EncodedHeader},
      Header.encode format payloadSize requested capacity = .ok encoded →
      let report := Report.ofHeader encoded payloadSize capacity
      report.headerSize.toNat = encoded.bytes.length ∧ encoded.fits = report.fits ∧
      (report.fits = true ↔
        report.headerSize.toNat + payloadSize.toNat ≤ capacity.toNat) ∧
      (report.fits = true → ∃ total, report.totalSize? = some total ∧ total ≤ capacity) ∧
      (report.fits = false → report.totalSize? = none ∨
        ∃ total, report.totalSize? = some total ∧ capacity < total)) ∧
    (∀ (payloadSize : UInt64) (headerSize : Nat) (capacity : UInt64),
      fits payloadSize headerSize capacity = true ↔
        payloadSize.toNat + headerSize ≤ capacity.toNat) ∧
    ∀ {payloadSize smallerPayload : UInt64} {headerSize smallerHeader : Nat}
      {capacity largerCapacity : UInt64}, smallerPayload ≤ payloadSize →
      smallerHeader ≤ headerSize → capacity ≤ largerCapacity →
      fits payloadSize headerSize capacity = true →
        fits smallerPayload smallerHeader largerCapacity = true := by
  refine ⟨?written, ?sum, ?kept⟩
  case written =>
    intro format payloadSize requested capacity encoded h report
    have hsize : report.headerSize.toNat = encoded.bytes.length := Report.headerSize_ofHeader h _ _
    have hfits : report.fits = true ↔
        report.headerSize.toNat + payloadSize.toNat ≤ capacity.toNat := by
      rw [hsize, ← fits_iff, ← fits_of_encode h]
      rfl
    refine ⟨hsize, rfl, hfits, ?_, ?_⟩
    · intro hyes
      exact Report.exists_totalSize?_le_iff.mpr (hfits.mp hyes)
    · intro hno
      have hmore : ¬report.headerSize.toNat + payloadSize.toNat ≤ capacity.toNat := by
        rw [← hfits, hno]
        decide
      exact Report.totalSize?_eq_none_or_lt_iff.mpr (Nat.not_le.mp hmore)
  case sum =>
    intro payloadSize headerSize capacity
    rw [fits_iff, Nat.add_comm]
  case kept =>
    intro payloadSize smallerPayload headerSize smallerHeader capacity largerCapacity hp hh hc hfits
    rw [fits_iff] at hfits ⊢
    rw [UInt64.le_iff_toNat_le] at hp hc
    omega

/-- The largest payload has no total behind any header. A capacity below the header holds not even
an empty payload, and a request of five gives a header of eight bytes, for which 108 is just
enough. -/
theorem fits_exact_at_bounds :
    let magic := "NEWP".toList.map Char.toUInt8
    let full : EncodedHeader := ⟨.binary, magic ++ List.replicate 8 255, false⟩
    let empty : EncodedHeader := ⟨.binary, magic ++ [0, 0, 0, 0], false⟩
    let tight : EncodedHeader := ⟨.binary, magic ++ [100, 0, 0, 0], true⟩
    (Header.encode .binary 0xffffffffffffffff 12 0xffffffffffffffff = .ok full ∧
      (Report.ofHeader full 0xffffffffffffffff 0xffffffffffffffff).totalSize? = none) ∧
    (Header.encode .binary 0 5 7 = .ok empty ∧
      ∃ total, (Report.ofHeader empty 0 7).totalSize? = some total ∧ 7 < total) ∧
    (Header.encode .binary 100 5 108 = .ok tight ∧
      ∃ total, (Report.ofHeader tight 100 108).totalSize? = some total ∧ total ≤ 108) ∧
    fits 99 8 109 = true := by
  intro magic full empty tight
  have hfull : Header.encode .binary 0xffffffffffffffff 12 0xffffffffffffffff = .ok full := rfl
  have hempty : Header.encode .binary 0 5 7 = .ok empty := rfl
  have htight : Header.encode .binary 100 5 108 = .ok tight := rfl
  obtain ⟨hwritten, -, hkept⟩ := fits_exact
  refine ⟨⟨hfull, ?_⟩, ⟨hempty, ?_⟩, ⟨htight, ?_⟩, ?_⟩
  · rcases (hwritten hfull).2.2.2.2 rfl with hnone | ⟨total, -, hlt⟩
    · exact hnone
    · rw [UInt64.lt_iff_toNat_lt] at hlt
      exact absurd (Nat.lt_of_le_of_lt hlt total.toNat_lt) (Nat.lt_irrefl _)
  · rcases (hwritten hempty).2.2.2.2 rfl with hnone | htotal
    · cases hnone
    · exact htotal
  · exact (hwritten htight).2.2.2.1 rfl
  · exact hkept (by decide : (99 : UInt64) ≤ 100) (Nat.le_refl 8) (by decide : (108 : UInt64) ≤ 109)
      rfl

end Partition

end FlashPatch
