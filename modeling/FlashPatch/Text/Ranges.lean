/-!
# Character classes as ranges

A class of characters is a list of closed ranges of code points, ascending and apart.
-/

namespace FlashPatch

/-- Closed ranges of code points, each given by its first and last member. -/
abbrev CodeRanges := List (Nat × Nat)

namespace CodeRanges

/-- Whether one of the ranges holds the character. -/
def has (ranges : CodeRanges) (c : Char) : Bool :=
  ranges.any fun r ↦ r.1 ≤ c.toNat && c.toNat ≤ r.2

/-- A class holds a character exactly when the code point lies in one of its ranges. -/
theorem has_iff {ranges : CodeRanges} {c : Char} :
    ranges.has c = true ↔ ∃ r ∈ ranges, r.1 ≤ c.toNat ∧ c.toNat ≤ r.2 := by
  simp [has]

end CodeRanges

end FlashPatch
