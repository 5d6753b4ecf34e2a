/-! Sets of characters, written as the ranges of code points they cover. -/

namespace PocketCalculator

/-- A set of characters, as pairs of a first and a last code point. -/
abbrev CodePoints := List (Nat × Nat)

/-- Membership asks whether one of the ranges holds the character's code point. -/
def CodePoints.has (ranges : CodePoints) (c : Char) : Bool :=
  -- Both ends of a range belong to it.
  ranges.any fun (first, last) => first ≤ c.toNat && c.toNat ≤ last

/-- A character belongs to a set exactly when it lies in one of the ranges. -/
theorem CodePoints.has_iff {ranges : CodePoints} {c : Char} :
    ranges.has c ↔ ∃ range ∈ ranges, range.1 ≤ c.toNat ∧ c.toNat ≤ range.2 := by
  -- The test over the list asks the same of each range.
  simp [has]

end PocketCalculator
