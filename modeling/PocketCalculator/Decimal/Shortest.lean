import PocketCalculator.Decimal

/-! The fewest digits that still name a given double. -/

namespace PocketCalculator

namespace Decimal

/--
The two decimals that enclose a number once its last `places` digits are cut off, the nearer first.

Of two equally near ones the larger comes first.
-/
def neighbours (decimal : Decimal) (places : Nat) : List Decimal :=
  let unit := Nat.pow 10 places
  let below : Decimal := ⟨decimal.digits / unit, decimal.exponent + places⟩
  let above : Decimal := ⟨decimal.digits / unit + 1, decimal.exponent + places⟩
  -- Only the digits that are cut off decide which of the two is nearer.
  if 2 * (decimal.digits % unit) < unit then [below, above] else [above, below]

/-- The digits that any double needs at most. -/
def maxDigits : Nat :=
  -- With this many digits, decimals lie closer together than doubles everywhere.
  17

/--
The decimal with the fewest digits whose nearest double is the given one, which `exact` equals.

Of two with equally few digits it is the one closer to the exact value.
-/
def shortest (value : Float) (exact : Decimal) : Decimal :=
  let width := exact.numerals.length
  -- Of all decimals of one length, these two lie closest.
  let withDigits := fun count => (exact.neighbours (width - count)).find? (·.nearest = value)
  -- The last digit may turn out to be a zero when a neighbour carries into the next place.
  (((List.range' 1 maxDigits).findSome? withDigits).getD exact).trimmed

end Decimal

end PocketCalculator
