/-! The remainder of a division of doubles that is carried to a whole quotient. -/

namespace PocketCalculator

open Float.Model (UnpackedFloat Format)

/--
What is left of the dividend after the divisor is taken away as often as it fits, with the dividend's sign.

Both numbers are multiples of the smaller of their two units, so the remainder is exact.
-/
def remainder (dividend divisor : Float) : Float :=
  match dividend.toModel.unpack, divisor.toModel.unpack with
  -- Nothing can be taken away from zero, and infinity fits into nothing finite.
  | .zero _, .finite .. => dividend
  | .zero _, .infinity _ => dividend
  | .finite .., .infinity _ => dividend
  | .finite sign significand exponent _, .finite _ significand' exponent' _ =>
    -- In their common unit the remainder is one of whole numbers.
    let unit := min exponent exponent'
    let whole := significand * Nat.pow 2 (exponent - unit).toNat
    let step := significand' * Nat.pow 2 (exponent' - unit).toNat
    .ofModel (.pack (UnpackedFloat.round Format.binary64 sign (whole % step) unit))
  -- A zero divisor and an infinite dividend leave no remainder at all.
  | _, _ => .ofModel (.pack .notANumber)

end PocketCalculator
