import PocketCalculator.Error

/-! The factorial of a double. -/

namespace PocketCalculator

/-- A double is whole if it has no fractional part, as infinities have none. -/
def isWhole (x : Float) : Bool :=
  match x.toModel.unpack with
  | .notANumber => false
  | .infinity _ => true
  | .zero _ => true
  -- Only a negative exponent puts bits behind the point, and all of them must be zero.
  | .finite _ significand exponent _ => significand % Nat.pow 2 (-exponent).toNat = 0

/--
Multiplies a product by one factor after another, while factors are left and the product is finite.

At most `steps` multiplications are made.
-/
def multiplyUp (last : Float) : (steps : Nat) → (factor product : Float) → Float
  | 0, _, product => product
  | steps + 1, factor, product =>
    -- An infinite product never becomes finite again.
    if factor ≤ last && product.isFinite then
      multiplyUp last steps (factor + 1) (product * factor)
    else product

/-- The multiplications that any factorial needs at most, since 171 times the factorial of 170 overflows. -/
def maxFactors : Nat :=
  -- The factors run from two, so the last of them is 171.
  170

/-- The product of the whole numbers from two up to a number, which grows beyond all bounds to infinity. -/
def factorial (n : Float) : Except CalcError Float :=
  -- What is not a number is not whole, so it is refused with the fractions.
  if n < 0 || !isWhole n then .error .factorialDomain else .ok (multiplyUp n maxFactors 2 1)

end PocketCalculator
