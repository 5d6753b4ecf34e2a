import PocketCalculator.AngleUnit
import PocketCalculator.MathFunction

/-! Functions applied to an argument. -/

namespace PocketCalculator

/-- A square root, which needs an argument that is not below zero. -/
def squareRoot (x : Float) : Except CalcError Float :=
  -- Negative zero is not below zero, and its root is itself.
  if x < 0 then .error .rootDomain else .ok x.sqrt

/--
Applies a function to its argument, where angles are taken and returned in the given unit.

A logarithm outside its domain is a value too, either infinite or not a number.
-/
def MathFunction.apply (f : MathFunction) (unit : AngleUnit) (x : Float) : Except CalcError Float :=
  match f with
  -- The argument of these three is an angle.
  | .sin => .ok (unit.toRadians x).sin
  | .cos => .ok (unit.toRadians x).cos
  | .tan => .ok (unit.toRadians x).tan
  -- The value of these three is an angle.
  | .asin => .ok (unit.ofRadians x.asin)
  | .acos => .ok (unit.ofRadians x.acos)
  | .atan => .ok (unit.ofRadians x.atan)
  -- No other function depends on the unit.
  | .log => .ok x.log10
  | .ln => .ok x.log
  | .sqrt => squareRoot x

end PocketCalculator
