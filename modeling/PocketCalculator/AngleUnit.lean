/-! The unit in which angles are given and returned. -/

namespace PocketCalculator

/-- Angles are counted in degrees or in radians. -/
inductive AngleUnit where
  /-- A full turn is 360. -/
  | degrees
  /-- A full turn is twice the circle constant. -/
  | radians
  deriving DecidableEq, Repr

/-- A calculator that is told nothing else works in degrees. -/
instance : Inhabited AngleUnit := ⟨.degrees⟩

/-- The double nearest to the ratio of a circle's circumference to its diameter. -/
def circleConstant : Float := 3.141592653589793

namespace AngleUnit

/-- The short name of a unit. -/
def abbreviation : AngleUnit → String
  | degrees => "deg"
  | radians => "rad"

/-- An angle in this unit, turned into radians. -/
def toRadians (unit : AngleUnit) (angle : Float) : Float :=
  match unit with
  -- The factor is rounded once by itself, before the angle is multiplied by it.
  | degrees => angle * (circleConstant / 180)
  | radians => angle

/-- An angle in radians, turned into this unit. -/
def ofRadians (unit : AngleUnit) (angle : Float) : Float :=
  match unit with
  -- This factor too is rounded by itself, so it is not quite the inverse of the other.
  | degrees => angle * (180 / circleConstant)
  | radians => angle

end AngleUnit

end PocketCalculator
