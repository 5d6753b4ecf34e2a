/-! Decimal numbers as digits and a power of ten, and the doubles they stand for. -/

namespace PocketCalculator

/-- The nonnegative number `digits * 10 ^ exponent`. -/
structure Decimal where
  /-- All digits, read as one number. -/
  digits : Nat
  /-- The power of ten that places the last digit. -/
  exponent : Int
  deriving DecidableEq, Repr

namespace Decimal

/-- The double nearest to a decimal, with halfway cases going to the even significand. -/
def nearest (decimal : Decimal) : Float :=
  -- The decimal is rounded once, from its exact value.
  .ofModel (.ofScientific decimal.digits decimal.exponent)

/--
The exact decimal of `significand * 2 ^ exponent`.

A power of two below one is a power of five with as many decimal places.
-/
def ofBinary (significand : Nat) (exponent : Int) : Decimal where
  -- One of the two powers is always one, because an exponent has only one sign.
  digits := significand * Nat.pow 2 exponent.toNat * Nat.pow 5 (-exponent).toNat
  exponent := min exponent 0

/-- The digits as characters, the most significant first. -/
def numerals (decimal : Decimal) : List Char :=
  -- Zero too is written with a digit.
  Nat.toDigits 10 decimal.digits

/-- Zeros at the end move into the exponent. -/
def trimmed (decimal : Decimal) : Decimal :=
  -- Zero ends in a zero at every length, so it is left alone.
  if decimal.digits ≠ 0 ∧ decimal.digits % 10 = 0 then
    trimmed ⟨decimal.digits / 10, decimal.exponent + 1⟩
  else decimal
termination_by decimal.digits

end Decimal

end PocketCalculator
