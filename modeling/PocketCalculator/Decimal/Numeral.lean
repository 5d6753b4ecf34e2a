import PocketCalculator.Decimal

/-! How a decimal is written, with a point or with a power of ten, and how it is read. -/

namespace PocketCalculator

namespace Decimal

/-- The plain notation, with as many zeros as the point needs and none after the last digit. -/
def positional (decimal : Decimal) : List Char :=
  let numerals := decimal.numerals
  if 0 ≤ decimal.exponent then
    -- A whole number has no point.
    numerals ++ List.replicate decimal.exponent.toNat '0'
  else
    let places := (-decimal.exponent).toNat
    -- At least one digit stands before the point.
    let padded := List.replicate (places + 1 - numerals.length) '0' ++ numerals
    padded.take (padded.length - places) ++ '.' :: padded.drop (padded.length - places)

/-- The notation with one digit before the point and a power of ten after the mark. -/
def scientific (decimal : Decimal) : List Char :=
  let numerals := decimal.numerals
  -- The power belongs to the first digit, and the exponent to the last one.
  let power := decimal.exponent + (numerals.length - 1 : Nat)
  -- A single digit needs no point.
  let fraction := if numerals.length ≤ 1 then [] else '.' :: numerals.drop 1
  numerals.take 1 ++ fraction ++ 'e' :: (toString power).toList

/-- A numeral is made of these characters. -/
def isNumeral (c : Char) : Bool :=
  -- Signs and marks of a power are no part of it.
  c.isDigit || c = '.'

/--
Reads a numeral, which has at least one digit and at most one point.

The point may stand first or last.
-/
def ofNumeral? (chars : List Char) : Option Decimal :=
  let whole := chars.takeWhile Char.isDigit
  match chars.dropWhile Char.isDigit with
  -- Without a point all digits are whole.
  | [] => if whole.isEmpty then none else some ⟨Nat.ofDigitChars 10 whole 0, 0⟩
  | point :: fraction =>
    -- Behind the point only digits may follow, and one digit must stand on either side.
    if point = '.' && fraction.all Char.isDigit && !(whole ++ fraction).isEmpty then
      some ⟨Nat.ofDigitChars 10 (whole ++ fraction) 0, -fraction.length⟩
    else none

end Decimal

end PocketCalculator
