import PocketCalculator.Decimal.Numeral
import PocketCalculator.Decimal.Shortest

/-! The text of a double, as a result and as a literal, and the double of a literal. -/

namespace PocketCalculator

open Float.Model (UnpackedFloat)

/-- The mark in front of a number of the given sign. -/
def signMark : UnpackedFloat.Sign → List Char
  -- No plus sign is ever written.
  | .negative => ['-']
  | .positive => []

/-- The text of a double whose shortest digits are laid out in the given way. -/
def signedText (layout : Decimal → List Char) (x : Float) : List Char :=
  match x.toModel.unpack with
  -- What is not a number has no sign either.
  | .notANumber => "NaN".toList
  | .infinity sign => signMark sign ++ "inf".toList
  -- Negative zero keeps its sign.
  | .zero sign => signMark sign ++ ['0']
  -- The digits are those of the magnitude, so the sign stands apart from them.
  | .finite sign significand exponent _ =>
    signMark sign ++ layout (Decimal.shortest x.abs (Decimal.ofBinary significand exponent))

/-- A literal is always written in plain notation. -/
def literalText (x : Float) : String :=
  -- However large or small it is, no power of ten is split off.
  String.ofList (signedText Decimal.positional x)

/-- The part of a double before the point, held within the signed 64-bit integers. -/
def wholePart (x : Float) : Int64 :=
  -- Numbers out of range stop at its ends, and what is not a number has the part zero.
  x.toModel.toInt64

/-- The double nearest to an integer. -/
def ofWhole (n : Int64) : Float :=
  -- Integers beyond the precision of a double are rounded.
  .ofModel (.ofInt64 n)

/-- Plain notation serves the numbers from a ten-thousandth up to ten to the sixteenth. -/
def readsPlainly (x : Float) : Bool :=
  -- The lower end belongs to the range, and the upper end does not.
  1e-4 ≤ x.abs && x.abs < 1e16

/-- A result that equals its whole part is written as an integer, any other with its shortest digits. -/
def resultText (x : Float) : String :=
  -- The comparison takes negative zero for zero, whose text is without a sign.
  if x == ofWhole (wholePart x) then toString (wholePart x).toInt
  else String.ofList
    (signedText (if readsPlainly x then Decimal.positional else Decimal.scientific) x)

/-- A literal is a numeral, with a minus sign in front or without. -/
def readLiteral? : List Char → Option Float
  -- The sign is applied to the double, so a zero can be negative.
  | '-' :: numeral => (Decimal.ofNumeral? numeral).map (-·.nearest)
  | numeral => (Decimal.ofNumeral? numeral).map (·.nearest)

end PocketCalculator
