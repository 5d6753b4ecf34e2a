import PocketCalculator.NumberText

/-! Reading a number in any notation that a result is shown in. -/

namespace PocketCalculator

/-- Reads a whole number, with a minus sign in front or without. -/
def readInteger? : List Char → Option Int
  -- A sign needs at least one digit behind it.
  | '-' :: digits =>
    if !digits.isEmpty && digits.all Char.isDigit then some (-(Nat.ofDigitChars 10 digits 0 : Nat))
    else none
  | digits =>
    if !digits.isEmpty && digits.all Char.isDigit then some (Nat.ofDigitChars 10 digits 0 : Nat)
    else none

/-- Reads a numeral, which may carry a power of ten behind the mark. -/
def Decimal.ofNotation? (chars : List Char) : Option Decimal :=
  let numeral := chars.takeWhile (· ≠ 'e')
  match chars.dropWhile (· ≠ 'e') with
  -- Without the mark nothing shifts the point.
  | [] => ofNumeral? numeral
  | _ :: power => do
    let decimal ← ofNumeral? numeral
    let shift ← readInteger? power
    return ⟨decimal.digits, decimal.exponent + shift⟩

/-- Positive infinity. -/
def infinity : Float :=
  -- It is packed as such, so no division has to overflow.
  .ofModel (.pack (.infinity .positive))

/-- Reads a number without its sign. -/
def readMagnitude? (chars : List Char) : Option Float :=
  -- Infinity is a word, and every other magnitude is a decimal.
  if chars = "inf".toList then some infinity else (Decimal.ofNotation? chars).map (·.nearest)

/-- Reads a number, as the nearest double. -/
def readResult? (text : String) : Option Float :=
  match text.toList with
  -- A sign may stand in front of infinity too.
  | '-' :: magnitude => (readMagnitude? magnitude).map (-·)
  | magnitude => readMagnitude? magnitude

end PocketCalculator
