import PocketCalculator.Token

/-! Tokens that stand side by side, and whether two operands meet there. -/

namespace PocketCalculator

namespace Token

/-- An operand is complete behind this token. -/
def endsOperand : Token → Bool
  -- A name lacks its argument, so no operand ends with it.
  | number _ => true
  | closing => true
  | operator op => op = .factorial
  | _ => false

/-- An operand can begin with this token. -/
def beginsOperand : Token → Bool
  -- No operator stands in front of its only operand.
  | number _ => true
  | name _ => true
  | opening => true
  | _ => false

/-- No operand directly follows another one. -/
def Separated (tokens : List Token) : Prop :=
  -- Only neighbours matter, and each pair of them is an infix.
  ∀ token next, [token, next] <:+: tokens → ¬(token.endsOperand ∧ next.beginsOperand)

end Token

end PocketCalculator
