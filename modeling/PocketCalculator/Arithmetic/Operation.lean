import PocketCalculator.Arithmetic.Factorial
import PocketCalculator.Arithmetic.Remainder
import PocketCalculator.Operator

/-! Operators at work on the operands that were met last. -/

namespace PocketCalculator

/-- A quotient, which needs a divisor other than zero. -/
def quotient (dividend divisor : Float) : Except CalcError Float :=
  -- Negative zero counts as zero.
  if divisor == 0 then .error .divisionByZero else .ok (dividend / divisor)

/-- Takes one operand off the top, or finds that the expression lacks one. -/
def takeOperand (operands : List Float) (use : Float → Except CalcError Float) :
    Except CalcError Float × List Float :=
  match operands with
  -- What is missing is an error before the other operand is looked at.
  | [] => (.error .malformed, [])
  | operand :: rest => (use operand, rest)

/--
Applies an operator to the operands it needs, the latest of which stands first and is the right one.

The operands that are left are returned too, also when the operator fails.
-/
def Operator.applyTop (op : Operator) (operands : List Float) :
    Except CalcError Float × List Float :=
  match operands with
  | [] => (.error .malformed, [])
  | right :: rest =>
    match op with
    -- The factorial needs nothing below its operand.
    | .factorial => (PocketCalculator.factorial right, rest)
    | .add => takeOperand rest fun left => .ok (left + right)
    | .subtract => takeOperand rest fun left => .ok (left - right)
    | .multiply => takeOperand rest fun left => .ok (left * right)
    | .divide => takeOperand rest fun left => quotient left right
    | .remainder => takeOperand rest fun left => .ok (PocketCalculator.remainder left right)
    | .power => takeOperand rest fun left => .ok (Float.pow left right)

end PocketCalculator
