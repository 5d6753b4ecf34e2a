import PocketCalculator.Arithmetic.Application
import PocketCalculator.Arithmetic.Operation

/-! What operators and functions take off the operands, and which errors they can raise. -/

namespace PocketCalculator

private theorem quotient_ne_malformed (dividend divisor : Float) :
    quotient dividend divisor ≠ .error .malformed := by
  -- The only error of a quotient names the zero divisor.
  unfold quotient
  split <;> simp

private theorem factorial_ne_malformed (n : Float) : factorial n ≠ .error .malformed := by
  -- The only error of a factorial names the operand outside its domain.
  unfold factorial
  split <;> simp

private theorem squareRoot_ne_malformed (x : Float) : squareRoot x ≠ .error .malformed := by
  -- The only error of a root names the negative argument.
  unfold squareRoot
  split <;> simp

namespace Operator

/-- How many operands an operator takes. -/
def arity (op : Operator) : Nat :=
  -- Only the factorial makes do with one.
  if op.isBinary then 2 else 1

/-- A binary operator takes two operands. -/
theorem arity_of_isBinary {op : Operator} (binary : op.isBinary) : op.arity = 2 := by
  -- The arity is read off the table of binary operators.
  simp [arity, binary]

/-- The factorial is the one operator that is not binary. -/
theorem isBinary_iff {op : Operator} : op.isBinary ↔ op ≠ .factorial := by
  -- The table of binary operators leaves out the factorial and nothing else.
  simp [isBinary]

/-- An operator reads and removes the operands that it takes, and leaves all others as they were. -/
theorem applyTop_eq (op : Operator) (operands : List Float) :
    op.applyTop operands
      = ((op.applyTop (operands.take op.arity)).1, operands.drop op.arity) := by
  -- Two operands show everything that any operator looks at.
  rcases operands with _ | ⟨right, _ | ⟨left, rest⟩⟩ <;> cases op <;> rfl

/-- A binary operator has the same outcome on any two operands, whatever lies below them. -/
theorem applyTop_pair {op : Operator} (binary : op.isBinary) (right left : Float)
    (rest : List Float) :
    op.applyTop (right :: left :: rest) = ((op.applyTop [right, left]).1, rest) := by
  -- A binary operator takes two operands off the stack, so the rest is what it leaves behind.
  rw [applyTop_eq, arity_of_isBinary binary]
  rfl

/-- An operator is malformed exactly where it lacks an operand. -/
theorem applyTop_eq_malformed_iff (op : Operator) (operands : List Float) :
    (op.applyTop operands).1 = .error .malformed ↔ operands.length < op.arity := by
  -- A domain error is another one, and with all operands in place there is no third outcome.
  rcases operands with _ | ⟨right, _ | ⟨left, rest⟩⟩ <;> cases op <;>
    simp [applyTop, takeOperand, arity, isBinary, quotient_ne_malformed, factorial_ne_malformed]

end Operator

/-- No function is malformed, whatever its argument is. -/
theorem MathFunction.apply_ne_malformed (f : MathFunction) (unit : AngleUnit) (x : Float) :
    f.apply unit x ≠ .error .malformed := by
  -- All functions but the root have a value everywhere.
  cases f <;> simp [MathFunction.apply, squareRoot_ne_malformed]

end PocketCalculator
