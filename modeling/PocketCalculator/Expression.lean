import PocketCalculator.Arithmetic.Application
import PocketCalculator.Arithmetic.Operation
import PocketCalculator.Token

/-! Infix expressions as trees: how each is written, and what it is worth. -/

namespace PocketCalculator

/-- An expression, together with the parentheses it is written with. -/
inductive Expression where
  /-- A literal number. -/
  | number (value : Float)
  /-- An expression in parentheses. -/
  | group (inner : Expression)
  /-- A function that is called with an argument in parentheses. -/
  | call (f : MathFunction) (argument : Expression)
  /-- A function in front of an argument without parentheses. -/
  | applied (f : MathFunction) (argument : Expression)
  /-- An operand with the sign of the factorial behind it. -/
  | factorial (operand : Expression)
  /-- Two operands with an operator between them. -/
  | binary (op : Operator) (left right : Expression)

namespace Expression

/-- The tokens that an expression is written with, from left to right. -/
def tokens : Expression → List Token
  -- No parenthesis is added, so a tree of the grammar must bring its own.
  | number value => [.number value]
  | group inner => .opening :: inner.tokens ++ [.closing]
  | call f argument => .name f.name :: .opening :: argument.tokens ++ [.closing]
  | applied f argument => .name f.name :: argument.tokens
  | factorial operand => operand.tokens ++ [.operator .factorial]
  | binary op left right => left.tokens ++ .operator op :: right.tokens

/--
The value of an expression, which is that of its outermost operator on the values of its operands.

The left operand comes before the right one, so the first error in this order is the one that counts.
-/
def value (unit : AngleUnit) : Expression → Except CalcError Float
  | number value => .ok value
  -- Parentheses have no value of their own.
  | group inner => inner.value unit
  | call f argument => do f.apply unit (← argument.value unit)
  | applied f argument => do f.apply unit (← argument.value unit)
  | factorial operand => do (Operator.factorial.applyTop [← operand.value unit]).1
  -- Both operands are worked out before the operator can object to either.
  | binary op left right => do
    let leftValue ← left.value unit
    let rightValue ← right.value unit
    (op.applyTop [rightValue, leftValue]).1

/-- The levels of the grammar, from the loosest to the tightest. -/
inductive Level where
  /-- Sums and differences. -/
  | sum
  /-- Products, quotients and remainders. -/
  | product
  /-- Powers. -/
  | power
  /-- Functions in front of an argument without parentheses. -/
  | application
  /-- Factorials. -/
  | factor
  /-- Numbers, groups and calls. -/
  | primary
  deriving DecidableEq, Repr

/-- The expressions of a level, which hold looser ones only in parentheses. -/
inductive AtLevel : Level → Expression → Prop where
  /-- Sums chain to the left. -/
  | sum {op : Operator} {left right : Expression} (loosest : op = .add ∨ op = .subtract)
      (first : AtLevel .sum left) (second : AtLevel .product right) :
      AtLevel .sum (.binary op left right)
  /-- A product is a sum of one term. -/
  | sumOfProduct {e : Expression} (inner : AtLevel .product e) : AtLevel .sum e
  /-- Products chain to the left. -/
  | product {op : Operator} {left right : Expression}
      (middle : op = .multiply ∨ op = .divide ∨ op = .remainder)
      (first : AtLevel .product left) (second : AtLevel .power right) :
      AtLevel .product (.binary op left right)
  /-- A power is a product of one factor. -/
  | productOfPower {e : Expression} (inner : AtLevel .power e) : AtLevel .product e
  /-- Powers chain to the right. -/
  | power {base exponent : Expression} (first : AtLevel .application base)
      (second : AtLevel .power exponent) : AtLevel .power (.binary .power base exponent)
  /-- An application is a power without an exponent. -/
  | powerOfApplication {e : Expression} (inner : AtLevel .application e) : AtLevel .power e
  /-- A function applies to what follows it, unless a parenthesis makes it a call. -/
  | applied {f : MathFunction} {argument : Expression} (inner : AtLevel .application argument)
      (bare : argument.tokens.head? ≠ some .opening) : AtLevel .application (.applied f argument)
  /-- A factor is an application without a function. -/
  | applicationOfFactor {e : Expression} (inner : AtLevel .factor e) : AtLevel .application e
  /-- Factorials chain at the end. -/
  | factorial {operand : Expression} (inner : AtLevel .factor operand) :
      AtLevel .factor (.factorial operand)
  /-- A primary is a factor without a factorial. -/
  | factorOfPrimary {e : Expression} (inner : AtLevel .primary e) : AtLevel .factor e
  /-- A number stands for itself. -/
  | number {value : Float} : AtLevel .primary (.number value)
  /-- Parentheses admit any sum. -/
  | group {inner : Expression} (content : AtLevel .sum inner) : AtLevel .primary (.group inner)
  /-- A call admits any sum as its argument. -/
  | call {f : MathFunction} {argument : Expression} (content : AtLevel .sum argument) :
      AtLevel .primary (.call f argument)

end Expression

end PocketCalculator
