/-! The operators of an expression and how tightly they bind. -/

namespace PocketCalculator

/-- Six operators stand between two operands, and the factorial follows one. -/
inductive Operator where
  /-- The sum. -/
  | add
  /-- The difference. -/
  | subtract
  /-- The product. -/
  | multiply
  /-- The quotient. -/
  | divide
  /-- What is left over by a whole quotient. -/
  | remainder
  /-- The left operand raised to the right one. -/
  | power
  /-- The product of all whole numbers up to the operand. -/
  | factorial
  deriving DecidableEq, Repr

namespace Operator

/-- All operators. -/
def all : List Operator :=
  [add, subtract, multiply, divide, remainder, power, factorial]

/-- No operator is missing from the list. -/
theorem mem_all (op : Operator) : op ∈ all := by
  -- The list names every constructor.
  cases op <;> decide

/-- The character an operator is written with. -/
def symbol : Operator → Char
  | add => '+'
  | subtract => '-'
  | multiply => '*'
  | divide => '/'
  | remainder => '%'
  | power => '^'
  | factorial => '!'

/-- The operator that a character stands for. -/
def ofChar? (c : Char) : Option Operator :=
  -- At most one operator answers, because no two share a character.
  all.find? fun op => op.symbol = c

/-- Every operator is found under its own character. -/
theorem ofChar?_symbol (op : Operator) : ofChar? op.symbol = some op := by
  -- The search meets no earlier operator with the same character.
  cases op <;> rfl

/-- A character stands for an operator exactly if that operator is written with it. -/
theorem ofChar?_eq_some_iff {c : Char} {op : Operator} : ofChar? c = some op ↔ c = op.symbol := by
  constructor
  · -- The search only returns what is written with the character.
    intro found
    have written : op.symbol = c := by simpa using List.find?_some found
    exact written.symm
  · rintro rfl
    exact ofChar?_symbol op

/-- No two operators are written with the same character. -/
theorem eq_of_symbol_eq {op other : Operator} (same : op.symbol = other.symbol) : op = other := by
  -- The character finds either of them.
  have found := ofChar?_symbol op
  rw [same, ofChar?_symbol] at found
  exact (Option.some.inj found).symm

/-- A character stands for no operator exactly if no operator is written with it. -/
theorem ofChar?_eq_none_iff {c : Char} : ofChar? c = none ↔ ∀ op : Operator, c ≠ op.symbol := by
  rw [ofChar?, List.find?_eq_none]
  constructor
  · -- The search goes through all operators, so it would have met this one.
    intro missing op written
    exact missing op (mem_all op) (by simp [written])
  · intro other op _ written
    exact other op (by simpa using (of_decide_eq_true written).symm)

/-- A higher number binds tighter. -/
def precedence : Operator → Nat
  | add | subtract => 1
  | multiply | divide | remainder => 2
  | power => 3
  -- The factorial is applied on sight, so it never competes with another operator.
  | factorial => 0

/-- Sums and differences are the loosest operators that stand between two operands. -/
theorem precedence_eq_one_iff {op : Operator} : op.precedence = 1 ↔ op = add ∨ op = subtract := by
  -- The table has one entry for each operator.
  cases op <;> decide

/-- Products, quotients and remainders come next. -/
theorem precedence_eq_two_iff {op : Operator} :
    op.precedence = 2 ↔ op = multiply ∨ op = divide ∨ op = remainder := by
  -- The table has one entry for each operator.
  cases op <;> decide

/-- A chain of powers is worked out from its right end, every other chain from its left end. -/
def groupsRight (op : Operator) : Bool :=
  op = power

/-- A binary operator stands between two operands. -/
def isBinary (op : Operator) : Bool :=
  op ≠ factorial

end Operator

end PocketCalculator
