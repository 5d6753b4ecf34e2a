import PocketCalculator.Stacks
import PocketCalculator.Token.Lexer

/-! The value of an expression. -/

namespace PocketCalculator

/-- The value of a list of tokens, which are taken in one after another. -/
def evaluateTokens (unit : AngleUnit) (tokens : List Token) : Except CalcError Float := do
  -- The first token that fails ends the reading.
  let state ← tokens.foldlM (Stacks.feed unit) Stacks.empty
  state.finish unit

/-- The value of a text, all of which is read before any of it is worked out. -/
def evaluate (unit : AngleUnit) (text : String) : Except CalcError Float := do
  -- A text without tokens is malformed like any other without an operand.
  let tokens ← Token.ofText text
  evaluateTokens unit tokens

/-- The line that answers an expression with its value or with what went wrong. -/
def answer (unit : AngleUnit) (text : String) : String :=
  -- Either line stands for the expression by itself.
  match evaluate unit text with
  | .ok value => resultText value
  | .error error => error.report

end PocketCalculator
