import PocketCalculator.NumberText
import PocketCalculator.Operator

/-! The tokens of an expression. -/

namespace PocketCalculator

/-- The smallest meaningful pieces of an expression, and whatever else its text holds. -/
inductive Token where
  /-- A literal number, together with its sign. -/
  | number (value : Float)
  /-- A run of letters. -/
  | name (text : String)
  /-- An operator. -/
  | operator (op : Operator)
  /-- An opening parenthesis. -/
  | opening
  /-- A closing parenthesis. -/
  | closing
  /-- A character that no expression contains. -/
  | unknown (character : Char)
  deriving DecidableEq

/-- The text of a single token. -/
def Token.text : Token → String
  -- Only the spelling of a number can differ from the one that was read.
  | number value => literalText value
  | name text => text
  | operator op => op.symbol.toString
  | opening => "("
  | closing => ")"
  | unknown character => character.toString

end PocketCalculator
