/-! What can go wrong while calculating or typing, and the sentence shown for it. -/

namespace PocketCalculator

/-- The reasons for which a calculation or a key press is refused. -/
inductive CalcError where
  /-- The text is not an expression. -/
  | malformed
  /-- A quotient has a zero divisor. -/
  | divisionByZero
  /-- A factorial is asked of a number that is negative, fractional or not a number. -/
  | factorialDomain
  /-- A square root is asked of a negative number. -/
  | rootDomain
  /-- A name or a character has no meaning here. -/
  | unknownToken (text : String)
  /-- The typed text has no room for more. -/
  | inputFull
  deriving DecidableEq, Repr

namespace CalcError

/-- The sentence that tells a user what went wrong. -/
def message : CalcError → String
  -- Only an unknown token is quoted, because every other reason speaks for itself.
  | malformed => "Invalid expression"
  | divisionByZero => "Cannot divide by zero"
  | factorialDomain => "Factorial is only for non-negative integers"
  | rootDomain => "Cannot take sqrt of negative number"
  | unknownToken text => "Unknown token: " ++ text
  | inputFull => "Input is full"

/-- The line that reports an error in place of a value. -/
def report (error : CalcError) : String :=
  "Error: " ++ error.message

end CalcError

end PocketCalculator
