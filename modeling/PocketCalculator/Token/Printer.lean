import PocketCalculator.Token.Lexer

/-! Writing tokens as a text that reads as the same tokens. -/

namespace PocketCalculator

namespace Token

/-- An operand is expected in front of everything else, in parentheses and behind a binary operator. -/
def expectsOperand : Option Token → Bool
  -- Behind a factorial the operand is complete, so it is not among these operators.
  | none => true
  | some opening => true
  | some (operator op) => op ∈ [.add, .subtract, .multiply, .divide, .remainder, .power]
  | some _ => false

/-- The places where an operand is expected are those where reading takes a minus for a sign. -/
theorem expectsOperand_eq (previous : Option Token) :
    expectsOperand previous = operandDue previous := by
  rcases previous with _ | _ | _ | op | _ | _ | _
  -- Beside the operators both go through the same cases.
  case some.operator => cases op <;> rfl
  all_goals rfl

/-- A space keeps runs apart, and keeps a minus from being a sign. -/
def spaceBefore : Option Token → Token → Bool
  -- Two runs of one kind would read as one.
  | some (number _), number _ => true
  | some (name _), name _ => true
  -- A subtraction where an operand is due would read as a sign.
  | previous, operator .subtract => expectsOperand previous
  | _, _ => false

/-- The text of tokens that follow a given one. -/
def printAfter (previous : Option Token) : List Token → String
  | [] => ""
  | token :: tokens =>
    -- One space is as good as many.
    (if spaceBefore previous token then " " else "") ++ token.text
      ++ printAfter (some token) tokens

/-- The text of a list of tokens, with no more spaces than it needs. -/
def print (tokens : List Token) : String :=
  -- A subtraction in front is set off as well.
  printAfter none tokens

/-- A double with a minus sign, as negative zero has too. -/
def isSigned (x : Float) : Bool :=
  -- The sign is the highest of the 64 bits.
  x.toBits.toNat.testBit 63

/-- Whether a text can give a token in its place. -/
def isReadable (previous : Option Token) : Token → Bool
  -- A sign is part of a literal only where an operand is due.
  | number value => value.isFinite && (!isSigned value || expectsOperand previous)
  -- A name has at least one letter and nothing else.
  | name text => !text.isEmpty && text.toList.all isLetter
  | operator _ => true
  | opening => true
  | closing => true
  -- A character with a meaning never stays unknown.
  | unknown c =>
    !isBlank c && !isLetter c && !Decimal.isNumeral c
      && c ∉ ['(', ')', '+', '-', '*', '/', '%', '^', '!']

/-- Whether a text can give these tokens behind a given one. -/
def readableAfter (previous : Option Token) : List Token → Bool
  | [] => true
  | token :: tokens => isReadable previous token && readableAfter (some token) tokens

/-- Whether a text can give these tokens. -/
def readable (tokens : List Token) : Bool :=
  readableAfter none tokens

end Token

end PocketCalculator
