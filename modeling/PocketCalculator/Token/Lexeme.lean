import PocketCalculator.Token.Lexer

/-! The tokens of a text, told apart by its characters alone. -/

namespace PocketCalculator

/-- A piece of a text, before anything is made of it. -/
inductive Lexeme where
  /-- A run of digits and points, perhaps with a sign. -/
  | literal (chars : List Char)
  /-- A run of letters. -/
  | name (chars : List Char)
  /-- Any other character that is not blank. -/
  | symbol (character : Char)
  deriving DecidableEq

namespace Lexeme

/-- At the start, after an opening parenthesis and after a binary operator a minus is a sign. -/
def signDue : Option Char → Bool
  -- A blank is none of these characters, so it makes the minus an operator.
  | none => true
  | some c => c ∈ ['(', '+', '-', '*', '/', '%', '^']

/-- The pieces of a text that follows a given character. -/
def ofCharsAfter (previous : Option Char) : List Char → List Lexeme
  | [] => []
  | c :: rest =>
    -- A blank belongs to no piece.
    if isBlank c then ofCharsAfter (some c) rest
    else if Decimal.isNumeral c || (c = '-' && signDue previous) then
      -- The last character of the run is the one that precedes what follows.
      let run := c :: rest.takeWhile Decimal.isNumeral
      literal run :: ofCharsAfter run.getLast? (rest.dropWhile Decimal.isNumeral)
    else if isLetter c then
      let run := c :: rest.takeWhile isLetter
      name run :: ofCharsAfter run.getLast? (rest.dropWhile isLetter)
    else symbol c :: ofCharsAfter (some c) rest
termination_by chars => chars.length
decreasing_by
  -- Every branch consumes at least one character.
  · simp
  · have := Token.length_dropWhile_le Decimal.isNumeral rest
    simp only [List.length_cons]
    omega
  · have := Token.length_dropWhile_le isLetter rest
    simp only [List.length_cons]
    omega
  · simp

/-- A number has at least one digit and at most one point behind its sign. -/
def isNumber (chars : List Char) : Bool :=
  -- Behind its sign a literal holds digits and points only.
  let unsigned := if chars.head? = some '-' then chars.tail else chars
  unsigned.any Char.isDigit && unsigned.count '.' ≤ 1

/-- Only a literal can fail to make a token. -/
def isValid : Lexeme → Bool
  -- Names and symbols are tokens as they stand.
  | literal chars => isNumber chars
  | _ => true

/-- The token of a piece, where a literal has the value that is read from it. -/
def token? : Lexeme → Option Token
  -- A literal that is no number has no token.
  | literal chars => (readLiteral? chars).map Token.number
  | name chars => some (.name (String.ofList chars))
  | symbol c => some (Token.ofSymbol c)

/-- The tokens of a whole text, all of whose literals must be numbers. -/
def tokens (text : String) : Except CalcError (List Token) :=
  -- One bad literal spoils the whole text, wherever it stands.
  let lexemes := ofCharsAfter none text.toList
  if lexemes.all isValid then .ok (lexemes.filterMap token?) else .error .malformed

end Lexeme

end PocketCalculator
