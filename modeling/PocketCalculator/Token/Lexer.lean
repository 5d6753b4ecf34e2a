import PocketCalculator.Error
import PocketCalculator.Text.Blank
import PocketCalculator.Text.Letter
import PocketCalculator.Token

/-! Reading the tokens of a text. -/

namespace PocketCalculator

namespace Token

/-- Where an operand is due, a minus that follows directly is the sign of a literal. -/
def operandDue : Option Token → Bool
  -- An expression begins with an operand.
  | none => true
  | some opening => true
  -- Behind a factorial the operand is complete.
  | some (operator op) => op.isBinary
  | some _ => false

/-- The token of a literal, which may turn out not to be a number. -/
def ofLiteral (literal : List Char) : Except CalcError Token :=
  -- A run such as two points in a row names no number.
  match readLiteral? literal with
  | some value => .ok (number value)
  | none => .error .malformed

/-- The token of a character that stands for itself. -/
def ofSymbol (c : Char) : Token :=
  -- A character without a meaning is kept, so that it can be named later.
  if c = '(' then opening
  else if c = ')' then closing
  else match Operator.ofChar? c with
    | some op => operator op
    | none => unknown c

/--
Reads the token that a character begins, and returns what follows it.

Literals and names run as far as they can.
-/
def first (signAllowed : Bool) (c : Char) (rest : List Char) : Except CalcError Token × List Char :=
  if Decimal.isNumeral c || (c = '-' && signAllowed) then
    -- A minus may open a literal, but never continues one.
    (ofLiteral (c :: rest.takeWhile Decimal.isNumeral), rest.dropWhile Decimal.isNumeral)
  else if isLetter c then
    (.ok (name (String.ofList (c :: rest.takeWhile isLetter))), rest.dropWhile isLetter)
  else (.ok (ofSymbol c), rest)

/-- Removing a run from the front of a text never lengthens it. -/
theorem length_dropWhile_le (p : Char → Bool) (chars : List Char) :
    (chars.dropWhile p).length ≤ chars.length := by
  -- What is left is a suffix of the text.
  exact (List.dropWhile_suffix p).length_le

/-- What follows a token is no longer than what follows its first character. -/
theorem first_rest_le (signAllowed : Bool) (c : Char) (rest : List Char) :
    (first signAllowed c rest).2.length ≤ rest.length := by
  -- Each branch either drops a run from the rest or returns it whole.
  unfold first
  split
  · exact length_dropWhile_le _ _
  · split
    · exact length_dropWhile_le _ _
    · exact Nat.le_refl _

/--
Reads the tokens of a text that follows a given token.

A minus is a sign only if no blank stands before it, and one literal that is no number spoils the text.
-/
def ofCharsAfter (previous : Option Token) (chars : List Char) : Except CalcError (List Token) :=
  -- Blanks separate tokens and mean nothing else, but for the sign.
  match _found : chars.dropWhile isBlank with
  | [] => .ok []
  | c :: rest =>
    let signAllowed := !(chars.head?.any isBlank) && operandDue previous
    match (first signAllowed c rest).1 with
    | .error error => .error error
    | .ok token =>
      (ofCharsAfter (some token) (first signAllowed c rest).2).map (token :: ·)
termination_by chars.length
decreasing_by
  -- Each step consumes at least the character that begins the token.
  have shorter := length_dropWhile_le isBlank chars
  have within := first_rest_le (!(chars.head?.any isBlank) && operandDue previous) c rest
  rw [_found, List.length_cons] at shorter
  omega

/-- Reads the tokens of a whole text. -/
def ofText (text : String) : Except CalcError (List Token) :=
  -- Nothing precedes the first token.
  ofCharsAfter none text.toList

end Token

end PocketCalculator
