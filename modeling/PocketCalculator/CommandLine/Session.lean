import PocketCalculator.Keypad
import PocketCalculator.Text.Split

/-! A conversation that answers line after line. -/

namespace PocketCalculator

/-- The state of a conversation between two lines. -/
inductive Session where
  /-- Each line is an expression of its own. -/
  | expressions (unit : AngleUnit)
  /-- Each line presses more buttons of one calculator. -/
  | labels (keypad : Keypad) (display : Display)

/-- The room for text that the command line gives its calculator. -/
def sessionCapacity : Nat :=
  -- Every result fits with room to spare.
  64

namespace Session

/-- A conversation about button labels, from a blank display. -/
def ofLabels (unit : AngleUnit) : Session :=
  -- The calculator is switched on once and keeps its display from line to line.
  .labels ⟨unit, sessionCapacity⟩ Display.blank

/-- The line that opens a conversation. -/
def header : Session → String
  -- The unit cannot be changed later, so it is shown once.
  | .expressions unit => "Enter a math expression (" ++ unit.abbreviation ++ "):\n"
  | .labels keypad _ =>
    "Enter button labels separated by spaces (" ++ keypad.unit.abbreviation ++ "):\n"

/-- The mark that invites the next line. -/
def invitation : String :=
  -- The reply follows on the line that was typed, or on this one when input is not echoed.
  "> "

/-- Presses the buttons of some labels in turn, and reports each refusal on a line of its own. -/
def pressAll (keypad : Keypad) (display : Display) : List String → Display × String
  | [] => (display, "")
  | label :: others =>
    -- A refused label leaves the display as it was, and the others follow all the same.
    let response := keypad.pressByLabel display label
    let (final, reports) := pressAll keypad response.display others
    match response.refusal with
    | some error => (final, "\t" ++ label ++ ": " ++ error.message ++ "\n" ++ reports)
    | none => (final, reports)

/-- The reply to a line, which comes with its line end. -/
def reply : Session → String → Session × String
  -- A line of blanks is no expression at all.
  | .expressions unit, line =>
    if line.toList.all isBlank then (.expressions unit, "")
    else (.expressions unit, "\t" ++ answer unit line ++ "\n")
  | .labels keypad display, line =>
    -- The display is shown once a line, also after a line without labels.
    let words := (splitWords line.toList).map String.ofList
    let (final, reports) := pressAll keypad display words
    (.labels keypad final, reports ++ "\t[" ++ final.text ++ "] " ++ final.status ++ "\n")

/-- All replies to some lines, each after its invitation, and the invitation that no line follows. -/
def replies (session : Session) : List String → String
  -- The end of the input is met only after one more invitation.
  | [] => invitation
  | line :: lines =>
    let (next, text) := session.reply line
    invitation ++ text ++ replies next lines

/-- The whole conversation over an input. -/
def transcript (session : Session) (input : String) : String :=
  -- Lines are taken in with their line ends.
  session.header ++ session.replies ((splitLines input.toList).map String.ofList)

end Session

end PocketCalculator
