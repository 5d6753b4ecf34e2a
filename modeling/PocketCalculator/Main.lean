import PocketCalculator.CommandLine

/-! The program: standard input and output around the command line. -/

namespace PocketCalculator

/-- Prints a text at once, so that it stands before the next line is read. -/
def say (text : String) : IO Unit := do
  let output ← IO.getStdout
  output.putStr text
  -- An unflushed invitation would stay in the buffer while the program waits.
  output.flush

/-- Replies to line after line until the input ends. -/
partial def replyToAll (session : Session) : IO Unit := do
  say Session.invitation
  let line ← (← IO.getStdin).getLine
  -- Every line has at least its line end or a character, except at the end of the input.
  unless line.isEmpty do
    let (next, text) := session.reply line
    say text
    replyToAll next

/-- Holds a conversation with whoever types. -/
def converse (session : Session) : IO UInt32 := do
  -- A conversation never fails.
  say session.header
  replyToAll session
  return 0

end PocketCalculator

open PocketCalculator in
/-- Carries out what the arguments ask for. -/
def main (arguments : List String) : IO UInt32 := do
  match Command.ofArguments arguments with
  | .prompt unit => converse (.expressions unit)
  | .keypad unit => converse (.ofLabels unit)
  | command =>
    -- No other task reads any input.
    let output := command.run ""
    say output.text
    return output.exitCode
