import PocketCalculator.CommandLine.Command
import PocketCalculator.CommandLine.Session

/-! The command line: what is printed, and with which exit code. -/

namespace PocketCalculator

/-- What a run of the command line leaves behind. -/
structure Output where
  /-- Zero tells success. -/
  exitCode : UInt32
  /-- Everything that was printed. -/
  text : String
  deriving DecidableEq, Repr

/-- The lines that tell what the arguments mean. -/
def helpText : String :=
  -- What may be left out stands in brackets.
  "Evaluate infix math expressions\n\n"
    ++ "Usage: keycalc [OPTIONS] [EXPRESSIONS]...\n\n"
    ++ "Arguments:\n"
    ++ "  [EXPRESSIONS]...  Expressions to evaluate; starts an interactive prompt when omitted\n\n"
    ++ "Options:\n"
    ++ "      --radians  Take and return angles in radians instead of degrees\n"
    ++ "      --keypad   Read button labels (`7 x^y 2 =`) instead of expressions\n"
    ++ "  -h, --help     Print help\n"
    ++ "  -V, --version  Print version\n"

/-- The line that tells the version. -/
def versionText : String :=
  -- The name comes before the number.
  "keycalc 0.1.0\n"

/-- Answers expressions on a line each, and fails if one of them has no value. -/
def answerAll (unit : AngleUnit) (expressions : List String) : Output where
  -- One failure is enough, wherever it stands.
  exitCode := if expressions.all fun text => (evaluate unit text).isOk then 0 else 1
  text := String.join (expressions.map fun text => answer unit text ++ "\n")

/-- Carries out a task over an input. -/
def Command.run (command : Command) (input : String) : Output :=
  match command with
  -- Conversations always end well, whatever was answered in them.
  | .batch unit expressions => answerAll unit expressions
  | .prompt unit => ⟨0, (Session.expressions unit).transcript input⟩
  | .keypad unit => ⟨0, (Session.ofLabels unit).transcript input⟩
  -- What the program is for and which one it is has nothing to do with the input.
  | .help => ⟨0, helpText⟩
  | .version => ⟨0, versionText⟩
  -- Nothing goes to the output when the arguments make no sense.
  | .misuse => ⟨2, ""⟩

/-- Runs a whole command line. -/
def runCommandLine (arguments : List String) (input : String) : Output :=
  -- The arguments are understood before any input is read.
  (Command.ofArguments arguments).run input

end PocketCalculator
