import PocketCalculator.AngleUnit

/-! What the arguments of a command line ask for. -/

namespace PocketCalculator

/-- The tasks of the command line. -/
inductive Command where
  /-- Answers the given expressions. -/
  | batch (unit : AngleUnit) (expressions : List String)
  /-- Answers expressions line by line. -/
  | prompt (unit : AngleUnit)
  /-- Presses the buttons whose labels are read line by line. -/
  | keypad (unit : AngleUnit)
  /-- Tells what the arguments mean. -/
  | help
  /-- Tells the version. -/
  | version
  /-- Refuses arguments that make no sense. -/
  | misuse
  deriving DecidableEq, Repr

/-- The arguments understood so far. -/
structure Options where
  /-- Whether angles were asked for in radians. -/
  radians : Bool
  /-- Whether the keypad was asked for. -/
  keypad : Bool
  /-- The expressions in their order. -/
  expressions : List String
  deriving DecidableEq, Repr

namespace Options

/-- No argument has been read. -/
def initial : Options :=
  -- Without arguments, expressions in degrees are asked for.
  ⟨false, false, []⟩

/-- The unit of angles. -/
def unit (options : Options) : AngleUnit :=
  -- Degrees need no flag.
  if options.radians then .radians else .degrees

/-- The task when all arguments are read, where the keypad leaves no place for expressions. -/
def command (options : Options) : Command :=
  -- One expression is enough for a batch, even an empty text.
  if options.expressions.isEmpty then
    if options.keypad then .keypad options.unit else .prompt options.unit
  else if options.keypad then .misuse
  else .batch options.unit options.expressions

end Options

/-- A dash alone is an expression, and a dash with anything behind it is a flag. -/
def isFlag (argument : String) : Bool :=
  match argument.toList with
  -- A negative number is taken for a flag too.
  | '-' :: _ :: _ => true
  | _ => false

/-- A text about the program is asked for by a long flag alone, and by a letter with anything behind it. -/
def asksFor (flag : String) (letter : Char) (argument : String) : Bool :=
  -- The letter settles the task before what is behind it is looked at.
  argument = flag || argument.toList.take 2 = ['-', letter]

/--
Reads arguments from left to right, where the first one that settles the task ends the reading.

No flag may be given twice, and after two dashes alone no argument is a flag.
-/
def Command.ofArgumentsAfter (options : Options) : List String → Command
  | [] => options.command
  | argument :: rest =>
    -- Everything behind the two dashes is an expression.
    if argument = "--" then
      { options with expressions := options.expressions ++ rest }.command
    else if argument = "--radians" then
      if options.radians then .misuse else ofArgumentsAfter { options with radians := true } rest
    else if argument = "--keypad" then
      if options.keypad then .misuse else ofArgumentsAfter { options with keypad := true } rest
    else if asksFor "--help" 'h' argument then .help
    else if asksFor "--version" 'V' argument then .version
    else if isFlag argument then .misuse
    else
      ofArgumentsAfter { options with expressions := options.expressions ++ [argument] } rest

/-- The task that a whole command line asks for. -/
def Command.ofArguments (arguments : List String) : Command :=
  -- Reading starts with nothing asked for.
  ofArgumentsAfter Options.initial arguments

end PocketCalculator
