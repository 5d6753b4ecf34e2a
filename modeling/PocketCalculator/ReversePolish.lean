import PocketCalculator.Stacks

/-! Expressions worked out in two passes, the first of which only puts operators behind their operands. -/

namespace PocketCalculator

/-- A step of a program for one stack of operands. -/
inductive Instruction where
  /-- Puts a number on the stack. -/
  | number (value : Float)
  /-- Applies an operator to the operands on top. -/
  | operator (op : Operator)
  /-- Applies a function to the operand on top. -/
  | function (f : MathFunction)
  deriving DecidableEq

namespace Instruction

/-- Carries out one instruction on the operands, the latest of which stands first. -/
def execute (unit : AngleUnit) (operands : List Float) :
    Instruction → Except CalcError (List Float)
  | number value => .ok (value :: operands)
  | operator op =>
    -- The value takes the place of the operands.
    let (outcome, rest) := op.applyTop operands
    outcome.map (· :: rest)
  | function f =>
    match operands with
    -- A function has no value without an argument.
    | [] => .error .malformed
    | argument :: rest => (f.apply unit argument).map (· :: rest)

/-- What a waiting entry turns into when its turn comes, where a group leaves nothing. -/
def ofWaiting : Waiting → List Instruction
  -- Parentheses only order the instructions.
  | .operator op => [operator op]
  | .function f => [function f]
  | .group => []

end Instruction

/-- A program, and the reason why it breaks off if it does. -/
structure Program where
  /-- The instructions in their order. -/
  instructions : List Instruction
  /-- Why the rest of the expression could not be turned into instructions. -/
  failure : Option CalcError
  deriving DecidableEq

namespace Program

/-- Puts instructions in front of a program. -/
def after (earlier : List Instruction) (program : Program) : Program :=
  -- The reason for breaking off stays, since it lies behind all instructions.
  { program with instructions := earlier ++ program.instructions }

/-- Takes entries from the top for as long as they are due, and returns those that stay. -/
def unwind (due : Waiting → Bool) : List Waiting → List Instruction × List Waiting
  | [] => ([], [])
  | top :: waiting =>
    if due top then
      -- The top was met last, so its turn comes first.
      let (instructions, rest) := unwind due waiting
      (Instruction.ofWaiting top ++ instructions, rest)
    else ([], top :: waiting)

/-- The program of the tokens that are left, above the entries that wait. -/
def ofTokensAbove (waiting : List Waiting) : List Token → Program
  | [] =>
    -- Whatever stays lies at or below a group that was never closed.
    let (instructions, unclosed) := unwind (· ≠ .group) waiting
    ⟨instructions, if unclosed.isEmpty then none else some .malformed⟩
  | .number value :: tokens => after [.number value] (ofTokensAbove waiting tokens)
  | .name text :: tokens =>
    -- An unknown name breaks the program off here.
    match MathFunction.named text with
    | .ok f => ofTokensAbove (.function f :: waiting) tokens
    | .error error => ⟨[], some error⟩
  | .opening :: tokens => ofTokensAbove (.group :: waiting) tokens
  | .closing :: tokens =>
    match unwind (· ≠ .group) waiting with
    -- A call ends with its parenthesis.
    | (instructions, .group :: .function f :: rest) =>
      after (instructions ++ [.function f]) (ofTokensAbove rest tokens)
    | (instructions, .group :: rest) => after instructions (ofTokensAbove rest tokens)
    -- A parenthesis without a partner breaks the program off.
    | (instructions, _) => ⟨instructions, some .malformed⟩
  -- The operand of a factorial is complete, so its instruction follows at once.
  | .operator .factorial :: tokens =>
    after [.operator .factorial] (ofTokensAbove waiting tokens)
  | .operator op :: tokens =>
    let (instructions, rest) := unwind op.yieldsTo waiting
    after instructions (ofTokensAbove (.operator op :: rest) tokens)
  | .unknown character :: _ => ⟨[], some (.unknownToken character.toString)⟩

/--
The value that a program leaves as the only operand.

What its instructions run into comes before the reason why it breaks off.
-/
def value (unit : AngleUnit) (program : Program) : Except CalcError Float := do
  -- All instructions run first, as they stand before the point of breaking off.
  let operands ← program.instructions.foldlM (Instruction.execute unit) []
  match program.failure, operands with
  | some error, _ => .error error
  | none, [value] => .ok value
  | none, _ => .error .malformed

end Program

end PocketCalculator
