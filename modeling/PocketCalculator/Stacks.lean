import PocketCalculator.Arithmetic.Application
import PocketCalculator.Arithmetic.Operation
import PocketCalculator.Token

/-! The two stacks on which an expression is worked out while it is read. -/

namespace PocketCalculator

/-- What waits for its operands. -/
inductive Waiting where
  /-- A binary operator that waits for its right operand. -/
  | operator (op : Operator)
  /-- A function that waits for its argument. -/
  | function (f : MathFunction)
  /-- An open group, which ends at the closing parenthesis. -/
  | group
  deriving DecidableEq, Repr

/-- How tightly an entry binds, where a group holds back every operator. -/
def Waiting.precedence : Waiting → Nat
  -- A group binds no tighter than anything, so no operator reaches below it.
  | operator op => op.precedence
  | function _ => MathFunction.precedence
  | group => 0

/-- An entry is applied before an operator that binds no tighter, except under a power that it groups with. -/
def Operator.yieldsTo (op : Operator) (top : Waiting) : Bool :=
  -- Equally tight entries go first, which groups a chain from the left.
  op.precedence ≤ top.precedence && !(op.groupsRight && top = .operator op)

/-- The operands worked out so far and the entries that wait, the latest of each first. -/
structure Stacks where
  /-- Values that no operator has used yet. -/
  operands : List Float
  /-- Operators, functions and open groups that are not done yet. -/
  waiting : List Waiting

namespace Stacks

/-- Nothing has been read. -/
def empty : Stacks :=
  -- There is neither an operand nor anything that waits for one.
  ⟨[], []⟩

/-- Applies the entry that waits on top. -/
def settle (unit : AngleUnit) (state : Stacks) : Except CalcError Stacks :=
  match state.waiting with
  -- Nothing waits.
  | [] => .error .malformed
  -- A group on top was never closed.
  | .group :: _ => .error .malformed
  | .function f :: waiting =>
    match state.operands with
    -- The function has no argument.
    | [] => .error .malformed
    | argument :: operands => (f.apply unit argument).map fun value => ⟨value :: operands, waiting⟩
  | .operator op :: waiting =>
    let (outcome, operands) := op.applyTop state.operands
    outcome.map fun value => ⟨value :: operands, waiting⟩

/-- Applying the top entry takes it away and keeps all others waiting. -/
theorem waiting_of_settle {unit : AngleUnit} {state settled : Stacks}
    (applied : state.settle unit = .ok settled) :
    ∃ top, state.waiting = top :: settled.waiting := by
  -- Only the two branches that apply something succeed, and both return the entries below the top.
  unfold settle at applied
  split at applied
  · simp at applied
  · simp at applied
  · next f remaining found =>
    split at applied
    · simp at applied
    · next argument operands _ =>
      cases outcome : f.apply unit argument with
      | error _ => simp [outcome, Except.map] at applied
      | ok value =>
        simp only [outcome, Except.map, Except.ok.injEq] at applied
        exact ⟨.function f, applied ▸ found⟩
  · next op remaining found =>
    cases outcome : (op.applyTop state.operands).1 with
    | error _ => simp [outcome, Except.map] at applied
    | ok value =>
      simp only [outcome, Except.map, Except.ok.injEq] at applied
      exact ⟨.operator op, applied ▸ found⟩

/-- Applies entries from the top for as long as they are due. -/
def settleWhile (unit : AngleUnit) (due : Waiting → Bool) (state : Stacks) :
    Except CalcError Stacks :=
  match state.waiting with
  | [] => .ok state
  | top :: _ =>
    if due top then
      -- The first error ends the whole.
      match _applied : state.settle unit with
      | .error error => .error error
      | .ok settled => settleWhile unit due settled
    else .ok state
termination_by state.waiting.length
decreasing_by
  -- Every application takes one entry away.
  obtain ⟨top, below⟩ := waiting_of_settle _applied
  simp [below]

/-- Closes the open group on top, and applies the function that was called with it. -/
def close (unit : AngleUnit) (state : Stacks) : Except CalcError Stacks := do
  -- What was opened inside the group and waits there comes first.
  let inner ← state.settleWhile unit (· ≠ .group)
  match inner.waiting with
  -- A call is applied at once, even where an operator follows that binds tighter.
  | .group :: .function f :: waiting => settle unit ⟨inner.operands, .function f :: waiting⟩
  | .group :: waiting => .ok ⟨inner.operands, waiting⟩
  -- No group is open.
  | _ => .error .malformed

/-- Takes in one token. -/
def feed (unit : AngleUnit) (state : Stacks) : Token → Except CalcError Stacks
  -- Numbers and functions are never checked against what stands before them.
  | .number value => .ok { state with operands := value :: state.operands }
  | .name text => do
    let f ← MathFunction.named text
    return { state with waiting := .function f :: state.waiting }
  | .opening => .ok { state with waiting := .group :: state.waiting }
  | .closing => state.close unit
  -- The operand of a factorial is complete, so it never waits.
  | .operator .factorial =>
    let (outcome, operands) := Operator.factorial.applyTop state.operands
    outcome.map fun value => { state with operands := value :: operands }
  -- Operators that bind at least as tightly have all their operands by now.
  | .operator op => do
    let settled ← state.settleWhile unit op.yieldsTo
    return { settled with waiting := .operator op :: settled.waiting }
  | .unknown character => .error (.unknownToken character.toString)

/-- Applies all that waits, and hands out the only operand that may be left. -/
def finish (unit : AngleUnit) (state : Stacks) : Except CalcError Float := do
  -- An open group on the way down is one that was never closed.
  let final ← state.settleWhile unit fun _ => true
  match final.operands with
  | [value] => .ok value
  | _ => .error .malformed

end Stacks

end PocketCalculator
