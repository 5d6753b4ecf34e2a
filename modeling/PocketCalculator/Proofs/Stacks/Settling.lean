import PocketCalculator.Evaluation
import PocketCalculator.Proofs.Arithmetic.Operation
import PocketCalculator.Proofs.Outcome

/-! Single steps of the stacks, and how they chain. -/

namespace PocketCalculator

/-- Nothing binds tighter than a function. -/
theorem Waiting.precedence_le (top : Waiting) : top.precedence ≤ MathFunction.precedence := by
  -- Functions bind as tightly as the tightest operators, and groups not at all.
  rcases top with op | f | _
  · cases op <;> decide
  · exact Nat.le_refl _
  · exact Nat.zero_le _

namespace Operator

/-- An operator yields to every entry that binds tighter. -/
theorem yieldsTo_of_lt {op : Operator} {top : Waiting} (tighter : op.precedence < top.precedence) :
    op.yieldsTo top := by
  -- An entry that binds tighter is not the operator itself.
  have other : top ≠ .operator op := by
    rintro rfl
    exact Nat.lt_irrefl _ tighter
  simp [yieldsTo, other, Nat.le_of_lt tighter]

/-- An operator that groups from the left yields to equally tight entries too. -/
theorem yieldsTo_of_le {op : Operator} {top : Waiting} (fromLeft : op ≠ .power)
    (tight : op.precedence ≤ top.precedence) : op.yieldsTo top := by
  -- Only a power spares an entry that binds as tightly as itself.
  simp [yieldsTo, groupsRight, fromLeft, tight]

/-- No operator yields to an entry that binds looser. -/
theorem yieldsTo_of_gt {op : Operator} {top : Waiting} (looser : top.precedence < op.precedence) :
    op.yieldsTo top = false := by
  -- What binds looser is not applied first, whatever the grouping.
  simp [yieldsTo, Nat.not_le.mpr looser]

/-- No operator yields to an open group, but for the factorial, which never asks. -/
theorem yieldsTo_group {op : Operator} (waits : op ≠ .factorial) : op.yieldsTo .group = false := by
  -- A group binds less than every operator that waits.
  cases op <;> first | rfl | contradiction

end Operator

namespace Stacks

variable {unit : AngleUnit} {due : Waiting → Bool} {operands : List Float}
  {waiting : List Waiting} {top : Waiting}

/-- Where nothing waits, nothing is due. -/
@[simp] theorem settleWhile_nil :
    settleWhile unit due ⟨operands, []⟩ = .ok ⟨operands, []⟩ := by
  -- Nothing waits, so nothing can be due.
  rw [settleWhile]

/-- An entry that is due is applied, and then it is the turn of what lies below it. -/
theorem settleWhile_of_due (isDue : due top) :
    settleWhile unit due ⟨operands, top :: waiting⟩
      = settle unit ⟨operands, top :: waiting⟩ >>= settleWhile unit due := by
  -- An error ends both sides, and a settled state goes on in the same way on both.
  rw [settleWhile]
  simp only [isDue, if_true]
  split <;> simp_all

/-- An entry that is not due holds back everything below it. -/
theorem settleWhile_of_not_due (stays : due top = false) :
    settleWhile unit due ⟨operands, top :: waiting⟩ = .ok ⟨operands, top :: waiting⟩ := by
  -- The top entry is the first one asked, and it stays.
  rw [settleWhile]
  simp [stays]

/-- Where no entry is ever due, nothing happens. -/
@[simp] theorem settleWhile_never : settleWhile unit (fun _ => false) = .ok := by
  -- Either nothing waits, or the entry on top is not due.
  funext ⟨operands, waiting⟩
  cases waiting
  · exact settleWhile_nil
  · exact settleWhile_of_not_due rfl

/-- Whatever one application keeps, applying all that is due keeps, and nothing due is left on top. -/
theorem settleWhile_induct {Holds : Stacks → Prop}
    (step : ∀ {state next}, Holds state → settle unit state = .ok next → Holds next)
    {state final : Stacks} (start : Holds state)
    (settled : settleWhile unit due state = .ok final) :
    Holds final ∧ ∀ top ∈ final.waiting.head?, due top = false := by
  -- The induction follows the entries down from the top.
  fun_induction settleWhile unit due state with
  | case1 state none =>
    obtain rfl : state = final := by simpa using settled
    exact ⟨start, by simp [none]⟩
  | case2 state top below found isDue error applied => simp at settled
  | case3 state top below found isDue next applied ih => exact ih (step start applied) settled
  | case4 state top below found stays =>
    obtain rfl : state = final := by simpa using settled
    exact ⟨start, by simpa [found] using stays⟩

/-- An operator on top is applied to the two operands on top, whatever lies below them. -/
theorem settle_operator {op : Operator} (waits : op ≠ .factorial) (right left : Float) :
    settle unit ⟨right :: left :: operands, .operator op :: waiting⟩
      = (op.applyTop [right, left]).1 >>= fun x => .ok ⟨x :: operands, waiting⟩ := by
  -- A binary operator uses the two operands on top and leaves the others as they are.
  rw [← map_eq_bind]
  simp only [settle]
  rw [Operator.applyTop_pair (Operator.isBinary_iff.mpr waits)]

/-- A function on top is applied to the operand on top. -/
theorem settle_function (f : MathFunction) (argument : Float) :
    settle unit ⟨argument :: operands, .function f :: waiting⟩
      = f.apply unit argument >>= fun x => .ok ⟨x :: operands, waiting⟩ := by
  -- The function uses the operand on top, and its value takes that place.
  rw [← map_eq_bind]
  rfl

/-- Applies the function on top, if there is one. -/
def call (unit : AngleUnit) (state : Stacks) : Except CalcError Stacks :=
  match state.waiting with
  | .function _ :: _ => state.settle unit
  -- A group that no function stands in front of is no call.
  | _ => .ok state

/-- Without a function on top there is nothing to call. -/
theorem call_of_bare {state : Stacks} (bare : ∀ f, state.waiting.head? ≠ some (.function f)) :
    call unit state = .ok state := by
  -- A call is made only where a function waits on top.
  rcases state with ⟨operands, _ | ⟨_ | f | _, waiting⟩⟩
  case function => exact absurd rfl (bare f)
  all_goals rfl

/-- A function on top is called. -/
theorem call_function (f : MathFunction) :
    call unit ⟨operands, .function f :: waiting⟩
      -- The function that waits on top is the one that was called.
      = settle unit ⟨operands, .function f :: waiting⟩ :=
  rfl

/-- Takes the open group on top away, and makes the call that it is part of. -/
def leave (unit : AngleUnit) (state : Stacks) : Except CalcError Stacks :=
  match state.waiting with
  | .group :: waiting => call unit ⟨state.operands, waiting⟩
  -- No group is open.
  | _ => .error .malformed

/-- With a group on top only the call behind it is left. -/
theorem leave_group :
    leave unit ⟨operands, .group :: waiting⟩ = call unit ⟨operands, waiting⟩ :=
  -- The group goes, and what waited in front of it may be a call.
  rfl

/-- Closing a group works out what waits in it, and then leaves the group. -/
theorem close_eq (state : Stacks) :
    state.close unit = state.settleWhile unit (· ≠ .group) >>= leave unit := by
  -- The two entries that are looked at together can be looked at one after the other.
  unfold close
  congr 1
  funext inner
  rcases inner with ⟨operands, _ | ⟨_ | _ | _, _ | ⟨_ | _ | _, waiting⟩⟩⟩ <;> rfl

/-- An opening parenthesis opens a group. -/
theorem feed_opening (state : Stacks) :
    state.feed unit .opening = .ok ⟨state.operands, .group :: state.waiting⟩ :=
  -- An opened group is the newest entry that waits.
  rfl

/-- A closing parenthesis closes the group on top. -/
theorem feed_closing (state : Stacks) : state.feed unit .closing = state.close unit :=
  rfl

/-- A name is resolved before its function waits. -/
theorem feed_name_eq (text : String) (state : Stacks) :
    state.feed unit (.name text) = MathFunction.named text >>= fun f =>
      .ok ⟨state.operands, .function f :: state.waiting⟩ :=
  -- Only a known name gets to wait.
  rfl

/-- The name of a function puts that function among the entries that wait. -/
theorem feed_name (f : MathFunction) (state : Stacks) :
    state.feed unit (.name f.name) = .ok ⟨state.operands, .function f :: state.waiting⟩ := by
  -- A function answers to its own name.
  rw [feed_name_eq, MathFunction.named_eq_ok_iff.mpr rfl, ok_bind]

/-- A factorial is applied to the operand on top, whatever lies below it. -/
theorem feed_factorial (operand : Float) :
    feed unit ⟨operand :: operands, waiting⟩ (.operator .factorial)
      = (Operator.factorial.applyTop [operand]).1 >>= fun x => .ok ⟨x :: operands, waiting⟩ := by
  -- The factorial is applied at once, to the operand on top.
  rw [← map_eq_bind]
  rfl

/-- A binary operator first lets all entries go that it yields to, and then waits itself. -/
theorem feed_operator {op : Operator} (waits : op ≠ .factorial) (state : Stacks) :
    state.feed unit (.operator op) = state.settleWhile unit op.yieldsTo >>= fun settled =>
      .ok ⟨settled.operands, .operator op :: settled.waiting⟩ := by
  -- The factorial is the only operator with a rule of its own.
  cases op <;> first | rfl | contradiction

/-- Hands out the only operand. -/
def handOut (state : Stacks) : Except CalcError Float :=
  match state.operands with
  | [value] => .ok value
  -- An operand too many is as malformed as one too few.
  | _ => .error .malformed

/-- At the end everything that waits is applied before the operand is handed out. -/
theorem finish_eq (state : Stacks) :
    state.finish unit = state.settleWhile unit (fun _ => true) >>= handOut :=
  -- Everything that waits is due at the end.
  rfl

/-- What the remaining tokens lead to from a given state. -/
def outcome (unit : AngleUnit) (state : Stacks) (tokens : List Token) : Except CalcError Float :=
  tokens.foldlM (feed unit) state >>= finish unit

/-- Without tokens only the end is left. -/
@[simp] theorem outcome_nil (state : Stacks) : outcome unit state [] = state.finish unit :=
  rfl

/-- The first token is taken in before all others. -/
theorem outcome_cons (state : Stacks) (token : Token) (tokens : List Token) :
    outcome unit state (token :: tokens)
      = state.feed unit token >>= fun next => outcome unit next tokens := by
  -- The first token is taken in, and the rest runs from where that leads.
  simp only [outcome, List.foldlM_cons, bind_assoc]

/-- Tokens in front are taken in before those behind them. -/
theorem outcome_append (state : Stacks) (front back : List Token) :
    outcome unit state (front ++ back)
      -- Reading is a fold, so it can be cut anywhere.
      = front.foldlM (feed unit) state >>= fun next => outcome unit next back := by
  simp only [outcome, List.foldlM_append, bind_assoc]

end Stacks

/-- A list of tokens is worked out from empty stacks. -/
theorem evaluateTokens_eq_outcome (unit : AngleUnit) (tokens : List Token) :
    evaluateTokens unit tokens = Stacks.outcome unit Stacks.empty tokens :=
  -- An expression is evaluated from empty stacks.
  rfl

/-- What tokens are worth is what those behind a cut lead to from where those in front of it lead. -/
theorem evaluateTokens_append (unit : AngleUnit) (front back : List Token) :
    evaluateTokens unit (front ++ back)
      = front.foldlM (Stacks.feed unit) Stacks.empty >>= fun state =>
        Stacks.outcome unit state back :=
  -- The evaluation is one run, which is cut behind the front.
  Stacks.outcome_append Stacks.empty front back

/-- A text that can be read is worth what its tokens are worth. -/
theorem evaluate_of_ofText {unit : AngleUnit} {text : String} {tokens : List Token}
    (read : Token.ofText text = .ok tokens) : evaluate unit text = evaluateTokens unit tokens := by
  -- The tokens are found, so evaluating the text is evaluating them.
  rw [evaluate, read, ok_bind]

end PocketCalculator
