import PocketCalculator.Proofs.Stacks.Settling
import PocketCalculator.ReversePolish

/-! Working an expression out while it is read gives what its program gives. -/

namespace PocketCalculator

namespace Instruction

/-- Applying an entry that waits is carrying out its instruction. -/
theorem settle_eq_execute {unit : AngleUnit} {top : Waiting} (closed : top ≠ .group)
    (operands : List Float) (waiting : List Waiting) :
    Stacks.settle unit ⟨operands, top :: waiting⟩
      = (ofWaiting top).foldlM (execute unit) operands >>= fun left => .ok ⟨left, waiting⟩ := by
  rcases top with op | f | _
  case group => contradiction
  case operator =>
    simp only [Stacks.settle, ofWaiting, List.foldlM_cons, List.foldlM_nil, execute, bind_pure]
    simp only [map_eq_bind, bind_assoc, ok_bind]
  case function =>
    -- A function without an argument fails on both sides.
    cases operands <;>
      simp [Stacks.settle, ofWaiting, execute, map_eq_bind]

end Instruction

namespace Program

variable {unit : AngleUnit}

/-- The value that a program leaves above operands that are there already. -/
def valueAbove (unit : AngleUnit) (operands : List Float) (program : Program) :
    Except CalcError Float := do
  -- The reason for breaking off counts only once all instructions have been carried out.
  let final ← program.instructions.foldlM (Instruction.execute unit) operands
  match program.failure, final with
  | some error, _ => .error error
  | none, [value] => .ok value
  | none, _ => .error .malformed

/-- Instructions in front of a program are carried out first. -/
theorem valueAbove_after (earlier : List Instruction) (program : Program) (operands : List Float) :
    (after earlier program).valueAbove unit operands
      = earlier.foldlM (Instruction.execute unit) operands >>= fun left =>
        program.valueAbove unit left := by
  -- The instructions in front run first and leave the operands for the others.
  simp only [valueAbove, after, List.foldlM_append, bind_assoc]

/-- What settling applies is what unwinding lists, as long as no open group is due. -/
theorem settleWhile_eq_unwind {due : Waiting → Bool} (closed : due .group = false)
    (waiting : List Waiting) (operands : List Float) :
    Stacks.settleWhile unit due ⟨operands, waiting⟩
      = (unwind due waiting).1.foldlM (Instruction.execute unit) operands >>= fun left =>
        .ok ⟨left, (unwind due waiting).2⟩ := by
  -- Both go down from the top and stop at the same entry.
  induction waiting generalizing operands with
  | nil => simp [unwind]
  | cons top waiting ih =>
    cases isDue : due top with
    | false => simp [unwind, isDue, Stacks.settleWhile_of_not_due isDue]
    | true =>
      have notGroup : top ≠ .group := by
        rintro rfl
        simp [closed] at isDue
      simp only [Stacks.settleWhile_of_due isDue, Instruction.settle_eq_execute notGroup, bind_assoc,
        ok_bind, ih, unwind, isDue, if_true, List.foldlM_append]

/-- What waits at the end is carried out from the top, where an open group breaks the program off. -/
theorem finish_eq_valueAbove (waiting : List Waiting) (operands : List Float) :
    Stacks.finish unit ⟨operands, waiting⟩
      = (ofTokensAbove waiting []).valueAbove unit operands := by
  rw [Stacks.finish_eq]
  induction waiting generalizing operands with
  | nil =>
    -- Only the number of operands decides.
    rw [Stacks.settleWhile_nil]
    rcases operands with _ | ⟨value, _ | _⟩ <;> rfl
  | cons top waiting ih =>
    rw [Stacks.settleWhile_of_due rfl]
    by_cases isGroup : top = .group
    · subst isGroup
      rfl
    · have split : ofTokensAbove (top :: waiting) []
          = after (Instruction.ofWaiting top) (ofTokensAbove waiting []) := by
        simp [ofTokensAbove, unwind, isGroup, after]
      simp only [Instruction.settle_eq_execute isGroup, bind_assoc, ok_bind, ih, split,
        valueAbove_after]

/-- The program behind a closing parenthesis, above the entries that its group is on top of. -/
def leave (tokens : List Token) : List Waiting → Program
  | .group :: .function f :: waiting => after [.function f] (ofTokensAbove waiting tokens)
  | .group :: waiting => ofTokensAbove waiting tokens
  -- The parenthesis has no partner.
  | _ => ⟨[], some .malformed⟩

/-- A closing parenthesis unwinds its group before it leaves it. -/
theorem ofTokensAbove_closing (waiting : List Waiting) (tokens : List Token) :
    ofTokensAbove waiting (.closing :: tokens)
      = after (unwind (· ≠ .group) waiting).1 (leave tokens (unwind (· ≠ .group) waiting).2) := by
  -- The two entries that are looked at together can be looked at one after the other.
  rw [ofTokensAbove]
  rcases unwind (· ≠ .group) waiting with ⟨instructions, rest⟩
  rcases rest with _ | ⟨_ | _ | _, _ | ⟨_ | _ | _, below⟩⟩ <;> simp [leave, after]

/-- An operator unwinds what it yields to before it waits. -/
theorem ofTokensAbove_operator {op : Operator} (waits : op ≠ .factorial) (waiting : List Waiting)
    (tokens : List Token) :
    ofTokensAbove waiting (.operator op :: tokens)
      = after (unwind op.yieldsTo waiting).1
        (ofTokensAbove (.operator op :: (unwind op.yieldsTo waiting).2) tokens) := by
  -- The factorial is the one operator with a rule of its own.
  cases op <;> first | rfl | contradiction

/-- The stacks reach what the program of the remaining tokens reaches, whatever lies on them. -/
theorem outcome_eq_valueAbove (tokens : List Token) :
    ∀ (waiting : List Waiting) (operands : List Float),
      Stacks.outcome unit ⟨operands, waiting⟩ tokens
        = (ofTokensAbove waiting tokens).valueAbove unit operands := by
  -- Each token adds to the program what it makes the stacks apply.
  induction tokens with
  | nil => exact finish_eq_valueAbove
  | cons token tokens ih =>
    intro waiting operands
    rw [Stacks.outcome_cons]
    cases token with
    -- The stack takes the number now, the program as its next instruction.
    | number x =>
      simp only [Stacks.feed, ofTokensAbove, valueAbove_after, ok_bind, ih, List.foldlM_cons,
        List.foldlM_nil, Instruction.execute, pure_bind]
    | name text =>
      simp only [Stacks.feed, ofTokensAbove, bind_assoc, pure_bind, ih]
      cases MathFunction.named text <;> rfl
    | operator op =>
      -- A factorial is applied at once on both sides, any other operator after those it yields to.
      by_cases waits : op = .factorial
      · subst waits
        simp only [Stacks.feed, ofTokensAbove, valueAbove_after, List.foldlM_cons, List.foldlM_nil,
          Instruction.execute, bind_pure, map_eq_bind, bind_assoc, ok_bind, ih]
      · have closed : op.yieldsTo .group = false := Operator.yieldsTo_group waits
        simp only [Stacks.feed_operator waits, settleWhile_eq_unwind closed, bind_assoc, ok_bind,
          ih, ofTokensAbove_operator waits, valueAbove_after]
    | opening => simp only [Stacks.feed_opening, ofTokensAbove, ok_bind, ih]
    | closing =>
      -- The end of a group is a step of its own on both sides.
      have left : ∀ waiting operands,
          (Stacks.leave unit ⟨operands, waiting⟩ >>= fun next => Stacks.outcome unit next tokens)
            = (leave tokens waiting).valueAbove unit operands := by
        intro waiting operands
        rcases waiting with _ | ⟨_ | _ | _, _ | ⟨_ | f | _, below⟩⟩
        -- Only a call adds an instruction, and it is the one that settling carries out.
        case cons.group.cons.function =>
          simp only [Stacks.leave_group, Stacks.call_function, leave, valueAbove_after, bind_assoc,
            Instruction.settle_eq_execute (nofun : Waiting.function f ≠ .group), ok_bind, ih]
          rfl
        case cons.group.nil => exact ih [] operands
        case cons.group.cons.operator => exact ih _ operands
        case cons.group.cons.group => exact ih _ operands
        all_goals rfl
      simp only [Stacks.feed_closing, Stacks.close_eq, bind_assoc, ofTokensAbove_closing,
        valueAbove_after]
      rw [settleWhile_eq_unwind (by rfl)]
      simp only [bind_assoc, ok_bind, left]
    | unknown character => rfl

end Program

/-- The value of tokens is that of their program above no operands. -/
theorem evaluateTokens_eq_valueAbove (unit : AngleUnit) (tokens : List Token) :
    evaluateTokens unit tokens = (Program.ofTokensAbove [] tokens).valueAbove unit [] :=
  -- With nothing waiting and no operands the stacks are the empty ones.
  Program.outcome_eq_valueAbove tokens [] []

end PocketCalculator
