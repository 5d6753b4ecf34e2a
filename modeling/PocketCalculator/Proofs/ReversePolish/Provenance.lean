import PocketCalculator.Proofs.Arithmetic.Operation
import PocketCalculator.Proofs.ReversePolish

/-! Every instruction of a program comes from one of its tokens, and so does every error. -/

namespace PocketCalculator

section

variable {α σ : Type} {step other : σ → α → Except CalcError σ} {list : List α}

/-- Two chains are the same if their steps are. -/
theorem foldlM_congr (same : ∀ a ∈ list, ∀ state, step state a = other state a) (state : σ) :
    list.foldlM step state = list.foldlM other state := by
  -- The induction is on the list; both runs meet the same state at each step.
  induction list generalizing state with
  | nil => rfl
  | cons a list ih =>
    have later : ∀ b ∈ list, ∀ state, step state b = other state b := by
      intro b member
      exact same b (.tail _ member)
    rw [List.foldlM_cons, List.foldlM_cons, same a (.head _)]
    exact bind_congr (ih later)

/-- A chain fails at one of its steps. -/
theorem exists_of_foldlM_error {state : σ} {error : CalcError}
    (failed : list.foldlM step state = .error error) :
    ∃ a ∈ list, ∃ met, step met a = .error error := by
  -- The induction is on the list: the error is raised at the first step or by one of the others.
  induction list generalizing state with
  | nil => cases failed
  | cons a list ih =>
    rw [List.foldlM_cons] at failed
    cases first : step state a with
    | error raised =>
      rw [first, error_bind] at failed
      cases failed
      exact ⟨a, .head _, state, first⟩
    | ok next =>
      rw [first, ok_bind] at failed
      obtain ⟨b, member, found⟩ := ih failed
      exact ⟨b, .tail _ member, found⟩

end

/-- The errors that a token can lead to, besides an expression that is malformed. -/
def Token.CanRaise : Token → CalcError → Prop
  | .operator op, .divisionByZero => op = .divide
  | .operator op, .factorialDomain => op = .factorial
  | .name text, .rootDomain => text = MathFunction.sqrt.name
  -- What has no meaning is quoted.
  | .name text, .unknownToken quoted => quoted = text ∧ MathFunction.ofName? text = none
  | .unknown c, .unknownToken quoted => quoted = c.toString
  | _, _ => False

/-- The change of a value never fails by itself. -/
private theorem eq_error_of_map {α β : Type} {outcome : Except CalcError α} {change : α → β}
    {error : CalcError} (failed : outcome.map change = .error error) : outcome = .error error := by
  -- A change is made to values only.
  cases outcome with
  | error raised =>
    cases failed
    rfl
  | ok value => cases failed

private theorem eq_error_of_takeOperand {operands : List Float} {use : Float → Except CalcError Float}
    {error : CalcError} (failed : (takeOperand operands use).1 = .error error) :
    error = .malformed ∨ ∃ operand, use operand = .error error := by
  -- Without an operand there is nothing to use, and with one the use decides.
  cases operands with
  | nil =>
    cases failed
    exact .inl rfl
  | cons operand rest => exact .inr ⟨operand, failed⟩

/-- An operator fails for want of operands, or outside its own domain. -/
theorem Operator.canRaise_of_applyTop {op : Operator} {operands : List Float} {error : CalcError}
    (failed : (op.applyTop operands).1 = .error error) :
    error = .malformed ∨ (Token.operator op).CanRaise error := by
  cases operands with
  | nil =>
    cases failed
    exact .inl rfl
  | cons right rest =>
    -- With its operands present, an operator can only object to their values.
    cases op with
    | factorial =>
      replace failed : PocketCalculator.factorial right = .error error := failed
      unfold PocketCalculator.factorial at failed
      split at failed
      · cases failed
        exact .inr rfl
      · cases failed
    | divide =>
      obtain malformed | ⟨left, raised⟩ := eq_error_of_takeOperand failed
      · exact .inl malformed
      · unfold quotient at raised
        split at raised
        · cases raised
          exact .inr rfl
        · cases raised
    | _ =>
      -- The other operators have a value for all operands.
      obtain malformed | ⟨left, raised⟩ := eq_error_of_takeOperand failed
      · exact .inl malformed
      · cases raised

/-- Only the root has a domain of its own. -/
theorem MathFunction.canRaise_of_apply {f : MathFunction} {unit : AngleUnit} {x : Float}
    {error : CalcError} (failed : f.apply unit x = .error error) :
    (Token.name f.name).CanRaise error := by
  -- The root is the only function that can refuse its argument.
  cases f with
  | sqrt =>
    replace failed : squareRoot x = .error error := failed
    unfold squareRoot at failed
    split at failed
    · cases failed
      rfl
    · cases failed
  | _ => cases failed

namespace Instruction

/-- What a token adds to a program, be it at once or when its turn comes. -/
def ofToken : Token → List Instruction
  | .number value => [number value]
  | .name text => (MathFunction.ofName? text).toList.map function
  | .operator op => [operator op]
  -- Parentheses only order the instructions.
  | _ => []

/-- An instruction fails for want of operands, or as its token can. -/
theorem canRaise_of_execute {unit : AngleUnit} {operands : List Float} {token : Token}
    {i : Instruction} (made : i ∈ ofToken token) {error : CalcError}
    (failed : execute unit operands i = .error error) :
    error = .malformed ∨ token.CanRaise error := by
  -- Numbers cannot fail, a function fails for want of an argument or by itself, and an operator as
  -- its application does.
  cases token with
  | number value =>
    obtain rfl := List.mem_singleton.mp made
    cases failed
  | name text =>
    obtain ⟨f, found, rfl⟩ := List.mem_map.mp made
    obtain rfl : text = f.name :=
      MathFunction.ofName?_eq_some_iff.mp (Option.mem_toList.mp found)
    cases operands with
    | nil =>
      cases failed
      exact .inl rfl
    | cons argument rest => exact .inr (MathFunction.canRaise_of_apply (eq_error_of_map failed))
  | operator op =>
    obtain rfl := List.mem_singleton.mp made
    exact Operator.canRaise_of_applyTop (eq_error_of_map failed)
  -- Parentheses and unknown characters make no instructions.
  | opening | closing | unknown => cases made

end Instruction

namespace Program

open Instruction (ofWaiting ofToken)

/-- Unwinding goes down to the first entry that is not due. -/
theorem unwind_eq (due : Waiting → Bool) (waiting : List Waiting) :
    unwind due waiting = ((waiting.takeWhile due).flatMap ofWaiting, waiting.dropWhile due) := by
  -- The induction is on what waits, and both sides stop at the first entry that is not due.
  induction waiting with
  | nil => rfl
  | cons top waiting ih =>
    rw [unwind, ih]
    cases isDue : due top with
    | true => simp [isDue]
    | false => simp [isDue]

section

variable {Holds : Instruction → Prop} {due : Waiting → Bool} {waiting : List Waiting}

private theorem forall_unwind (fromWaiting : ∀ top ∈ waiting, ∀ i ∈ ofWaiting top, Holds i) :
    (∀ i ∈ (unwind due waiting).1, Holds i)
      ∧ ∀ top ∈ (unwind due waiting).2, ∀ i ∈ ofWaiting top, Holds i := by
  -- What is taken off and what stays are both parts of what waits.
  rw [unwind_eq]
  constructor
  · intro i member
    obtain ⟨top, taken, found⟩ := List.mem_flatMap.mp member
    exact fromWaiting top ((List.takeWhile_prefix due).subset taken) i found
  · intro top left
    exact fromWaiting top ((List.dropWhile_suffix due).subset left)

private theorem forall_after {earlier : List Instruction} {program : Program}
    (front : ∀ i ∈ earlier, Holds i) (behind : ∀ i ∈ program.instructions, Holds i) :
    ∀ i ∈ (after earlier program).instructions, Holds i :=
  -- The instructions of the program are those in front and those behind.
  List.forall_mem_append.mpr ⟨front, behind⟩

/-- Whatever holds of all that the tokens and the waiting entries add holds of the whole program. -/
theorem forall_instructions {tokens : List Token}
    (fromWaiting : ∀ top ∈ waiting, ∀ i ∈ ofWaiting top, Holds i)
    (fromTokens : ∀ token ∈ tokens, ∀ i ∈ ofToken token, Holds i) :
    ∀ i ∈ (ofTokensAbove waiting tokens).instructions, Holds i := by
  induction tokens generalizing waiting with
  | nil =>
    rw [ofTokensAbove]
    exact (forall_unwind fromWaiting).1
  | cons token tokens ih =>
    obtain ⟨first, later⟩ := List.forall_mem_cons.mp fromTokens
    cases token with
    | number value => exact forall_after first (ih fromWaiting later)
    | name text =>
      -- A function waits, so what it adds is carried by the entry for it.
      rw [ofTokensAbove]
      cases named : MathFunction.named text with
      | error error => exact fun _ member => absurd member List.not_mem_nil
      | ok f =>
        have found : MathFunction.ofName? text = some f :=
          MathFunction.ofName?_eq_some_iff.mpr (MathFunction.named_eq_ok_iff.mp named)
        refine ih (List.forall_mem_cons.mpr ⟨?_, fromWaiting⟩) later
        simpa [ofToken, ofWaiting, found] using first
    | operator op =>
      by_cases waits : op = .factorial
      · subst waits
        exact forall_after first (ih fromWaiting later)
      · -- Whatever it does not yield to is added first, and stands in for what was waiting.
        obtain ⟨applied, left⟩ := @forall_unwind _ op.yieldsTo _ fromWaiting
        rw [ofTokensAbove_operator waits]
        exact forall_after applied (ih (List.forall_mem_cons.mpr ⟨first, left⟩) later)
    | opening =>
      -- The group adds nothing by itself.
      refine ih (List.forall_mem_cons.mpr ⟨?_, fromWaiting⟩) later
      exact fun _ member => absurd member List.not_mem_nil
    | closing =>
      -- The entries inside come first, and then the call in front of the group, if there is one.
      obtain ⟨applied, left⟩ := @forall_unwind _ (· ≠ .group) _ fromWaiting
      rw [ofTokensAbove_closing]
      refine forall_after applied ?_
      generalize (unwind (· ≠ .group) waiting).2 = rest at left
      unfold leave
      split
      · rename_i f below
        have call := left (.function f) (.tail _ (.head _))
        exact forall_after call (ih (fun top member => left top (.tail _ (.tail _ member))) later)
      · exact ih (fun top member => left top (.tail _ member)) later
      · exact fun _ member => absurd member List.not_mem_nil
    | unknown c => exact fun _ member => absurd member List.not_mem_nil

end

/-- A program breaks off at a token without a meaning, or where parentheses do not match. -/
theorem canRaise_of_failure {waiting : List Waiting} {tokens : List Token} {error : CalcError}
    (failed : (ofTokensAbove waiting tokens).failure = some error) :
    error = .malformed ∨ ∃ token ∈ tokens, token.CanRaise error := by
  induction tokens generalizing waiting with
  | nil =>
    -- At the end only an open group breaks the program off.
    rw [ofTokensAbove] at failed
    simp only at failed
    split at failed
    · cases failed
    · exact .inl (Option.some.inj failed).symm
  | cons token tokens ih =>
    -- What a later token raises is raised behind the first one too.
    have behind : ∀ {below : List Waiting}, (ofTokensAbove below tokens).failure = some error →
        error = .malformed ∨ ∃ raising ∈ token :: tokens, raising.CanRaise error := by
      intro below failed
      obtain malformed | ⟨raising, member, raises⟩ := ih failed
      · exact .inl malformed
      · exact .inr ⟨raising, .tail _ member, raises⟩
    cases token with
    | number value => exact behind failed
    | opening => exact behind failed
    | name text =>
      -- A name without a function breaks it off at once.
      rw [ofTokensAbove, MathFunction.named] at failed
      cases found : MathFunction.ofName? text with
      | some f =>
        rw [found] at failed
        exact behind failed
      | none =>
        rw [found] at failed
        obtain rfl := Option.some.inj failed
        exact .inr ⟨.name text, .head _, rfl, found⟩
    | operator op =>
      by_cases waits : op = .factorial
      · subst waits
        exact behind failed
      · rw [ofTokensAbove_operator waits] at failed
        exact behind failed
    | closing =>
      -- A parenthesis without a partner breaks it off; what follows any other one may do so later.
      rw [ofTokensAbove_closing] at failed
      generalize (unwind (· ≠ .group) waiting).2 = rest at failed
      replace failed : (leave tokens rest).failure = some error := failed
      unfold leave at failed
      split at failed
      · exact behind failed
      · exact behind failed
      · exact .inl (Option.some.inj failed).symm
    | unknown c =>
      obtain rfl := Option.some.inj failed
      exact .inr ⟨.unknown c, .head _, rfl⟩

end Program

/-- An expression that is not malformed fails at one of its tokens. -/
theorem canRaise_of_evaluateTokens {unit : AngleUnit} {tokens : List Token} {error : CalcError}
    (failed : evaluateTokens unit tokens = .error error) :
    error = .malformed ∨ ∃ token ∈ tokens, token.CanRaise error := by
  -- The two passes fail in different ways: an instruction has no value, or the program breaks off.
  rw [evaluateTokens_eq_valueAbove] at failed
  have executes : ∀ i ∈ (Program.ofTokensAbove [] tokens).instructions, ∀ operands,
      Instruction.execute unit operands i = .error error →
        error = .malformed ∨ ∃ token ∈ tokens, token.CanRaise error := by
    refine Program.forall_instructions (fun _ member => absurd member List.not_mem_nil) ?_
    intro token member i made operands raised
    exact (Instruction.canRaise_of_execute made raised).imp_right fun raises => ⟨token, member, raises⟩
  unfold Program.valueAbove at failed
  cases run : (Program.ofTokensAbove [] tokens).instructions.foldlM (Instruction.execute unit) []
  with
  | error raised =>
    rw [run, error_bind] at failed
    cases failed
    obtain ⟨i, member, operands, raises⟩ := exists_of_foldlM_error run
    exact executes i member operands raises
  | ok final =>
    rw [run, ok_bind] at failed
    split at failed
    · rename_i reason _ broken
      cases failed
      exact Program.canRaise_of_failure broken
    · cases failed
    · cases failed
      exact .inl rfl

end PocketCalculator
