import Mathlib.Control.Monad.Basic
import PocketCalculator.Proofs.Stacks.Settling
import PocketCalculator.Token.Lexer

/-! What stands in parentheses is worked out as if it stood alone. -/

namespace PocketCalculator

/-- Operands below those that an operator takes are left as they are. -/
theorem Operator.applyTop_append {op : Operator} {operands : List Float} (below : List Float)
    (enough : (op.applyTop operands).1 ≠ .error .malformed) :
    op.applyTop (operands ++ below)
      = ((op.applyTop operands).1, (op.applyTop operands).2 ++ below) := by
  -- An operator that is not malformed finds all its operands above those below.
  have within : op.arity ≤ operands.length := by
    rw [ne_eq, applyTop_eq_malformed_iff] at enough
    omega
  rw [applyTop_eq, applyTop_eq op operands, List.take_append_of_le_length within,
    List.drop_append_of_le_length within]

namespace Stacks

/-- The stacks inside a group that was opened on top of others. -/
def above (outer inner : Stacks) : Stacks where
  operands := inner.operands ++ outer.operands
  -- The group holds back everything that waits outside.
  waiting := inner.waiting ++ .group :: outer.waiting

section

variable {unit : AngleUnit} {outer inner : Stacks}

/-- An entry inside the group is applied as it is without anything outside. -/
theorem settle_above (sound : inner.settle unit ≠ .error .malformed) :
    (outer.above inner).settle unit = (inner.settle unit).map outer.above := by
  -- What is applied is the entry on top; without one, or with a group, the inside is malformed.
  rcases inner with ⟨operands, _ | ⟨op | f | _, waiting⟩⟩
  case nil => exact absurd rfl sound
  case cons.group => exact absurd rfl sound
  case cons.operator =>
    -- The operator finds its operands inside, so it does not touch those outside.
    have enough : (op.applyTop operands).1 ≠ .error .malformed := by
      intro lacks
      exact sound (by simp [settle, lacks, Except.map])
    have framed := Operator.applyTop_append outer.operands enough
    simp only [above, settle, List.cons_append, framed]
    cases (op.applyTop operands).1 <;> rfl
  case cons.function =>
    -- The function finds its argument inside.
    cases operands with
    | nil => exact absurd rfl sound
    | cons argument operands =>
      simp only [above, settle, List.cons_append]
      cases f.apply unit argument <;> rfl

/-- Applying what is due stops at the group, if it did not stop before. -/
theorem settleWhile_above {due stop : Waiting → Bool} (held : stop .group = false)
    (agree : ∀ top, top ≠ .group → stop top = due top)
    (sound : inner.settleWhile unit due ≠ .error .malformed) :
    (outer.above inner).settleWhile unit stop = (inner.settleWhile unit due).map outer.above := by
  -- The induction follows the entries inside the group down to the group itself.
  obtain ⟨operands, waiting⟩ := inner
  induction waiting generalizing operands with
  | nil =>
    rw [settleWhile_nil]
    exact settleWhile_of_not_due held
  | cons top waiting ih =>
    cases isDue : due top with
    | false =>
      have stays : stop top = false := by
        by_cases isGroup : top = .group
        · rw [isGroup, held]
        · rw [agree top isGroup, isDue]
      rw [settleWhile_of_not_due isDue]
      exact settleWhile_of_not_due stays
    | true =>
      rw [settleWhile_of_due isDue] at sound ⊢
      -- An inner group that is due is one that was never closed.
      have inside : top ≠ .group := by
        rintro rfl
        exact sound rfl
      have isDueAbove : stop top := by rw [agree top inside, isDue]
      have framed : settle unit (outer.above ⟨operands, top :: waiting⟩) = _ :=
        settle_above (ne_malformed_of_bind sound)
      simp only [above, List.cons_append] at framed ⊢
      rw [settleWhile_of_due isDueAbove, framed]
      cases outcome : settle unit ⟨operands, top :: waiting⟩ with
      | error error => rfl
      | ok next =>
        obtain ⟨_, same⟩ := waiting_of_settle outcome
        obtain ⟨nextOperands, rest⟩ := next
        obtain ⟨-, rfl⟩ : top = _ ∧ waiting = rest := List.cons.inj same
        rw [outcome] at sound
        exact ih nextOperands sound

/-- Leaving an inner group makes the call that it makes without anything outside. -/
theorem leave_above (sound : inner.leave unit ≠ .error .malformed) :
    (outer.above inner).leave unit = (inner.leave unit).map outer.above := by
  -- The group being closed is on top of the inner stacks, and only a call below it does anything.
  rcases inner with ⟨operands, _ | ⟨_ | _ | _, _ | ⟨_ | f | _, waiting⟩⟩⟩
  case cons.group.cons.function =>
    -- The called function is inside the group as well, and is applied there.
    have called : settle unit ⟨operands, .function f :: waiting⟩ ≠ .error .malformed := sound
    exact settle_above called
  case cons.group.nil => rfl
  case cons.group.cons.operator => rfl
  case cons.group.cons.group => rfl
  all_goals exact absurd rfl sound

/-- A token inside the group is taken in as it is without anything outside. -/
theorem feed_above (token : Token) (sound : inner.feed unit token ≠ .error .malformed) :
    (outer.above inner).feed unit token = (inner.feed unit token).map outer.above := by
  -- Numbers, openings and unknown characters do not look at the stacks at all; the other tokens
  -- apply entries, and every application inside is the same with something outside.
  cases token with
  | number x => rfl
  | opening => rfl
  | unknown c => rfl
  | name text =>
    simp only [feed_name_eq]
    cases MathFunction.named text <;> rfl
  | closing =>
    -- A closing parenthesis first applies all entries down to its own group, which is inside.
    simp only [feed_closing, close_eq] at sound ⊢
    rw [settleWhile_above (by rfl) (fun _ _ => rfl) (ne_malformed_of_bind sound)]
    cases outcome : inner.settleWhile unit (· ≠ .group) with
    | error error => rfl
    | ok next =>
      rw [outcome] at sound
      exact leave_above sound
  | operator op =>
    -- A factorial takes its operand at once, and it is one from inside.
    by_cases waits : op = .factorial
    · subst waits
      have enough : (Operator.factorial.applyTop inner.operands).1 ≠ .error .malformed := by
        intro lacks
        exact sound (by simp [feed, lacks, Except.map])
      have framed := Operator.applyTop_append outer.operands enough
      simp only [above, feed, framed]
      cases (Operator.factorial.applyTop inner.operands).1 <;> rfl
    · -- Any other operator applies entries down to a group, and the outer group holds it back.
      simp only [feed_operator waits] at sound ⊢
      rw [settleWhile_above (Operator.yieldsTo_group waits) (fun _ _ => rfl)
        (ne_malformed_of_bind sound)]
      cases inner.settleWhile unit op.yieldsTo <;> rfl

/-- Tokens inside the group are taken in as they are without anything outside. -/
theorem foldlM_feed_above (tokens : List Token)
    (sound : tokens.foldlM (feed unit) inner ≠ .error .malformed) :
    tokens.foldlM (feed unit) (outer.above inner)
      = (tokens.foldlM (feed unit) inner).map outer.above := by
  -- The induction follows the tokens; each of them acts on the inside alone.
  induction tokens generalizing inner with
  | nil => rfl
  | cons token tokens ih =>
    simp only [List.foldlM_cons] at sound ⊢
    rw [feed_above token (ne_malformed_of_bind sound)]
    cases outcome : inner.feed unit token with
    -- The inside fails, and it fails with the same error on top of anything.
    | error error => rfl
    | ok next =>
      rw [outcome] at sound
      exact ih sound

/-- The end of the group hands its only operand to what stands in front of the group. -/
theorem close_above (sound : inner.finish unit ≠ .error .malformed) :
    (outer.above inner).close unit = inner.finish unit >>= fun v =>
      call unit ⟨v :: outer.operands, outer.waiting⟩ := by
  rw [finish_eq] at sound ⊢
  -- At the end everything is due, and inside the group everything but the group itself.
  have inside : ∀ top : Waiting, top ≠ .group → decide (top ≠ .group) = true := by simp
  rw [close_eq, settleWhile_above (by rfl) inside (ne_malformed_of_bind sound)]
  cases outcome : inner.settleWhile unit (fun _ => true) with
  | error error => rfl
  | ok final =>
    -- Nothing that was opened inside waits any more, and only one operand may be left.
    have empty : ∀ top ∈ final.waiting.head?, true = false :=
      (@settleWhile_induct unit _ (fun _ => True) (fun _ _ => trivial) _ _ trivial outcome).2
    rw [outcome] at sound
    rcases final with ⟨_ | ⟨v, _ | _⟩, _ | ⟨top, waiting⟩⟩
    case cons.nil.nil => rfl
    case cons.nil.cons => exact absurd (empty top rfl) (by decide)
    all_goals exact absurd rfl sound

/--
Parentheses turn accepted tokens into their value, wherever they stand.

The tokens need not be those of an expression.
-/
theorem foldlM_group (state : Stacks) {tokens : List Token}
    (sound : evaluateTokens unit tokens ≠ .error .malformed) :
    (Token.opening :: tokens ++ [Token.closing]).foldlM (feed unit) state
      = evaluateTokens unit tokens >>= fun v => call unit ⟨v :: state.operands, state.waiting⟩ := by
  rw [evaluateTokens_eq_outcome, outcome] at sound ⊢
  -- Right behind its opening parenthesis the group is empty.
  have opened : state.feed unit .opening = .ok (state.above empty) := rfl
  simp only [List.cons_append, List.foldlM_cons, List.foldlM_append, List.foldlM_nil, opened,
    ok_bind, foldlM_feed_above tokens (ne_malformed_of_bind sound), bind_pure, feed_closing]
  cases outcome : tokens.foldlM (feed unit) empty with
  | error error => rfl
  | ok inner =>
    rw [outcome] at sound
    exact close_above sound

/-- A group that stands for an operand is worth what its tokens are worth. -/
theorem foldlM_group_of_bare {state : Stacks} {tokens : List Token} {v : Float}
    (worth : evaluateTokens unit tokens = .ok v)
    (bare : ∀ f, state.waiting.head? ≠ some (.function f)) :
    (Token.opening :: tokens ++ [Token.closing]).foldlM (feed unit) state
      = state.feed unit (.number v) := by
  -- No function waits in front of the group, so its value is not the argument of a call.
  have uncalled : call unit ⟨v :: state.operands, state.waiting⟩
      = .ok ⟨v :: state.operands, state.waiting⟩ := call_of_bare bare
  rw [foldlM_group state (by simp [worth]), worth, ok_bind, uncalled]
  rfl

/-- A group behind a name is the argument of a call. -/
theorem foldlM_group_of_called {state : Stacks} {tokens : List Token} {v : Float} (f : MathFunction)
    (worth : evaluateTokens unit tokens = .ok v) :
    (Token.name f.name :: Token.opening :: tokens ++ [Token.closing]).foldlM (feed unit) state
      = f.apply unit v >>= fun w => state.feed unit (.number w) := by
  -- The function waits in front of the group and is applied as soon as that closes.
  have called : (Token.opening :: tokens ++ [Token.closing]).foldlM (feed unit)
      ⟨state.operands, .function f :: state.waiting⟩ = _ := foldlM_group _ (by simp [worth])
  rw [worth, ok_bind, call_function, settle_function] at called
  rw [List.cons_append, List.foldlM_cons, feed_name, ok_bind]
  exact called

/-- Where an operand is due, no function waits right there to be called. -/
theorem bare_of_operandDue {tokens : List Token} {state : Stacks}
    (taken : tokens.foldlM (feed unit) empty = .ok state)
    (due : Token.operandDue tokens.getLast?) : ∀ f, state.waiting.head? ≠ some (.function f) := by
  -- Only the last token matters, since it leaves itself on top.
  rcases tokens.eq_nil_or_concat with rfl | ⟨earlier, last, rfl⟩
  · -- Nothing has been read, so nothing waits.
    cases taken
    intro f
    simp [empty]
  · simp only [List.concat_eq_append, List.foldlM_append, List.foldlM_cons, List.foldlM_nil,
      bind_pure, bind_eq_ok_iff] at taken
    obtain ⟨before, -, fed⟩ := taken
    cases last with
    -- An opened group is on top.
    | opening =>
      cases fed
      intro f
      simp
    -- A binary operator waits on top.
    | operator op =>
      have waits : op ≠ .factorial := by simpa [Token.operandDue, Operator.isBinary] using due
      rw [feed_operator waits, bind_eq_ok_iff] at fed
      obtain ⟨settled, -, pushed⟩ := fed
      cases pushed
      intro f
      simp
    | _ => simp [Token.operandDue] at due

end

end Stacks

section

variable {unit : AngleUnit} {earlier group replacement later : List Token}

/-- Tokens that do to the stacks what others do can stand in their place. -/
private theorem evaluateTokens_congr
    (same : ∀ state, earlier.foldlM (Stacks.feed unit) Stacks.empty = .ok state →
      group.foldlM (Stacks.feed unit) state = replacement.foldlM (Stacks.feed unit) state) :
    evaluateTokens unit (earlier ++ group ++ later)
      = evaluateTokens unit (earlier ++ replacement ++ later) := by
  -- The evaluation is split before and behind the group; what comes first is the same.
  simp only [List.append_assoc, evaluateTokens_append]
  cases taken : earlier.foldlM (Stacks.feed unit) Stacks.empty with
  | error error => rfl
  | ok state => simp only [ok_bind, Stacks.outcome_append, same state taken]

/-- An error inside is the outcome of the whole, once the tokens before have been taken in. -/
private theorem evaluateTokens_of_error {state : Stacks} {error : CalcError}
    (taken : earlier.foldlM (Stacks.feed unit) Stacks.empty = .ok state)
    (failed : group.foldlM (Stacks.feed unit) state = .error error) :
    evaluateTokens unit (earlier ++ group ++ later) = .error error := by
  -- Once the group has failed, what follows it is not read.
  simp only [List.append_assoc, evaluateTokens_append, taken, ok_bind, Stacks.outcome_append, failed,
    error_bind]

end

/--
A group is cut off from everything around it, whatever tokens it holds and whatever stands behind it.

Where an operand is due it counts as its value, and behind a name as the value of the call.
An error inside, other than that something is malformed there, is the error of the whole.
-/
theorem evaluateTokens_isolated (unit : AngleUnit) (group later : List Token) :
    (∀ v : Float, evaluateTokens unit group = .ok v →
      (∀ earlier : List Token, Token.operandDue earlier.getLast? →
        evaluateTokens unit (earlier ++ (Token.opening :: group ++ [Token.closing]) ++ later)
          = evaluateTokens unit (earlier ++ [Token.number v] ++ later))
      ∧ (∀ (earlier : List Token) (f : MathFunction) (w : Float), f.apply unit v = .ok w →
        evaluateTokens unit
            (earlier ++ (Token.name f.name :: Token.opening :: group ++ [Token.closing]) ++ later)
          = evaluateTokens unit (earlier ++ [Token.number w] ++ later))
      ∧ ∀ (earlier : List Token) (f : MathFunction) (error : CalcError) (state : Stacks),
        f.apply unit v = .error error →
        earlier.foldlM (Stacks.feed unit) Stacks.empty = .ok state →
        evaluateTokens unit
            (earlier ++ (Token.name f.name :: Token.opening :: group ++ [Token.closing]) ++ later)
          = .error error)
    ∧ ∀ error : CalcError, evaluateTokens unit group = .error error → error ≠ .malformed →
      ∀ (earlier : List Token) (state : Stacks),
        earlier.foldlM (Stacks.feed unit) Stacks.empty = .ok state →
        evaluateTokens unit (earlier ++ (Token.opening :: group ++ [Token.closing]) ++ later)
          = .error error := by
  -- The group is read on top of whatever the earlier tokens left, as if it stood alone; then its
  -- value is pushed, called with, or its error returned.
  refine ⟨fun v worth => ⟨?_, ?_, ?_⟩, ?_⟩
  · -- No call waits where an operand is due.
    intro earlier due
    refine evaluateTokens_congr fun state taken => ?_
    rw [Stacks.foldlM_group_of_bare worth (Stacks.bare_of_operandDue taken due)]
    simp
  · -- The call has a value, and that is pushed in its place.
    intro earlier f w applied
    refine evaluateTokens_congr fun state taken => ?_
    rw [Stacks.foldlM_group_of_called f worth, applied]
    simp
  · -- The call has none, and its error ends the whole.
    intro earlier f error state failed taken
    refine evaluateTokens_of_error taken ?_
    rw [Stacks.foldlM_group_of_called f worth, failed, error_bind]
  · -- The group itself fails, whatever stands around it.
    intro error failed other earlier state taken
    refine evaluateTokens_of_error taken ?_
    rw [Stacks.foldlM_group state (by simpa [failed] using other), failed, error_bind]

/-- Groups that no expression is written as count as their values and fail with their errors. -/
theorem evaluateTokens_isolated_sums :
    evaluateTokens .degrees [.number 7, .number 9, .operator .add] = .ok 16
      ∧ evaluateTokens .degrees [.number 2, .operator .power, .opening, .number 7, .number 9,
          .operator .add, .closing, .operator .subtract, .number 1]
        = evaluateTokens .degrees [.number 2, .operator .power, .number 16, .operator .subtract,
          .number 1]
      ∧ MathFunction.sqrt.apply .degrees 16 = .ok 4
      ∧ evaluateTokens .degrees [.number 3, .name "sqrt", .opening, .number 7, .number 9,
          .operator .add, .closing, .operator .subtract]
        = evaluateTokens .degrees [.number 3, .number 4, .operator .subtract]
      ∧ MathFunction.sqrt.apply .degrees (-2) = .error .rootDomain
      ∧ evaluateTokens .degrees [.number 3, .name "sqrt", .opening, .number 7, .number (-9),
          .operator .add, .closing, .closing] = .error .rootDomain
      ∧ evaluateTokens .degrees [.number 1, .number 0, .operator .divide] = .error .divisionByZero
      ∧ evaluateTokens .degrees [.number 3, .opening, .number 1, .number 0, .operator .divide,
          .closing, .closing] = .error .divisionByZero := by
  -- The groups on their own: a sum, a sum with a negative value, and a quotient without one.
  have sum : evaluateTokens .degrees [.number 7, .number 9, .operator .add] = .ok 16 := by
    decide +kernel
  have negative : evaluateTokens .degrees [.number 7, .number (-9), .operator .add] = .ok (-2) := by
    decide +kernel
  have root : MathFunction.sqrt.apply .degrees 16 = .ok 4 := by decide +kernel
  have rootless : MathFunction.sqrt.apply .degrees (-2) = .error .rootDomain := by decide +kernel
  have quotient : evaluateTokens .degrees [.number 1, .number 0, .operator .divide]
      = .error .divisionByZero := by
    decide +kernel
  refine ⟨sum, ?_, root, ?_, rootless, ?_, quotient, ?_⟩
  · exact ((evaluateTokens_isolated .degrees _ [.operator .subtract, .number 1]).1 16 sum).1
      [.number 2, .operator .power] rfl
  · exact ((evaluateTokens_isolated .degrees _ [.operator .subtract]).1 16 sum).2.1
      [.number 3] .sqrt 4 root
  · exact ((evaluateTokens_isolated .degrees _ [.closing]).1 (-2) negative).2.2
      [.number 3] .sqrt .rootDomain ⟨[3], []⟩ rootless rfl
  · exact (evaluateTokens_isolated .degrees _ [.closing]).2 .divisionByZero quotient nofun
      [.number 3] ⟨[3], []⟩ rfl

end PocketCalculator
