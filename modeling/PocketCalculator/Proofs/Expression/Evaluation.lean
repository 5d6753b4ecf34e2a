import PocketCalculator.Expression
import PocketCalculator.Proofs.Arithmetic.Operation
import PocketCalculator.Proofs.Stacks.Settling

/-! The stacks work out the tokens of an expression to the value of the expression. -/

namespace PocketCalculator

namespace Expression

/-- The precedence from which on an expression of a level may leave entries waiting. -/
def Level.floor : Level → Nat
  | sum => 1
  | product => 2
  | power => 3
  | application => MathFunction.precedence
  -- Behind a complete factor nothing waits, and no entry binds this tightly.
  | factor | primary => 5

/-- All entries that an expression of a level may leave waiting are due. -/
def Level.Covers (level : Level) (due : Waiting → Bool) : Prop :=
  ∀ top : Waiting, level.floor ≤ top.precedence → due top

/-- A looser level covers more, so what covers it covers a tighter one too. -/
theorem Level.Covers.mono {loose tight : Level} {due : Waiting → Bool} (covers : loose.Covers due)
    (tighter : loose.floor ≤ tight.floor) : tight.Covers due :=
  -- What binds more tightly than the tighter level also does than the looser one.
  fun top above => covers top (Nat.le_trans tighter above)

/-- An expression of a level can be read above these entries without disturbing them. -/
structure Fits (level : Level) (tokens : List Token) (waiting : List Waiting) : Prop where
  /-- No operator of the expression outside its parentheses makes the top entry due. -/
  holds : ∀ top ∈ waiting.head?, ∀ op : Operator, level.floor ≤ op.precedence →
    op.yieldsTo top = false
  /-- No parenthesis of the expression is taken for the call of a function that waits. -/
  bare : ∀ f, waiting.head? = some (.function f) → tokens.head? ≠ some .opening

/-- What fits at a loose level fits at a tighter one. -/
theorem Fits.mono {loose tight : Level} {tokens : List Token} {waiting : List Waiting}
    (fits : Fits loose tokens waiting) (tighter : loose.floor ≤ tight.floor) :
    Fits tight tokens waiting where
  -- The operators of the tighter level are among those of the looser one.
  holds top found op above := fits.holds top found op (Nat.le_trans tighter above)
  bare := fits.bare

/-- Every expression is written with at least one token. -/
theorem tokens_ne_nil (e : Expression) : e.tokens ≠ [] := by
  -- Every shape writes at least one token of its own.
  induction e <;> simp_all [tokens]

/-- What follows an expression does not change its first token. -/
theorem head?_tokens_append (e : Expression) (rest : List Token) :
    (e.tokens ++ rest).head? = e.tokens.head? := by
  -- An expression writes something, so its first token is that of the whole.
  obtain ⟨first, others, written⟩ := List.exists_cons_of_ne_nil e.tokens_ne_nil
  simp [written]

/-- An expression at the front fits wherever the whole fits. -/
theorem Fits.front {level : Level} {e : Expression} {rest : List Token} {waiting : List Waiting}
    (fits : Fits level (e.tokens ++ rest) waiting) : Fits level e.tokens waiting where
  -- What waits is the same, and the first token is too.
  holds := fits.holds
  bare f found := by simpa only [head?_tokens_append] using fits.bare f found

/-- Above an operator fits every expression whose operators that one holds back. -/
theorem Fits.above {level : Level} {op : Operator} {tokens : List Token} {waiting : List Waiting}
    (holds : ∀ next : Operator, level.floor ≤ next.precedence →
      next.yieldsTo (.operator op) = false) :
    Fits level tokens (.operator op :: waiting) where
  -- The entry on top is the operator itself, and no function waits there.
  holds top found next above := by
    obtain rfl : Waiting.operator op = top := by simpa using found
    exact holds next above
  bare f found := by simp at found

/-- Above a group fits every expression. -/
theorem Fits.inside {tokens : List Token} {waiting : List Waiting} :
    Fits .sum tokens (.group :: waiting) where
  -- The entry on top is the group, which yields to no operator.
  holds top found next above := by
    obtain rfl : Waiting.group = top := by simpa using found
    exact Operator.yieldsTo_of_gt above
  bare f found := by simp at found

/-- At the end of a group everything is due that an expression can leave waiting in it. -/
private theorem Level.covers_inside : Level.sum.Covers (· ≠ .group) := by
  -- Operators and functions are above the group, and both are due.
  rintro (_ | _ | _) above
  case group => simp [floor, Waiting.precedence] at above
  all_goals simp

/-- Above a function fits every expression without operators outside its factors, unless it opens a group. -/
theorem Fits.behind {f : MathFunction} {tokens : List Token} {waiting : List Waiting}
    (bare : tokens.head? ≠ some .opening) :
    Fits .application tokens (.function f :: waiting) where
  holds _ _ next above := by
    -- No operator binds as tightly as a function.
    cases next <;> simp [Level.floor, MathFunction.precedence, Operator.precedence] at above
  bare _ _ := bare

/-- Behind a factor nothing has to be due, since no entry binds tighter than a function. -/
private theorem Level.covers_never : Level.factor.Covers fun _ => false := by
  -- Nothing binds more tightly than a function, so there is nothing to be due.
  intro top above
  exact absurd above (Nat.not_le.mpr (Nat.lt_succ_of_le top.precedence_le))

/-- No expression is malformed, whatever its operands run into. -/
theorem value_ne_malformed (unit : AngleUnit) (e : Expression) :
    e.value unit ≠ .error .malformed := by
  -- Every operator finds the operands that it takes, so only its domain can fail.
  induction e with
  | number x => simp [value]
  | group inner ih => exact ih
  | call f argument ih => exact bind_ne_malformed ih (f.apply_ne_malformed unit)
  | applied f argument ih => exact bind_ne_malformed ih (f.apply_ne_malformed unit)
  | factorial operand ih =>
    refine bind_ne_malformed ih fun operandValue => ?_
    simp [Operator.applyTop_eq_malformed_iff, Operator.arity, Operator.isBinary]
  | binary op left right leftIh rightIh =>
    refine bind_ne_malformed leftIh fun leftValue => ?_
    refine bind_ne_malformed rightIh fun rightValue => ?_
    have enough : op.arity ≤ 2 := by unfold Operator.arity; split <;> omega
    simpa [Operator.applyTop_eq_malformed_iff] using enough

open Stacks (feed settleWhile settle)

/-- Whatever is settled next, reading an expression amounts to having its value among the operands. -/
def Amounts (unit : AngleUnit) (due : Waiting → Bool) (e : Expression) (state : Stacks) : Prop :=
  -- The entries that the expression itself leaves waiting are among those that are settled.
  (e.tokens.foldlM (feed unit) state >>= settleWhile unit due) = e.value unit >>= fun v =>
    settleWhile unit due ⟨v :: state.operands, state.waiting⟩

section

variable {unit : AngleUnit} {due : Waiting → Bool} {e left right : Expression} {state : Stacks}

/-- An expression that leaves nothing waiting amounts to its value in every context. -/
theorem Amounts.of_foldlM (exact : e.tokens.foldlM (feed unit) state = e.value unit >>= fun v =>
    .ok ⟨v :: state.operands, state.waiting⟩) : Amounts unit due e state := by
  -- The value is on top already, so there is nothing left to apply.
  simp [Amounts, exact]

/-- Where nothing is settled, reading an expression does no more than to put its value on top. -/
theorem Amounts.foldlM (amounts : Amounts unit (fun _ => false) e state) :
    e.tokens.foldlM (feed unit) state = e.value unit >>= fun v =>
      .ok ⟨v :: state.operands, state.waiting⟩ := by
  -- Nothing is due, so the applications that may follow do not take place.
  simpa [Amounts] using amounts

/-- An operator settles its left operand, waits for the right one and is then settled itself. -/
theorem Amounts.binary {op : Operator} (waits : op ≠ .factorial)
    (first : Amounts unit op.yieldsTo left state)
    (held : ∀ top ∈ state.waiting.head?, op.yieldsTo top = false)
    (second : ∀ v, Amounts unit due right ⟨v :: state.operands, .operator op :: state.waiting⟩)
    (isDue : due (.operator op)) : Amounts unit due (.binary op left right) state := by
  -- Nothing below the left operand is settled for the operator.
  have stays : ∀ v, settleWhile unit op.yieldsTo ⟨v :: state.operands, state.waiting⟩
      = .ok ⟨v :: state.operands, state.waiting⟩ := by
    intro v
    cases waiting : state.waiting with
    | nil => exact Stacks.settleWhile_nil
    | cons top below => exact Stacks.settleWhile_of_not_due (held top (by simp [waiting]))
  -- Once both operands are there, the operator takes exactly these two.
  have applied : ∀ v w,
      settleWhile unit due ⟨w :: v :: state.operands, .operator op :: state.waiting⟩
        = (op.applyTop [w, v]).1 >>= fun x =>
          settleWhile unit due ⟨x :: state.operands, state.waiting⟩ := by
    intro v w
    simp only [Stacks.settleWhile_of_due isDue, Stacks.settle_operator waits, bind_assoc, ok_bind]
  unfold Amounts at first second ⊢
  calc ((left.tokens ++ .operator op :: right.tokens).foldlM (feed unit) state
          >>= settleWhile unit due)
      = (left.tokens.foldlM (feed unit) state >>= settleWhile unit op.yieldsTo) >>= fun settled =>
          right.tokens.foldlM (feed unit) ⟨settled.operands, .operator op :: settled.waiting⟩
            >>= settleWhile unit due := by
        simp only [List.foldlM_append, List.foldlM_cons, Stacks.feed_operator waits, bind_assoc,
          ok_bind]
    _ = left.value unit >>= fun v => right.value unit >>= fun w =>
          settleWhile unit due ⟨w :: v :: state.operands, .operator op :: state.waiting⟩ := by
        simp only [first, bind_assoc, stays, ok_bind, second]
    _ = _ := by
        simp only [applied, value, bind_assoc]

/-- A function waits for its argument and is then settled itself. -/
theorem Amounts.applied {f : MathFunction}
    (argument : Amounts unit due e ⟨state.operands, .function f :: state.waiting⟩)
    (isDue : due (.function f)) : Amounts unit due (.applied f e) state := by
  -- The function waits on top of the argument and is applied to its value.
  unfold Amounts at argument ⊢
  simp only [tokens, value, List.foldlM_cons, Stacks.feed_name, ok_bind, argument,
    Stacks.settleWhile_of_due isDue, Stacks.settle_function, bind_assoc]

/-- A factorial is applied to its operand at once. -/
theorem Amounts.factorial (operand : Amounts unit (fun _ => false) e state) :
    Amounts unit due (.factorial e) state := by
  -- The factorial is applied to the value of its operand at once.
  apply Amounts.of_foldlM
  simp only [tokens, value, List.foldlM_append, operand.foldlM, List.foldlM_cons, List.foldlM_nil,
    bind_assoc, ok_bind, Stacks.feed_factorial, bind_pure]

/-- Parentheses work out what they enclose, and make the call that they are part of. -/
theorem foldlM_parentheses
    (content : Amounts unit (· ≠ .group) e ⟨state.operands, .group :: state.waiting⟩) :
    (Token.opening :: e.tokens ++ [Token.closing]).foldlM (feed unit) state
      = e.value unit >>= fun v => Stacks.call unit ⟨v :: state.operands, state.waiting⟩ := by
  -- The open group keeps everything below it as it was.
  have stays : ∀ v, settleWhile unit (· ≠ .group) ⟨v :: state.operands, .group :: state.waiting⟩
      = .ok ⟨v :: state.operands, .group :: state.waiting⟩ :=
    fun v => Stacks.settleWhile_of_not_due rfl
  unfold Amounts at content
  calc (Token.opening :: e.tokens ++ [Token.closing]).foldlM (feed unit) state
      = (e.tokens.foldlM (feed unit) ⟨state.operands, .group :: state.waiting⟩
          >>= settleWhile unit (· ≠ .group)) >>= Stacks.leave unit := by
        simp only [List.cons_append, List.foldlM_cons, List.foldlM_append, List.foldlM_nil,
          Stacks.feed_opening, Stacks.feed_closing, Stacks.close_eq, ok_bind, bind_assoc, bind_pure]
    _ = _ := by
        simp only [content, bind_assoc, stays, ok_bind, Stacks.leave_group]

/-- A group amounts to what it encloses, where no function waits to be called with it. -/
theorem Amounts.group (content : Amounts unit (· ≠ .group) e ⟨state.operands, .group :: state.waiting⟩)
    (bare : ∀ f, state.waiting.head? ≠ some (.function f)) : Amounts unit due (.group e) state := by
  -- Behind the parenthesis there is nothing to call.
  have done : ∀ v, Stacks.call unit ⟨v :: state.operands, state.waiting⟩
      = .ok ⟨v :: state.operands, state.waiting⟩ := fun v => Stacks.call_of_bare bare
  apply Amounts.of_foldlM
  simp only [tokens, value, foldlM_parentheses content, done]

/-- A call amounts to the function at what the parentheses enclose. -/
theorem Amounts.call {f : MathFunction}
    (content : Amounts unit (· ≠ .group) e
      ⟨state.operands, .group :: .function f :: state.waiting⟩) :
    Amounts unit due (.call f e) state := by
  -- The group closes on the value of its content, and the function in front is called with it.
  apply Amounts.of_foldlM
  have parentheses := @foldlM_parentheses unit e ⟨state.operands, .function f :: state.waiting⟩ content
  simp only [tokens, value, List.cons_append, List.foldlM_cons, Stacks.feed_name, ok_bind,
    bind_assoc] at parentheses ⊢
  simp only [parentheses, Stacks.call_function, Stacks.settle_function]

/-- A chain of equally tight operators that groups from the left. -/
theorem Amounts.chain (level tighter : Level) {op : Operator} (fromLeft : op ≠ .power)
    (positive : 0 < level.floor) (loosest : level.floor = op.precedence)
    (next : tighter.floor = op.precedence + 1)
    (first : ∀ {state due}, Fits level left.tokens state.waiting → level.Covers due →
      Amounts unit due left state)
    (second : ∀ {state due}, Fits tighter right.tokens state.waiting → tighter.Covers due →
      Amounts unit due right state)
    (fits : Fits level (Expression.binary op left right).tokens state.waiting)
    (covers : level.Covers due) : Amounts unit due (.binary op left right) state := by
  have waits : op ≠ .factorial := by
    rintro rfl
    exact absurd positive (by simp [loosest, Operator.precedence])
  -- The operator settles its whole left operand, and holds back what is tighter than itself.
  refine Amounts.binary waits (first fits.front fun top tight => ?_) (fun top found => ?_)
    (fun v => second (Fits.above fun following above => ?_) (covers.mono ?_)) (covers _ ?_)
  · exact Operator.yieldsTo_of_le fromLeft (loosest ▸ tight)
  · exact fits.holds top found op (Nat.le_of_eq loosest)
  · rw [next] at above
    exact Operator.yieldsTo_of_gt above
  · omega
  · exact Nat.le_of_eq loosest

/--
An expression amounts to its value above all entries that it fits on.

Whatever it leaves waiting itself has to be settled next.
-/
theorem AtLevel.amounts {level : Level} (member : AtLevel level e) :
    ∀ {state due}, Fits level e.tokens state.waiting → level.Covers due →
      Amounts unit due e state := by
  -- The induction follows the grammar, one level inside the other.
  induction member with
  | @sum op _ _ loosest _ _ firstIh secondIh =>
    intro state due fits covers
    have bound : op.precedence = 1 := Operator.precedence_eq_one_iff.mpr loosest
    have fromLeft : op ≠ .power := by
      rintro rfl
      cases bound
    exact Amounts.chain .sum .product fromLeft (by decide) bound.symm (by rw [bound]; rfl)
      firstIh secondIh fits covers
  | @product op _ _ middle _ _ firstIh secondIh =>
    intro state due fits covers
    have bound : op.precedence = 2 := Operator.precedence_eq_two_iff.mpr middle
    have fromLeft : op ≠ .power := by
      rintro rfl
      cases bound
    exact Amounts.chain .product .power fromLeft (by decide) bound.symm (by rw [bound]; rfl)
      firstIh secondIh fits covers
  | power _ _ firstIh secondIh =>
    intro state due fits covers
    -- Only functions can wait in the base, and another power is held back for the exponent.
    refine Amounts.binary (by decide) (firstIh (fits.front.mono (by decide)) fun top tight => ?_)
      (fun top found => fits.holds top found .power (by decide))
      (fun v => secondIh (Fits.above fun following above => ?_) covers) (covers _ (by decide))
    · exact Operator.yieldsTo_of_lt tight
    · cases following <;> first | rfl | simp [Level.floor, Operator.precedence] at above
  | sumOfProduct _ ih | productOfPower _ ih | powerOfApplication _ ih | applicationOfFactor _ ih
  | factorOfPrimary _ ih =>
    -- What is tighter fits wherever the looser level does.
    intro state due fits covers
    exact ih (fits.mono (by decide)) (covers.mono (by decide))
  | applied inner bare ih =>
    exact fun fits covers => Amounts.applied (ih (Fits.behind bare) covers) (covers _ (Nat.le_refl _))
  | factorial _ ih =>
    intro state due fits covers
    -- A factor leaves nothing waiting, so nothing has to be due.
    exact Amounts.factorial (ih fits.front Level.covers_never)
  | number => exact fun fits covers => Amounts.of_foldlM rfl
  | group _ ih =>
    intro state due fits covers
    exact Amounts.group (ih Fits.inside Level.covers_inside) fun f found => fits.bare f found rfl
  | call _ ih => exact fun fits covers => Amounts.call (ih Fits.inside Level.covers_inside)

end

/-- The tokens of a sum are worked out to its value. -/
theorem evaluateTokens_eq_value (unit : AngleUnit) {e : Expression} (member : AtLevel .sum e) :
    evaluateTokens unit e.tokens = e.value unit := by
  -- Nothing waits below the first token, and at the end everything is due.
  have fits : Fits .sum e.tokens [] := ⟨by simp, by simp⟩
  have amounts : Amounts unit (fun _ => true) e ⟨[], []⟩ :=
    member.amounts fits fun _ _ => rfl
  unfold Amounts at amounts
  calc evaluateTokens unit e.tokens
      = (e.tokens.foldlM (feed unit) ⟨[], []⟩ >>= settleWhile unit fun _ => true)
          >>= Stacks.handOut := (bind_assoc _ _ _).symm
    _ = e.value unit := by
        simp only [amounts, bind_assoc, Stacks.settleWhile_nil, ok_bind, Stacks.handOut, bind_ok]

/-- The tree of `10 - 4 - 2 * (1 + 2)!`. -/
def mixedChain : Expression :=
  -- The differences group from the left, and the factorial belongs to the group alone.
  .binary .subtract (.binary .subtract (.number 10) (.number 4))
    (.binary .multiply (.number 2) (.factorial (.group (.binary .add (.number 1) (.number 2)))))

/-- A factor is a sum of one term. -/
theorem AtLevel.sum_of_factor {e : Expression} (member : AtLevel .factor e) : AtLevel .sum e :=
  -- Each level includes the next tighter one.
  .sumOfProduct (.productOfPower (.powerOfApplication (.applicationOfFactor member)))

/-- The tree is one of the grammar. -/
theorem atLevel_mixedChain : AtLevel .sum mixedChain := by
  -- The tree is built from the numbers up, each level by its own rule.
  have factor : ∀ x, AtLevel .factor (.number x) := fun _ => .factorOfPrimary .number
  have power : ∀ x, AtLevel .power (.number x) := fun x =>
    .powerOfApplication (.applicationOfFactor (factor x))
  have inner : AtLevel .sum (.binary .add (.number 1) (.number 2)) :=
    .sum (.inl rfl) (.sum_of_factor (factor 1)) (.productOfPower (power 2))
  exact .sum (.inr rfl) (.sum (.inr rfl) (.sum_of_factor (factor 10)) (.productOfPower (power 4)))
    (.product (.inl rfl) (.productOfPower (power 2)) (.powerOfApplication (.applicationOfFactor
      (.factorial (.factorOfPrimary (.group inner))))))

/--
Every sum is worked out to exactly what the grammar says it is worth, in either unit.

This settles how tightly everything binds at any depth, and which of several errors is the one that counts.
A sum is never malformed, so at worst an operation inside it is outside its domain.
-/
theorem evaluateTokens_sum (unit : AngleUnit) {e : Expression} (member : AtLevel .sum e) :
    evaluateTokens unit e.tokens = e.value unit
      ∧ evaluateTokens unit e.tokens ≠ .error .malformed := by
  -- The tokens have the value of the tree, and a tree always has a value or an error of its own.
  have worth := evaluateTokens_eq_value unit member
  exact ⟨worth, worth ▸ e.value_ne_malformed unit⟩

/-- A tree that holds each kind of grouping is worked out as it should be. -/
theorem evaluateTokens_mixedChain :
    AtLevel .sum mixedChain
      ∧ evaluateTokens .degrees
          [.number 10, .operator .subtract, .number 4, .operator .subtract, .number 2,
            .operator .multiply, .opening, .number 1, .operator .add, .number 2, .closing,
            .operator .factorial] = .ok (-6)
      ∧ evaluateTokens .degrees mixedChain.tokens ≠ .error .malformed :=
  -- The tree of the chain has a value, which is then computed out.
  have worth := evaluateTokens_sum .degrees atLevel_mixedChain
  ⟨atLevel_mixedChain, worth.1.trans rfl, worth.2⟩

end Expression

end PocketCalculator
