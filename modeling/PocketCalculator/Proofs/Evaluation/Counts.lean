import PocketCalculator.Proofs.Evaluation.Shape
import PocketCalculator.Proofs.Stacks.Balance

/-! What can be counted in every list of tokens that has a value. -/

namespace PocketCalculator

namespace Token

/-- A token that puts an operand on the stack. -/
def isNumber : Token → Bool
  | number _ => true
  | _ => false

/-- A token that makes one operand of two. -/
def isBinary : Token → Bool
  -- The factorial leaves as many operands as it finds.
  | operator op => op.isBinary
  | _ => false

/-- Numbers add to the operands that are left, and binary operators take from them. -/
theorem sum_supply_eq (tokens : List Token) :
    (tokens.map supply).sum = tokens.countP isNumber - tokens.countP isBinary := by
  -- No token counts as both, and every other one counts for nothing.
  induction tokens with
  | nil => rfl
  | cons token tokens ih =>
    rw [List.map_cons, List.sum_cons, ih]
    cases token with
    | operator op =>
      cases binary : op.isBinary <;> simp [supply, isNumber, isBinary, binary]
      omega
    | _ => simp [supply, isNumber, isBinary, List.countP_cons] <;> omega

/-- Opening parentheses go deeper, and closing ones come back. -/
theorem sum_nesting_eq (tokens : List Token) :
    (tokens.map nesting).sum = tokens.count opening - tokens.count closing := by
  -- No other token is a parenthesis.
  induction tokens with
  | nil => rfl
  | cons token tokens ih =>
    rw [List.map_cons, List.sum_cons, ih]
    cases token <;> simp [nesting] <;> omega

end Token

/-- No operand, operator or parenthesis of these tokens is missing or one too many. -/
structure IsBalanced (tokens : List Token) : Prop where
  /-- Every binary operator joins two operands to one, and one is left. -/
  operands : tokens.countP Token.isNumber = tokens.countP Token.isBinary + 1
  /-- No parenthesis is closed before it is opened. -/
  opened : ∀ front, front <+: tokens → front.count .closing ≤ front.count .opening
  /-- Every parenthesis that is opened is closed. -/
  closed : tokens.count .opening = tokens.count .closing
  /-- Every character means something. -/
  characters : ∀ c, .unknown c ∉ tokens
  /-- Every name is that of a function. -/
  names : ∀ text, .name text ∈ tokens → ∃ f : MathFunction, text = f.name

section

variable {unit : AngleUnit}

/-- Tokens that are taken in never close more groups than they open. -/
theorem count_closing_le {tokens : List Token} {state : Stacks}
    (taken : tokens.foldlM (Stacks.feed unit) Stacks.empty = .ok state) :
    tokens.count .closing ≤ tokens.count .opening := by
  -- What they open and do not close is what is open in the end.
  obtain ⟨-, depth, -⟩ := Stacks.foldlM_balance taken
  rw [Stacks.depth_empty, Token.sum_nesting_eq] at depth
  omega

/-- Where tokens have a value, every part of them from the start is taken in. -/
theorem exists_foldlM_of_prefix {tokens front : List Token} {value : Float}
    (worth : evaluateTokens unit tokens = .ok value) (isFront : front <+: tokens) :
    ∃ state, front.foldlM (Stacks.feed unit) Stacks.empty = .ok state := by
  -- The evaluation of the whole reads the front first.
  obtain ⟨rest, rfl⟩ := isFront
  rw [evaluateTokens_append, bind_eq_ok_iff] at worth
  obtain ⟨state, taken, -⟩ := worth
  exact ⟨state, taken⟩

/-- Tokens with a value are balanced, since they leave the stacks with one operand and nothing open. -/
theorem isBalanced_of_ok {tokens : List Token} {value : Float}
    (worth : evaluateTokens unit tokens = .ok value) : IsBalanced tokens := by
  obtain ⟨supplied, nested, known⟩ := Stacks.outcome_balance worth
  rw [Stacks.supply_empty, Token.sum_supply_eq] at supplied
  rw [Stacks.depth_empty, Token.sum_nesting_eq] at nested
  refine ⟨by omega, ?_, by omega, ?_, ?_⟩
  · -- The front alone leaves a state too.
    intro front isFront
    obtain ⟨state, taken⟩ := exists_foldlM_of_prefix worth isFront
    exact count_closing_le taken
  · intro c member
    cases known _ member
  · intro text member
    obtain ⟨f, found⟩ := Option.isSome_iff_exists.mp (known _ member)
    exact ⟨f, MathFunction.ofName?_eq_some_iff.mp found⟩

end

section

variable {tokens others : List Token}

/-- Whatever does not look at the values of numbers counts the same in tokens of one shape. -/
theorem SameShape.countP_eq (alike : SameShape tokens others) (p : Token → Bool)
    (blind : ∀ token : Token, p token.shape = p token) : tokens.countP p = others.countP p := by
  -- A count that cannot see values is one of the shapes.
  have counted : ∀ list : List Token, (list.map Token.shape).countP p = list.countP p := by
    intro list
    rw [List.countP_map]
    exact List.countP_congr fun token _ => by simp [blind]
  rw [← counted tokens, ← counted others, alike]

/-- Tokens of one shape have the same parentheses. -/
theorem SameShape.count_eq (alike : SameShape tokens others) {token : Token}
    (parenthesis : token = .opening ∨ token = .closing) : tokens.count token = others.count token := by
  -- Taking the value away makes no parenthesis of anything.
  refine alike.countP_eq _ fun found => ?_
  rcases parenthesis with rfl | rfl <;> cases found <;> rfl

/-- A token that is no number stands in both or in none of two lists of one shape. -/
theorem SameShape.mem_iff (alike : SameShape tokens others) {token : Token}
    (other : token.isNumber = false) : token ∈ tokens ↔ token ∈ others := by
  -- Only numbers share their shape with another token.
  have kept : ∀ list : List Token, token ∈ list ↔ token ∈ list.map Token.shape := by
    intro list
    rw [List.mem_map]
    constructor
    · intro member
      refine ⟨token, member, ?_⟩
      cases token <;> first | rfl | cases other
    · rintro ⟨found, member, same⟩
      cases found with
      | number x =>
        subst same
        cases other
      | _ =>
        subst same
        exact member
  rw [kept tokens, kept others, alike]

/-- Balance does not depend on the values of numbers. -/
theorem IsBalanced.of_sameShape (balanced : IsBalanced tokens) (alike : SameShape tokens others) :
    IsBalanced others := by
  refine ⟨?_, ?_, ?_, ?_, ?_⟩
  · rw [← alike.countP_eq Token.isNumber (by rintro ⟨⟩ <;> rfl),
      ← alike.countP_eq Token.isBinary (by rintro ⟨⟩ <;> rfl)]
    exact balanced.operands
  · intro front isFront
    -- The front of the same length has the same parentheses.
    have sameFront : SameShape (tokens.take front.length) front := by
      rw [SameShape, List.map_take, alike, ← List.map_take, ← List.prefix_iff_eq_take.mp isFront]
    rw [← sameFront.count_eq (.inl rfl), ← sameFront.count_eq (.inr rfl)]
    exact balanced.opened _ (List.take_prefix _ _)
  · rw [← alike.count_eq (.inl rfl), ← alike.count_eq (.inr rfl)]
    exact balanced.closed
  · intro c member
    exact balanced.characters c ((alike.mem_iff rfl).mpr member)
  · intro text member
    exact balanced.names text ((alike.mem_iff rfl).mpr member)

end

/--
Tokens with a value are balanced.

If they are not balanced, then no choice of their numbers gives them a value.
-/
theorem isBalanced_of_evaluateTokens (tokens : List Token) :
    (∀ (unit : AngleUnit) (value : Float), evaluateTokens unit tokens = .ok value →
        IsBalanced tokens)
      ∧ (¬IsBalanced tokens → ∀ others, SameShape tokens others →
        ∀ (unit : AngleUnit) (value : Float), evaluateTokens unit others ≠ .ok value) := by
  refine ⟨fun unit value => isBalanced_of_ok, ?_⟩
  intro unbalanced others alike unit value worth
  -- With other numbers the balance would be the same.
  exact unbalanced ((isBalanced_of_ok worth).of_sameShape alike.symm)

/-- Juxtaposed operands are balanced if operators make up for them, and not if one is left over. -/
theorem isBalanced_of_evaluateTokens_juxtaposed :
    evaluateTokens .degrees [.number 7, .opening, .number 9, .closing, .operator .add] = .ok 16
      ∧ IsBalanced [.number 7, .opening, .number 9, .closing, .operator .add]
      ∧ ¬IsBalanced [.number 7, .opening, .number 9, .closing]
      ∧ SameShape [.number 7, .opening, .number 9, .closing]
        [.number 0, .opening, .number 1, .closing]
      ∧ evaluateTokens .radians [.number 0, .opening, .number 1, .closing] ≠ .ok 1 := by
  -- Two operands with an operator behind them, and two without one, which fail for every choice
  -- of numbers.
  have worth : evaluateTokens .degrees
      [.number 7, .opening, .number 9, .closing, .operator .add] = .ok 16 := by
    decide +kernel
  have unbalanced : ¬IsBalanced [.number 7, .opening, .number 9, .closing] := by
    intro balanced
    exact absurd balanced.operands (by decide)
  have alike : SameShape [.number 7, .opening, .number 9, .closing]
      [.number 0, .opening, .number 1, .closing] := by
    simp [SameShape, Token.shape]
  refine ⟨worth, ?_, unbalanced, alike, ?_⟩
  · exact (isBalanced_of_evaluateTokens _).1 .degrees 16 worth
  · exact (isBalanced_of_evaluateTokens _).2 unbalanced _ alike .radians 1

end PocketCalculator
