import PocketCalculator.Proofs.Expression.Evaluation
import PocketCalculator.Proofs.Stacks.Balance
import PocketCalculator.Token.Adjacency

/-! Separated tokens that have a value are those of an expression. -/

namespace PocketCalculator

namespace Token

/-- Tokens that complete an expression behind some open groups, where an operand is due next or not. -/
inductive Completes : (due : Bool) → (depth : Nat) → List Token → Prop where
  /-- A number is an operand. -/
  | number {x : Float} {depth : Nat} {tokens : List Token} (rest : Completes false depth tokens) :
      Completes true depth (.number x :: tokens)
  /-- Behind a function its argument is due. -/
  | name {f : MathFunction} {depth : Nat} {tokens : List Token}
      (rest : Completes true depth tokens) : Completes true depth (.name f.name :: tokens)
  /-- In a group an operand is due. -/
  | opening {depth : Nat} {tokens : List Token} (rest : Completes true (depth + 1) tokens) :
      Completes true depth (.opening :: tokens)
  /-- Behind an operand the innermost group may end. -/
  | closing {depth : Nat} {tokens : List Token} (rest : Completes false depth tokens) :
      Completes false (depth + 1) (.closing :: tokens)
  /-- A factorial follows its operand. -/
  | factorial {depth : Nat} {tokens : List Token} (rest : Completes false depth tokens) :
      Completes false depth (.operator .factorial :: tokens)
  /-- Behind a binary operator its right operand is due. -/
  | operator {op : Operator} {depth : Nat} {tokens : List Token} (waits : op ≠ .factorial)
      (rest : Completes true depth tokens) : Completes false depth (.operator op :: tokens)
  /-- The end stands behind an operand and outside all groups. -/
  | done : Completes false 0 []

/-- No operand begins where none is due. -/
def Heeds (due : Bool) (tokens : List Token) : Prop :=
  due = false → ∀ token ∈ tokens.head?, token.beginsOperand = false

private theorem separated_nil : Separated [] := by
  -- No two tokens follow each other in an empty list.
  intro token next inside
  simp at inside

/-- Tokens are separated if the first two are and all others are. -/
theorem separated_cons {token : Token} {tokens : List Token} :
    Separated (token :: tokens) ↔ Heeds (!token.endsOperand) tokens ∧ Separated tokens := by
  -- A pair of neighbours either stands at the front or lies behind the first token.
  constructor
  · intro separated
    refine ⟨fun ends next found => ?_, fun first second inside =>
      separated first second (inside.trans (List.suffix_cons token tokens).isInfix)⟩
    obtain ⟨others, rfl⟩ : ∃ others, tokens = next :: others := by
      cases tokens <;> simp_all
    have apart := separated token next ⟨[], others, rfl⟩
    simp_all
  · rintro ⟨front, others⟩ first second inside
    rcases List.infix_cons_iff.mp inside with ⟨behind, same⟩ | within
    · obtain ⟨rfl, rfl⟩ : first = token ∧ second :: behind = tokens := by simpa using same
      rintro ⟨ends, begins⟩
      have none := front (by simp [ends]) second rfl
      simp [begins] at none
    · exact others first second within

/-- How many operands separated tokens supply at most, given whether one is due. -/
def most (due : Bool) : Int :=
  -- An operator takes as much as the operand behind it supplies.
  if due then 1 else 0

/-- A known token supplies at most what is due before it beyond what is due behind it. -/
theorem supply_add_most_le {due : Bool} {token : Token} (known : token.isKnown)
    (heeds : due = false → token.beginsOperand = false) :
    token.supply + most (!token.endsOperand) ≤ most due
      ∧ (token.supply + most (!token.endsOperand) = most due → due = token.beginsOperand) := by
  -- Where an operand is due, every token but those that begin one falls short of it.
  cases due <;> cases token
  case false.operator op | true.operator op =>
    by_cases waits : op = .factorial <;>
      simp [supply, most, endsOperand, beginsOperand, Operator.isBinary, waits]
  all_goals simp_all [supply, most, endsOperand, beginsOperand, isKnown]

/-- Separated tokens supply at most the one operand that is due. -/
theorem sum_supply_le {due : Bool} {tokens : List Token} (separated : Separated tokens)
    (heeds : Heeds due tokens) (known : ∀ token ∈ tokens, token.isKnown) :
    (tokens.map supply).sum ≤ most due := by
  -- The induction is on the tokens; each adds at most what it changes in the bound.
  induction tokens generalizing due with
  | nil => cases due <;> decide
  | cons token tokens ih =>
    simp only [List.forall_mem_cons] at known
    obtain ⟨behind, separated⟩ := separated_cons.mp separated
    have rest := ih separated behind known.2
    have step := (supply_add_most_le known.1 fun none => heeds none token rfl).1
    simp only [List.map_cons, List.sum_cons]
    omega

/--
Separated tokens that lead to a value complete an expression.

Where operands and operators do not take turns an operand is missing at the end.
-/
theorem completes_of_outcome {unit : AngleUnit} {value : Float} {due : Bool} {tokens : List Token}
    {state : Stacks} (found : Stacks.outcome unit state tokens = .ok value)
    (separated : Separated tokens) (heeds : Heeds due tokens)
    (supplied : (tokens.map supply).sum = most due) : Completes due state.depth tokens := by
  induction tokens generalizing due state with
  | nil =>
    -- At the end an operand would still be missing if one were due.
    obtain rfl : due = false := by cases due <;> simp [most] at supplied ⊢
    rw [(Stacks.finish_balance found).2]
    exact .done
  | cons token tokens ih =>
    have known := (Stacks.outcome_balance found).2.2
    rw [Stacks.outcome_cons, bind_eq_ok_iff] at found
    obtain ⟨next, taken, found⟩ := found
    simp only [List.forall_mem_cons] at known
    simp only [List.map_cons, List.sum_cons] at supplied
    obtain ⟨behind, separated⟩ := separated_cons.mp separated
    -- Neither the token nor those behind it can fall short.
    have most_rest := sum_supply_le separated behind known.2
    have step := supply_add_most_le known.1 fun none => heeds none token rfl
    have turn : due = token.beginsOperand := step.2 (by omega)
    have rest := ih found separated behind (by omega)
    have nested := (Stacks.feed_balance taken).2.1
    -- The depth changes only at parentheses.
    have same (flat : token.nesting = 0) : next.depth = state.depth := by omega
    subst turn
    cases token with
    | number x =>
      exact .number (same rfl ▸ rest)
    | name text =>
      obtain ⟨f, named⟩ := Option.isSome_iff_exists.mp known.1
      obtain rfl := MathFunction.ofName?_eq_some_iff.mp named
      exact .name (same rfl ▸ rest)
    | operator op =>
      by_cases waits : op = .factorial
      · subst waits
        exact .factorial (same rfl ▸ rest)
      · refine .operator waits (same rfl ▸ ?_)
        simpa [endsOperand, waits] using rest
    | opening =>
      obtain deeper : next.depth = state.depth + 1 := by
        simp only [nesting] at nested
        omega
      exact .opening (deeper ▸ rest)
    | closing =>
      obtain deeper : state.depth = next.depth + 1 := by
        simp only [nesting] at nested
        omega
      exact deeper ▸ .closing rest
    | unknown character => simp [isKnown] at known

end Token

namespace Expression

/-- Operators bind looser than functions and factorials. -/
private theorem Level.not_admitted {level : Level} {op : Operator} (tight : 4 ≤ level.floor) :
    ¬level.floor ≤ op.precedence := by
  -- Binary operators have the precedences one to three.
  have bound : op.precedence ≤ 3 := by cases op <;> decide
  omega

/-- An operator and its left operand can be put in front of an expression of a level that admits it. -/
theorem AtLevel.exists_prepend {level : Level} {e operand : Expression} {op : Operator}
    (member : AtLevel level e) (single : AtLevel .application operand)
    (admitted : level.floor ≤ op.precedence) :
    ∃ whole, AtLevel level whole ∧ whole.tokens = operand.tokens ++ .operator op :: e.tokens := by
  -- The operator joins the leftmost operand of the first level that it belongs to.
  induction member with
  -- The leftmost operand of a sum or a product is that of its left side.
  | @sum next _ right loosest _ second firstIh _ =>
    obtain ⟨whole, grown, written⟩ := firstIh admitted
    exact ⟨.binary next whole right, .sum loosest grown second, by simp [tokens, written]⟩
  | @product next _ right middle _ second firstIh _ =>
    obtain ⟨whole, grown, written⟩ := firstIh admitted
    exact ⟨.binary next whole right, .product middle grown second, by simp [tokens, written]⟩
  | @sumOfProduct e inner ih =>
    -- An operator of this level makes a node here, and a tighter one is passed on inwards.
    by_cases loosest : op.precedence = 1
    · exact ⟨.binary op operand e,
        .sum (Operator.precedence_eq_one_iff.mp loosest)
          (.sumOfProduct (.productOfPower (.powerOfApplication single))) inner, rfl⟩
    · obtain ⟨whole, grown, written⟩ := ih (by simp only [Level.floor] at admitted ⊢; omega)
      exact ⟨whole, .sumOfProduct grown, written⟩
  | @productOfPower e inner ih =>
    by_cases middle : op.precedence = 2
    · exact ⟨.binary op operand e,
        .product (Operator.precedence_eq_two_iff.mp middle)
          (.productOfPower (.powerOfApplication single)) inner, rfl⟩
    · obtain ⟨whole, grown, written⟩ := ih (by simp only [Level.floor] at admitted ⊢; omega)
      exact ⟨whole, .productOfPower grown, written⟩
  | @power base exponent first second _ _ =>
    -- At the level of powers only a power is admitted, and it groups to the right.
    obtain rfl : op = .power := by cases op <;> simp_all [Level.floor, Operator.precedence]
    exact ⟨.binary .power operand (.binary .power base exponent),
      .power single (.power first second), rfl⟩
  | @powerOfApplication e inner _ =>
    obtain rfl : op = .power := by cases op <;> simp_all [Level.floor, Operator.precedence]
    exact ⟨.binary .power operand e, .power single (.powerOfApplication inner), rfl⟩
  | applied | applicationOfFactor | factorial | factorOfPrimary | number | group | call =>
    exact absurd admitted (Level.not_admitted (by decide))

/-- A function can be put in front of an expression, but in front of a factor only with parentheses. -/
theorem AtLevel.exists_apply {level : Level} {e : Expression} (f : MathFunction)
    (member : AtLevel level e)
    (admitted : level.floor ≤ Level.application.floor ∨ e.tokens.head? = some .opening) :
    ∃ whole, AtLevel level whole ∧ whole.tokens = .name f.name :: e.tokens := by
  -- The function applies to the leftmost operand, which it turns into a call or an application.
  induction member with
  -- The leftmost operand of a binary operator is that of its left side.
  | @sum next left right loosest _ second firstIh _ =>
    obtain ⟨whole, grown, written⟩ := firstIh (.inl (by decide))
    exact ⟨.binary next whole right, .sum loosest grown second, by simp [tokens, written]⟩
  | @product next left right middle _ second firstIh _ =>
    obtain ⟨whole, grown, written⟩ := firstIh (.inl (by decide))
    exact ⟨.binary next whole right, .product middle grown second, by simp [tokens, written]⟩
  | @power base exponent _ second firstIh _ =>
    obtain ⟨whole, grown, written⟩ := firstIh (.inl (by decide))
    exact ⟨.binary .power whole exponent, .power grown second, by simp [tokens, written]⟩
  | sumOfProduct _ ih =>
    obtain ⟨whole, grown, written⟩ := ih (.inl (by decide))
    exact ⟨whole, .sumOfProduct grown, written⟩
  | productOfPower _ ih =>
    obtain ⟨whole, grown, written⟩ := ih (.inl (by decide))
    exact ⟨whole, .productOfPower grown, written⟩
  | powerOfApplication _ ih =>
    obtain ⟨whole, grown, written⟩ := ih (.inl (by decide))
    exact ⟨whole, .powerOfApplication grown, written⟩
  -- A function in front of an application waits for that application.
  | @applied g argument inner bare _ =>
    exact ⟨.applied f (.applied g argument), .applied (.applied inner bare) (by simp [tokens]), rfl⟩
  | @applicationOfFactor e inner ih =>
    -- An opening parenthesis behind the name makes it a call of what is inside.
    by_cases opens : e.tokens.head? = some .opening
    · obtain ⟨whole, grown, written⟩ := ih (.inr opens)
      exact ⟨whole, .applicationOfFactor grown, written⟩
    · exact ⟨.applied f e, .applied (.applicationOfFactor inner) opens, rfl⟩
  | @factorial operand inner ih =>
    -- A factorial can only be reached if its operand begins with a parenthesis.
    have opens := admitted.resolve_left (by decide)
    rw [tokens, head?_tokens_append] at opens
    obtain ⟨whole, grown, written⟩ := ih (.inr opens)
    exact ⟨.factorial whole, .factorial grown, by simp [tokens, written]⟩
  | factorOfPrimary _ ih =>
    obtain ⟨whole, grown, written⟩ := ih admitted
    exact ⟨whole, .factorOfPrimary grown, written⟩
  | number => simp [Level.floor, MathFunction.precedence, tokens] at admitted
  | @group inner content _ => exact ⟨.call f inner, .call content, rfl⟩
  | call => simp [Level.floor, MathFunction.precedence, tokens] at admitted

/-- The tokens begin with a sum, and what follows it satisfies a condition. -/
def SumThen (Rest : List Token → Prop) (tokens : List Token) : Prop :=
  ∃ whole rest, AtLevel .sum whole ∧ tokens = whole.tokens ++ rest ∧ Rest rest

/-- Behind a sum, some groups end one after the other, and each of them can grow into a sum itself. -/
def Ends : Nat → List Token → Prop
  | 0, rest => rest = []
  | depth + 1, rest => ∃ behind, rest = .closing :: behind ∧
    -- What is complete at the parenthesis is a factor, whatever is called with it.
    ∀ e, AtLevel .factor e → SumThen (Ends depth) (e.tokens ++ behind)

/-- The tokens give a sum and end the groups around it, behind a factor where no operand is due. -/
def Parses : (due : Bool) → (depth : Nat) → List Token → Prop
  | true, depth, tokens => SumThen (Ends depth) tokens
  | false, depth, tokens => ∀ e, AtLevel .factor e → SumThen (Ends depth) (e.tokens ++ tokens)

/-- Tokens that complete an expression give a tree for it. -/
theorem parses_of_completes {due : Bool} {depth : Nat} {tokens : List Token}
    (completes : Token.Completes due depth tokens) : Parses due depth tokens := by
  -- The tree grows from its right end, since all that follows an operand is known when the operand is met.
  induction completes with
  | @number x _ _ _ ih => exact ih (.number x) (.factorOfPrimary .number)
  -- An operand is complete with the number, and what follows goes on from there.
  | @name f _ _ _ ih =>
    obtain ⟨inner, rest, member, rfl, ends⟩ := ih
    -- The function applies to the leftmost operand of what follows it.
    obtain ⟨whole, grown, written⟩ := member.exists_apply f (.inl (by decide))
    exact ⟨whole, rest, grown, by simp [written], ends⟩
  | opening _ ih =>
    obtain ⟨inner, _, member, rfl, behind, rfl, next⟩ := ih
    -- The group is an operand like any other once its parenthesis is closed.
    have group := next (.group inner) (.factorOfPrimary (.group member))
    simpa [Parses, Expression.tokens] using group
  | @closing _ behind _ ih =>
    exact fun e member => ⟨e, .closing :: behind, member.sum_of_factor, rfl, behind, rfl, ih⟩
  | factorial _ ih =>
    intro e member
    have grown := ih (.factorial e) (.factorial member)
    simpa [Expression.tokens] using grown
  | @operator op _ _ waits _ ih =>
    intro e member
    obtain ⟨right, rest, rightMember, rfl, ends⟩ := ih
    have admitted : Level.sum.floor ≤ op.precedence := by
      cases op <;> first | decide | contradiction
    -- The operand in front of the operator joins the tree of all that follows.
    obtain ⟨whole, grown, written⟩ :=
      rightMember.exists_prepend (.applicationOfFactor member) admitted
    exact ⟨whole, rest, grown, by simp [written], ends⟩
  | done => exact fun e member => ⟨e, [], member.sum_of_factor, rfl, rfl⟩

/--
Among separated tokens only those of a sum have a value, which is the value of that sum.

So operators without all their operands, empty parentheses and functions without an argument are never overlooked.
-/
theorem exists_sum_of_separated {unit : AngleUnit} {tokens : List Token} {value : Float}
    (separated : Token.Separated tokens) (found : evaluateTokens unit tokens = .ok value) :
    (∃ e, AtLevel .sum e ∧ e.tokens = tokens ∧ e.value unit = .ok value)
      ∧ Token.Completes true 0 tokens := by
  -- A successful run balances out, so the tokens complete an expression; parsing them gives a tree,
  -- whose value is then the value found.
  rw [evaluateTokens_eq_outcome] at found
  have supplied : (tokens.map Token.supply).sum = Token.most true := by
    simpa [Stacks.supply, Stacks.empty, Token.most] using (Stacks.outcome_balance found).1
  have heeds : Token.Heeds true tokens := fun none => Bool.noConfusion none
  have completes := Token.completes_of_outcome found separated heeds supplied
  obtain ⟨e, _, member, written, rfl⟩ := parses_of_completes completes
  rw [List.append_nil] at written
  refine ⟨⟨e, member, written.symm, ?_⟩, completes⟩
  rw [← evaluateTokens_eq_value unit member, ← written]
  exact found

/-- The tokens of the tree that holds each kind of grouping are recognised. -/
theorem exists_sum_of_mixedChain :
    Token.Separated mixedChain.tokens
      ∧ evaluateTokens .degrees mixedChain.tokens = .ok (-6)
      ∧ (∃ e, AtLevel .sum e ∧ e.tokens = mixedChain.tokens ∧ e.value .degrees = .ok (-6))
      ∧ Token.Completes true 0 mixedChain.tokens := by
  -- The chain alternates operands and operators, and its value is known from the tree.
  have separated : Token.Separated mixedChain.tokens := by
    simp [mixedChain, tokens, Token.separated_cons, Token.separated_nil, Token.Heeds,
      Token.endsOperand, Token.beginsOperand]
  have found : evaluateTokens .degrees mixedChain.tokens = .ok (-6) :=
    (evaluateTokens_eq_value .degrees atLevel_mixedChain).trans rfl
  exact ⟨separated, found, exists_sum_of_separated separated found⟩

end Expression

end PocketCalculator
