import Mathlib.Algebra.Ring.Int.Defs
import PocketCalculator.Proofs.Stacks.Settling

/-! What the stacks keep in balance: operands against operators, and groups against parentheses. -/

namespace PocketCalculator

namespace Token

/-- By how many operands a token adds to those that will be left. -/
def supply : Token → Int
  | number _ => 1
  -- A binary operator makes one operand of two.
  | operator op => if op.isBinary then -1 else 0
  | _ => 0

/-- By how many groups a token goes deeper. -/
def nesting : Token → Int
  | opening => 1
  | closing => -1
  | _ => 0

/-- Whether a token means anything where names stand for functions. -/
def isKnown : Token → Bool
  | name text => (MathFunction.ofName? text).isSome
  | unknown _ => false
  | _ => true

end Token

/-- By how many operands an entry will reduce those that are there. -/
def Waiting.demand : Waiting → Int
  -- The value of a function takes the place of its argument.
  | operator op => if op.isBinary then 1 else 0
  | _ => 0

namespace Stacks

/-- The operands that are left once all that waits is applied. -/
def supply (state : Stacks) : Int :=
  state.operands.length - (state.waiting.map Waiting.demand).sum

/-- The groups that are open. -/
def depth (state : Stacks) : Nat :=
  state.waiting.count .group

section

variable {operands : List Float} {waiting : List Waiting}

/-- Before anything is read there is no operand. -/
@[simp] theorem supply_empty : empty.supply = 0 :=
  rfl

/-- Before anything is read no group is open. -/
@[simp] theorem depth_empty : empty.depth = 0 :=
  rfl

/-- Another operand is one more. -/
@[simp] theorem supply_operand (x : Float) :
    supply ⟨x :: operands, waiting⟩ = supply ⟨operands, waiting⟩ + 1 := by
  -- An operand is one more on its side of the balance.
  simp only [supply, List.length_cons, Int.natCast_add]
  omega

/-- Another entry that waits takes what it demands. -/
@[simp] theorem supply_waiting (top : Waiting) :
    supply ⟨operands, top :: waiting⟩ = supply ⟨operands, waiting⟩ - top.demand := by
  -- What waits asks for operands, which is the other side of the balance.
  simp only [supply, List.map_cons, List.sum_cons]
  omega

/-- Operands open no group. -/
@[simp] theorem depth_operand (x : Float) :
    depth ⟨x :: operands, waiting⟩ = depth ⟨operands, waiting⟩ :=
  -- Operands are not counted in the depth.
  rfl

/-- Another group is one deeper. -/
@[simp] theorem depth_group :
    depth ⟨operands, .group :: waiting⟩ = depth ⟨operands, waiting⟩ + 1 := by
  -- An open group is one level more.
  simp [depth]

/-- No other entry is a group. -/
@[simp] theorem depth_of_ne_group {top : Waiting} (closed : top ≠ .group) :
    depth ⟨operands, top :: waiting⟩ = depth ⟨operands, waiting⟩ := by
  -- Only groups count as levels.
  simp [depth, closed]

/-- An operator that finds its operands puts its value in their place. -/
theorem supply_applyTop {op : Operator} {value : Float}
    (found : (op.applyTop operands).1 = .ok value) :
    supply ⟨value :: (op.applyTop operands).2, waiting⟩
      = supply ⟨operands, .operator op :: waiting⟩ := by
  -- A value shows that no operand was missing.
  have enough : op.arity ≤ operands.length := by
    refine Nat.le_of_not_lt fun short => ?_
    have lacks := (op.applyTop_eq_malformed_iff operands).mpr short
    simp [lacks] at found
  have left : (op.applyTop operands).2.length + op.arity = operands.length := by
    rw [Operator.applyTop_eq]
    simp only [List.length_drop]
    omega
  have taken : (op.arity : Int) = Waiting.demand (.operator op) + 1 := by
    cases op <;> rfl
  simp only [supply_operand, supply_waiting]
  simp only [supply]
  omega

end

variable {unit : AngleUnit} {due : Waiting → Bool} {state next : Stacks}

/-- Both balances of one state are those of another. -/
def SameBalance (state next : Stacks) : Prop :=
  next.supply = state.supply ∧ next.depth = state.depth

/-- Applying an entry uses exactly the operands that it was counted with. -/
theorem settle_balance (applied : state.settle unit = .ok next) : SameBalance state next := by
  -- Applying an operator or a function pays for its operands with its value.
  rcases state with ⟨operands, _ | ⟨op | f | _, waiting⟩⟩
  · simp [settle] at applied
  · -- Two operands go for a binary operator, one for a factorial, and one value comes.
    simp only [settle, map_eq_bind, bind_eq_ok_iff, Except.ok.injEq] at applied
    obtain ⟨value, found, rfl⟩ := applied
    exact ⟨supply_applyTop found, by simp [depth]⟩
  · -- A function takes its argument and gives one value.
    cases operands with
    | nil => simp [settle] at applied
    | cons argument operands =>
      simp only [settle_function, bind_eq_ok_iff, Except.ok.injEq] at applied
      obtain ⟨value, _, rfl⟩ := applied
      simp [SameBalance, Waiting.demand]
  · simp [settle] at applied

/-- Applying all that is due changes neither balance. -/
theorem settleWhile_balance (settled : state.settleWhile unit due = .ok next) :
    SameBalance state next :=
  -- Each application keeps the balance, and so does any number of them.
  (settleWhile_induct
    (fun kept applied =>
      have step := settle_balance applied
      ⟨step.1.trans kept.1, step.2.trans kept.2⟩)
    ⟨rfl, rfl⟩ settled).1

/-- A call changes neither balance. -/
theorem call_balance (called : call unit state = .ok next) : SameBalance state next := by
  -- A call is one application, and where there is none nothing changes.
  unfold call at called
  split at called
  · exact settle_balance called
  · obtain rfl : state = next := by simpa using called
    exact ⟨rfl, rfl⟩

/-- Closing a group keeps all operands and leaves one group less open. -/
theorem close_balance (closed : state.close unit = .ok next) :
    next.supply = state.supply ∧ next.depth + 1 = state.depth := by
  rw [close_eq, bind_eq_ok_iff] at closed
  obtain ⟨inner, settled, left⟩ := closed
  have kept := settleWhile_balance settled
  rcases inner with ⟨operands, _ | ⟨_ | _ | _, waiting⟩⟩
  case cons.group =>
    -- The group itself is no operand, and nothing but it goes.
    have called := call_balance left
    simp only [SameBalance, supply_waiting, depth_group, Waiting.demand] at kept called
    omega
  all_goals simp [leave] at left

/-- A token that is taken in is known, and changes the balances by what it counts for. -/
theorem feed_balance {token : Token} (taken : state.feed unit token = .ok next) :
    next.supply = state.supply + token.supply
      ∧ (next.depth : Int) = state.depth + token.nesting ∧ token.isKnown := by
  cases token with
  | number x =>
    -- A number is one operand more.
    obtain rfl : _ = next := by simpa [feed] using taken
    simp [Token.supply, Token.nesting, Token.isKnown]
  | name text =>
    -- A function waits for one operand and gives one back.
    simp only [feed_name_eq, bind_eq_ok_iff, Except.ok.injEq] at taken
    obtain ⟨f, named, rfl⟩ := taken
    have known := MathFunction.ofName?_eq_some_iff.mpr (MathFunction.named_eq_ok_iff.mp named)
    simp [Token.supply, Token.nesting, Token.isKnown, Waiting.demand, known]
  | operator op =>
    by_cases waits : op = .factorial
    · -- A factorial is applied as if it had waited on top.
      subst waits
      have applied : settle unit ⟨state.operands, .operator .factorial :: state.waiting⟩ = .ok next :=
        taken
      have kept := settle_balance applied
      simp [SameBalance, Waiting.demand, Operator.isBinary] at kept
      simp [Token.supply, Token.nesting, Token.isKnown, Operator.isBinary, kept.1, kept.2]
    · simp only [feed_operator waits, bind_eq_ok_iff, Except.ok.injEq] at taken
      obtain ⟨settled, before, rfl⟩ := taken
      -- The operators before it keep the balance, and it takes one operand more than it gives.
      have kept := settleWhile_balance before
      have binary := Operator.isBinary_iff.mpr waits
      simp [Token.supply, Token.nesting, Token.isKnown, Waiting.demand, binary, kept.1, kept.2]
      rfl
  | opening =>
    obtain rfl : _ = next := by simpa [feed_opening] using taken
    simp [Token.supply, Token.nesting, Token.isKnown, Waiting.demand]
  | closing =>
    -- Closing applies what waits inside and takes one level away.
    have closed := close_balance taken
    simp only [Token.supply, Token.nesting, Token.isKnown, and_true]
    omega
  | unknown character => simp [feed] at taken

/-- A state that hands out a value has one operand to spare and no open group. -/
theorem finish_balance {value : Float} (finished : state.finish unit = .ok value) :
    state.supply = 1 ∧ state.depth = 0 := by
  rw [finish_eq, bind_eq_ok_iff] at finished
  obtain ⟨final, settled, handed⟩ := finished
  have kept := settleWhile_balance settled
  have nothingDue := (settleWhile_induct (fun _ _ => trivial) trivial settled).2
  -- Everything was due, so nothing waits any more.
  rcases final with ⟨operands, _ | ⟨top, waiting⟩⟩
  · rcases operands with _ | ⟨_, _ | _⟩
    case cons.nil => exact ⟨kept.1.symm, kept.2.symm⟩
    all_goals simp [handOut] at handed
  · simp at nothingDue

/-- Tokens that are taken in are known, and change the balances by what they count for together. -/
theorem foldlM_balance {tokens : List Token} (taken : tokens.foldlM (feed unit) state = .ok next) :
    next.supply = state.supply + (tokens.map Token.supply).sum
      ∧ (next.depth : Int) = state.depth + (tokens.map Token.nesting).sum
      ∧ ∀ token ∈ tokens, token.isKnown := by
  -- What one token changes adds up over all of them.
  induction tokens generalizing state with
  | nil =>
    obtain rfl : state = next := Except.ok.inj taken
    simp
  | cons token tokens ih =>
    rw [List.foldlM_cons, bind_eq_ok_iff] at taken
    obtain ⟨middle, first, later⟩ := taken
    obtain ⟨supplied, nested, known⟩ := feed_balance first
    obtain ⟨restSupplied, restNested, restKnown⟩ := ih later
    simp only [List.map_cons, List.sum_cons, List.forall_mem_cons]
    exact ⟨by omega, by omega, known, restKnown⟩

/-- Tokens that lead to a value make up for the balances of the state that they start from. -/
theorem outcome_balance {tokens : List Token} {value : Float}
    (found : outcome unit state tokens = .ok value) :
    state.supply + (tokens.map Token.supply).sum = 1
      ∧ state.depth + (tokens.map Token.nesting).sum = 0 ∧ ∀ token ∈ tokens, token.isKnown := by
  -- The state that hands out the value has one operand to spare and nothing open.
  obtain ⟨final, taken, finished⟩ := bind_eq_ok_iff.mp found
  obtain ⟨supplied, nested, known⟩ := foldlM_balance taken
  obtain ⟨spare, closed⟩ := finish_balance finished
  exact ⟨by omega, by omega, known⟩

end Stacks

end PocketCalculator
