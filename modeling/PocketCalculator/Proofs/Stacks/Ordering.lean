import Mathlib.Data.List.Chain
import PocketCalculator.Proofs.Stacks.Runs

/-! The entries that wait bind tighter from the bottom to the top, between groups and functions. -/

namespace PocketCalculator

namespace Waiting

/-- Whether an entry may lie directly below another one. -/
def carries (below top : Waiting) : Bool :=
  match top, below with
  -- Only powers lie on their like.
  | operator op, operator lower =>
    lower.precedence < op.precedence || (lower = .power && op = .power)
  | operator _, function _ => false
  -- Groups and functions lie on anything, and operators on groups.
  | _, _ => true

/-- An entry that an operator does not yield to may lie below it. -/
theorem carries_of_not_yieldsTo {op : Operator} {below : Waiting}
    (stays : op.yieldsTo below = false) : below.carries (.operator op) := by
  rcases below with lower | f | _
  · simp only [Operator.yieldsTo, Bool.and_eq_false_iff, decide_eq_false_iff_not,
      Bool.not_eq_false', Bool.and_eq_true, decide_eq_true_eq, Operator.groupsRight] at stays
    rcases stays with looser | ⟨rfl, same⟩
    · have binds : lower.precedence < op.precedence := Nat.not_le.mp looser
      simp [carries, binds]
    · cases same
      rfl
  · -- Every operator yields to a function.
    have tighter : op.precedence < MathFunction.precedence := by
      cases op <;> decide
    rw [Operator.yieldsTo_of_lt tighter] at stays
    cases stays
  · rfl

end Waiting

/-- The factorial never waits, and every entry lies on one that may carry it. -/
structure IsOrdered (waiting : List Waiting) : Prop where
  /-- What waits as an operator is binary. -/
  binary : .operator .factorial ∉ waiting
  /-- The latest entry comes first, so each is followed by the one that it lies on. -/
  chain : waiting.IsChain fun top below => below.carries top

namespace IsOrdered

variable {top below : Waiting} {waiting : List Waiting}

/-- Nothing that waits is in order. -/
theorem nil : IsOrdered [] :=
  ⟨List.not_mem_nil, .nil⟩

/-- What lies below the top is in order by itself. -/
theorem tail (ordered : IsOrdered (top :: waiting)) : IsOrdered waiting :=
  -- A chain without its first link is a chain.
  ⟨fun member => ordered.binary (.tail _ member), ordered.chain.tail⟩

/-- An entry goes on top of one that may carry it. -/
theorem push (ordered : IsOrdered waiting) (other : top ≠ .operator .factorial)
    -- One more link is added on top, and what it stands on carries it.
    (carried : ∀ below ∈ waiting.head?, below.carries top) : IsOrdered (top :: waiting) := by
  refine ⟨?_, ?_⟩
  · rw [List.mem_cons, not_or]
    exact ⟨Ne.symm other, ordered.binary⟩
  · exact ordered.chain.cons carried

/-- An operator lies on a group, on an operator that binds looser, or as a power on a power. -/
theorem below_operator {op : Operator} (ordered : IsOrdered waiting)
    (neighbours : [.operator op, below] <:+: waiting) :
    below = .group ∨ ∃ lower, below = .operator lower
      ∧ (lower.precedence < op.precedence ∨ (lower = .power ∧ op = .power)) := by
  -- Neighbours anywhere in the chain stand in the relation that links it.
  have pair := ordered.chain.infix neighbours
  have carried : below.carries (.operator op) := by simpa using pair
  rcases below with lower | f | _
  · exact .inr ⟨lower, rfl, by simpa [Waiting.carries] using carried⟩
  · cases carried
  · exact .inl rfl

/-- Operators that lie on one another are powers at the top, and bind looser from there to the bottom. -/
theorem exists_powers {ops : List Operator} (ordered : IsOrdered (ops.map .operator)) :
    ∃ powers others, ops = List.replicate powers .power ++ others
      ∧ others.Pairwise (fun upper lower => lower.precedence < upper.precedence)
      ∧ ∀ op ∈ others, op.precedence < Operator.power.precedence := by
  -- An operator on top of others is a power, or binds tighter than all of them.
  induction ops with
  | nil => exact ⟨0, [], rfl, .nil, nofun⟩
  | cons op ops ih =>
    obtain ⟨powers, others, rfl, increasing, looser⟩ := ih ordered.tail
    -- A power on top is one power more.
    by_cases power : op = .power
    · subst power
      exact ⟨powers + 1, others, rfl, increasing, looser⟩
    have most : op.precedence < Operator.power.precedence := by
      cases op <;> first | decide | contradiction
    -- A power carries nothing but powers.
    have below : ∀ lower ∈ (List.replicate powers Operator.power ++ others).head?,
        lower.precedence < op.precedence := by
      intro lower first
      obtain ⟨rest, split⟩ := List.head?_eq_some_iff.mp first
      have neighbours : [.operator op, .operator lower]
          <:+: (op :: (List.replicate powers .power ++ others)).map Waiting.operator := by
        rw [split]
        exact (List.prefix_append [Waiting.operator op, Waiting.operator lower] _).isInfix
      obtain same | ⟨_, same, binds⟩ := ordered.below_operator neighbours
      · cases same
      · cases same
        exact binds.resolve_right fun both => power both.2
    -- Were there powers below, the operator would bind more tightly than a power.
    cases powers with
    | succ powers =>
      have onPower : Operator.power.precedence < op.precedence := below .power rfl
      omega
    | zero =>
      refine ⟨0, op :: others, rfl, ?_, List.forall_mem_cons.mpr ⟨most, looser⟩⟩
      refine List.pairwise_cons.mpr ⟨?_, increasing⟩
      cases others with
      | nil => nofun
      | cons first rest =>
        have top : first.precedence < op.precedence := below first rfl
        refine List.forall_mem_cons.mpr ⟨top, ?_⟩
        intro lower member
        exact Nat.lt_trans ((List.pairwise_cons.mp increasing).1 lower member) top

end IsOrdered

namespace Stacks

variable {unit : AngleUnit} {tokens : List Token} {state next : Stacks}

/-- Applying an entry leaves the others in order. -/
theorem isOrdered_settle (ordered : IsOrdered state.waiting)
    (applied : state.settle unit = .ok next) : IsOrdered next.waiting := by
  -- An application takes the top entry away and leaves the chain below it.
  obtain ⟨top, found⟩ := waiting_of_settle applied
  rw [found] at ordered
  exact ordered.tail

/-- Applying all that is due leaves the others in order, and nothing due on top. -/
theorem isOrdered_settleWhile {due : Waiting → Bool} (ordered : IsOrdered state.waiting)
    (settled : state.settleWhile unit due = .ok next) :
    IsOrdered next.waiting ∧ ∀ top ∈ next.waiting.head?, due top = false :=
  -- Each application keeps the order, and so does any number of them.
  settleWhile_induct (fun kept applied => isOrdered_settle kept applied) ordered settled

/-- Leaving a group takes away the group, and the function in front of it. -/
theorem isOrdered_leave (ordered : IsOrdered state.waiting) (left : leave unit state = .ok next) :
    IsOrdered next.waiting := by
  -- Closing takes the group away, and perhaps the call in front of it.
  rcases state with ⟨operands, _ | ⟨_ | _ | _, _ | ⟨_ | f | _, waiting⟩⟩⟩
  case cons.group.cons.function =>
    rw [leave_group, call_function] at left
    exact isOrdered_settle ordered.tail left
  case cons.group.nil | cons.group.cons.operator | cons.group.cons.group =>
    cases left
    exact ordered.tail
  all_goals cases left

/-- Every token that is taken in leaves what waits in order. -/
theorem isOrdered_feed {token : Token} (ordered : IsOrdered state.waiting)
    (taken : state.feed unit token = .ok next) : IsOrdered next.waiting := by
  cases token with
  | number x =>
    cases taken
    exact ordered
  | name text =>
    -- A function may wait on anything.
    rw [feed_name_eq, bind_eq_ok_iff] at taken
    obtain ⟨f, -, same⟩ := taken
    cases same
    exact ordered.push (by simp) (fun _ _ => rfl)
  | operator op =>
    by_cases waits : op = .factorial
    · -- What is applied at once changes nothing about what waits.
      subst waits
      simp only [feed, map_eq_bind, bind_eq_ok_iff] at taken
      obtain ⟨value, -, same⟩ := taken
      cases same
      exact ordered
    · rw [feed_operator waits, bind_eq_ok_iff] at taken
      obtain ⟨settled, before, same⟩ := taken
      cases same
      -- What stays is what the operator does not yield to, and that carries it.
      obtain ⟨kept, stopped⟩ := isOrdered_settleWhile ordered before
      refine kept.push (by simpa using waits) ?_
      intro below first
      exact Waiting.carries_of_not_yieldsTo (stopped below first)
  | opening =>
    cases taken
    exact ordered.push (by simp) (fun _ _ => rfl)
  | closing =>
    -- Closing takes entries off the top, and then the group.
    rw [feed_closing, close_eq, bind_eq_ok_iff] at taken
    obtain ⟨inner, settled, left⟩ := taken
    exact isOrdered_leave (isOrdered_settleWhile ordered settled).1 left
  | unknown character => cases taken

/-- Between any two steps of a run what waits is in order. -/
theorem Run.isOrdered {left : List Token} (run : Run unit tokens left state) :
    IsOrdered state.waiting := by
  -- The induction is on the run: a token keeps the order, and so does each single application, for
  -- whichever reason it is made.
  induction run with
  | start => exact .nil
  | fed _ taken ih => exact isOrdered_feed ih taken
  | yielded _ _ _ _ applied ih => exact isOrdered_settle ih applied
  | closed _ _ _ applied ih => exact isOrdered_settle ih applied
  | unwound _ _ applied ih => exact isOrdered_settle ih applied

/-- In every state of a run what waits is in order. -/
theorem Visited.isOrdered (visited : Visited unit tokens state) : IsOrdered state.waiting := by
  cases visited with
  | rest run => exact run.isOrdered
  | called run found =>
    -- The group that is gone lay on the function.
    have ordered := run.isOrdered
    rw [found] at ordered
    exact ordered.tail

end Stacks

/--
Whatever tokens are read, a run keeps the entries that wait in order of precedence.

The factorial never waits, and no operator lies on a function.
Operators that lie on one another bind tighter to the top, where there may be several powers.
Every state that the evaluation reaches belongs to the run, and every entry that is applied waits.
-/
theorem waiting_in_order (unit : AngleUnit) (tokens : List Token) :
    (∀ state, Stacks.Visited unit tokens state →
        .operator .factorial ∉ state.waiting
        ∧ (∀ op below, [.operator op, below] <:+: state.waiting →
          below = .group ∨ ∃ lower, below = .operator lower
            ∧ (lower.precedence < op.precedence ∨ (lower = .power ∧ op = .power)))
        ∧ (∀ op f, ¬[.operator op, .function f] <:+: state.waiting)
        ∧ ∀ ops : List Operator, ops.map Waiting.operator <:+: state.waiting →
          ∃ powers others, ops = List.replicate powers .power ++ others
            ∧ others.Pairwise (fun upper lower => lower.precedence < upper.precedence)
            ∧ ∀ op ∈ others, op.precedence < Operator.power.precedence)
      ∧ (∀ front back state, tokens = front ++ back →
        front.foldlM (Stacks.feed unit) Stacks.empty = .ok state →
        Stacks.Run unit tokens back state)
      ∧ Stacks.Ends unit tokens (evaluateTokens unit tokens) := by
  -- All three parts are about visited states or runs: the order is an invariant of them, and no run
  -- gets stuck.
  refine ⟨?_, ?_, Stacks.Run.start.ends⟩
  · intro state visited
    have ordered := visited.isOrdered
    refine ⟨ordered.binary, fun op below => ordered.below_operator, ?_, ?_⟩
    · -- An operator stands on a group or another operator, so never on a function.
      intro op f neighbours
      obtain same | ⟨_, same, -⟩ := ordered.below_operator neighbours <;> cases same
    · -- The operators of a stretch are ordered as the whole is, and equals among them are powers.
      intro ops segment
      refine IsOrdered.exists_powers ⟨?_, ordered.chain.infix segment⟩
      exact fun member => ordered.binary (segment.subset member)
  · -- Reading a front of the tokens is itself a run.
    rintro front back state rfl taken
    exact Stacks.Run.start.of_foldlM taken

/-- A power that lacks its right operand waits on another one, on a product and on a sum. -/
theorem waiting_in_order_powers :
    ∃ state, Stacks.Visited .degrees
        [.number 1, .operator .add, .number 2, .operator .multiply, .number 3, .operator .power,
          .number 4, .operator .power] state
      ∧ state.waiting = [.power, .power, .multiply, .add].map Waiting.operator
      ∧ .operator .factorial ∉ state.waiting
      ∧ ∃ (powers : Nat) (others : List Operator),
        [.power, .power, .multiply, .add] = List.replicate powers .power ++ others
        ∧ others.Pairwise (fun upper lower => lower.precedence < upper.precedence)
        ∧ ∀ op ∈ others, op.precedence < Operator.power.precedence := by
  obtain ⟨ordered, reaches, -⟩ := waiting_in_order .degrees
    [.number 1, .operator .add, .number 2, .operator .multiply, .number 3, .operator .power,
      .number 4, .operator .power]
  have run := reaches _ []
    ⟨[4, 3, 2, 1], [.power, .power, .multiply, .add].map Waiting.operator⟩
    (List.append_nil _).symm
    -- No operator yields to one of those before it, as each of them binds looser or is a power too.
    (by simp [Stacks.feed, Stacks.empty, Stacks.settleWhile_of_not_due, Operator.yieldsTo,
      Operator.precedence, Waiting.precedence, Operator.groupsRight, pure, Except.pure])
  obtain ⟨binary, -, -, segments⟩ := ordered _ (.rest run)
  exact ⟨_, .rest run, rfl, binary, segments _ (List.infix_refl _)⟩

end PocketCalculator
