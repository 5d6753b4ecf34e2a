import PocketCalculator.Proofs.Double.Order
import PocketCalculator.Proofs.ReversePolish.Provenance

/-! Which operands an operator uses up, and what its value or its error depends on. -/

namespace PocketCalculator

/-- Exactly the two zeros equal zero. -/
theorem beq_zero_iff_zeros {x : Float} : x == 0 ↔ x = 0 ∨ x = -0 := by
  constructor
  · intro same
    have finite : x.isFinite := (Double.status_of_beq same).2.2
    have nothing : Double.value x = 0 := (Double.beq_iff finite rfl).mp same
    have parts := Double.unpack_eq_rounded finite
    rw [nothing, abs_zero, Double.rounded_zero] at parts
    -- Nothing but a sign is left of a double that stands for zero.
    rw [← Double.pack_unpack x, parts]
    cases Double.signOf x.toModel.unpack with
    | positive => exact .inl rfl
    | negative => exact .inr rfl
  · rintro (rfl | rfl) <;> rfl

namespace Operator

/-- The operation on doubles that a binary operator stands for, with the left operand first. -/
def operation? : Operator → Option (Float → Float → Float)
  | add => some (· + ·)
  | subtract => some (· - ·)
  | multiply => some (· * ·)
  | divide => some (· / ·)
  | remainder => some PocketCalculator.remainder
  | power => some Float.pow
  -- The factorial has no left operand.
  | factorial => none

section

variable {op : Operator} {operands : List Float}

/-- An operator has the same outcome wherever the same operands lie on top. -/
theorem applyTop_congr {others : List Float}
    (same : others.take op.arity = operands.take op.arity) :
    (op.applyTop others).1 = (op.applyTop operands).1 := by
  -- Both results are a function of the operands taken, and these are the same by assumption.
  rw [applyTop_eq op others, applyTop_eq op operands, same]

/-- A binary operator has a value for every two operands, but for a quotient without a divisor. -/
theorem applyTop_of_operation? {operation : Float → Float → Float}
    (stands : op.operation? = some operation) (right left : Float) (rest : List Float) :
    (op.applyTop (right :: left :: rest)).1
      = if op = .divide ∧ right == 0 then .error .divisionByZero
        else .ok (operation left right) := by
  -- Division is the one row of the table that looks at its divisor first.
  cases op with
  | factorial => cases stands
  | divide =>
    cases stands
    show quotient left right = _
    simp only [quotient, true_and]
  | _ =>
    cases stands
    rfl

/-- Only a quotient fails for its divisor, which lies above a dividend and is zero. -/
theorem applyTop_eq_divisionByZero_iff :
    (op.applyTop operands).1 = .error .divisionByZero
      ↔ op = .divide ∧ ∃ right left rest,
        operands = right :: left :: rest ∧ (right = 0 ∨ right = -0) := by
  constructor
  · intro failed
    obtain rfl : op = .divide := (canRaise_of_applyTop failed).resolve_left nofun
    -- With an operand too few the quotient would be malformed instead.
    rcases operands with _ | ⟨right, _ | ⟨left, rest⟩⟩
    · cases failed
    · cases failed
    · rw [applyTop_of_operation? rfl] at failed
      split at failed
      · rename_i zero
        exact ⟨rfl, right, left, rest, rfl, beq_zero_iff_zeros.mp zero.2⟩
      · cases failed
  · rintro ⟨rfl, right, left, rest, rfl, zero⟩
    rw [applyTop_of_operation? rfl, if_pos ⟨rfl, beq_zero_iff_zeros.mpr zero⟩]

/-- Only a factorial fails for its operand, which is the one on top. -/
theorem applyTop_eq_factorialDomain_iff :
    (op.applyTop operands).1 = .error .factorialDomain
      ↔ op = .factorial ∧ ∃ top rest,
        operands = top :: rest ∧ ∃ error, PocketCalculator.factorial top = .error error := by
  constructor
  · intro failed
    obtain rfl : op = .factorial := (canRaise_of_applyTop failed).resolve_left nofun
    cases operands with
    | nil => cases failed
    | cons top rest => exact ⟨rfl, top, rest, rfl, _, failed⟩
  · rintro ⟨rfl, top, rest, rfl, error, failed⟩
    -- There is one way only in which a factorial fails.
    have outcome : (applyTop .factorial (top :: rest)).1 = .error error := failed
    obtain rfl | raises := canRaise_of_applyTop outcome
    · have short := (applyTop_eq_malformed_iff .factorial (top :: rest)).mp outcome
      exact absurd short (by simp [arity, isBinary])
    · cases error <;> first | exact outcome | cases raises

end

/--
An operator takes its operands off the top, be it for a value or for an error, and touches no other.

It is malformed exactly if it lacks an operand, whatever those that are there would lead to.
With all its operands it depends on nothing else, and the one on top is the right one.
-/
theorem applyTop_uses_operands (op : Operator) (operands : List Float) :
    (∃ used, operands = used ++ (op.applyTop operands).2
        ∧ used.length = min op.arity operands.length)
      ∧ ((op.applyTop operands).1 = .error .malformed ↔ operands.length < op.arity)
      ∧ (∀ others : List Float, others.take op.arity = operands.take op.arity →
        (op.applyTop others).1 = (op.applyTop operands).1)
      ∧ (∀ right left rest operation, operands = right :: left :: rest →
        op.operation? = some operation →
        (op.applyTop operands).1
          = if op = .divide ∧ right == 0 then .error .divisionByZero
            else .ok (operation left right))
      ∧ (∀ top rest, operands = top :: rest → op.operation? = none →
        (op.applyTop operands).1 = PocketCalculator.factorial top)
      ∧ ((op.applyTop operands).1 = .error .divisionByZero
        ↔ op = .divide ∧ ∃ right left rest,
          operands = right :: left :: rest ∧ (right = 0 ∨ right = -0))
      ∧ ((op.applyTop operands).1 = .error .factorialDomain
        ↔ op = .factorial ∧ ∃ top rest,
          operands = top :: rest ∧ ∃ error, PocketCalculator.factorial top = .error error) := by
  refine ⟨⟨operands.take op.arity, ?_, List.length_take⟩, applyTop_eq_malformed_iff op operands,
    fun others => applyTop_congr, ?_, ?_, applyTop_eq_divisionByZero_iff,
    applyTop_eq_factorialDomain_iff⟩
  · rw [applyTop_eq, List.take_append_drop]
  · rintro right left rest operation rfl stands
    exact applyTop_of_operation? stands right left rest
  · rintro top rest rfl bare
    -- The factorial is the one operator without such an operation.
    cases op with
    | factorial => rfl
    | _ => cases bare

/-- A lone zero is no divisor yet, and a zero above two numbers is one of the lower of them alone. -/
theorem applyTop_uses_operands_zeros :
    (applyTop .divide [0]).1 = .error .malformed
      ∧ (applyTop .divide [-0, 5, 7]).1 = .error .divisionByZero
      ∧ (∃ used, [-0, 5, 7] = used ++ (applyTop .divide [-0, 5, 7]).2 ∧ used.length = 2)
      ∧ (applyTop .divide [-0, 5]).1 = (applyTop .divide [-0, 5, 7]).1
      ∧ (applyTop .subtract [2, 5, 7]).1 = .ok (5 - 2)
      ∧ (applyTop .factorial [5, 2]).1 = PocketCalculator.factorial 5 := by
  -- Three stacks are looked at: one operand too few for a division, a divisor that is -0.0 above an
  -- operand it does not use, and a subtraction and a factorial whose values are the table's.
  obtain ⟨-, malformed, -⟩ := applyTop_uses_operands .divide [0]
  obtain ⟨taken, -, alike, -, -, divided, -⟩ := applyTop_uses_operands .divide [-0, 5, 7]
  obtain ⟨-, -, -, value, -⟩ := applyTop_uses_operands .subtract [2, 5, 7]
  obtain ⟨-, -, -, -, product, -⟩ := applyTop_uses_operands .factorial [5, 2]
  exact ⟨malformed.mpr (by decide), divided.mpr ⟨rfl, -0, 5, [7], rfl, .inr rfl⟩, taken,
    alike [-0, 5] rfl, value 2 5 [7] _ rfl rfl, product 5 [2] rfl rfl⟩

end Operator

end PocketCalculator
