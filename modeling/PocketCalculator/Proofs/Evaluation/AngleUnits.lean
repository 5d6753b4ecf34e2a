import PocketCalculator.Proofs.ReversePolish.Provenance

/-! The unit of angles matters only to the functions that take or return an angle. -/

namespace PocketCalculator

/-- A function whose argument or value is an angle. -/
def MathFunction.isAngular : MathFunction → Bool
  | .sin | .cos | .tan | .asin | .acos | .atan => true
  | .log | .ln | .sqrt => false

/-- No other function asks for the unit. -/
theorem MathFunction.apply_eq_of_not_isAngular {f : MathFunction} (plain : f.isAngular = false)
    (unit other : AngleUnit) (x : Float) : f.apply unit x = f.apply other x := by
  -- The logarithms and the root do not look at the unit.
  cases f with
  | log | ln | sqrt => rfl
  | _ => cases plain

/-- Nor does the instruction of any token that does not name such a function. -/
theorem Instruction.execute_eq_of_plain {token : Token}
    (plain : ∀ f : MathFunction, f.isAngular → token ≠ .name f.name) {i : Instruction}
    (made : i ∈ ofToken token) (unit other : AngleUnit) (operands : List Float) :
    execute unit operands i = execute other operands i := by
  -- Only a function looks at the unit, and the functions called here do not.
  cases token with
  | name text =>
    obtain ⟨f, found, rfl⟩ := List.mem_map.mp made
    obtain rfl : text = f.name :=
      MathFunction.ofName?_eq_some_iff.mp (Option.mem_toList.mp found)
    -- A function that looks at the unit is not among the tokens.
    have unitless : f.isAngular = false := by
      rw [Bool.eq_false_iff]
      intro angular
      exact plain f angular rfl
    cases operands with
    | nil => rfl
    | cons argument rest =>
      simp only [execute, MathFunction.apply_eq_of_not_isAngular unitless unit other]
  | number | operator =>
    obtain rfl := List.mem_singleton.mp made
    rfl
  | opening | closing | unknown => cases made

section

variable (unit other : AngleUnit)

/-- The first pass never meets the unit, so only the instructions of the second one could. -/
theorem evaluateTokens_eq_of_plain {tokens : List Token}
    (plain : ∀ f : MathFunction, f.isAngular → .name f.name ∉ tokens) :
    evaluateTokens unit tokens = evaluateTokens other tokens := by
  -- Every instruction stems from a token, and no token here depends on the unit.
  have executes : ∀ i ∈ (Program.ofTokensAbove [] tokens).instructions, ∀ operands,
      Instruction.execute unit operands i = Instruction.execute other operands i := by
    refine Program.forall_instructions (fun _ member => absurd member List.not_mem_nil) ?_
    intro token member i made
    refine Instruction.execute_eq_of_plain ?_ made unit other
    rintro f angular rfl
    exact plain f angular member
  rw [evaluateTokens_eq_valueAbove, evaluateTokens_eq_valueAbove, Program.valueAbove,
    Program.valueAbove, foldlM_congr executes]

/-- A text that names no such function has the same outcome in every unit. -/
theorem evaluate_eq_of_plain {text : String}
    (plain : ∀ tokens, Token.ofText text = .ok tokens →
      ∀ f : MathFunction, f.isAngular → .name f.name ∉ tokens) :
    evaluate unit text = evaluate other text := by
  -- The tokens are the same for both units, and so is an error in reading them.
  cases read : Token.ofText text with
  | error error => rw [evaluate, evaluate, read, error_bind, error_bind]
  | ok tokens =>
    rw [evaluate_of_ofText read, evaluate_of_ofText read]
    exact evaluateTokens_eq_of_plain unit other (plain tokens read)

end

end PocketCalculator
