import Mathlib.Control.Monad.Basic
import PocketCalculator.Proofs.ReversePolish.Provenance

/-! Whether tokens make sense together does not depend on the numbers among them. -/

namespace PocketCalculator

namespace CalcError

/-- An error of this kind lies in the value of an operand, and not in how the tokens stand together. -/
def isOfDomain : CalcError → Bool
  | divisionByZero | factorialDomain | rootDomain => true
  -- Other numbers would not help against any of these.
  | malformed | unknownToken _ | inputFull => false

end CalcError

section

variable {α β γ δ : Type}

/-- Two outcomes that go the same way, unless an operand lies outside a domain in one of them. -/
inductive Parallel (Alike : α → β → Prop) : Except CalcError α → Except CalcError β → Prop where
  /-- Both have a value, and the two values are alike. -/
  | values {a : α} {b : β} (alike : Alike a b) : Parallel Alike (.ok a) (.ok b)
  /-- Both have the same error. -/
  | same (error : CalcError) : Parallel Alike (.error error) (.error error)
  /-- The first one ends at an operand, so nothing is said of the second one. -/
  | first {error : CalcError} {outcome : Except CalcError β} (ofDomain : error.isOfDomain) :
      Parallel Alike (.error error) outcome
  /-- The second one ends at an operand, so nothing is said of the first one. -/
  | second {outcome : Except CalcError α} {error : CalcError} (ofDomain : error.isOfDomain) :
      Parallel Alike outcome (.error error)

namespace Parallel

variable {Alike : α → β → Prop} {x : Except CalcError α} {y : Except CalcError β}

/-- Chains go the same way if their links do. -/
theorem bind {Further : γ → δ → Prop} {f : α → Except CalcError γ} {g : β → Except CalcError δ}
    (link : Parallel Alike x y) (later : ∀ a b, Alike a b → Parallel Further (f a) (g b)) :
    Parallel Further (x >>= f) (y >>= g) := by
  -- An error skips what comes later, whichever of the two it ends.
  cases link with
  | values alike => exact later _ _ alike
  | same error => exact .same error
  | first ofDomain => exact .first ofDomain
  | second ofDomain => exact .second ofDomain

/-- Outcomes that can only fail at an operand go the same way. -/
theorem of_isOfDomain (first : ∀ error, x = .error error → error.isOfDomain)
    (second : ∀ error, y = .error error → error.isOfDomain) :
    Parallel (fun _ _ => True) x y := by
  -- An error on either side is one that the relation allows, and two values are always related.
  cases x with
  | error error => exact .first (first error rfl)
  | ok a =>
    cases y with
    | error error => exact .second (second error rfl)
    | ok b => exact .values trivial

/-- Where the first outcome has a value, the second one has one too or ends at an operand. -/
theorem of_ok {a : α} (parallel : Parallel Alike (.ok a) y) :
    (∃ b, y = .ok b) ∨ ∃ error, error.isOfDomain ∧ y = .error error := by
  -- A value is met by a value or by an error of the domain, never by another error.
  cases parallel with
  | values => exact .inl ⟨_, rfl⟩
  | second ofDomain => exact .inr ⟨_, ofDomain, rfl⟩

/-- Where the first outcome fails for another reason, the second one fails for the same or ends at an operand. -/
theorem of_error {error : CalcError} (other : error.isOfDomain = false)
    (parallel : Parallel Alike (.error error) y) :
    y = .error error ∨ ∃ found, found.isOfDomain ∧ y = .error found := by
  -- An error that is not of the domain can only be met by itself or by one of the domain.
  cases parallel with
  | same => exact .inl rfl
  | first ofDomain =>
    rw [other] at ofDomain
    cases ofDomain
  | second ofDomain => exact .inr ⟨_, ofDomain, rfl⟩

end Parallel

end

/-- Operands of the same number make an operator go the same way. -/
theorem Operator.applyTop_parallel (op : Operator) {operands others : List Float}
    (same : operands.length = others.length) :
    Parallel (fun _ _ => True) (op.applyTop operands).1 (op.applyTop others).1 := by
  -- With enough operands an operator can only object to their values.
  have enough : ∀ list : List Float, op.arity ≤ list.length → ∀ error,
      (op.applyTop list).1 = .error error → error.isOfDomain := by
    intro list within error failed
    obtain rfl | raises := canRaise_of_applyTop failed
    · have short := (op.applyTop_eq_malformed_iff list).mp failed
      omega
    · cases error <;> first | rfl | exact raises.elim
  rcases Nat.lt_or_ge operands.length op.arity with short | within
  · -- What lacks an operand on one side lacks it on the other.
    rw [(op.applyTop_eq_malformed_iff operands).mpr short,
      (op.applyTop_eq_malformed_iff others).mpr (same ▸ short)]
    exact .same .malformed
  · exact .of_isOfDomain (enough operands within) (enough others (same ▸ within))

/-- A function can only fail at its argument. -/
theorem MathFunction.isOfDomain_of_apply {f : MathFunction} {unit : AngleUnit} {x : Float}
    {error : CalcError} (failed : f.apply unit x = .error error) : error.isOfDomain := by
  have raises := canRaise_of_apply failed
  cases error with
  | divisionByZero | factorialDomain | rootDomain => rfl
  | unknownToken quoted =>
    -- The name of a function is not unknown.
    obtain ⟨-, unnamed⟩ := raises
    rw [ofName?_name] at unnamed
    cases unnamed
  | malformed | inputFull => exact raises.elim

namespace Instruction

/-- An instruction without the value of its number. -/
def shape : Instruction → Instruction
  -- Zero stands for any number.
  | number _ => number 0
  | operator op => operator op
  | function f => function f

/-- Instructions of one shape go the same way on as many operands, and leave as many. -/
theorem execute_parallel {i j : Instruction} (alike : i.shape = j.shape) (unit other : AngleUnit)
    {operands others : List Float} (same : operands.length = others.length) :
    Parallel (fun left right => left.length = right.length)
      (execute unit operands i) (execute other others j) := by
  cases i with
  | number x =>
    -- Two numbers of one shape need not be the same number.
    cases j with
    | number y => exact .values (congrArg (· + 1) same)
    | _ => cases alike
  | operator op =>
    cases j with
    | operator op' =>
      cases alike
      simp only [execute, map_eq_bind]
      refine (op.applyTop_parallel same).bind fun x y _ => .values ?_
      -- Both sides lose as many operands as the operator takes.
      rw [op.applyTop_eq operands, op.applyTop_eq others]
      simp [same]
    | _ => cases alike
  | function f =>
    cases j with
    | function f' =>
      cases alike
      -- Either both sides have an argument or both lack one.
      cases operands with
      | nil =>
        obtain rfl : others = [] := List.length_eq_zero_iff.mp same.symm
        exact .same .malformed
      | cons x rest =>
        obtain ⟨y, rests, rfl⟩ := List.exists_cons_of_length_eq_add_one same.symm
        simp only [execute, map_eq_bind]
        refine Parallel.bind (.of_isOfDomain (fun _ => MathFunction.isOfDomain_of_apply)
          fun _ => MathFunction.isOfDomain_of_apply) fun v w _ => .values ?_
        simpa using same
    | _ => cases alike

/-- Programs of one shape go the same way from as many operands. -/
theorem foldlM_execute_parallel (unit other : AngleUnit) {list : List Instruction} :
    ∀ {lists : List Instruction} {operands others : List Float},
      list.map shape = lists.map shape → operands.length = others.length →
      Parallel (fun left right => left.length = right.length)
        (list.foldlM (execute unit) operands) (lists.foldlM (execute other) others) := by
  -- One step keeps the numbers of operands equal, which is all that the next one asks for.
  induction list with
  | nil =>
    intro lists operands others alike same
    obtain rfl : lists = [] := List.map_eq_nil_iff.mp alike.symm
    exact .values same
  | cons i list ih =>
    intro lists operands others alike same
    obtain ⟨j, rest, rfl, first, later⟩ := List.map_eq_cons_iff.mp alike.symm
    simp only [List.foldlM_cons]
    exact (execute_parallel first.symm unit other same).bind fun _ _ => ih later.symm

end Instruction

namespace Token

/-- A token without the value of its number. -/
def shape : Token → Token
  -- Zero stands for any number.
  | number _ => number 0
  | token => token

end Token

/-- Two lists of tokens are equal but for the values of their numbers. -/
def SameShape (tokens others : List Token) : Prop :=
  tokens.map Token.shape = others.map Token.shape

namespace Program

/-- A program without the values of its numbers. -/
def shape (program : Program) : Program :=
  -- Why the program breaks off never has to do with a number.
  { program with instructions := program.instructions.map Instruction.shape }

/-- What is put in front of a program loses the values of its numbers too. -/
theorem shape_after (earlier : List Instruction) (program : Program) :
    (after earlier program).shape = after (earlier.map Instruction.shape) program.shape := by
  -- Shapes are taken instruction by instruction.
  simp only [shape, after, List.map_append]

/-- No number waits, so none is unwound. -/
theorem map_shape_unwind (due : Waiting → Bool) (waiting : List Waiting) :
    (unwind due waiting).1.map Instruction.shape = (unwind due waiting).1 := by
  -- What waits becomes instructions without numbers, and those are their own shapes.
  rw [unwind_eq, List.map_flatMap]
  congr 1
  funext top
  cases top <;> rfl

/-- The first pass puts numbers where they belong without looking at them. -/
theorem shape_ofTokensAbove (tokens : List Token) (waiting : List Waiting) :
    (ofTokensAbove waiting tokens).shape = ofTokensAbove waiting (tokens.map Token.shape) := by
  -- Each token adds the same to the program, and leaves the same entries waiting.
  induction tokens generalizing waiting with
  | nil => simp [ofTokensAbove, shape, map_shape_unwind]
  | cons token tokens ih =>
    rw [List.map_cons]
    cases token with
    | number x =>
      simp only [Token.shape, ofTokensAbove, shape_after, ih, List.map_cons, List.map_nil,
        Instruction.shape]
    | name text =>
      simp only [Token.shape, ofTokensAbove]
      cases MathFunction.named text with
      | error error => rfl
      | ok f => exact ih _
    | operator op =>
      by_cases waits : op = .factorial
      · subst waits
        simp only [Token.shape, ofTokensAbove, shape_after, ih, List.map_cons, List.map_nil,
          Instruction.shape]
      · simp only [Token.shape, ofTokensAbove_operator waits, shape_after, map_shape_unwind, ih]
    | opening => exact ih _
    | closing =>
      simp only [Token.shape, ofTokensAbove_closing, shape_after, map_shape_unwind]
      -- Leaving the group goes on with the same tokens above the entries that are left.
      generalize (unwind (· ≠ .group) waiting).2 = rest
      rcases rest with _ | ⟨_ | _ | _, _ | ⟨_ | f | _, below⟩⟩ <;>
        simp [leave, shape_after, ih, Instruction.shape] <;> rfl
    | unknown c => rfl

/-- Programs of one shape have values of one kind. -/
theorem valueAbove_parallel {program other : Program} (alike : program.shape = other.shape)
    (unit unit' : AngleUnit) :
    Parallel (fun _ _ => True) (program.valueAbove unit []) (other.valueAbove unit' []) := by
  have instructions : program.instructions.map Instruction.shape
      = other.instructions.map Instruction.shape := congrArg Program.instructions alike
  have failure : program.failure = other.failure := by
    simpa [shape] using congrArg Program.failure alike
  unfold valueAbove
  refine (Instruction.foldlM_execute_parallel unit unit' instructions rfl).bind ?_
  intro final finals same
  -- What is left only counts by its number.
  rw [failure]
  cases other.failure with
  | some error => exact .same error
  | none =>
    rcases final with _ | ⟨x, _ | ⟨x', final⟩⟩ <;> rcases finals with _ | ⟨y, _ | ⟨y', finals⟩⟩
    case cons.nil.cons.nil => exact .values trivial
    all_goals first | exact .same .malformed | simp at same

end Program

/-- Tokens of one shape go the same way in all units. -/
theorem evaluateTokens_parallel {tokens others : List Token} (alike : SameShape tokens others)
    (unit other : AngleUnit) :
    Parallel (fun _ _ => True) (evaluateTokens unit tokens) (evaluateTokens other others) := by
  -- The first pass makes programs of one shape, and the second one carries them out in step.
  have programs : (Program.ofTokensAbove [] tokens).shape = (Program.ofTokensAbove [] others).shape := by
    rw [Program.shape_ofTokensAbove, Program.shape_ofTokensAbove, alike]
  rw [evaluateTokens_eq_valueAbove, evaluateTokens_eq_valueAbove]
  exact Program.valueAbove_parallel programs unit other

/--
Whether tokens have a value, or what is wrong with them, is the same for all numbers and in both units.

Only a zero divisor or an operand outside the domain of a factorial or a root can make a difference.
-/
theorem evaluateTokens_of_sameShape {tokens others : List Token} (alike : SameShape tokens others)
    (unit other : AngleUnit) :
    (∀ value, evaluateTokens unit tokens = .ok value →
        (∃ otherValue, evaluateTokens other others = .ok otherValue)
          ∨ ∃ found, found.isOfDomain ∧ evaluateTokens other others = .error found)
      ∧ ∀ error, error.isOfDomain = false → evaluateTokens unit tokens = .error error →
        evaluateTokens other others = .error error
          ∨ ∃ found, found.isOfDomain ∧ evaluateTokens other others = .error found := by
  -- The runs go in parallel, so their outcomes do.
  have parallel := evaluateTokens_parallel alike unit other
  constructor
  · intro value worth
    rw [worth] at parallel
    exact parallel.of_ok
  · intro error otherwise failed
    rw [failed] at parallel
    exact parallel.of_error otherwise

/-- Another divisor turns a quotient into an error, but never into another malformed expression. -/
theorem evaluateTokens_of_sameShape_quotient :
    SameShape [.number 1, .operator .divide, .number 4] [.number 1, .operator .divide, .number 0]
      ∧ evaluateTokens .degrees [.number 1, .operator .divide, .number 4] = .ok 0.25
      ∧ ((∃ value, evaluateTokens .radians [.number 1, .operator .divide, .number 0] = .ok value)
        ∨ ∃ found, found.isOfDomain
          ∧ evaluateTokens .radians [.number 1, .operator .divide, .number 0] = .error found)
      ∧ SameShape [.number 4, .name "sqrt", .name "root"] [.number (-4), .name "sqrt", .name "root"]
      ∧ evaluateTokens .degrees [.number 4, .name "sqrt", .name "root"]
        = .error (.unknownToken "root")
      ∧ (evaluateTokens .radians [.number (-4), .name "sqrt", .name "root"]
          = .error (.unknownToken "root")
        ∨ ∃ found, found.isOfDomain
          ∧ evaluateTokens .radians [.number (-4), .name "sqrt", .name "root"] = .error found) := by
  -- A divisor that becomes zero, and a root that fails before the unknown name is met.
  have quotients : SameShape [.number 1, .operator .divide, .number 4]
      [.number 1, .operator .divide, .number 0] := by
    simp [SameShape, Token.shape]
  have names : SameShape [.number 4, .name "sqrt", .name "root"]
      [.number (-4), .name "sqrt", .name "root"] := by
    simp [SameShape, Token.shape]
  have quarter : evaluateTokens .degrees [.number 1, .operator .divide, .number 4] = .ok 0.25 := by
    decide +kernel
  have unnamed : evaluateTokens .degrees [.number 4, .name "sqrt", .name "root"]
      = .error (.unknownToken "root") := by
    decide +kernel
  exact ⟨quotients, quarter, (evaluateTokens_of_sameShape quotients .degrees .radians).1 _ quarter,
    names, unnamed, (evaluateTokens_of_sameShape names .degrees .radians).2 _ rfl unnamed⟩

end PocketCalculator
