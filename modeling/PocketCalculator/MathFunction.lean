import PocketCalculator.Error

/-! The named functions of one argument. -/

namespace PocketCalculator

/-- The functions that an expression can name. -/
inductive MathFunction where
  /-- The sine. -/
  | sin
  /-- The cosine. -/
  | cos
  /-- The tangent. -/
  | tan
  /-- The angle with a given sine. -/
  | asin
  /-- The angle with a given cosine. -/
  | acos
  /-- The angle with a given tangent. -/
  | atan
  /-- The logarithm to base ten. -/
  | log
  /-- The natural logarithm. -/
  | ln
  /-- The square root. -/
  | sqrt
  deriving DecidableEq, Repr

namespace MathFunction

/-- All functions. -/
def all : List MathFunction :=
  [sin, cos, tan, asin, acos, atan, log, ln, sqrt]

/-- The name a function is called by. -/
def name : MathFunction → String
  | sin => "sin"
  | cos => "cos"
  | tan => "tan"
  | asin => "asin"
  | acos => "acos"
  | atan => "atan"
  | log => "log"
  | ln => "ln"
  | sqrt => "sqrt"

/-- The function of a given name. -/
def ofName? (text : String) : Option MathFunction :=
  -- Names must match letter for letter, so capitals name nothing.
  all.find? fun f => f.name = text

/-- Every function is found under its own name. -/
theorem ofName?_name (f : MathFunction) : ofName? f.name = some f := by
  -- No two functions share a name.
  cases f <;> decide

/-- A text stands for a function exactly if it is the name of that function. -/
theorem ofName?_eq_some_iff {text : String} {f : MathFunction} :
    ofName? text = some f ↔ text = f.name := by
  constructor
  · -- The search only returns what bears the name.
    intro found
    have bears : f.name = text := by simpa using List.find?_some found
    exact bears.symm
  · rintro rfl
    exact ofName?_name f

/-- The function of a given name, where an unknown name is an error that quotes it. -/
def named (text : String) : Except CalcError MathFunction :=
  match ofName? text with
  | some f => .ok f
  | none => .error (.unknownToken text)

/-- Exactly the names of functions are resolved. -/
theorem named_eq_ok_iff {text : String} {f : MathFunction} :
    named text = .ok f ↔ text = f.name := by
  -- A text either is the name of a function, the only one of that name, or is refused.
  rw [← ofName?_eq_some_iff, named]
  cases ofName? text <;> simp

/-- Functions bind tighter than every operator. -/
def precedence : Nat := 4

end MathFunction

end PocketCalculator
