import PocketCalculator.CommandLine

/-! The arguments that ask for each task of the command line. -/

namespace PocketCalculator

/-- The arguments that ask for a unit of angles. -/
def AngleUnit.flags : AngleUnit → List String
  -- Degrees are meant when no unit is asked for.
  | .degrees => []
  | .radians => ["--radians"]

namespace Command

/-- A unit alone asks for expressions line by line. -/
theorem ofArguments_flags (unit : AngleUnit) : ofArguments unit.flags = .prompt unit := by
  -- Without expressions and without a keypad the program asks for expressions.
  cases unit <;> rfl

/-- What follows two dashes is a batch, whatever it looks like. -/
theorem ofArguments_flags_expressions (unit : AngleUnit) {expressions : List String}
    (nonempty : expressions ≠ []) :
    ofArguments (unit.flags ++ "--" :: expressions) = .batch unit expressions := by
  -- Behind the separator everything is an expression, and there is at least one.
  obtain ⟨first, others, rfl⟩ := List.exists_cons_of_ne_nil nonempty
  cases unit <;> rfl

/-- The keypad asks for labels line by line. -/
theorem ofArguments_keypad_flags (unit : AngleUnit) :
    -- The keypad is asked for before the unit.
    ofArguments ("--keypad" :: unit.flags) = .keypad unit := by
  cases unit <;> rfl

end Command

/-- A batch of one expression prints its answer on a line. -/
theorem text_runCommandLine_single (unit : AngleUnit) (expression unread : String) :
    (runCommandLine (unit.flags ++ ["--", expression]) unread).text
      = answer unit expression ++ "\n" := by
  -- One expression makes one line.
  rw [runCommandLine, Command.ofArguments_flags_expressions unit (List.cons_ne_nil _ _)]
  show String.join [answer unit expression ++ "\n"] = answer unit expression ++ "\n"
  rw [String.join_cons, String.join_nil, String.append_empty]

end PocketCalculator
