import PocketCalculator.Proofs.CommandLine.Arguments
import PocketCalculator.Proofs.Evaluation.Errors
import PocketCalculator.Proofs.NumberText.Characters
import PocketCalculator.Proofs.Text.Split

/-! A batch answers each of its expressions on a line of its own, as if it were the only one. -/

namespace PocketCalculator

/-- No dash stands in front of an argument, if there is more to it than the dash. -/
def IsUndashed (argument : String) : Prop :=
  -- A dash by itself is an expression, if a malformed one.
  argument.toList.head? = some '-' → argument = "-"

namespace IsUndashed

variable {argument : String}

/-- Such an argument is different from everything that goes on behind a dash. -/
theorem ne_flag (undashed : IsUndashed argument) {flag : String}
    (dash : flag.toList.head? = some '-') (longer : flag ≠ "-") : argument ≠ flag := by
  -- As a flag it would be the dash alone.
  rintro rfl
  exact longer (undashed dash)

/-- It asks for no text about the program. -/
theorem asksFor_eq_false (undashed : IsUndashed argument) {flag : String}
    (dash : flag.toList.head? = some '-') (longer : flag ≠ "-") (letter : Char) :
    asksFor flag letter argument = false := by
  rw [asksFor, Bool.or_eq_false_iff, decide_eq_false_iff_not, decide_eq_false_iff_not]
  refine ⟨undashed.ne_flag dash longer, ?_⟩
  -- The short form has a letter behind the dash.
  intro letters
  have begins : argument.toList.head? = some '-' := by
    have first := congrArg List.head? letters
    rwa [List.head?_take, if_neg (by decide), List.head?_cons] at first
  rw [undashed begins] at letters
  cases letters

/-- It is no flag of any other kind. -/
theorem isFlag_eq_false (undashed : IsUndashed argument) : isFlag argument = false := by
  unfold isFlag
  split
  · -- A character behind the dash is one too many for the dash alone.
    rename_i c others chars
    have begins : argument.toList.head? = some '-' := by rw [chars, List.head?_cons]
    rw [undashed begins] at chars
    cases chars
  · rfl

end IsUndashed

namespace Command

variable {options : Options}

/-- An argument without a dash in front is taken for an expression. -/
theorem ofArgumentsAfter_expression {argument : String} (undashed : IsUndashed argument)
    (rest : List String) :
    ofArgumentsAfter options (argument :: rest)
      = ofArgumentsAfter { options with expressions := options.expressions ++ [argument] } rest := by
  -- Every flag begins with a dash and goes on behind it.
  rw [ofArgumentsAfter, if_neg (undashed.ne_flag rfl (by decide)),
    if_neg (undashed.ne_flag rfl (by decide)),
    if_neg (undashed.ne_flag rfl (by decide)),
    undashed.asksFor_eq_false rfl (by decide),
    undashed.asksFor_eq_false rfl (by decide), undashed.isFlag_eq_false]
  rfl

/-- Several of them are taken for expressions in their order. -/
theorem ofArgumentsAfter_expressions {front : List String}
    (undashed : ∀ argument ∈ front, IsUndashed argument) (rest : List String) :
    ofArgumentsAfter options (front ++ rest)
      = ofArgumentsAfter { options with expressions := options.expressions ++ front } rest := by
  -- The induction is on the arguments in front, each of which joins the expressions.
  induction front generalizing options with
  | nil => rw [List.nil_append, List.append_nil]
  | cons argument front ih =>
    obtain ⟨first, others⟩ := List.forall_mem_cons.mp undashed
    rw [List.cons_append, ofArgumentsAfter_expression first, ih others, List.append_assoc]
    rfl

/-- A unit may be asked for anywhere among the expressions. -/
theorem ofArguments_flags_between (unit : AngleUnit) {front back : List String}
    (nonempty : front ++ back ≠ []) (undashed : ∀ argument ∈ front ++ back, IsUndashed argument) :
    ofArguments (front ++ unit.flags ++ back) = .batch unit (front ++ back) := by
  obtain ⟨first, second⟩ := List.forall_mem_append.mp undashed
  -- What is understood in the end is the same for each place of the flag.
  have understood : ofArguments (front ++ unit.flags ++ back)
      = Options.command ⟨decide (unit = .radians), false, front ++ back⟩ := by
    rw [ofArguments, List.append_assoc, ofArgumentsAfter_expressions first]
    -- Without the flag the expressions follow each other directly.
    cases unit with
    | degrees =>
      rw [AngleUnit.flags, List.nil_append, ← List.append_nil back,
        ofArgumentsAfter_expressions second, List.append_nil]
      rfl
    -- The flag is noted, and the expressions behind it join those in front.
    | radians =>
      have flagged : ofArgumentsAfter { Options.initial with expressions := [] ++ front }
            ("--radians" :: (back ++ []))
          = ofArgumentsAfter ⟨true, false, front⟩ (back ++ []) := rfl
      rw [AngleUnit.flags, ← List.append_nil back, List.cons_append, List.nil_append]
      refine flagged.trans ?_
      rw [ofArgumentsAfter_expressions second, List.append_nil]
      rfl
  rw [understood, Options.command, if_neg (by simpa using nonempty)]
  cases unit <;> rfl

end Command

/-- What is quoted for lack of meaning holds no blank. -/
theorem isBlank_of_unknownToken {unit : AngleUnit} {text quoted : String}
    (failed : evaluate unit text = .error (.unknownToken quoted)) :
    ∀ c ∈ quoted.toList, isBlank c = false := by
  intro c member
  cases read : Token.ofText text with
  | error error =>
    rw [evaluate_of_ofText_error read] at failed
    cases failed
  | ok tokens =>
    rw [evaluate_of_ofText read] at failed
    obtain ⟨token, found, rfl⟩ := find?_of_unknownToken failed
    have within := List.mem_of_find?_eq_some found
    have meaningless := List.find?_some found
    cases token with
    | name name =>
      -- A name is a run of letters.
      have letter := (Token.isRunOf_of_name read within).2.1 c member
      refine Bool.eq_false_iff.mpr fun blank => ?_
      rw [isLetter_of_isBlank blank] at letter
      cases letter
    | unknown d =>
      -- Any other character is quoted by itself.
      obtain rfl : c = d := by simpa [Token.text] using member
      exact (Token.of_unknown read within).2.1.1
    | _ => cases meaningless

/-- No answer goes on behind its line. -/
theorem newline_not_mem_answer (unit : AngleUnit) (text : String) :
    '\n' ∉ (answer unit text).toList := by
  unfold answer
  split
  · -- No result holds a line end.
    rename_i value _
    intro member
    obtain numeral | mark := isResultChar_resultText value _ member
    · cases numeral
    · exact absurd mark (by decide)
  · rename_i error failed
    rw [CalcError.report, String.toList_append, List.mem_append, not_or]
    refine ⟨by decide, ?_⟩
    cases error with
    | unknownToken quoted =>
      rw [CalcError.message, String.toList_append, List.mem_append, not_or]
      refine ⟨by decide, fun member => ?_⟩
      have solid := isBlank_of_unknownToken failed _ member
      exact absurd solid (by decide)
    | _ => decide

/-- The answers of a batch are the lines that it prints. -/
theorem areLines_answers (unit : AngleUnit) (expressions : List String) :
    AreLines (expressions.map fun text => answer unit text ++ "\n") := by
  -- One line for each expression, and no line end within.
  induction expressions with
  | nil => exact .none
  | cons text expressions ih => exact .ended (newline_not_mem_answer unit text) ih

/-- A batch fails exactly if one of its expressions does. -/
theorem exitCode_answerAll (unit : AngleUnit) (expressions : List String) :
    ((answerAll unit expressions).exitCode = 1
        ↔ ∃ text ∈ expressions, ∃ error, evaluate unit text = .error error)
      ∧ ((answerAll unit expressions).exitCode = 0
        ↔ ∀ text ∈ expressions, ∃ value, evaluate unit text = .ok value) := by
  -- An evaluation is a success exactly if it has a value.
  have one : ∀ text, (evaluate unit text).isOk ↔ ∃ value, evaluate unit text = .ok value := by
    intro text
    cases evaluate unit text <;> simp [Except.isOk, Except.toBool]
  unfold answerAll
  dsimp only
  -- All have values, and the exit code says so.
  split
  · rename_i all
    rw [List.all_eq_true] at all
    have values : ∀ text ∈ expressions, ∃ value, evaluate unit text = .ok value :=
      fun text member => (one text).mp (all text member)
    refine ⟨iff_of_false (by decide) ?_, iff_of_true rfl values⟩
    rintro ⟨text, member, error, failed⟩
    obtain ⟨value, found⟩ := values text member
    rw [found] at failed
    cases failed
  · -- One has none, which is enough for the other exit code.
    rename_i some
    rw [List.all_eq_true] at some
    push Not at some
    obtain ⟨text, member, fails⟩ := some
    refine ⟨iff_of_true rfl ⟨text, member, ?_⟩, iff_of_false (by decide) ?_⟩
    · cases found : evaluate unit text with
      | error error => exact ⟨error, rfl⟩
      | ok value => exact absurd ((one text).mpr ⟨value, found⟩) fails
    · intro values
      exact fails ((one text).mpr (values text member))

/--
A batch prints one line for each expression, which is the one that it prints for that expression alone.

It fails if any of the expressions does, wherever that stands.
Where no expression looks like a flag, the unit may be asked for anywhere among them.
-/
theorem batch_answers_each (unit : AngleUnit) {expressions : List String}
    (nonempty : expressions ≠ []) (unread : String) :
    ∃ output, runCommandLine (unit.flags ++ "--" :: expressions) unread = output
      ∧ textLines output.text = expressions.map (fun text => answer unit text ++ "\n")
      ∧ (∀ text ∈ expressions,
        (∀ value, evaluate unit text = .ok value → answer unit text = resultText value)
          ∧ ∀ error, evaluate unit text = .error error →
            answer unit text = "Error: " ++ error.message)
      ∧ (∀ other, textLines output.text = expressions.map fun text =>
        (runCommandLine (unit.flags ++ ["--", text]) other).text)
      ∧ (output.exitCode = 1 ↔ ∃ text ∈ expressions, ∃ error, evaluate unit text = .error error)
      ∧ (output.exitCode = 0 ↔ ∀ text ∈ expressions, ∃ value, evaluate unit text = .ok value)
      ∧ ∀ front back, front ++ back = expressions →
        (∀ text ∈ expressions, IsUndashed text) →
        runCommandLine (front ++ unit.flags ++ back) unread = output := by
  -- The flags and the separator leave the expressions to be answered one by one.
  have ran : runCommandLine (unit.flags ++ "--" :: expressions) unread
      = answerAll unit expressions := by
    rw [runCommandLine, Command.ofArguments_flags_expressions unit nonempty, Command.run]
  have lines : textLines (answerAll unit expressions).text
      = expressions.map (fun text => answer unit text ++ "\n") :=
    textLines_join (areLines_answers unit expressions)
  obtain ⟨failure, success⟩ := exitCode_answerAll unit expressions
  -- Whole output, single lines, exit code and the place of the flag are taken in turn.
  refine ⟨_, ran, lines, ?_, ?_, failure, success, ?_⟩
  · intro text _
    constructor
    · intro value found
      rw [answer, found]
    · intro error failed
      rw [answer, failed]
      rfl
  · intro other
    simp only [lines, text_runCommandLine_single]
  · rintro front back rfl undashed
    rw [runCommandLine, Command.ofArguments_flags_between unit nonempty undashed, Command.run]

/-- A lone dash fails as an expression, next to others that have an answer. -/
theorem batch_answers_each_dash :
    -- A flag in the midst of the expressions, one of which is a lone minus.
    runCommandLine ["2", "--radians", "-", "3!"] "" = ⟨1, "2\nError: Invalid expression\n6\n"⟩ := by
  have nonempty : ["2", "-", "3!"] ≠ [] := List.cons_ne_nil _ _
  have undashed : ∀ text ∈ ["2", "-", "3!"], IsUndashed text := by
    simp [IsUndashed]
  obtain ⟨output, ran, -, -, -, -, -, between⟩ := batch_answers_each .radians nonempty ""
  have flagged := between ["2"] ["-", "3!"] rfl undashed
  rw [← ran] at flagged
  exact flagged.trans (by decide +kernel)

end PocketCalculator
