import Mathlib.Data.List.DropRight
import PocketCalculator.Proofs.CommandLine.Session
import PocketCalculator.Proofs.Token.Placing

/-! A conversation about expressions answers each line as a batch of it alone does. -/

namespace PocketCalculator

/-- A text without the blanks at its end. -/
def trimmedEnd (text : String) : String :=
  String.ofList (text.toList.rdropWhile isBlank)

/-- Only blanks are cut off at the end. -/
theorem exists_trimmedEnd_append (text : String) :
    ∃ blanks : String, (∀ c ∈ blanks.toList, isBlank c) ∧ trimmedEnd text ++ blanks = text := by
  -- The blanks are the longest run of them at the end, which is what trimming drops.
  refine ⟨String.ofList (text.toList.rtakeWhile isBlank), ?_, ?_⟩
  · intro c member
    rw [String.toList_ofList] at member
    exact List.mem_rtakeWhile_imp member
  · rw [trimmedEnd, ← String.ofList_append, List.rdropWhile_append_rtakeWhile, String.ofList_toList]

/-- Blanks behind a text are cut off with those at its end. -/
theorem trimmedEnd_append (text : String) {blanks : String} (blank : ∀ c ∈ blanks.toList, isBlank c) :
    trimmedEnd (text ++ blanks) = trimmedEnd text := by
  -- The blanks are cut off one by one from the end.
  have same : ∀ chars : List Char, (∀ c ∈ chars, isBlank c) →
      (text.toList ++ chars).rdropWhile isBlank = text.toList.rdropWhile isBlank := by
    intro chars
    induction chars using List.reverseRecOn with
    | nil => simp
    | append_singleton chars c ih =>
      intro blank
      obtain ⟨others, last⟩ := List.forall_mem_append.mp blank
      rw [← List.append_assoc, List.rdropWhile_concat_pos _ _ _ (last c (.head _))]
      exact ih others
  rw [trimmedEnd, String.toList_append, same _ blank, trimmedEnd]

/-- Nothing is left of a text exactly if it is blank as a whole. -/
theorem trimmedEnd_eq_empty_iff {text : String} : trimmedEnd text = "" ↔ text.toList.all isBlank := by
  -- Nothing is left exactly if everything is dropped.
  rw [trimmedEnd, String.ofList_eq_empty_iff, List.rdropWhile_eq_nil_iff, List.all_eq_true]

/-- Nothing more is cut off the second time. -/
theorem trimmedEnd_trimmedEnd (text : String) : trimmedEnd (trimmedEnd text) = trimmedEnd text := by
  -- Blanks behind a trimmed text are all dropped again.
  obtain ⟨blanks, blank, whole⟩ := exists_trimmedEnd_append text
  conv_rhs => rw [← whole, trimmedEnd_append _ blank]

/-- The blanks at the end of an expression do not matter to its answer. -/
theorem answer_trimmedEnd (unit : AngleUnit) (text : String) :
    answer unit (trimmedEnd text) = answer unit text := by
  -- Blanks at the end of a text have no tokens.
  obtain ⟨blanks, blank, whole⟩ := exists_trimmedEnd_append text
  have same : evaluate unit text = evaluate unit (trimmedEnd text) := by
    conv_lhs => rw [← whole]
    rw [evaluate, Token.ofText_append_blanks _ blank, evaluate]
  rw [answer, answer, same]

namespace Session

/-- The reply to an expression is what a batch of it prints, and leaves the conversation as it was. -/
theorem reply_expressions (unit : AngleUnit) (line unread : String) :
    (expressions unit).reply line
      = (expressions unit,
        if line.toList.all isBlank then ""
        else "\t" ++ (runCommandLine (unit.flags ++ ["--", trimmedEnd line]) unread).text) := by
  -- The reply is the answer to the trimmed line, which a batch of one expression gives too.
  rw [text_runCommandLine_single, answer_trimmedEnd, reply, String.append_assoc]
  split <;> rfl

/-- The reply to a line is the reply to what is left of it without the blanks at its end. -/
theorem reply_trimmedEnd (unit : AngleUnit) (line : String) :
    (expressions unit).reply (trimmedEnd line) = (expressions unit).reply line := by
  -- Trimming changes neither the expression nor whether there is one.
  have blank : (trimmedEnd line).toList.all isBlank = line.toList.all isBlank := by
    rw [Bool.eq_iff_iff, ← trimmedEnd_eq_empty_iff, ← trimmedEnd_eq_empty_iff, trimmedEnd_trimmedEnd]
  rw [reply_expressions unit _ "", reply_expressions unit _ "", blank, trimmedEnd_trimmedEnd]

/-- A conversation about expressions keeps nothing from line to line. -/
theorem replyTexts_expressions (unit : AngleUnit) (lines : List String) :
    (expressions unit).replyTexts lines = lines.map fun line => ((expressions unit).reply line).2 := by
  -- The induction is on the lines; no reply changes the session.
  induction lines with
  | nil => rfl
  | cons line lines ih =>
    have kept : ((expressions unit).reply line).1 = expressions unit := by
      rw [reply_expressions unit line ""]
    rw [replyTexts, kept, ih, List.map_cons]

end Session

/-- What is printed for the lines of an input, when expressions are asked for. -/
theorem runCommandLine_flags (unit : AngleUnit) {lines : List String} (areLines : AreLines lines) :
    runCommandLine unit.flags (String.join lines)
      = ⟨0, (Session.expressions unit).header
          ++ String.join (lines.map fun line => "> " ++ ((Session.expressions unit).reply line).2)
          ++ "> "⟩ := by
  -- The whole input is read line by line, each with its own reply.
  rw [runCommandLine, Command.ofArguments_flags]
  show Output.mk 0 ((Session.expressions unit).transcript (String.join lines)) = _
  rw [Session.transcript_join _ areLines, Session.replyTexts_expressions, List.map_map]
  rfl

/-- Lines that differ in the blanks at their ends are answered alike. -/
theorem runCommandLine_flags_congr (unit : AngleUnit) {lines others : List String}
    (areLines : AreLines lines) (areOthers : AreLines others)
    (same : lines.map trimmedEnd = others.map trimmedEnd) :
    runCommandLine unit.flags (String.join lines) = runCommandLine unit.flags (String.join others) := by
  -- Each reply can be read off what is left of its line, and that is the same in both.
  have trimmed : ∀ texts : List String,
      texts.map (fun line => "> " ++ ((Session.expressions unit).reply line).2)
        = (texts.map trimmedEnd).map fun line => "> " ++ ((Session.expressions unit).reply line).2 := by
    intro texts
    simp only [List.map_map, Function.comp_def, Session.reply_trimmedEnd]
  rw [runCommandLine_flags unit areLines, runCommandLine_flags unit areOthers, trimmed lines,
    trimmed others, same]

namespace Token

/-- A minus behind blanks at the front of a text is an operator. -/
theorem head?_of_blanks_minus {blanks rest : String} {tokens : List Token} (nonempty : blanks ≠ "")
    (blank : ∀ c ∈ blanks.toList, isBlank c) (read : ofText (blanks ++ "-" ++ rest) = .ok tokens) :
    tokens.head? = some (operator .subtract) := by
  -- Behind a blank no sign is due, so the minus is an operator.
  have first : ofText (blanks ++ "-" ++ rest)
      = (ofCharsAfter (some (operator .subtract)) rest.toList).map (operator .subtract :: ·) := by
    rw [String.append_assoc, ofText_blanks_append nonempty blank, String.toList_append]
    exact ofCharsAfter_symbol (by decide) (isLetter_of_lt (by decide)) (by decide) fun _ => rfl
  rw [first, map_eq_bind, bind_eq_ok_iff] at read
  obtain ⟨others, -, same⟩ := read
  cases same
  rfl

/-- Without the blanks it is the sign of a number. -/
theorem head?_of_minus {rest : String} {tokens : List Token}
    (read : ofText ("-" ++ rest) = .ok tokens) : ∃ value, tokens.head? = some (number value) := by
  -- At the beginning of a text an operand is due, so the minus opens a literal.
  have first : ofText ("-" ++ rest)
      = ofLiteral ('-' :: rest.toList.takeWhile Decimal.isNumeral) >>= fun token =>
        (ofCharsAfter (some token) (rest.toList.dropWhile Decimal.isNumeral)).map (token :: ·) := by
    rw [ofText, String.toList_append]
    exact ofCharsAfter_cons none (by decide) rest.toList
  rw [first, bind_eq_ok_iff] at read
  obtain ⟨token, made, read⟩ := read
  rw [map_eq_bind, bind_eq_ok_iff] at read
  obtain ⟨others, -, same⟩ := read
  cases same
  -- The literal is a number, because the text has tokens.
  unfold ofLiteral at made
  split at made
  · rename_i value _
    cases made
    exact ⟨value, rfl⟩
  · cases made

end Token

/--
A conversation about expressions prints for each line what a batch of the line alone prints for it.

Blanks in front of a line are part of the expression in both, those behind it in neither.
-/
theorem prompt_answers_like_batch (unit : AngleUnit) :
    (∀ input, ∃ lines, AreLines lines ∧ String.join lines = input
        ∧ (∀ unread, runCommandLine unit.flags input
            = ⟨0, (Session.expressions unit).header
                ++ String.join (lines.map fun line => "> " ++
                  if line.toList.all isBlank then ""
                  else "\t" ++ (runCommandLine (unit.flags ++ ["--", trimmedEnd line]) unread).text)
                ++ "> "⟩)
        ∧ ∀ others, AreLines others → others.map trimmedEnd = lines.map trimmedEnd →
            runCommandLine unit.flags (String.join others) = runCommandLine unit.flags input)
      ∧ (∀ text blanks : String, (∀ c ∈ blanks.toList, isBlank c) →
          trimmedEnd (text ++ blanks) = trimmedEnd text)
      ∧ ∀ (blanks rest : String) (tokens : List Token), blanks ≠ "" →
          (∀ c ∈ blanks.toList, isBlank c) →
          (Token.ofText (blanks ++ "-" ++ rest) = .ok tokens →
            tokens.head? = some (.operator .subtract))
          ∧ (Token.ofText ("-" ++ rest) = .ok tokens →
            ∃ value, tokens.head? = some (.number value)) := by
  refine ⟨?_, fun text blanks blank => trimmedEnd_append text blank, ?_⟩
  · intro input
    -- The lines that the conversation takes in are lines of the input.
    have areLines := areLines_textLines input
    refine ⟨textLines input, areLines, join_textLines input, ?_, ?_⟩
    · intro unread
      have answered := runCommandLine_flags unit areLines
      simp only [Session.reply_expressions unit _ unread] at answered
      rwa [join_textLines] at answered
    · intro others areOthers same
      have alike := runCommandLine_flags_congr unit areOthers areLines same
      rwa [join_textLines] at alike
  · intro blanks rest tokens nonempty blank
    exact ⟨Token.head?_of_blanks_minus nonempty blank, Token.head?_of_minus⟩

/-- A negative number and a subtraction from nothing are told apart, however their lines end. -/
theorem prompt_answers_like_batch_minus :
    runCommandLine [] "-5\n -5 \n\n7\n" = runCommandLine [] "-5\r\n -5\n\t\n7"
      ∧ (runCommandLine [] "-5\r\n -5\n\t\n7").text
        = "Enter a math expression (deg):\n> \t-5\n> \tError: Invalid expression\n> > \t7\n> "
      ∧ (runCommandLine ["--", " -5"] "").text = "Error: Invalid expression\n"
      ∧ (∃ tokens, Token.ofText " -5" = .ok tokens ∧ tokens.head? = some (.operator .subtract))
      ∧ (∃ tokens value, Token.ofText "-5" = .ok tokens ∧ tokens.head? = some (.number value))
      ∧ trimmedEnd " -5\r\n" = trimmedEnd " -5" := by
  -- Two inputs with the same trimmed lines, and a minus with a blank in front of it.
  obtain ⟨answers, trimmed, minus⟩ := prompt_answers_like_batch .degrees
  obtain ⟨lines, areLines, joined, -, alike⟩ := answers "-5\r\n -5\n\t\n7"
  have cut : lines = textLines "-5\r\n -5\n\t\n7" := by rw [← joined, textLines_join areLines]
  have others := alike (textLines "-5\n -5 \n\n7\n") (areLines_textLines _) (by rw [cut]; decide +kernel)
  rw [join_textLines] at others
  have subtraction : Token.ofText " -5" = .ok [.operator .subtract, .number 5] := by decide +kernel
  have negative : Token.ofText "-5" = .ok [.number (-5)] := by decide +kernel
  have space : ∀ c ∈ " ".toList, isBlank c := forall_mem_of_all (by decide +kernel)
  have lineEnd : ∀ c ∈ "\r\n".toList, isBlank c := forall_mem_of_all (by decide +kernel)
  obtain ⟨value, first⟩ := (minus " " "5" _ (by decide) space).2 negative
  exact ⟨others, by decide +kernel, by decide +kernel,
    ⟨_, subtraction, (minus " " "5" _ (by decide) space).1 subtraction⟩, ⟨_, value, negative, first⟩,
    trimmed " -5" "\r\n" lineEnd⟩

end PocketCalculator
