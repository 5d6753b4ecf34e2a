import Mathlib.Data.List.Infix
import PocketCalculator.Proofs.CommandLine.Session
import PocketCalculator.Proofs.Keypad.Steps
import PocketCalculator.Proofs.Text.Classes

/-! A conversation about labels depends on the words of the input, not on how they are divided into lines. -/

namespace PocketCalculator

/-- What comes of a line of labels. -/
structure Turn where
  /-- A line for each label that was refused. -/
  reports : List String
  /-- What is shown when all labels of the line were pressed. -/
  display : Display

/-- A turn is printed with its reports, and with one line for the display. -/
def Turn.text (turn : Turn) : String :=
  String.join turn.reports ++ "\t[" ++ turn.display.text ++ "] " ++ turn.display.status ++ "\n"

namespace Keypad

/-- The line that reports on a label, if it was refused. -/
def report? (label : String) (response : Response) : Option String :=
  response.refusal.map fun error => "\t" ++ label ++ ": " ++ error.message ++ "\n"

/-- The reports on those of some labels that are refused when all are pressed in turn. -/
def reports (keypad : Keypad) (display : Display) (labels : List String) : List String :=
  -- Every label stands beside the response to it.
  (labels.zip (keypad.responses display (labels.map .label))).filterMap fun pressed =>
    report? pressed.1 pressed.2

/-- The display after some labels. -/
def afterLabels (keypad : Keypad) (display : Display) (labels : List String) : Display :=
  keypad.displayAfter display (labels.map .label)

/-- The turns of some lines. -/
def turns (keypad : Keypad) (display : Display) : List String → List Turn
  | [] => []
  | line :: lines =>
    -- The labels of the next line meet the display that this one leaves.
    let shown := keypad.afterLabels display (textWords line)
    ⟨keypad.reports display (textWords line), shown⟩ :: turns keypad shown lines

section

variable (keypad : Keypad) (display : Display)

/-- The first label is reported on, if it is refused, and the others are pressed all the same. -/
theorem reports_cons (label : String) (labels : List String) :
    keypad.reports display (label :: labels)
      = (report? label (keypad.pressByLabel display label)).toList
        ++ keypad.reports (keypad.pressByLabel display label).display labels := by
  -- Only a refused label has a report in front of the others.
  rw [reports, List.map_cons, responses, List.zip_cons_cons]
  cases refused : report? label (keypad.pressByLabel display label) with
  | none => exact List.filterMap_cons_none refused
  | some report => exact List.filterMap_cons_some refused

/-- Labels behind others are reported on from the display that these leave. -/
theorem reports_append (labels others : List String) :
    keypad.reports display (labels ++ others)
      = keypad.reports display labels
        ++ keypad.reports (keypad.afterLabels display labels) others := by
  -- Refused or not, a label hands its display on to the next one.
  induction labels generalizing display with
  | nil => rfl
  | cons label labels ih =>
    rw [List.cons_append, reports_cons, reports_cons, ih, List.append_assoc]
    rfl

/-- Labels behind others are pressed on the display that these leave. -/
theorem afterLabels_append (labels others : List String) :
    keypad.afterLabels display (labels ++ others)
      = keypad.afterLabels (keypad.afterLabels display labels) others := by
  -- Labels are pressed one after the other, so they can be pressed in two turns.
  rw [afterLabels, List.map_append, displayAfter_append]
  rfl

/-- The reports of all turns are those on all words. -/
theorem flatMap_reports_turns (lines : List String) :
    (keypad.turns display lines).flatMap Turn.reports
      = keypad.reports display (lines.flatMap textWords) := by
  -- A turn starts from the display on which the first word of its line is pressed.
  induction lines generalizing display with
  | nil => rfl
  | cons line lines ih =>
    rw [turns, List.flatMap_cons, List.flatMap_cons, reports_append, ← ih]

/-- Each turn shows the display after all words up to the end of its line. -/
theorem map_display_turns (lines : List String) :
    (keypad.turns display lines).map Turn.display
      = lines.inits.tail.map fun front => keypad.afterLabels display (front.flatMap textWords) := by
  induction lines generalizing display with
  | nil => rfl
  | cons line lines ih =>
    have further : ∀ front : List String,
        keypad.afterLabels display ((line :: front).flatMap textWords)
          = keypad.afterLabels (keypad.afterLabels display (textWords line))
            (front.flatMap textWords) := by
      intro front
      rw [List.flatMap_cons, afterLabels_append]
    -- The first turn stands for the front that ends with its line.
    have fronts : lines.inits = [] :: lines.inits.tail := by cases lines <;> rfl
    rw [turns, List.map_cons, ih, List.inits_cons, List.tail_cons, List.map_map, Function.comp_def]
    simp only [further]
    conv_rhs => rw [fronts]
    rfl

end

end Keypad

namespace Session

/-- Pressing labels in turn leaves the display after them all, and prints the reports on them. -/
theorem pressAll_eq (keypad : Keypad) (display : Display) (labels : List String) :
    pressAll keypad display labels
      = (keypad.afterLabels display labels, String.join (keypad.reports display labels)) := by
  -- The reports on later labels stand behind those on earlier ones.
  induction labels generalizing display with
  | nil => rfl
  | cons label labels ih =>
    rw [pressAll, ih, Keypad.reports_cons, Keypad.report?]
    cases (keypad.pressByLabel display label).refusal with
    | none => rfl
    | some error =>
      rw [Option.map_some, Option.toList_some, List.singleton_append, String.join_cons]
      rfl

/-- A line of labels leaves the display after them, and is answered by its turn. -/
theorem reply_labels (keypad : Keypad) (display : Display) (line : String) :
    (labels keypad display).reply line
      = (labels keypad (keypad.afterLabels display (textWords line)),
        Turn.text ⟨keypad.reports display (textWords line),
          keypad.afterLabels display (textWords line)⟩) := by
  -- A line is cut into words and each is pressed as a label.
  have pressed := pressAll_eq keypad display (textWords line)
  unfold textWords at pressed
  rw [reply, pressed]
  simp only [Turn.text, textWords, String.append_assoc]

/-- A conversation about labels is answered turn by turn. -/
theorem replyTexts_labels (keypad : Keypad) (display : Display) (lines : List String) :
    (labels keypad display).replyTexts lines = (keypad.turns display lines).map Turn.text := by
  -- The induction is on the lines, with the display they meet generalised.
  induction lines generalizing display with
  | nil => rfl
  | cons line lines ih => rw [replyTexts, reply_labels, ih, Keypad.turns, List.map_cons]

/-- A conversation about labels leaves the display after all words of its lines. -/
theorem after_labels (keypad : Keypad) (display : Display) (lines : List String) :
    (labels keypad display).after lines
      = labels keypad (keypad.afterLabels display (lines.flatMap textWords)) := by
  -- The induction is on the lines: the words of each are pressed where the last line left off.
  induction lines generalizing display with
  | nil => rfl
  | cons line lines ih =>
    rw [after, List.foldl_cons, ← after, reply_labels, ih, List.flatMap_cons,
      Keypad.afterLabels_append]

end Session

/-- What is printed for the lines of an input, when labels are asked for. -/
theorem runCommandLine_keypad_flags (unit : AngleUnit) {lines : List String}
    (areLines : AreLines lines) :
    runCommandLine ("--keypad" :: unit.flags) (String.join lines)
      = ⟨0, (Session.ofLabels unit).header
          ++ String.join ((Keypad.turns ⟨unit, 64⟩ Display.blank lines).map fun turn =>
            "> " ++ turn.text)
          ++ "> "⟩ := by
  -- The whole input is read line by line, and each reply is the text of its turn.
  rw [runCommandLine, Command.ofArguments_keypad_flags]
  show Output.mk 0 ((Session.ofLabels unit).transcript (String.join lines)) = _
  rw [Session.transcript_join _ areLines, Session.ofLabels, Session.replyTexts_labels, List.map_map]
  rfl

/--
A conversation about labels presses all words of the input in turn, however they are divided.

Every refused word is reported, and one line at the end of each turn shows where all words so far lead.
Blanks are all that words are told apart by, and a line end is one of them.
-/
theorem keypad_presses_words (unit : AngleUnit) :
    (∀ input, ∃ lines, AreLines lines ∧ String.join lines = input
        ∧ textWords input = lines.flatMap textWords
        ∧ runCommandLine ("--keypad" :: unit.flags) input
          = ⟨0, (Session.ofLabels unit).header
              ++ String.join ((Keypad.turns ⟨unit, 64⟩ Display.blank lines).map fun turn =>
                "> " ++ turn.text)
              ++ "> "⟩
        ∧ (Keypad.turns ⟨unit, 64⟩ Display.blank lines).flatMap Turn.reports
          = Keypad.reports ⟨unit, 64⟩ Display.blank (textWords input)
        ∧ (Keypad.turns ⟨unit, 64⟩ Display.blank lines).map Turn.display
          = (lines.inits.tail.map fun front =>
            Keypad.afterLabels ⟨unit, 64⟩ Display.blank (front.flatMap textWords))
        ∧ (Session.ofLabels unit).after lines
          = .labels ⟨unit, 64⟩ (Keypad.afterLabels ⟨unit, 64⟩ Display.blank (textWords input)))
      ∧ (∀ lines others, AreLines lines → AreLines others →
          textWords (String.join lines) = textWords (String.join others) →
          (Session.ofLabels unit).after lines = (Session.ofLabels unit).after others
          ∧ (Keypad.turns ⟨unit, 64⟩ Display.blank lines).flatMap Turn.reports
            = (Keypad.turns ⟨unit, 64⟩ Display.blank others).flatMap Turn.reports)
      ∧ textWords "" = []
      ∧ (∀ word, word ≠ "" → (∀ c ∈ word.toList, isBlank c = false) → textWords word = [word])
      ∧ ∀ front back c, isBlank c →
          textWords (front ++ String.singleton c ++ back) = textWords front ++ textWords back := by
  -- Both the state in the end and the reports are those of the words alone.
  have reached : ∀ lines, AreLines lines → (Session.ofLabels unit).after lines
      = .labels ⟨unit, 64⟩
        (Keypad.afterLabels ⟨unit, 64⟩ Display.blank (textWords (String.join lines))) := by
    intro lines areLines
    rw [textWords_join areLines]
    exact Session.after_labels _ _ _
  have reported : ∀ lines, AreLines lines →
      (Keypad.turns ⟨unit, 64⟩ Display.blank lines).flatMap Turn.reports
        = Keypad.reports ⟨unit, 64⟩ Display.blank (textWords (String.join lines)) := by
    intro lines areLines
    rw [textWords_join areLines, Keypad.flatMap_reports_turns]
  refine ⟨?_, ?_, textWords_empty, fun word => textWords_of_solid, ?_⟩
  · -- The lines of the input are those that the program reads.
    intro input
    have areLines := areLines_textLines input
    have joined := join_textLines input
    refine ⟨textLines input, areLines, joined, ?_, ?_, ?_, ?_, ?_⟩
    · rw [← textWords_join areLines, joined]
    · rw [← runCommandLine_keypad_flags unit areLines, joined]
    · rw [reported _ areLines, joined]
    · exact Keypad.map_display_turns _ _ _
    · rw [reached _ areLines, joined]
  · -- Two divisions of the same words leave the same state and the same reports.
    intro lines others areLines areOthers same
    rw [reached _ areLines, reached _ areOthers, reported _ areLines, reported _ areOthers, same]
    exact ⟨rfl, rfl⟩
  · intro front back c blank
    exact textWords_append blank front back

/-- A factorial is worked out from the same words on three lines and on two, past an unknown label. -/
theorem keypad_presses_words_redivided :
    textWords "3 foo x!\n\n =" = textWords "3\tfoo\r\nx! = \n"
      ∧ (Session.ofLabels .degrees).after (textLines "3 foo x!\n\n =")
        = (Session.ofLabels .degrees).after (textLines "3\tfoo\r\nx! = \n")
      ∧ (Session.ofLabels .degrees).after (textLines "3 foo x!\n\n =")
        = .labels ⟨.degrees, 64⟩ ⟨"6", none⟩
      ∧ (runCommandLine ["--keypad"] "3 foo x!\n\n =").text
        = "Enter button labels separated by spaces (deg):\n"
          ++ "> \tfoo: Unknown token: foo\n\t[3!] \n> \t[3!] \n> \t[6] \n> "
      ∧ (runCommandLine ["--keypad"] "3\tfoo\r\nx! = \n").text
        = "Enter button labels separated by spaces (deg):\n"
          ++ "> \tfoo: Unknown token: foo\n\t[3] \n> \t[6] \n> "
      ∧ textWords ("3" ++ String.singleton '\t' ++ "foo") = ["3", "foo"] := by
  -- One text divided into lines in two ways, with an unknown label among the words.
  obtain ⟨whole, alike, -, word, parted⟩ := keypad_presses_words .degrees
  have words : textWords "3 foo x!\n\n =" = textWords "3\tfoo\r\nx! = \n" := by decide +kernel
  have same := (alike (textLines "3 foo x!\n\n =") (textLines "3\tfoo\r\nx! = \n")
    (areLines_textLines _) (areLines_textLines _) (by rw [join_textLines, join_textLines, words])).1
  obtain ⟨lines, areLines, joined, -, -, -, -, reached⟩ := whole "3 foo x!\n\n ="
  have shown : Keypad.afterLabels ⟨.degrees, 64⟩ Display.blank (textWords "3 foo x!\n\n =")
      = ⟨"6", none⟩ := by
    decide +kernel
  rw [shown, ← textLines_join areLines, joined] at reached
  have three := word "3" (by decide) (forall_mem_of_all (by decide +kernel))
  have foo := word "foo" (by decide) (forall_mem_of_all (by decide +kernel))
  have apart := parted "3" "foo" '\t' rfl
  rw [three, foo] at apart
  exact ⟨words, same, reached, by decide +kernel, by decide +kernel, apart⟩

end PocketCalculator
