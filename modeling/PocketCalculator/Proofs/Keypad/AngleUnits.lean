import Mathlib.Data.List.Chain
import PocketCalculator.Proofs.Evaluation.AngleUnits
import PocketCalculator.Proofs.Keypad.Steps
import PocketCalculator.Proofs.NumberText.Characters
import PocketCalculator.Proofs.Token.Words

/-! Without the buttons of angles, a calculator does not show what its unit of angles is. -/

namespace PocketCalculator

/-- The letters that the sine, the cosine and the tangent begin with, and those that come next. -/
def angularPairs : List (Char × Char) :=
  [('s', 'i'), ('c', 'o'), ('t', 'a')]

/-- Characters among which no name of a function of angles can be found. -/
def IsUnitless (chars : List Char) : Prop :=
  -- It is enough to look at neighbours, however the characters came together.
  chars.IsChain fun c d => (c, d) ∉ angularPairs

/-- Whether characters are free of such names can be looked up. -/
instance : DecidablePred IsUnitless := fun chars =>
  inferInstanceAs (Decidable (chars.IsChain fun c d => (c, d) ∉ angularPairs))

namespace IsUnitless

variable {chars : List Char}

/-- Characters that begin no pair are free of them. -/
theorem of_forall_ne (others : ∀ c ∈ chars, c ∉ angularPairs.map Prod.fst) : IsUnitless chars := by
  -- Not even characters that are apart make a pair.
  refine (List.pairwise_of_forall_mem_list ?_).isChain
  intro c member d _ pair
  exact others c member (List.mem_map_of_mem pair)

/-- More characters can follow if they do not go on with a pair. -/
theorem append {more : List Char} (front : IsUnitless chars) (back : IsUnitless more)
    (seam : more.head?.all fun d => d ∉ angularPairs.map Prod.snd) :
    IsUnitless (chars ++ more) := by
  -- A new pair could only arise where the two parts meet.
  refine List.isChain_append.mpr ⟨front, back, ?_⟩
  intro c _ d first pair
  have other := of_decide_eq_true ((Option.all_eq_true _ _).mp seam d first)
  exact other (List.mem_map_of_mem pair)

/-- No function of angles is named without a pair. -/
theorem lacks_name (unitless : IsUnitless chars) {f : MathFunction} (angular : f.isAngular) :
    ¬f.name.toList <:+: chars := by
  intro part
  -- The inverse functions hold the name of the other one, and with it the pair.
  have named : ¬IsUnitless f.name.toList := by
    cases f with
    | log | ln | sqrt => cases angular
    | _ => decide
  have whole : IsUnitless f.name.toList := List.IsChain.infix unitless part
  exact named whole

end IsUnitless

/-- Results hold no letter that a pair begins with. -/
theorem isUnitless_resultText (x : Float) : IsUnitless (resultText x).toList := by
  -- A result is written with numerals and marks, none of which begins a name of an angular function.
  refine .of_forall_ne ?_
  intro c member pair
  have noStart : ∀ d ∈ angularPairs.map Prod.fst, ¬Decimal.isNumeral d ∧ d ∉ resultMarks := by
    refine forall_mem_of_all ?_
    decide
  rcases isResultChar_resultText x c member with numeral | mark
  · exact (noStart c pair).1 numeral
  · exact (noStart c pair).2 mark

/-- Whether a button is that of a function of angles. -/
def Button.isAngular : Button → Bool
  | .function f => f.isAngular
  | _ => false

/-- The other buttons type no pair, and nothing that could go on with one. -/
theorem Button.isUnitless_of_typed {button : Button} {typed : String}
    (plain : button.isAngular = false) (types : button.typed = some typed) :
    IsUnitless typed.toList ∧ typed.toList.head?.all fun d => d ∉ angularPairs.map Prod.snd := by
  -- What is typed holds no first two letters of an angular name, and does not begin with a second
  -- one, so it completes none either.
  cases button with
  | clear | delete | equals => cases types
  | digit value =>
    -- Digits are no letters.
    cases types
    have digits := Decimal.isDigit_of_mem_toString value.toNat
    have noDigit : ∀ d ∈ angularPairs.map Prod.fst ++ angularPairs.map Prod.snd, ¬d.isDigit := by
      refine forall_mem_of_all ?_
      decide
    constructor
    · refine .of_forall_ne ?_
      intro c member pair
      exact noDigit c (List.mem_append_left _ pair) (digits c member)
    · refine (Option.all_eq_true _ _).mpr ?_
      intro c first
      refine decide_eq_true ?_
      intro pair
      exact noDigit c (List.mem_append_right _ pair) (digits c (List.mem_of_mem_head? first))
  | point | opening | closing =>
    -- Neither points nor parentheses are letters.
    cases types
    decide
  | operator op =>
    cases types
    cases op <;> decide
  | function f =>
    -- The logarithms and the root are all that is left, and their names are free of pairs.
    cases types
    cases f with
    | log | ln | sqrt => decide
    | _ => cases plain

/-- A text without such a name has the same outcome in every unit. -/
theorem evaluate_eq_of_isUnitless {text : String} (unitless : IsUnitless text.toList)
    (unit other : AngleUnit) : evaluate unit text = evaluate other text := by
  refine evaluate_eq_of_plain unit other ?_
  -- A name among the tokens would be a part of the text.
  intro tokens read f angular member
  exact unitless.lacks_name angular (Token.isRunOf_of_name read member).isInfix

/-- Whether a key press ends at the button of a function of angles. -/
def KeyPress.isAngular (key : KeyPress) : Bool :=
  key.button?.any Button.isAngular

namespace Keypad

/-- However a key edits the text, it stays without such names unless the key types one. -/
theorem Edits.isUnitless {keypad : Keypad} {key : KeyPress} {text edited : String}
    (edits : keypad.Edits key text edited) (plain : key.isAngular = false)
    (unitless : IsUnitless text.toList) : IsUnitless edited.toList := by
  -- Deleting leaves the front of the text, and the seam of an addition is the only new place.
  cases edits with
  | kept => exact unitless
  | cleared => exact List.isChain_nil
  | shortened =>
    rw [String.toList_ofList]
    exact List.IsChain.prefix unitless (List.dropLast_prefix _)
  | added types fits =>
    obtain ⟨button, found, types⟩ := Option.bind_eq_some_iff.mp types
    rw [KeyPress.isAngular, found] at plain
    obtain ⟨back, seam⟩ := Button.isUnitless_of_typed plain types
    rw [String.toList_append]
    exact unitless.append back seam
  | worked fits => exact isUnitless_resultText _

section

variable {unit other : AngleUnit} {capacity : Nat} {display : Display}

/-- Only working the text out asks for the unit. -/
theorem press_eq_of_evaluate_eq
    (same : evaluate unit display.text = evaluate other display.text) (button : Button) :
    press ⟨unit, capacity⟩ display button = press ⟨other, capacity⟩ display button := by
  cases button with
  | equals =>
    -- The capacities are the same, so the value is all that matters.
    show equals _ display = equals _ display
    simp only [equals, same]
  | _ => rfl

/-- A calculator responds in the same way if the text has the same outcome. -/
theorem respond_eq_of_evaluate_eq
    (same : evaluate unit display.text = evaluate other display.text) (key : KeyPress) :
    respond ⟨unit, capacity⟩ display key = respond ⟨other, capacity⟩ display key := by
  -- Only = looks at the unit, and only through the evaluation.
  cases key with
  | button button => exact press_eq_of_evaluate_eq same button
  | label label =>
    simp only [respond, pressByLabel]
    cases Button.labelled label with
    | ok button => exact press_eq_of_evaluate_eq same button
    | error error => rfl

/-- Two calculators of different units stay together as long as no key types such a name. -/
theorem responses_eq_of_isUnitless {keys : List KeyPress} (plain : ∀ key ∈ keys, key.isAngular = false)
    (unitless : IsUnitless display.text.toList) :
    responses ⟨unit, capacity⟩ display keys = responses ⟨other, capacity⟩ display keys := by
  -- Both respond alike to the first key, and what it leaves on the display is free of names again.
  induction keys generalizing display with
  | nil => rfl
  | cons key keys ih =>
    obtain ⟨first, later⟩ := List.forall_mem_cons.mp plain
    have alike := @respond_eq_of_evaluate_eq unit other capacity display
      (evaluate_eq_of_isUnitless unitless unit other) key
    have next := (responds ⟨unit, capacity⟩ display key).edits.isUnitless first unitless
    simp only [responses, ← alike, ih later next]

/-- No keys but their own assemble the name of a function of angles. -/
theorem isUnitless_displayAfter {keypad : Keypad} {keys : List KeyPress}
    (plain : ∀ key ∈ keys, key.isAngular = false) :
    IsUnitless (keypad.displayAfter Display.blank keys).text.toList := by
  -- The text begins empty, and each edit by these keys keeps it free of angular names.
  refine @text_displayAfter_induct (fun text => IsUnitless text.toList) keypad keys ?_ _ List.isChain_nil
  intro text unitless key member edited edits
  exact edits.isUnitless (plain key member) unitless

end

/--
The unit of angles has no influence without the functions of angles.

A text that names none has one outcome in both units.
So two calculators of different units respond alike unless the button of such a function is pressed, for
no other keys ever assemble its name.
-/
theorem degrees_eq_radians :
    (∀ text, (∀ tokens, Token.ofText text = .ok tokens →
        ∀ f : MathFunction, f.isAngular → .name f.name ∉ tokens) →
      evaluate .degrees text = evaluate .radians text)
      ∧ ∀ capacity (keys : List KeyPress), (∀ key ∈ keys, key.isAngular = false) →
        responses ⟨.degrees, capacity⟩ Display.blank keys
            = responses ⟨.radians, capacity⟩ Display.blank keys
          ∧ ∀ unit, ∀ f : MathFunction, f.isAngular →
            ¬f.name.toList <:+: (displayAfter ⟨unit, capacity⟩ Display.blank keys).text.toList := by
  -- Texts differ only through functions they call, and what these keys type calls no angular one.
  constructor
  · intro text plain
    exact evaluate_eq_of_plain .degrees .radians plain
  · intro capacity keys plain
    refine ⟨responses_eq_of_isUnitless plain List.isChain_nil, ?_⟩
    intro unit f angular
    exact (isUnitless_displayAfter plain).lacks_name angular

/-- What remains of one logarithm goes together with the next one to a word, but to no name. -/
theorem degrees_eq_radians_logarithm :
    evaluate .degrees "sqrt(4)" = evaluate .radians "sqrt(4)"
      ∧ responses ⟨.degrees, 64⟩ Display.blank
            [.label "ln", .label "DEL", .label "DEL", .label "log", .label "="]
          = responses ⟨.radians, 64⟩ Display.blank
            [.label "ln", .label "DEL", .label "DEL", .label "log", .label "="]
      ∧ displayAfter ⟨.radians, 64⟩ Display.blank
            [.label "ln", .label "DEL", .label "DEL", .label "log", .label "="]
          = ⟨"llog(", some (.unknownToken "llog")⟩
      ∧ ¬"sin".toList <:+: "llog(".toList := by
  -- A call of another function, and a run that leaves a misspelt logarithm.
  obtain ⟨texts, runs⟩ := degrees_eq_radians
  obtain ⟨alike, lacks⟩ := runs 64
    [.label "ln", .label "DEL", .label "DEL", .label "log", .label "="] (by decide +kernel)
  have shown : displayAfter ⟨.radians, 64⟩ Display.blank
      [.label "ln", .label "DEL", .label "DEL", .label "log", .label "="]
      = ⟨"llog(", some (.unknownToken "llog")⟩ := by
    decide +kernel
  refine ⟨texts "sqrt(4)" ?_, alike, shown, ?_⟩
  · intro tokens read f angular member
    have unitless : IsUnitless "sqrt(4)".toList := by decide
    exact unitless.lacks_name angular (Token.isRunOf_of_name read member).isInfix
  · have sine := lacks .radians .sin rfl
    rwa [shown] at sine

end Keypad

end PocketCalculator
