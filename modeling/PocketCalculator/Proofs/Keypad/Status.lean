import PocketCalculator.Proofs.Keypad.Steps

/-! The status line tells how the last attempt since the display was cleared came out. -/

namespace PocketCalculator

/-- A key press that decides anew whether there is an error. -/
def KeyPress.Decides (key : KeyPress) : Prop :=
  key.button? = some .clear ∨ key.button? = some .equals

/-- Whether a key press decides can be looked up. -/
instance (key : KeyPress) : Decidable key.Decides :=
  inferInstanceAs (Decidable (_ ∨ _))

namespace Keypad

/-- The error that an attempt to work a text out ends with, if it does not succeed. -/
def failure (keypad : Keypad) (text : String) : Option CalcError :=
  match evaluate keypad.unit text with
  | .error error => some error
  -- A value that cannot be shown is a failure too.
  | .ok value => if (resultText value).utf8ByteSize ≤ keypad.capacity then none else some .inputFull

section

variable {keypad : Keypad} {display : Display} {key : KeyPress} {response : Response}

/-- Typing, deleting and whatever is refused without an attempt keep the error. -/
theorem Responds.error_of_not_decides (responds : keypad.Responds display key response)
    (other : ¬key.Decides) : response.display.error = display.error := by
  -- Of all the responses only clearing and = say anything about the error.
  cases responds with
  | unknown | deleted | added | full => rfl
  | cleared asks => exact absurd (.inl asks) other
  | failed asks | worked asks | long asks => exact absurd (.inr asks) other

/-- A cleared display has no error. -/
theorem error_of_clear (asks : key.button? = some .clear) :
    (keypad.respond display key).display.error = none := by
  -- Clearing leaves a blank display, whatever was shown before.
  rw [respond_of_button? asks]
  rfl

/-- An attempt forgets the error of an earlier one, and keeps its own. -/
theorem error_of_equals (asks : key.button? = some .equals) :
    (keypad.respond display key).display.error = keypad.failure display.text := by
  -- The key = evaluates the text, and its error is kept, or the want of room is.
  rw [respond_of_button? asks]
  show (keypad.equals display).display.error = _
  rw [equals, failure]
  cases evaluate keypad.unit display.text with
  | error error => rfl
  | ok value =>
    simp only
    split
    · rfl
    · rfl

/-- A run without a decision keeps the error. -/
theorem error_displayAfter_of_not_decides {keys : List KeyPress}
    (others : ∀ key ∈ keys, ¬key.Decides) :
    (keypad.displayAfter display keys).error = display.error := by
  -- None of these keys touches the error, so each display shows the first one's.
  have step : ∀ shown : Display, shown.error = display.error → ∀ key ∈ keys,
      (keypad.respond shown key).display.error = display.error := by
    intro shown same key member
    rw [(keypad.responds shown key).error_of_not_decides (others key member), same]
  exact displayAfter_induct step rfl

/-- Of all decisions of a run the last one counts. -/
theorem error_displayAfter_append {before after : List KeyPress}
    (others : ∀ later ∈ after, ¬later.Decides) :
    (keypad.displayAfter display (before ++ key :: after)).error
      = (keypad.respond (keypad.displayAfter display before) key).display.error := by
  -- What comes behind the decision keeps its error.
  rw [displayAfter_append, displayAfter_cons, error_displayAfter_of_not_decides others]

end

/-- The status line is empty exactly if there is no error. -/
theorem status_eq_empty_iff (display : Display) : display.status = "" ↔ display.error = none := by
  cases found : display.error with
  | none => simp [Display.status, found]
  | some error =>
    -- The report begins with a word of its own.
    simp [Display.status, found, CalcError.report]

/--
The error after a run is that of the last attempt, unless the display was cleared behind it.

The attempt was made with the text as it stood then, whatever became of the text since.
-/
theorem error_displayAfter_blank (keypad : Keypad) :
    (∀ keys, (∀ key ∈ keys, ¬key.Decides) → (keypad.displayAfter Display.blank keys).error = none)
      ∧ (∀ before key after, (∀ later ∈ after, ¬later.Decides) →
        (key.button? = some .clear →
            (keypad.displayAfter Display.blank (before ++ key :: after)).error = none)
          ∧ (key.button? = some .equals →
            (keypad.displayAfter Display.blank (before ++ key :: after)).error
              = keypad.failure (keypad.displayAfter Display.blank before).text))
      ∧ ∀ display : Display, (display.status = "" ↔ display.error = none)
        ∧ ∀ error, display.error = some error → display.status = "Error: " ++ error.message := by
  -- The error is decided by the last key of two kinds; what comes after does not touch it.
  refine ⟨?_, ?_, ?_⟩
  · -- Nothing decides, so the error is the one of the blank display.
    intro keys others
    rw [error_displayAfter_of_not_decides others]
    rfl
  · -- The keys behind the deciding one leave its error.
    intro before key after others
    rw [error_displayAfter_append others]
    exact ⟨error_of_clear, error_of_equals⟩
  · -- The line below the text is empty only where nothing went wrong.
    intro display
    refine ⟨status_eq_empty_iff display, ?_⟩
    intro error found
    rw [Display.status, found]
    rfl

/-- A division by zero is remembered while its zero is deleted and more is typed, until the display is cleared. -/
theorem error_displayAfter_blank_quotient :
    (displayAfter ⟨.degrees, 64⟩ Display.blank [.label "5", .label "MR"]).error = none
      ∧ (displayAfter ⟨.degrees, 64⟩ Display.blank ([.label "5", .label "÷", .label "0"]
          ++ .label "=" :: [.label "DEL", .label "√", .label "MR"])).status
        = "Error: " ++ CalcError.divisionByZero.message
      ∧ (displayAfter ⟨.degrees, 64⟩ Display.blank ([.label "5", .label "÷", .label "0", .label "="]
          ++ .label "C" :: [.button (.digit 7)])).error = none := by
  -- An error survives a deletion, a function and an unknown label, and a cleared one is gone.
  obtain ⟨silent, decided, status⟩ := error_displayAfter_blank ⟨.degrees, 64⟩
  have failed := (decided [.label "5", .label "÷", .label "0"] (.label "=")
    [.label "DEL", .label "√", .label "MR"] (by decide +kernel)).2 (by decide +kernel)
  have cleared := (decided [.label "5", .label "÷", .label "0", .label "="] (.label "C")
    [.button (.digit 7)] (by decide +kernel)).1 (by decide +kernel)
  have reason : failure ⟨.degrees, 64⟩ (displayAfter ⟨.degrees, 64⟩ Display.blank
      [.label "5", .label "÷", .label "0"]).text = some .divisionByZero := by
    decide +kernel
  exact ⟨silent _ (by decide +kernel), (status _).2 _ (failed.trans reason), cleared⟩

end Keypad

end PocketCalculator
