import PocketCalculator.Proofs.Keypad.Steps

/-! A key press that is refused for lack of room or for its label leaves no trace in a run. -/

namespace PocketCalculator

/--
Whether a key press was rejected, as the reason for its refusal tells.

Typing is rejected for lack of room, and a label for being unknown.
-/
def KeyPress.isRejected (key : KeyPress) (refusal : Option CalcError) : Bool :=
  match key, refusal with
  -- A result without room is an outcome that the display keeps.
  | key, some .inputFull => key.typed?.isSome
  | .label _, some (.unknownToken _) => true
  | _, _ => false

namespace Keypad

/-- The key presses of a run, each with the response to it. -/
def steps (keypad : Keypad) (display : Display) (keys : List KeyPress) :
    List (KeyPress × Response) :=
  keys.zip (keypad.responses display keys)

/-- The steps of a run that were not rejected. -/
def acceptedSteps (keypad : Keypad) (display : Display) (keys : List KeyPress) :
    List (KeyPress × Response) :=
  (keypad.steps display keys).filter fun step => !step.1.isRejected step.2.refusal

section

variable {keypad : Keypad} {display : Display} {key : KeyPress} {response : Response}

/-- Whatever is rejected leaves the display as it was. -/
theorem Responds.display_of_isRejected (responds : keypad.Responds display key response)
    (rejected : key.isRejected response.refusal) : response.display = display := by
  cases responds with
  | unknown | full => rfl
  | long asks worth long =>
    -- The result without room was asked for by a button that types nothing.
    have types : key.typed?.isSome := by cases key <;> exact rejected
    rw [KeyPress.typed?_of_button? asks] at types
    cases types
  -- Without a refusal nothing is rejected.
  | cleared | deleted | failed | worked | added => cases key <;> cases rejected

/-- Buttons are refused for lack of room only. -/
theorem Responds.refusal_of_button {button : Button} {error : CalcError}
    (responds : keypad.Responds display (.button button) response)
    (refused : response.refusal = some error) : error = .inputFull := by
  -- A button is known, and all other refusals are for want of room.
  cases responds with
  | unknown isLabel noButton => cases noButton
  | long | full => exact (Option.some.inj refused).symm
  | cleared | deleted | failed | worked | added => cases refused

/-- A refused result leaves the text, and takes the place of the error. -/
theorem Responds.display_of_long (responds : keypad.Responds display key response)
    (asks : key.button? = some .equals) (refused : response.refusal = some .inputFull) :
    response.display = { display with error := some .inputFull } := by
  -- Two responses refuse for want of room, and one of them is not to the key =.
  cases responds with
  | long => rfl
  | full types =>
    rw [KeyPress.typed?_of_button? asks] at types
    cases types
  | unknown | cleared | deleted | failed | worked | added => cases refused

/-- The accepted steps of a run, taken by themselves, go as they went in the run. -/
theorem responses_acceptedSteps (keypad : Keypad) (display : Display) (keys : List KeyPress) :
    keypad.responses display ((keypad.acceptedSteps display keys).map Prod.fst)
      = (keypad.acceptedSteps display keys).map Prod.snd := by
  -- A rejected step hands on the display that it met, so the steps behind it do not notice it.
  induction keys generalizing display with
  | nil => rfl
  | cons key keys ih =>
    have first : keypad.steps display (key :: keys)
        = (key, keypad.respond display key)
          :: keypad.steps (keypad.respond display key).display keys :=
      rfl
    cases rejected : key.isRejected (keypad.respond display key).refusal with
    | true =>
      -- The step drops out, and the rest starts from the same display.
      have same := (keypad.responds display key).display_of_isRejected rejected
      have dropped : keypad.acceptedSteps display (key :: keys)
          = keypad.acceptedSteps display keys := by
        rw [acceptedSteps, first, same, List.filter_cons, rejected]
        rfl
      rw [dropped]
      exact ih display
    | false =>
      -- The step stays, and what is left of the rest goes on behind it.
      have kept : keypad.acceptedSteps display (key :: keys)
          = (key, keypad.respond display key)
            :: keypad.acceptedSteps (keypad.respond display key).display keys := by
        rw [acceptedSteps, first, List.filter_cons, rejected]
        rfl
      rw [kept, List.map_cons, List.map_cons, responses, ih]

end

/--
A run does not notice the key presses that were rejected in it.

Buttons are refused for lack of room only, what is typed enters as a whole or not at all, and a result
without room changes nothing but the error.
-/
theorem refusal_atomic (keypad : Keypad) (display : Display) :
    (∀ keys, keypad.responses display ((keypad.acceptedSteps display keys).map Prod.fst)
        = (keypad.acceptedSteps display keys).map Prod.snd)
      ∧ (∀ button error, (keypad.press display button).refusal = some error → error = .inputFull)
      ∧ (∀ key typed, key.typed? = some typed →
        ((keypad.respond display key).refusal = some .inputFull
            ↔ keypad.capacity < display.text.utf8ByteSize + typed.utf8ByteSize)
          ∧ ((keypad.respond display key).refusal = some .inputFull →
            (keypad.respond display key).display = display)
          ∧ ((keypad.respond display key).refusal ≠ some .inputFull →
            keypad.respond display key
              = ⟨{ display with text := display.text ++ typed }, none⟩))
      ∧ ∀ key, key.button? = some .equals →
        (keypad.respond display key).refusal = some .inputFull →
        (keypad.respond display key).display = { display with error := some .inputFull } := by
  refine ⟨keypad.responses_acceptedSteps display, ?_, ?_, ?_⟩
  · intro button error refused
    exact (keypad.responds display (.button button)).refusal_of_button refused
  · intro key typed types
    -- Whether there is room decides all three statements at once.
    rw [respond_typed types]
    by_cases full : keypad.capacity < display.text.utf8ByteSize + typed.utf8ByteSize
    · simp [full]
    · simp [full]
  · intro key asks refused
    exact (keypad.responds display key).display_of_long asks refused

/-- The name of a function is too long for a short display, and so is the value of a third. -/
theorem refusal_atomic_third :
    (press ⟨.degrees, 7⟩ ⟨"1/3", some .divisionByZero⟩ (.function .asin)).refusal
        = some .inputFull
      ∧ (respond ⟨.degrees, 7⟩ ⟨"1/3", some .divisionByZero⟩ (.label "sin⁻¹")).display
        = ⟨"1/3", some .divisionByZero⟩
      ∧ respond ⟨.degrees, 7⟩ ⟨"1/3", some .divisionByZero⟩ (.button (.digit 200))
        = ⟨⟨"1/3200", some .divisionByZero⟩, none⟩
      ∧ (respond ⟨.degrees, 7⟩ ⟨"1/3", some .divisionByZero⟩ (.label "=")).display
        = ⟨"1/3", some .inputFull⟩ := by
  -- A function without room, digits with just enough of it, and a result without room.
  obtain ⟨-, buttons, typing, results⟩ :=
    refusal_atomic ⟨.degrees, 7⟩ ⟨"1/3", some .divisionByZero⟩
  have asin := typing (.label "sin⁻¹") " asin(" (by decide +kernel)
  have digit := typing (.button (.digit 200)) "200" (by decide +kernel)
  have refused : (press ⟨.degrees, 7⟩ ⟨"1/3", some .divisionByZero⟩ (.function .asin)).refusal
      = some .inputFull := by
    decide
  have reason : CalcError.inputFull = .inputFull := buttons (.function .asin) .inputFull refused
  refine ⟨refused.trans (congrArg some reason), ?_, ?_, ?_⟩
  · exact asin.2.1 (asin.1.mpr (by decide))
  · exact digit.2.2 (mt digit.1.mp (by decide))
  · exact results (.label "=") (by decide +kernel) (by decide +kernel)

end Keypad

end PocketCalculator
