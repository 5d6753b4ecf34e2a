import PocketCalculator.CommandLine.Session
import PocketCalculator.Proofs.Evaluation.Errors
import PocketCalculator.Proofs.Keypad.Characters
import PocketCalculator.Proofs.NumberText.Width

/-! A display with room for twenty-four characters has room for every result. -/

namespace PocketCalculator

/-- A text of shown characters takes up one byte for each. -/
theorem utf8ByteSize_of_isShown {text : String} (shown : ∀ c ∈ text.toList, IsShown c) :
    text.utf8ByteSize = text.toList.length := by
  -- One byte for each character, by induction along the text.
  have general : ∀ chars : List Char, (∀ c ∈ chars, IsShown c) →
      String.utf8Len chars = chars.length := by
    intro chars shown
    induction chars with
    | nil => rfl
    | cons c chars ih =>
      obtain ⟨first, others⟩ := List.forall_mem_cons.mp shown
      rw [String.utf8Len_cons, ih others, first.utf8Size_eq_one, List.length_cons]
  rw [← general text.toList shown, ← String.utf8ByteSize_ofList, String.ofList_toList]

/-- The bytes of a result are its characters. -/
theorem utf8ByteSize_resultText (x : Float) :
    (resultText x).utf8ByteSize = (resultText x).toList.length :=
  -- A result is written with characters of one byte.
  utf8ByteSize_of_isShown fun c member => .of_isResultChar (isResultChar_resultText x c member)

/-- The room that is enough for every result. -/
def maxResultBytes : Nat :=
  -- A sign, seventeen digits, a point, and a power of three digits with its mark and its sign.
  24

/-- No error of a text has to do with the room for it. -/
theorem evaluate_ne_inputFull (unit : AngleUnit) (text : String) :
    evaluate unit text ≠ .error .inputFull := by
  -- Neither reading the text nor working the tokens out ever counts bytes.
  intro failed
  cases read : Token.ofText text with
  | error error =>
    rw [evaluate_of_ofText_error read] at failed
    cases failed
  | ok tokens =>
    rw [evaluate_of_ofText read] at failed
    exact evaluateTokens_ne_inputFull tokens failed

namespace Keypad

section

variable {keypad : Keypad} {display : Display} {key : KeyPress} {response : Response}
  (room : maxResultBytes ≤ keypad.capacity)

include room

/-- Every result has room where there is enough for the longest one. -/
theorem resultText_fits (x : Float) : (resultText x).utf8ByteSize ≤ keypad.capacity := by
  -- No result is longer than 24 bytes.
  rw [utf8ByteSize_resultText]
  exact (length_resultText_le x).2.2.trans room

/-- So an attempt never ends for lack of room. -/
theorem failure_ne_inputFull (text : String) : keypad.failure text ≠ some .inputFull := by
  -- An evaluation fails in other ways, and a value always fits.
  unfold failure
  split
  · rename_i error failed
    rintro ⟨⟩
    exact evaluate_ne_inputFull keypad.unit text failed
  · rename_i x worth
    rw [if_pos (resultText_fits room x)]
    exact nofun

/-- What is refused for lack of room was typed. -/
theorem Responds.typed_of_inputFull (responds : keypad.Responds display key response)
    (refused : response.refusal = some .inputFull) :
    ∃ typed, key.typed? = some typed
      ∧ keypad.capacity < display.text.utf8ByteSize + typed.utf8ByteSize := by
  -- Of the two responses that refuse for want of room, the one to = needs a value that does not fit.
  cases responds with
  | unknown | cleared | deleted | failed | worked | added => cases refused
  | @long result asks worth long => exact absurd (resultText_fits room result) (Nat.not_le.mpr long)
  | @full typed types full => exact ⟨typed, types, full⟩

/-- No run from the blank display stores that a result has no room. -/
theorem error_displayAfter_ne_inputFull (keys : List KeyPress) :
    (keypad.displayAfter Display.blank keys).error ≠ some .inputFull := by
  have step : ∀ shown : Display, shown.error ≠ some .inputFull → ∀ key ∈ keys,
      (keypad.respond shown key).display.error ≠ some .inputFull := by
    intro shown roomy key _
    by_cases decides : key.Decides
    · -- The error is decided anew, and lack of room is not among the reasons.
      rcases decides with clears | asks
      · rw [error_of_clear clears]
        exact nofun
      · rw [error_of_equals asks]
        exact failure_ne_inputFull room shown.text
    · rwa [(keypad.responds shown key).error_of_not_decides decides]
  exact displayAfter_induct step nofun

end

/--
Every result has room on a display of twenty-four characters.

Integers need twenty and plain fractions twenty-three, and no result holds a character of more than one
byte.
So with that much room, as calculators of the command line have, only what is typed can be refused for
lack of room, and no such refusal is ever stored.
-/
theorem result_has_room :
    (∀ x : Float, (∀ c ∈ (resultText x).toList, c.toNat < 128)
        ∧ (x == ofWhole (wholePart x) → (resultText x).utf8ByteSize ≤ 20)
        ∧ (readsPlainly x → (resultText x).utf8ByteSize ≤ 23)
        ∧ (resultText x).utf8ByteSize ≤ 24)
      ∧ 24 ≤ sessionCapacity
      ∧ ∀ keypad : Keypad, 24 ≤ keypad.capacity →
        (∀ display key, key.button? = some .equals →
            (keypad.respond display key).refusal ≠ some .inputFull
              ∧ (keypad.respond display key).display.error ≠ some .inputFull)
          ∧ (∀ keys, (keypad.displayAfter Display.blank keys).error ≠ some .inputFull)
          ∧ ∀ display key, (keypad.respond display key).refusal = some .inputFull →
            ∃ typed, key.typed? = some typed
              ∧ keypad.capacity < display.text.utf8ByteSize + typed.utf8ByteSize := by
  refine ⟨fun x => ?_, by decide, fun keypad room => ⟨?_, ?_, ?_⟩⟩
  · rw [utf8ByteSize_resultText]
    refine ⟨?_, length_resultText_le x⟩
    intro c member
    exact (IsShown.of_isResultChar (isResultChar_resultText x c member)).toNat_lt
  · intro display key asks
    constructor
    · intro refused
      -- The button of attempts types nothing.
      obtain ⟨typed, types, -⟩ := (keypad.responds display key).typed_of_inputFull room refused
      rw [KeyPress.typed?_of_button? asks] at types
      cases types
    · rw [error_of_equals asks]
      exact failure_ne_inputFull room display.text
  · exact error_displayAfter_ne_inputFull room
  · intro display key
    exact (keypad.responds display key).typed_of_inputFull room

/-- The widest integer and the widest fraction, and a digit without room behind a result with a power. -/
theorem result_has_room_widest :
    (resultText (-9223372036854775808)).utf8ByteSize = 20
      ∧ (resultText (-0.00012345678901234567)).utf8ByteSize = 23
      ∧ (respond ⟨.degrees, 24⟩ ⟨"-.00012345678901234567", none⟩ (.label "=")).refusal
        ≠ some .inputFull
      ∧ (displayAfter ⟨.degrees, 24⟩ Display.blank [.label "1", .label "÷", .label "3", .label "="]).error
        ≠ some .inputFull
      ∧ (respond ⟨.degrees, 24⟩ ⟨"-1.2345678901234567e-100", none⟩ (.label "5")).refusal
        = some .inputFull
      ∧ ∃ typed, (KeyPress.label "5").typed? = some typed ∧ 24 < 24 + typed.utf8ByteSize := by
  -- The longest results fit, and only a further digit finds no room.
  obtain ⟨attempts, runs, typing⟩ := result_has_room.2.2 ⟨.degrees, 24⟩ (by decide)
  have full : (respond ⟨.degrees, 24⟩ ⟨"-1.2345678901234567e-100", none⟩ (.label "5")).refusal
      = some .inputFull := by
    decide
  exact ⟨by decide +kernel, by decide +kernel, (attempts _ _ (by decide)).1, runs _, full,
    typing _ _ full⟩

end Keypad

end PocketCalculator
