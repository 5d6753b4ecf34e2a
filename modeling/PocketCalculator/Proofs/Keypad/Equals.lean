import PocketCalculator.Proofs.Evaluation.ResultText
import PocketCalculator.Proofs.Keypad.Steps

/-! What the display shows when the value of a text is asked for again. -/

namespace PocketCalculator

open Double (IsWhole value)

namespace Keypad

section

variable {keypad : Keypad} {display : Display}

/-- A value that has room leaves no error. -/
theorem error_of_fits {result : Float} (found : evaluate keypad.unit display.text = .ok result)
    (fits : (resultText result).utf8ByteSize ≤ keypad.capacity) :
    (keypad.press display .equals).display.error = none := by
  -- With a value that fits, the response is known in full.
  have first : keypad.press display .equals = _ := equals_of_fits found fits
  rw [first]

/-- What fails once fails again in the same way. -/
theorem equals_again_of_error (failed : (keypad.equals display).display.error ≠ none) :
    keypad.equals (keypad.equals display).display = keypad.equals display := by
  -- The text was left as it was, so the second attempt meets the same text and fails likewise.
  cases found : evaluate keypad.unit display.text with
  | error error =>
    rw [equals_of_error found]
    exact equals_of_error found
  | ok result =>
    by_cases fits : (resultText result).utf8ByteSize ≤ keypad.capacity
    · -- A value that fits would have left no error.
      rw [equals_of_fits found fits] at failed
      exact absurd rfl failed
    · rw [equals_of_long found fits]
      exact equals_of_long found fits

/-- Without an error the text is that of the value, which had room. -/
theorem equals_of_success {result : Float} (found : evaluate keypad.unit display.text = .ok result)
    (success : (keypad.equals display).display.error = none) :
    (resultText result).utf8ByteSize ≤ keypad.capacity
      ∧ keypad.equals display = ⟨⟨resultText result, none⟩, none⟩ := by
  -- A value without room would have left an error.
  by_cases fits : (resultText result).utf8ByteSize ≤ keypad.capacity
  · exact ⟨fits, equals_of_fits found fits⟩
  · rw [equals_of_long found fits] at success
    exact absurd success (by simp)

end

/--
What a second attempt makes of the display that the first one leaves.

An error comes back unchanged, a plain result is a value of itself, and every other result is refused
for what its text begins with.
-/
theorem press_equals_again (keypad : Keypad) (display : Display) :
    ((keypad.press display .equals).display.error ≠ none →
        keypad.press (keypad.press display .equals).display .equals
          = keypad.press display .equals)
      ∧ ∀ result, evaluate keypad.unit display.text = .ok result →
        (keypad.press display .equals).display.error = none →
        keypad.press display .equals = ⟨⟨resultText result, none⟩, none⟩
          ∧ (result.isFinite → IsPlain result →
            keypad.press ⟨resultText result, none⟩ .equals = ⟨⟨resultText result, none⟩, none⟩)
          ∧ (result.isFinite → ¬IsPlain result →
            keypad.press ⟨resultText result, none⟩ .equals
              = ⟨⟨resultText result, some (.unknownToken "e")⟩, none⟩)
          ∧ (result = infinity →
            keypad.press ⟨resultText result, none⟩ .equals
              = ⟨⟨resultText result, some (.unknownToken "inf")⟩, none⟩)
          ∧ (result.isNaN →
            keypad.press ⟨resultText result, none⟩ .equals
              = ⟨⟨resultText result, some (.unknownToken "NaN")⟩, none⟩)
          ∧ (result = -infinity →
            keypad.press ⟨resultText result, none⟩ .equals
              = ⟨⟨resultText result, some .malformed⟩, none⟩) := by
  -- After an error the text is the same, and after a success it is that of the result; what comes
  -- next is what evaluating that text gives, kind by kind.
  refine ⟨equals_again_of_error, ?_⟩
  intro result found success
  obtain ⟨fits, first⟩ := equals_of_success found success
  obtain ⟨positive, negative, notANumber⟩ := evaluate_resultText_words keypad.unit
  refine ⟨first, ?_, ?_, ?_, ?_, ?_⟩
  · -- The text of a plain number evaluates to the number, but for the sign of a zero, which is not shown.
    intro finite plain
    have same := resultText_withoutZeroSign finite
    have again := evaluate_resultText keypad.unit finite plain
    have room : (resultText (withoutZeroSign result)).utf8ByteSize ≤ keypad.capacity := by
      rwa [same]
    have second := @equals_of_fits keypad ⟨resultText result, none⟩ _ again room
    rw [same] at second
    exact second
  · -- The exponent is read as a name.
    intro finite other
    exact equals_of_error (evaluate_resultText_scientific keypad.unit finite other)
  · -- Infinity is read as a name.
    rintro rfl
    exact equals_of_error positive
  · -- What is no number is read as a name too.
    intro status
    exact equals_of_error (notANumber result status)
  · -- Behind its sign, negative infinity is read as a name without an operand.
    rintro rfl
    exact equals_of_error negative

/--
A quotient without a value and one without room, one with room and a very small number.

Numbers that are too large for a double show the results that no numeral stands for.
-/
theorem press_equals_again_quotients :
    press ⟨.degrees, 64⟩ (press ⟨.degrees, 64⟩ ⟨"1/0", none⟩ .equals).display .equals
        = press ⟨.degrees, 64⟩ ⟨"1/0", none⟩ .equals
      ∧ press ⟨.degrees, 12⟩ (press ⟨.degrees, 12⟩ ⟨"1/3", none⟩ .equals).display .equals
        = press ⟨.degrees, 12⟩ ⟨"1/3", none⟩ .equals
      ∧ evaluate .degrees "1/3" = .ok (1 / 3)
      ∧ press ⟨.degrees, 64⟩ ⟨resultText (1 / 3), none⟩ .equals = ⟨⟨resultText (1 / 3), none⟩, none⟩
      ∧ evaluate .degrees ".00001" = .ok 1e-5
      ∧ press ⟨.degrees, 64⟩ ⟨resultText 1e-5, none⟩ .equals
        = ⟨⟨resultText 1e-5, some (.unknownToken "e")⟩, none⟩
      ∧ evaluate .degrees (String.ofList (List.replicate 309 '9')) = .ok infinity
      ∧ press ⟨.degrees, 512⟩ ⟨resultText infinity, none⟩ .equals
        = ⟨⟨resultText infinity, some (.unknownToken "inf")⟩, none⟩
      ∧ evaluate .degrees (String.ofList ('-' :: List.replicate 309 '9')) = .ok (-infinity)
      ∧ press ⟨.degrees, 512⟩ ⟨resultText (-infinity), none⟩ .equals
        = ⟨⟨resultText (-infinity), some .malformed⟩, none⟩
      ∧ evaluate .degrees (String.ofList ('0' :: '*' :: List.replicate 309 '9')) = .ok (0 * infinity)
      ∧ press ⟨.degrees, 512⟩ ⟨resultText (0 * infinity), none⟩ .equals
        = ⟨⟨resultText (0 * infinity), some (.unknownToken "NaN")⟩, none⟩ := by
  -- Two errors that stay the same, and four results that do not all read as themselves.
  have undefined : (press ⟨.degrees, 64⟩ ⟨"1/0", none⟩ .equals).display.error ≠ none := by
    decide +kernel
  have long : (press ⟨.degrees, 12⟩ ⟨"1/3", none⟩ .equals).display.error ≠ none := by
    decide +kernel
  have third : evaluate .degrees "1/3" = .ok (1 / 3) := by decide +kernel
  have small : evaluate .degrees ".00001" = .ok 1e-5 := by decide +kernel
  have finite : (1 / 3 : Float).isFinite ∧ (1e-5 : Float).isFinite := by decide +kernel
  have plain : IsPlain (1 / 3) := (isPlain_iff finite.1).mpr (by decide +kernel)
  have power : ¬IsPlain 1e-5 := mt (isPlain_iff finite.2).mp (by decide +kernel)
  -- The long texts are read as lists, since their characters take long to be taken apart.
  have above : evaluate .degrees (String.ofList (List.replicate 309 '9')) = .ok infinity := by
    have read : Token.ofCharsAfter none (List.replicate 309 '9') = .ok [.number infinity] := by
      decide +kernel
    exact evaluate_ofList read (evaluateTokens_number _ _)
  have below : evaluate .degrees (String.ofList ('-' :: List.replicate 309 '9'))
      = .ok (-infinity) := by
    have read : Token.ofCharsAfter none ('-' :: List.replicate 309 '9')
        = .ok [.number (-infinity)] := by
      decide +kernel
    exact evaluate_ofList read (evaluateTokens_number _ _)
  have neither : evaluate .degrees (String.ofList ('0' :: '*' :: List.replicate 309 '9'))
      = .ok (0 * infinity) := by
    have read : Token.ofCharsAfter none ('0' :: '*' :: List.replicate 309 '9')
        = .ok [.number 0, .operator .multiply, .number infinity] := by
      decide +kernel
    exact evaluate_ofList read (by decide +kernel)
  refine ⟨(press_equals_again ⟨.degrees, 64⟩ ⟨"1/0", none⟩).1 undefined,
    (press_equals_again ⟨.degrees, 12⟩ ⟨"1/3", none⟩).1 long, third, ?_, small, ?_, above, ?_,
    below, ?_, neither, ?_⟩
  · -- For each result the first press leaves no error, and the second one is the case of its kind.
    have shown := @error_of_fits ⟨.degrees, 64⟩ ⟨"1/3", none⟩ _ third (by decide +kernel)
    have again := (press_equals_again ⟨.degrees, 64⟩ ⟨"1/3", none⟩).2 _ third shown
    exact again.2.1 finite.1 plain
  · have shown := @error_of_fits ⟨.degrees, 64⟩ ⟨".00001", none⟩ _ small (by decide +kernel)
    have again := (press_equals_again ⟨.degrees, 64⟩ ⟨".00001", none⟩).2 _ small shown
    exact again.2.2.1 finite.2 power
  · have shown := @error_of_fits ⟨.degrees, 512⟩ ⟨_, none⟩ _ above (by decide +kernel)
    have again := (press_equals_again ⟨.degrees, 512⟩ ⟨_, none⟩).2 _ above shown
    exact again.2.2.2.1 rfl
  · have shown := @error_of_fits ⟨.degrees, 512⟩ ⟨_, none⟩ _ below (by decide +kernel)
    have again := (press_equals_again ⟨.degrees, 512⟩ ⟨_, none⟩).2 _ below shown
    exact again.2.2.2.2.2 rfl
  · have shown := @error_of_fits ⟨.degrees, 512⟩ ⟨_, none⟩ _ neither (by decide +kernel)
    have again := (press_equals_again ⟨.degrees, 512⟩ ⟨_, none⟩).2 _ neither shown
    exact again.2.2.2.2.1 (by decide +kernel)

/-- A one with twenty zeros is shown with a power, whose mark is refused the next time. -/
theorem press_equals_again_power :
    ¬∀ (keypad : Keypad) (keys : List KeyPress) (result : Float),
      evaluate keypad.unit (keypad.displayAfter Display.blank keys).text = .ok result →
      (keypad.press (keypad.displayAfter Display.blank keys) .equals).display.error = none →
      result.isFinite → (IsWhole result ∧ |value result| ≤ 2 ^ 63) ∨ 1e-4 ≤ result.abs →
      keypad.press (keypad.press (keypad.displayAfter Display.blank keys) .equals).display .equals
        = ⟨(keypad.press (keypad.displayAfter Display.blank keys) .equals).display, none⟩ := by
  -- The digits of 1e20 can be typed, and its result is written with an exponent.
  intro claim
  have typed : displayAfter ⟨.degrees, 64⟩ Display.blank
      (.label "1" :: List.replicate 20 (.label "0")) = ⟨"100000000000000000000", none⟩ := by
    decide +kernel
  have again := claim ⟨.degrees, 64⟩ (.label "1" :: List.replicate 20 (.label "0")) 1e20
  rw [typed] at again
  have same := again (by decide +kernel) (by decide +kernel) (by decide +kernel)
    (.inr (by decide +kernel))
  exact absurd same (by decide +kernel)

end Keypad

end PocketCalculator
