import PocketCalculator.Evaluation
import PocketCalculator.Keypad.Button

/-! A calculator that is worked by its buttons. -/

namespace PocketCalculator

/-- The settings of a calculator, which no button changes. -/
structure Keypad where
  /-- The unit of angles. -/
  unit : AngleUnit
  /-- The bytes that the typed text may take up at most. -/
  capacity : Nat

/-- What a calculator shows. -/
structure Display where
  /-- The text typed so far, or the last result. -/
  text : String
  /-- What went wrong at the last attempt to work the text out. -/
  error : Option CalcError
  deriving DecidableEq

namespace Display

/-- The display of a calculator that was just switched on. -/
def blank : Display :=
  -- Nothing was typed, and nothing went wrong.
  ⟨"", none⟩

/-- The line below the text, which is empty unless something went wrong. -/
def status (display : Display) : String :=
  match display.error with
  | some error => error.report
  | none => ""

/-- The display without its last character, if there is one. -/
def deleteLast (display : Display) : Display :=
  -- Nothing is removed from an empty text.
  { display with text := String.ofList display.text.toList.dropLast }

end Display

/-- What a key press leaves on the display, and why it was refused, if it was. -/
structure Response where
  /-- The display after the key press. -/
  display : Display
  /-- The reason for a refusal. -/
  refusal : Option CalcError
  deriving DecidableEq

/-- A key is pressed either as a button or by the label on it. -/
inductive KeyPress where
  /-- The button itself. -/
  | button (button : Button)
  /-- A label, which may be unknown. -/
  | label (label : String)

namespace Keypad

/-- Adds to the text what still fits, and refuses the whole of it otherwise. -/
def enter (keypad : Keypad) (display : Display) (typed : String) : Response :=
  -- Room is counted in bytes, and a text is never cut to fit.
  let longer := display.text ++ typed
  if longer.utf8ByteSize ≤ keypad.capacity then ⟨{ display with text := longer }, none⟩
  else ⟨display, some .inputFull⟩

/--
Replaces the text by its value.

An error is kept for the status line, and only a value without room is refused as well.
-/
def equals (keypad : Keypad) (display : Display) : Response :=
  match evaluate keypad.unit display.text with
  -- The text stays, so that it can be mended.
  | .error error => ⟨{ display with error := some error }, none⟩
  | .ok value =>
    -- Success forgets the error of an earlier attempt.
    if (resultText value).utf8ByteSize ≤ keypad.capacity then ⟨⟨resultText value, none⟩, none⟩
    else ⟨{ display with error := some .inputFull }, some .inputFull⟩

/-- Presses a button. -/
def press (keypad : Keypad) (display : Display) (button : Button) : Response :=
  match button, button.typed with
  -- Only clearing and a new attempt touch the error.
  | .clear, _ => ⟨Display.blank, none⟩
  | .delete, _ => ⟨display.deleteLast, none⟩
  | .equals, _ => keypad.equals display
  | _, some typed => keypad.enter display typed
  -- Every other button types something, so this case does not arise.
  | _, none => ⟨display, none⟩

/-- Presses the button of a label, where an unknown label is refused and changes nothing. -/
def pressByLabel (keypad : Keypad) (display : Display) (label : String) : Response :=
  -- A known label is as good as its button.
  match Button.labelled label with
  | .ok button => keypad.press display button
  | .error error => ⟨display, some error⟩

/-- Presses a key in either way. -/
def respond (keypad : Keypad) (display : Display) : KeyPress → Response
  -- Both ways end at a button, unless the label is unknown.
  | .button button => keypad.press display button
  | .label label => keypad.pressByLabel display label

/-- The responses to a sequence of key presses, none of which a refusal ends. -/
def responses (keypad : Keypad) (display : Display) : List KeyPress → List Response
  | [] => []
  | key :: keys =>
    -- Whatever the response, the next key meets the display it leaves.
    let response := keypad.respond display key
    response :: responses keypad response.display keys

/-- The display after a sequence of key presses. -/
def displayAfter (keypad : Keypad) (display : Display) (keys : List KeyPress) : Display :=
  -- Only the displays are handed on, not the refusals.
  keys.foldl (fun shown key => (keypad.respond shown key).display) display

end Keypad

end PocketCalculator
