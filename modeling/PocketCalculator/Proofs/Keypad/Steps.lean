import PocketCalculator.Keypad

/-! What a single key press does, and what a run of key presses keeps. -/

namespace PocketCalculator

namespace KeyPress

/-- The button that a key press ends at, unless its label is unknown. -/
def button? : KeyPress → Option Button
  | .button pressed => some pressed
  | .label text => Button.ofLabel? text

/-- What a key press types, if it types at all. -/
def typed? (key : KeyPress) : Option String :=
  -- Neither an unknown label nor a button that acts on the display types anything.
  key.button?.bind Button.typed

/-- A known key types what its button types. -/
theorem typed?_of_button? {key : KeyPress} {button : Button} (found : key.button? = some button) :
    key.typed? = button.typed := by
  -- What a key types is what its button types.
  rw [typed?, found]
  rfl

end KeyPress

namespace Keypad

/-- All that can come of a key press. -/
inductive Responds (keypad : Keypad) (display : Display) (key : KeyPress) : Response → Prop where
  /-- An unknown label is quoted, and changes nothing. -/
  | unknown {label : String} (isLabel : key = .label label) (noButton : key.button? = none) :
      Responds keypad display key ⟨display, some (.unknownToken label)⟩
  /-- Everything is forgotten. -/
  | cleared (asks : key.button? = some .clear) : Responds keypad display key ⟨Display.blank, none⟩
  /-- The last character goes, if there is one. -/
  | deleted (asks : key.button? = some .delete) :
      Responds keypad display key ⟨display.deleteLast, none⟩
  /-- The text has no value, and the reason is kept. -/
  | failed {error : CalcError} (asks : key.button? = some .equals)
      (worth : evaluate keypad.unit display.text = .error error) :
      Responds keypad display key ⟨{ display with error := some error }, none⟩
  /-- The value takes the place of the text. -/
  | worked {result : Float} (asks : key.button? = some .equals)
      (worth : evaluate keypad.unit display.text = .ok result)
      (fits : (resultText result).utf8ByteSize ≤ keypad.capacity) :
      Responds keypad display key ⟨⟨resultText result, none⟩, none⟩
  /-- The value has no room, which is kept and is a reason for refusal as well. -/
  | long {result : Float} (asks : key.button? = some .equals)
      (worth : evaluate keypad.unit display.text = .ok result)
      (long : keypad.capacity < (resultText result).utf8ByteSize) :
      Responds keypad display key ⟨{ display with error := some .inputFull }, some .inputFull⟩
  /-- What the key types is added. -/
  | added {typed : String} (types : key.typed? = some typed)
      (fits : display.text.utf8ByteSize + typed.utf8ByteSize ≤ keypad.capacity) :
      Responds keypad display key ⟨{ display with text := display.text ++ typed }, none⟩
  /-- What the key types has no room, and nothing of it is added. -/
  | full {typed : String} (types : key.typed? = some typed)
      (full : keypad.capacity < display.text.utf8ByteSize + typed.utf8ByteSize) :
      Responds keypad display key ⟨display, some .inputFull⟩

section

variable {keypad : Keypad} {display : Display}

/-- An error is kept and leaves the text as it is. -/
theorem equals_of_error {error : CalcError}
    (failed : evaluate keypad.unit display.text = .error error) :
    keypad.equals display = ⟨{ display with error := some error }, none⟩ := by
  -- The evaluation is the first thing looked at, and an error is its first case.
  unfold equals
  rw [failed]

/-- A value that has room takes the place of the text. -/
theorem equals_of_fits {result : Float} (found : evaluate keypad.unit display.text = .ok result)
    (fits : (resultText result).utf8ByteSize ≤ keypad.capacity) :
    keypad.equals display = ⟨⟨resultText result, none⟩, none⟩ := by
  -- There is a value, and the room test lets its text through.
  unfold equals
  rw [found]
  exact if_pos fits

/-- A value without room is refused and leaves the text as it is. -/
theorem equals_of_long {result : Float} (found : evaluate keypad.unit display.text = .ok result)
    (long : ¬(resultText result).utf8ByteSize ≤ keypad.capacity) :
    keypad.equals display = ⟨{ display with error := some .inputFull }, some .inputFull⟩ := by
  -- There is a value, and the room test keeps its text out.
  unfold equals
  rw [found]
  exact if_neg long

/-- The three buttons that act on the display are those that type nothing. -/
theorem acts_of_typed_eq_none {button : Button} (silent : button.typed = none) :
    button = .clear ∨ button = .delete ∨ button = .equals := by
  -- Three buttons type nothing; all others carry a text.
  cases button with
  | clear => exact .inl rfl
  | delete => exact .inr (.inl rfl)
  | equals => exact .inr (.inr rfl)
  | _ => cases silent

/-- So every other button types something. -/
theorem exists_typed {button : Button}
    (types : button ≠ .clear ∧ button ≠ .delete ∧ button ≠ .equals) :
    ∃ typed, button.typed = some typed := by
  obtain ⟨noClear, noDelete, noEquals⟩ := types
  -- A button that types nothing would be one of the three that act.
  refine Option.ne_none_iff_exists'.mp ?_
  intro silent
  obtain clear | delete | equals := acts_of_typed_eq_none silent
  · exact noClear clear
  · exact noDelete delete
  · exact noEquals equals

/-- Such a button enters what it types. -/
private theorem press_of_typed {button : Button} {typed : String}
    (types : button.typed = some typed) :
    keypad.press display button = keypad.enter display typed := by
  -- The three that act are excluded, and every other button enters its text.
  cases button <;> cases types <;> rfl

/-- However a key is pressed, its button decides. -/
theorem respond_of_button? {key : KeyPress} {button : Button} (found : key.button? = some button) :
    keypad.respond display key = keypad.press display button := by
  -- A key that stands for a button is that button, or a label that is looked up first.
  cases key with
  | button pressed =>
    obtain rfl : pressed = button := Option.some.inj found
    rfl
  | label label =>
    have known : Button.ofLabel? label = some button := found
    simp only [respond, pressByLabel, Button.labelled, known]

/-- An unknown label never gets as far as a button. -/
private theorem respond_of_unknown {key : KeyPress} (noButton : key.button? = none) :
    ∃ label, key = .label label
      ∧ keypad.respond display key = ⟨display, some (.unknownToken label)⟩ := by
  -- A button is always known, so the key is a label that the lookup refuses.
  cases key with
  | button pressed => cases noButton
  | label label =>
    have unknown : Button.ofLabel? label = none := noButton
    exact ⟨label, rfl, by simp only [respond, pressByLabel, Button.labelled, unknown]⟩

/-- What is typed is refused exactly if it does not fit, and is added as a whole otherwise. -/
theorem respond_typed {key : KeyPress} {typed : String} (types : key.typed? = some typed) :
    keypad.respond display key
      = if keypad.capacity < display.text.utf8ByteSize + typed.utf8ByteSize
        then ⟨display, some .inputFull⟩
        else ⟨{ display with text := display.text ++ typed }, none⟩ := by
  -- Typing is entering the text of the button, whose room test is stated the other way round.
  obtain ⟨button, found, types⟩ := Option.bind_eq_some_iff.mp types
  rw [respond_of_button? found, press_of_typed types, enter, String.utf8ByteSize_append]
  split
  · rename_i fits
    rw [if_neg (Nat.not_lt.mpr fits)]
  · rename_i full
    rw [if_pos (Nat.not_le.mp full)]

end

/-- Every key press comes to one of these responses. -/
theorem responds (keypad : Keypad) (display : Display) (key : KeyPress) :
    keypad.Responds display key (keypad.respond display key) := by
  -- The cases follow the code: what the key stands for, what that button types, and for = what
  -- the evaluation gives.
  cases found : key.button? with
  | none =>
    -- A label that no button has.
    obtain ⟨label, isLabel, response⟩ := @respond_of_unknown keypad display key found
    rw [response]
    exact .unknown isLabel found
  | some button =>
    cases types : button.typed with
    | some typed =>
      -- A button that types: the room decides.
      have typesKey : key.typed? = some typed := by rw [KeyPress.typed?_of_button? found, types]
      rw [respond_typed typesKey]
      split
      · rename_i full
        exact .full typesKey full
      · rename_i fits
        exact .added typesKey (Nat.not_lt.mp fits)
    | none =>
      -- One of the three buttons that act.
      rw [respond_of_button? found]
      obtain rfl | rfl | rfl := acts_of_typed_eq_none types
      · exact .cleared found
      · exact .deleted found
      · show keypad.Responds display key (keypad.equals display)
        cases worth : evaluate keypad.unit display.text with
        | error error =>
          rw [equals_of_error worth]
          exact .failed found worth
        | ok result =>
          by_cases fits : (resultText result).utf8ByteSize ≤ keypad.capacity
          · rw [equals_of_fits worth fits]
            exact .worked found worth fits
          · rw [equals_of_long worth fits]
            exact .long found worth (Nat.not_le.mp fits)

/-- No other response can come of it, so the cases leave nothing open. -/
theorem Responds.eq_respond {keypad : Keypad} {display : Display} {key : KeyPress}
    {response : Response} (responds : keypad.Responds display key response) :
    response = keypad.respond display key := by
  -- Each way to respond names its conditions, and under them the response is the one the code gives.
  cases responds with
  -- Only one label can be the unknown one.
  | unknown isLabel noButton =>
    obtain ⟨label, sameLabel, response⟩ := @respond_of_unknown keypad display key noButton
    rw [isLabel] at sameLabel
    cases sameLabel
    exact response.symm
  | cleared asks | deleted asks =>
    rw [respond_of_button? asks]
    rfl
  | failed asks worth =>
    rw [respond_of_button? asks]
    exact (equals_of_error worth).symm
  | worked asks worth fits =>
    rw [respond_of_button? asks]
    exact (equals_of_fits worth fits).symm
  | long asks worth long =>
    rw [respond_of_button? asks]
    exact (equals_of_long worth (Nat.not_le.mpr long)).symm
  | added types fits => rw [respond_typed types, if_neg (Nat.not_lt.mpr fits)]
  | full types full => rw [respond_typed types, if_pos full]

/-- What a key press can make of a text. -/
inductive Edits (keypad : Keypad) (key : KeyPress) (text : String) : String → Prop where
  /-- The text stays. -/
  | kept : Edits keypad key text text
  /-- The text is emptied. -/
  | cleared : Edits keypad key text ""
  /-- The last character goes, if there is one. -/
  | shortened : Edits keypad key text (String.ofList text.toList.dropLast)
  /-- What the key types is added, since it has room. -/
  | added {typed : String} (types : key.typed? = some typed)
      (fits : text.utf8ByteSize + typed.utf8ByteSize ≤ keypad.capacity) :
      Edits keypad key text (text ++ typed)
  /-- A result takes the place of the text, since it has room. -/
  | worked {result : Float} (fits : (resultText result).utf8ByteSize ≤ keypad.capacity) :
      Edits keypad key text (resultText result)

/-- Whatever the response to a key press, it edits the text in one of these ways. -/
theorem Responds.edits {keypad : Keypad} {display : Display} {key : KeyPress} {response : Response}
    (responds : keypad.Responds display key response) :
    keypad.Edits key display.text response.display.text := by
  -- Only four ways to respond touch the text, and each is one way to edit it.
  cases responds with
  | cleared asks => exact .cleared
  | deleted asks => exact .shortened
  | worked asks worth fits => exact .worked fits
  | added types fits => exact .added types fits
  | unknown | failed | long | full => exact .kept

/-- A run goes on where its first key press leads. -/
theorem displayAfter_cons (keypad : Keypad) (display : Display) (key : KeyPress)
    (keys : List KeyPress) :
    keypad.displayAfter display (key :: keys)
      = keypad.displayAfter (keypad.respond display key).display keys :=
  -- The remaining keys start from what the first one leaves.
  rfl

/-- One run goes on where another one leads. -/
theorem displayAfter_append (keypad : Keypad) (display : Display) (keys others : List KeyPress) :
    keypad.displayAfter display (keys ++ others)
      = keypad.displayAfter (keypad.displayAfter display keys) others :=
  -- The display is handed on from key to key, so the sequence can be cut anywhere.
  List.foldl_append

/-- Whatever each key press of a run keeps holds of the display in the end. -/
theorem displayAfter_induct {Holds : Display → Prop} {keypad : Keypad} {keys : List KeyPress}
    (step : ∀ display, Holds display → ∀ key ∈ keys, Holds (keypad.respond display key).display)
    {display : Display} (start : Holds display) : Holds (keypad.displayAfter display keys) := by
  -- The induction is on the keys, with the display they start from generalised.
  induction keys generalizing display with
  | nil => exact start
  | cons key keys ih =>
    rw [displayAfter_cons]
    -- The remaining keys are among the given ones, so their steps keep the property too.
    refine ih ?_ (step display start key (.head _))
    intro shown holds later member
    exact step shown holds later (.tail _ member)

/-- Whatever every edit keeps holds of the text in the end. -/
theorem text_displayAfter_induct {Holds : String → Prop} {keypad : Keypad} {keys : List KeyPress}
    (step : ∀ text, Holds text → ∀ key ∈ keys, ∀ edited, keypad.Edits key text edited → Holds edited)
    {display : Display} (start : Holds display.text) :
    Holds (keypad.displayAfter display keys).text := by
  -- Every response edits the text in one of the known ways.
  have kept : ∀ shown : Display, Holds shown.text → ∀ key ∈ keys,
      Holds (keypad.respond shown key).display.text := by
    intro shown holds key member
    exact step shown.text holds key member _ (keypad.responds shown key).edits
  exact @displayAfter_induct (fun shown => Holds shown.text) keypad keys kept display start

end Keypad

end PocketCalculator
