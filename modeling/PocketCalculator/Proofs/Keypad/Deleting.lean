import Mathlib.Data.List.DropRight
import PocketCalculator.Proofs.Keypad.Typing

/-! Deleting as many characters as were typed brings back the display from before. -/

namespace PocketCalculator

namespace Button

/-- How many characters a button types. -/
def characters : Button → Nat
  -- What acts on the display types nothing.
  | clear | delete | equals => 0
  | digit value => if value.toNat < 10 then 1 else if value.toNat < 100 then 2 else 3
  | point | opening | closing | operator _ => 1
  -- A parenthesis is always typed behind the name, and a space in front of some.
  | function f => f.name.length + if spaced f then 2 else 1

/-- The number on a digit button has as many characters as it has places. -/
private theorem length_toString_digit {n : Nat} (small : n < 256) :
    (toString n).length = if n < 10 then 1 else if n < 100 then 2 else 3 := by
  -- How many digits there are is known from the powers of ten that are not reached.
  have places : ∀ {k}, 0 < k → ((Nat.toDigits 10 n).length ≤ k ↔ n < 10 ^ k) :=
    Nat.length_toDigits_le_iff (by decide)
  have one := places (k := 1) (by decide)
  have two := places (k := 2) (by decide)
  have three := places (k := 3) (by decide)
  have some : 0 < (Nat.toDigits 10 n).length := List.length_pos_iff.mpr Nat.toDigits_ne_nil
  rw [Nat.toString_eq_ofList_toDigits, String.length_ofList]
  split_ifs <;> omega

/-- This is the length of what it types. -/
theorem length_typed (button : Button) : (button.typed.getD "").length = button.characters := by
  cases button with
  | clear | delete | equals | point | opening | closing => rfl
  | digit value => exact length_toString_digit value.toNat_lt
  | operator op => exact String.length_singleton
  | function f =>
    -- The length of the name itself does not matter.
    show ((if spaced f then " " else "") ++ f.name ++ "(").length
      = f.name.length + if spaced f then 2 else 1
    rw [String.length_append, String.length_append]
    cases spaced f with
    | true =>
      show 1 + f.name.length + 1 = f.name.length + 2
      omega
    | false =>
      show 0 + f.name.length + 1 = f.name.length + 1
      omega

/-- So the characters of a typed text are counted button by button. -/
theorem length_typedText (buttons : List Button) :
    (typedText buttons).length = (buttons.map characters).sum := by
  -- The induction is on the buttons, each of which adds its own characters.
  induction buttons with
  | nil => rfl
  | cons button buttons ih =>
    rw [typedText_cons, String.length_append, length_typed, ih, List.map_cons, List.sum_cons]

end Button

namespace Keypad

section

variable {keypad : Keypad} {display : Display}

/-- The last character and some in front of it are one character more. -/
private theorem rdrop_dropLast (chars : List Char) (count : Nat) :
    chars.dropLast.rdrop count = chars.rdrop (count + 1) := by
  -- Dropping from the end takes the last character first.
  rcases List.eq_nil_or_concat' chars with rfl | ⟨front, last, rfl⟩
  · rw [List.dropLast_nil, List.rdrop_nil, List.rdrop_nil]
  · rw [List.dropLast_concat, List.rdrop_concat_succ]

/-- Deleting is never refused. -/
theorem refusal_deletes (keypad : Keypad) (display : Display) (count : Nat) :
    ∀ response ∈ keypad.responses display (.replicate count (.button .delete)),
      response.refusal = none := by
  -- By induction on the presses, none of which is ever refused.
  induction count generalizing display with
  | zero => exact nofun
  | succ count ih => exact List.forall_mem_cons.mpr ⟨rfl, ih _⟩

/-- Each time the last character goes, as long as there is one. -/
theorem displayAfter_deletes (keypad : Keypad) (display : Display) (count : Nat) :
    keypad.displayAfter display (.replicate count (.button .delete))
      = { display with text := String.ofList (display.text.toList.rdrop count) } := by
  -- Every deletion goes on with the display that the one before it left.
  induction count generalizing display with
  | zero =>
    show display = { display with text := String.ofList (display.text.toList.rdrop 0) }
    rw [List.rdrop_zero, String.ofList_toList]
  | succ count ih =>
    rw [List.replicate_succ, displayAfter_cons, ih]
    show Display.mk (String.ofList ((String.ofList display.text.toList.dropLast).toList.rdrop count))
      display.error = _
    rw [String.toList_ofList, rdrop_dropLast]

/-- Buttons that type and are accepted add their texts, whatever room there was. -/
theorem displayAfter_accepted {buttons : List Button}
    (types : ∀ button ∈ buttons, button ≠ .clear ∧ button ≠ .delete ∧ button ≠ .equals)
    (accepted : ∀ response ∈ keypad.responses display (buttons.map .button),
      response.refusal = none) :
    keypad.displayAfter display (buttons.map .button)
      = { display with text := display.text ++ Button.typedText buttons } := by
  -- A response without a refusal shows that there was room, so the room need not be known.
  induction buttons generalizing display with
  | nil =>
    show display = { display with text := display.text ++ "" }
    rw [String.append_empty]
  | cons button buttons ih =>
    obtain ⟨first, later⟩ := List.forall_mem_cons.mp types
    obtain ⟨typed, found⟩ := exists_typed first
    have typesKey : (KeyPress.button button).typed? = some typed := found
    obtain ⟨had, others⟩ := List.forall_mem_cons.mp accepted
    -- The button was not refused, so its text was added.
    have added : keypad.respond display (.button button)
        = ⟨{ display with text := display.text ++ typed }, none⟩ := by
      rw [respond_typed typesKey] at had ⊢
      split at had
      · cases had
      · rename_i fits
        exact if_neg fits
    rw [added] at others
    rw [List.map_cons, displayAfter_cons, added, ih later others, Button.typedText_cons, found,
      Option.getD_some, String.append_assoc]

end

/--
Deleting undoes typing.

Behind buttons that type and are all accepted, each deletion is accepted and takes the last character.
As many deletions as there were characters typed bring back the text and the error from before, and an
empty text stays.
-/
theorem deleting_undoes_typing (keypad : Keypad) (display : Display) {buttons : List Button}
    (types : ∀ button ∈ buttons, button ≠ .clear ∧ button ≠ .delete ∧ button ≠ .equals)
    (accepted : ∀ response ∈ keypad.responses display (buttons.map .button),
      response.refusal = none) :
    (∀ count,
        (∀ response ∈ keypad.responses (keypad.displayAfter display (buttons.map .button))
            (.replicate count (.button .delete)), response.refusal = none)
          ∧ keypad.displayAfter display
              (buttons.map .button ++ .replicate count (.button .delete))
            = ⟨String.ofList ((display.text ++ Button.typedText buttons).toList.rdrop count),
              display.error⟩)
      ∧ (Button.typedText buttons).length = (buttons.map Button.characters).sum
      ∧ keypad.displayAfter display (buttons.map .button
          ++ .replicate (buttons.map Button.characters).sum (.button .delete)) = display
      ∧ ∀ error, keypad.respond ⟨"", error⟩ (.button .delete) = ⟨⟨"", error⟩, none⟩ := by
  have deleted : ∀ count, keypad.displayAfter display
        (buttons.map .button ++ .replicate count (.button .delete))
      = ⟨String.ofList ((display.text ++ Button.typedText buttons).toList.rdrop count),
        display.error⟩ := by
    intro count
    rw [displayAfter_append, displayAfter_accepted types accepted, displayAfter_deletes]
  refine ⟨fun count => ⟨refusal_deletes _ _ count, deleted count⟩,
    Button.length_typedText buttons, ?_, fun _ => rfl⟩
  -- Whole characters are deleted and whole texts were typed, so the end of the old text is met exactly.
  rw [deleted, ← Button.length_typedText, String.toList_append, ← String.length_toList,
    List.rdrop_append_length, String.ofList_toList]

/-- Behind a quotient without a value a root and a large digit fill the display, and are deleted again. -/
theorem deleting_undoes_typing_full :
    displayAfter ⟨.degrees, 13⟩ ⟨"1/0", some .divisionByZero⟩
          (List.map .button [.operator .add, .function .sqrt, .digit 200])
        = ⟨"1/0+ sqrt(200", some .divisionByZero⟩
      ∧ displayAfter ⟨.degrees, 13⟩ ⟨"1/0", some .divisionByZero⟩
          (List.map .button [.operator .add, .function .sqrt, .digit 200]
            ++ .replicate 10 (.button .delete)) = ⟨"1/0", some .divisionByZero⟩ := by
  -- The text fills the capacity exactly, and ten deletions go back to it with its error.
  obtain ⟨-, -, restored, -⟩ := @deleting_undoes_typing ⟨.degrees, 13⟩
    ⟨"1/0", some .divisionByZero⟩ [.operator .add, .function .sqrt, .digit 200] (by decide)
    (by decide)
  exact ⟨by decide, restored⟩

end Keypad

end PocketCalculator
