import PocketCalculator.Proofs.Keypad.Characters
import PocketCalculator.Proofs.Token.Seams

/-! What is typed is what stands on the display, and its names are those of the buttons pressed. -/

namespace PocketCalculator

namespace Button

/-- The text that buttons type one after another. -/
def typedText (buttons : List Button) : String :=
  String.join (buttons.filterMap typed)

/-- The function whose button it is, if it is one. -/
def function? : Button → Option MathFunction
  | function f => some f
  | _ => none

/-- The first button types the front of the text. -/
theorem typedText_cons (button : Button) (buttons : List Button) :
    typedText (button :: buttons) = button.typed.getD "" ++ typedText buttons := by
  -- A button that types nothing adds nothing.
  unfold typedText
  cases types : button.typed with
  | none => simp [types]
  | some typed => simp [types]

/-- Only the buttons of functions type letters. -/
theorem isLetter_of_function?_eq_none {button : Button} (other : button.function? = none) :
    ∀ c ∈ (button.typed.getD "").toList, isLetter c = false := by
  -- Digits, points, parentheses and operators are no letters; what acts types nothing.
  cases button with
  | clear | delete | equals => exact nofun
  | digit value =>
    intro c member
    have digit := Decimal.isDigit_of_mem_toString value.toNat c member
    exact isLetter_of_isNumeral (Decimal.isNumeral_of_isDigit digit)
  | point | opening | closing =>
    intro c member
    obtain rfl := List.mem_singleton.mp member
    exact isLetter_of_lt (by decide)
  | operator op =>
    intro c member
    obtain rfl : c = op.symbol := by simpa [typed] using member
    exact (isSymbol_apart (.inr ⟨op, rfl⟩)).2.1
  | function f => cases other

/-- The button of a function types its name and a parenthesis, perhaps behind a space. -/
theorem toList_typed_function {button : Button} {f : MathFunction}
    (found : button.function? = some f) :
    ∃ spacing : List Char, (∀ c ∈ spacing, isBlank c)
      ∧ (button.typed.getD "").toList = spacing ++ f.name.toList ++ ['('] := by
  -- A function types its name and a parenthesis, some of them behind a space.
  cases button with
  | function g =>
    obtain rfl : g = f := Option.some.inj found
    refine ⟨(if spaced g then " " else "").toList, ?_, ?_⟩
    · cases spaced g with
      | true => exact List.forall_mem_singleton.mpr (by decide)
      | false => exact nofun
    · simp [typed]
  | _ => cases found

end Button

/-- The names of functions are made of letters. -/
theorem MathFunction.isLetter_of_mem_name (f : MathFunction) : ∀ c ∈ f.name.toList, isLetter c := by
  intro c member
  -- The names consist of plain letters.
  have plain : f.name.toList.all fun d => d.isAlpha := by
    cases f <;> decide
  exact isLetter_of_isAlpha (List.all_eq_true.mp plain c member)

/-- No function goes without a name. -/
theorem MathFunction.toList_name_ne_nil (f : MathFunction) : f.name.toList ≠ [] := by
  -- Each of the names has letters.
  cases f <;> decide

namespace Token

/-- The names among some tokens, each with the token directly behind it. -/
def namesWithNext : List Token → List (String × Option Token)
  | [] => []
  | name text :: rest => (text, rest.head?) :: namesWithNext rest
  -- No other token is a name, but it may be the one behind a name.
  | _ :: rest => namesWithNext rest

/-- Tokens without a name in front do not count. -/
theorem namesWithNext_append {front : List Token} (nameless : ∀ text, name text ∉ front)
    (rest : List Token) : namesWithNext (front ++ rest) = namesWithNext rest := by
  -- The induction skips the tokens of the front, none of which is a name.
  induction front with
  | nil => rfl
  | cons token front ih =>
    have later := ih fun text member => nameless text (.tail _ member)
    cases token with
    | name text => exact absurd (.head _) (nameless text)
    | _ => exact later

/-- Every name is among the names. -/
theorem mem_namesWithNext {tokens : List Token} {text : String} (member : name text ∈ tokens) :
    text ∈ (namesWithNext tokens).map Prod.fst := by
  -- The induction is on the tokens: the name is the first of them or among the others.
  induction tokens with
  | nil => cases member
  | cons token tokens ih =>
    rcases List.mem_cons.mp member with rfl | later
    · exact .head _
    · cases token with
      | name first => exact .tail _ (ih later)
      | _ => exact ih later

/-- A text without letters has no names. -/
private theorem name_not_mem_filterMap {chars : List Char} (letterless : ∀ c ∈ chars, isLetter c = false)
    (previous : Option Char) (text : String) :
    name text ∉ (Lexeme.ofCharsAfter previous chars).filterMap Lexeme.token? := by
  intro member
  obtain ⟨lexeme, found, made⟩ := List.mem_filterMap.mp member
  cases lexeme with
  | literal run =>
    obtain ⟨x, -, same⟩ := Option.map_eq_some_iff.mp made
    cases same
  | name run =>
    -- The letters of a name would stand in the text.
    have lies : IsRunOf isLetter run chars := Lexeme.liesIn_of_mem [] (.inl nofun) _ found
    have part := lies.isInfix
    obtain ⟨nonempty, letters, -⟩ := lies
    obtain ⟨c, run, rfl⟩ := List.exists_cons_of_ne_nil nonempty
    have noLetter := letterless c (part.subset (.head _))
    rw [letters c (.head _)] at noLetter
    cases noLetter
  | symbol c => exact absurd (Option.some.inj made) (ofSymbol_ne_name c text)

/-- A function's name and the parenthesis behind it are pieces of their own, whatever is around them. -/
private theorem ofCharsAfter_function {front : List Char}
    (letterless : ∀ c ∈ front, isLetter c = false) (previous : Option Char) (f : MathFunction)
    (rest : List Char) :
    Lexeme.ofCharsAfter previous (front ++ (f.name.toList ++ '(' :: rest))
      = Lexeme.ofCharsAfter previous front
        ++ .name f.name.toList :: .symbol '(' :: Lexeme.ofCharsAfter (some '(') rest := by
  have letters := f.isLetter_of_mem_name
  obtain ⟨solid, letter, numeral⟩ := isSymbol_apart (.inl rfl)
  -- There is no letter in front of the name, which begins with one.
  have apart : Lexeme.Apart front (f.name.toList ++ '(' :: rest) := by
    intro a last b first joins
    obtain ⟨c, run, spelled⟩ := List.exists_cons_of_ne_nil f.toList_name_ne_nil
    rw [spelled] at first letters
    obtain rfl : c = b := Option.some.inj first
    have noLetter := letterless a (List.mem_of_mem_getLast? last)
    have noNumeral := isNumeral_of_isLetter (letters c (.head _))
    simp [Lexeme.Joins, noLetter, noNumeral] at joins
  have stop : ∀ c ∈ ('(' :: rest).head?, isLetter c = false := by
    rintro c ⟨⟩
    exact letter
  rw [Lexeme.ofCharsAfter_append previous apart,
    Lexeme.ofCharsAfter_letters f.toList_name_ne_nil letters stop,
    Lexeme.ofCharsAfter_symbol solid letter numeral (by decide)]

/-- The names in a typed text are those of the buttons pressed, each with its parenthesis behind it. -/
theorem namesWithNext_typedText (buttons : List Button) {front : List Char}
    (letterless : ∀ c ∈ front, isLetter c = false) (previous : Option Char) :
    namesWithNext ((Lexeme.ofCharsAfter previous
        (front ++ (Button.typedText buttons).toList)).filterMap Lexeme.token?)
      = (buttons.filterMap Button.function?).map fun f => (f.name, some opening) := by
  -- What the other buttons type goes to the front, until a name ends it.
  induction buttons generalizing front previous with
  | nil =>
    -- Nothing more is typed, and the front holds no name.
    have whole : front ++ (Button.typedText []).toList = front := List.append_nil front
    have nameless := name_not_mem_filterMap letterless previous
    rw [whole, ← List.append_nil (List.filterMap _ _), namesWithNext_append nameless]
    rfl
  | cons button buttons ih =>
    rw [Button.typedText_cons, String.toList_append, ← List.append_assoc]
    cases found : button.function? with
    | none =>
      -- This button types no letter, so all it types is added to the front.
      have others := Button.isLetter_of_function?_eq_none found
      rw [ih (List.forall_mem_append.mpr ⟨letterless, others⟩), List.filterMap_cons_none found]
    | some f =>
      obtain ⟨spacing, spaces, typed⟩ := Button.toList_typed_function found
      -- Blanks in front of the name are no letters either, so the name begins a run of its own.
      have clear : ∀ c ∈ front ++ spacing, isLetter c = false :=
        List.forall_mem_append.mpr ⟨letterless, fun c member => isLetter_of_isBlank (spaces c member)⟩
      have nameless := name_not_mem_filterMap clear previous
      have split : front ++ (button.typed.getD "").toList ++ (Button.typedText buttons).toList
          = front ++ spacing ++ (f.name.toList ++ '(' :: (Button.typedText buttons).toList) := by
        simp [typed]
      have called : (Lexeme.name f.name.toList).token? = some (name f.name) :=
        congrArg (some <| name ·) String.ofList_toList
      have bracket : (Lexeme.symbol '(').token? = some opening := rfl
      rw [split, ofCharsAfter_function clear, List.filterMap_append, namesWithNext_append nameless,
        List.filterMap_cons_some called, List.filterMap_cons_some bracket,
        List.filterMap_cons_some found, List.map_cons, ← @ih [] nofun (some '(')]
      rfl

/-- So the names that are read from a typed text are those of the buttons pressed. -/
theorem namesWithNext_of_ofText {buttons : List Button} {tokens : List Token}
    (read : ofText (Button.typedText buttons) = .ok tokens) :
    namesWithNext tokens
      = (buttons.filterMap Button.function?).map fun f => (f.name, some opening) := by
  -- The tokens are those of the scan, and the scan of typed text was followed button by button.
  rw [eq_filterMap_of_ofText read]
  exact @namesWithNext_typedText buttons [] nofun none

end Token

namespace Keypad

/-- Buttons that type, and for which there is room, are all accepted and spell out their text. -/
theorem displayAfter_typing {keypad : Keypad} {buttons : List Button}
    (types : ∀ button ∈ buttons, button ≠ .clear ∧ button ≠ .delete ∧ button ≠ .equals)
    {display : Display}
    (fits : display.text.utf8ByteSize + (Button.typedText buttons).utf8ByteSize ≤ keypad.capacity) :
    (∀ response ∈ keypad.responses display (buttons.map .button), response.refusal = none)
      ∧ keypad.displayAfter display (buttons.map .button)
        = { display with text := display.text ++ Button.typedText buttons } := by
  -- The induction is on the buttons; each one adds its own text, and the room left is enough for
  -- the rest.
  induction buttons generalizing display with
  | nil =>
    refine ⟨nofun, ?_⟩
    show display = { display with text := display.text ++ "" }
    rw [String.append_empty]
  | cons button buttons ih =>
    obtain ⟨first, later⟩ := List.forall_mem_cons.mp types
    obtain ⟨typed, found⟩ := exists_typed first
    have typesKey : (KeyPress.button button).typed? = some typed := found
    rw [Button.typedText_cons, found, Option.getD_some, String.utf8ByteSize_append] at fits
    -- There is room for the text of this button.
    have added : keypad.respond display (.button button)
        = ⟨{ display with text := display.text ++ typed }, none⟩ := by
      rw [respond_typed typesKey, if_neg (by omega)]
    -- There is room for the others behind it.
    have room : (display.text ++ typed).utf8ByteSize + (Button.typedText buttons).utf8ByteSize
        ≤ keypad.capacity := by
      rw [String.utf8ByteSize_append]
      omega
    obtain ⟨accepted, reached⟩ := @ih later { display with text := display.text ++ typed } room
    rw [List.map_cons, responses, displayAfter_cons, added, reached, Button.typedText_cons, found,
      Option.getD_some, String.append_assoc]
    exact ⟨List.forall_mem_cons.mpr ⟨rfl, accepted⟩, rfl⟩

/-- No name in a typed text is unknown, since it is that of a function. -/
theorem evaluate_typedText_ne_unknownToken {keypad : Keypad} {buttons : List Button}
    (carried : keypad.Carries (Button.typedText buttons)) (quoted : String) :
    evaluate keypad.unit (Button.typedText buttons) ≠ .error (.unknownToken quoted) := by
  -- An unknown name would be the name of a button's function, and those are all known.
  intro failed
  obtain ⟨tokens, read, member, noFunction⟩ := carried.name_mem_of_unknownToken failed
  have listed := Token.mem_namesWithNext member
  rw [Token.namesWithNext_of_ofText read, List.map_map] at listed
  obtain ⟨f, -, named⟩ := List.mem_map.mp listed
  obtain rfl : f.name = quoted := named
  rw [MathFunction.ofName?_name] at noFunction
  cases noFunction

/--
What is typed is what is evaluated.

Buttons that type are accepted as long as there is room, and their texts stand on the display.
No character of this text is unknown when it is read, and its names are those of the buttons of
functions in their order, each with a parenthesis directly behind it.
An attempt shows the value of the text if it has room, and keeps the reason otherwise, which is never a
token that is unknown.
-/
theorem typed_is_evaluated (keypad : Keypad) {buttons : List Button}
    (types : ∀ button ∈ buttons, button ≠ .clear ∧ button ≠ .delete ∧ button ≠ .equals)
    (fits : (Button.typedText buttons).utf8ByteSize ≤ keypad.capacity) :
    (∀ response ∈ keypad.responses Display.blank (buttons.map .button), response.refusal = none)
      ∧ keypad.displayAfter Display.blank (buttons.map .button)
        = ⟨Button.typedText buttons, none⟩
      ∧ (∀ tokens, Token.ofText (Button.typedText buttons) = .ok tokens →
        (∀ c, .unknown c ∉ tokens)
          ∧ Token.namesWithNext tokens
            = (buttons.filterMap Button.function?).map fun f => (f.name, some .opening))
      ∧ ∀ key, key.button? = some .equals →
        (∀ result, evaluate keypad.unit (Button.typedText buttons) = .ok result →
          ((resultText result).utf8ByteSize ≤ keypad.capacity →
              keypad.respond (keypad.displayAfter Display.blank (buttons.map .button)) key
                = ⟨⟨resultText result, none⟩, none⟩)
            ∧ (keypad.capacity < (resultText result).utf8ByteSize →
              keypad.respond (keypad.displayAfter Display.blank (buttons.map .button)) key
                = ⟨⟨Button.typedText buttons, some .inputFull⟩, some .inputFull⟩))
          ∧ ∀ error, evaluate keypad.unit (Button.typedText buttons) = .error error →
            keypad.respond (keypad.displayAfter Display.blank (buttons.map .button)) key
                = ⟨⟨Button.typedText buttons, some error⟩, none⟩
              ∧ ∀ quoted, error ≠ .unknownToken quoted := by
  -- The text starts empty, so the condition on its size is one on what is typed.
  have room : Display.blank.text.utf8ByteSize + (Button.typedText buttons).utf8ByteSize
      ≤ keypad.capacity := by
    rwa [show Display.blank.text.utf8ByteSize = 0 from rfl, Nat.zero_add]
  obtain ⟨accepted, reached⟩ := displayAfter_typing types room
  have shown : keypad.displayAfter Display.blank (buttons.map .button)
      = ⟨Button.typedText buttons, none⟩ := by
    rw [reached]
    exact congrArg (Display.mk · none) String.empty_append
  -- The text is one that buttons can leave, so all that is known of those applies.
  have carried := keypad.carries_displayAfter (buttons.map .button)
  rw [shown] at carried
  refine ⟨accepted, shown, ?_, ?_⟩
  · intro tokens read
    exact ⟨carried.unknown_not_mem read, Token.namesWithNext_of_ofText read⟩
  · -- The evaluation of the text decides which way the key = responds.
    intro key asks
    rw [shown, respond_of_button? asks]
    refine ⟨?_, ?_⟩
    · intro result worth
      exact ⟨equals_of_fits worth, fun long => equals_of_long worth (Nat.not_le.mpr long)⟩
    · intro error worth
      refine ⟨equals_of_error worth, ?_⟩
      rintro quoted rfl
      exact evaluate_typedText_ne_unknownToken carried quoted worth

/-- A root behind a digit of three places, a third on a short display, and a lonely logarithm. -/
theorem typed_is_evaluated_root :
    displayAfter ⟨.degrees, 20⟩ Display.blank (List.map .button
        [.digit 200, .operator .divide, .function .sqrt, .digit 1, .digit 6, .closing])
        = ⟨"200/ sqrt(16)", none⟩
      ∧ Token.namesWithNext [.number 200, .operator .divide, .name "sqrt", .opening, .number 16,
        .closing] = [("sqrt", some .opening)]
      ∧ respond ⟨.degrees, 20⟩ ⟨"200/ sqrt(16)", none⟩ (.label "=") = ⟨⟨"50", none⟩, none⟩
      ∧ respond ⟨.degrees, 4⟩ (displayAfter ⟨.degrees, 4⟩ Display.blank (List.map .button
          [.digit 1, .operator .divide, .digit 3])) (.label "=")
        = ⟨⟨"1/3", some .inputFull⟩, some .inputFull⟩
      ∧ respond ⟨.radians, 8⟩ (displayAfter ⟨.radians, 8⟩ Display.blank (List.map .button
          [.function .ln])) (.label "=")
        = ⟨⟨"ln(", some .malformed⟩, none⟩ := by
  -- A root behind a quotient, a third without room for its digits, and an unfinished logarithm.
  obtain ⟨-, root, names, rootValue⟩ := typed_is_evaluated ⟨.degrees, 20⟩
    (show ∀ button ∈ [Button.digit 200, .operator .divide, .function .sqrt, .digit 1, .digit 6,
      .closing], button ≠ .clear ∧ button ≠ .delete ∧ button ≠ .equals by decide) (by decide)
  obtain ⟨-, -, -, third⟩ := typed_is_evaluated ⟨.degrees, 4⟩
    (show ∀ button ∈ [Button.digit 1, .operator .divide, .digit 3],
      button ≠ .clear ∧ button ≠ .delete ∧ button ≠ .equals by decide) (by decide)
  obtain ⟨-, -, -, logarithm⟩ := typed_is_evaluated ⟨.radians, 8⟩
    (show ∀ button ∈ [Button.function .ln],
      button ≠ .clear ∧ button ≠ .delete ∧ button ≠ .equals by decide) (by decide)
  have asks : (KeyPress.label "=").button? = some .equals := by decide +kernel
  refine ⟨root, ?_, ?_, ?_, ?_⟩
  · exact (names _ (by decide +kernel)).2
  · have value := ((rootValue _ asks).1 50 (by decide +kernel)).1 (by decide +kernel)
    have text : resultText 50 = "50" := by decide +kernel
    rwa [root, text] at value
  · exact ((third _ asks).1 (1 / 3) (by decide +kernel)).2 (by decide +kernel)
  · exact ((logarithm _ asks).2 .malformed (by decide +kernel)).1

end Keypad

end PocketCalculator
