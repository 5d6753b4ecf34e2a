import PocketCalculator.Proofs.Keypad.Status
import PocketCalculator.Proofs.NumberText.Characters
import PocketCalculator.Proofs.ReversePolish.Provenance
import PocketCalculator.Proofs.Token.Words

/-! A calculator that is worked by its keys shows no characters but those of an expression. -/

namespace PocketCalculator

/-- What stands on a display beside digits and letters. -/
def shownMarks : List Char :=
  [' ', '.', '(', ')', '+', '-', '*', '/', '%', '^', '!']

/-- A character that a display can show. -/
def IsShown (c : Char) : Prop :=
  c.isAlphanum ∨ c ∈ shownMarks

/-- Whether a character can be shown is decided by looking at it. -/
instance : DecidablePred IsShown := fun c =>
  inferInstanceAs (Decidable (c.isAlphanum = true ∨ c ∈ shownMarks))

namespace IsShown

variable {c : Char}

/-- The shown characters come in three kinds. -/
theorem kinds (shown : IsShown c) : c.isAlpha ∨ c.isDigit ∨ c ∈ shownMarks := by
  -- Letters and digits are told apart, and the rest is marks.
  rcases shown with word | mark
  · exact (Bool.or_eq_true_iff.mp word).imp_right .inl
  · exact .inr (.inr mark)

/-- Digits are shown. -/
theorem of_isDigit (digit : c.isDigit) : IsShown c :=
  -- Digits are among the plain characters.
  .inl (Bool.or_eq_true_iff.mpr (.inr digit))

/-- Results are made of shown characters. -/
theorem of_isResultChar (part : IsResultChar c) : IsShown c := by
  -- Results are written with digits, the point and a few marks, all of which can be shown.
  rcases part with numeral | mark
  · rcases Bool.or_eq_true_iff.mp numeral with digit | point
    · exact of_isDigit digit
    · obtain rfl := of_decide_eq_true point
      decide
  · exact forall_mem_of_all (by decide : resultMarks.all fun d => IsShown d) c mark

/-- No script but the plainest one is shown. -/
theorem toNat_lt (shown : IsShown c) : c.toNat < 128 := by
  -- Each kind ends well below: at the two last letters, at the nine, and at the marks in the list.
  rcases shown.kinds with letter | digit | mark
  · rcases Bool.or_eq_true_iff.mp letter with upper | lower
    · have below : c.val ≤ 'Z'.val := (of_decide_eq_true upper).2
      exact Nat.lt_of_le_of_lt (UInt32.le_iff_toNat_le.mp below) (by decide)
    · have below : c.val ≤ 'z'.val := of_decide_eq_true (Bool.and_eq_true_iff.mp lower).2
      exact Nat.lt_of_le_of_lt (UInt32.le_iff_toNat_le.mp below) (by decide)
  · have below : c.val ≤ '9'.val := of_decide_eq_true (Bool.and_eq_true_iff.mp digit).2
    exact Nat.lt_of_le_of_lt (UInt32.le_iff_toNat_le.mp below) (by decide)
  · exact forall_mem_of_all (by decide : shownMarks.all fun d => d.toNat < 128) c mark

/-- So every shown character takes up one byte. -/
theorem utf8Size_eq_one (shown : IsShown c) : c.utf8Size = 1 :=
  -- All of these characters are ASCII.
  Char.utf8Size_eq_one_iff.mpr (UInt32.le_iff_toNat_le.mpr (Nat.le_of_lt_succ shown.toNat_lt))

/-- The letters among the shown characters are those of the plain alphabet. -/
theorem isLetter_eq_isAlpha (shown : IsShown c) : isLetter c = c.isAlpha := by
  rcases shown.kinds with letter | digit | mark
  · rw [letter, isLetter_of_isAlpha letter]
  · -- A digit is a letter in neither sense, since it belongs to numerals.
    have numeral := Decimal.isNumeral_of_isDigit digit
    cases alphabetic : c.isAlpha with
    | false => exact isLetter_of_isNumeral numeral
    | true =>
      rw [isNumeral_of_isLetter (isLetter_of_isAlpha alphabetic)] at numeral
      cases numeral
  · -- All marks but one stand in front of the letters, so the table is looked at for this one only.
    have low : shownMarks.all fun d => d = '^' ∨ d.toNat < 0x41 ∧ d.isAlpha = false := by decide
    rcases forall_mem_of_all low c mark with rfl | ⟨low, none⟩
    · decide +kernel
    · rw [none, isLetter_of_lt low]

/-- Every shown character has a place in expressions. -/
theorem means (shown : IsShown c) :
    isBlank c ∨ Decimal.isNumeral c ∨ c = '(' ∨ c = ')' ∨ (Operator.ofChar? c).isSome
      ∨ isLetter c := by
  rcases shown.kinds with letter | digit | mark
  · simp only [isLetter_of_isAlpha letter, or_true]
  · exact .inr (.inl (Decimal.isNumeral_of_isDigit digit))
  · -- The table of letters comes last, so that it is not looked at for any mark.
    have placed : shownMarks.all fun d => isBlank d ∨ Decimal.isNumeral d ∨ d = '(' ∨ d = ')'
        ∨ (Operator.ofChar? d).isSome ∨ isLetter d := by
      decide +kernel
    exact forall_mem_of_all placed c mark

end IsShown

/-- All that buttons type can be shown. -/
theorem Button.isShown_of_typed {button : Button} {typed : String}
    (types : button.typed = some typed) : ∀ c ∈ typed.toList, IsShown c := by
  cases button with
  | clear | delete | equals => cases types
  | digit value =>
    -- The number may have up to three digits.
    cases types
    intro c member
    exact .of_isDigit (Decimal.isDigit_of_mem_toString value.toNat c member)
  | point | opening | closing =>
    cases types
    exact forall_mem_of_all (by decide)
  | operator op =>
    cases types
    cases op <;> exact forall_mem_of_all (by decide)
  | function f =>
    cases types
    cases f <;> exact forall_mem_of_all (by decide)

/-- The bytes of a text are those of its last character and of the text without it. -/
theorem utf8ByteSize_dropLast {text : String} {last : Char}
    (ends : text.toList.getLast? = some last) :
    text.utf8ByteSize
      = (String.ofList text.toList.dropLast).utf8ByteSize + last.utf8Size := by
  -- Bytes add up where two texts are put together, so the last character is split off as a text.
  have parts : text = String.ofList text.toList.dropLast ++ String.singleton last := by
    rw [String.singleton_eq_ofList, ← String.ofList_append,
      List.dropLast_append_getLast? last ends, String.ofList_toList]
  conv_lhs => rw [parts, String.utf8ByteSize_append, String.utf8ByteSize_singleton]

namespace Keypad

/-- A text that a calculator can carry on its display. -/
structure Carries (keypad : Keypad) (text : String) : Prop where
  /-- The text has room. -/
  fits : text.utf8ByteSize ≤ keypad.capacity
  /-- All characters of the text can be shown. -/
  shown : ∀ c ∈ text.toList, IsShown c

section

variable {keypad : Keypad} {key : KeyPress} {text edited : String}

/-- However a key edits the text, it remains one that can be carried. -/
theorem Edits.carries (edits : keypad.Edits key text edited) (carried : keypad.Carries text) :
    keypad.Carries edited := by
  -- Room is checked wherever the text grows, and characters come from keys and results only.
  cases edits with
  | kept => exact carried
  | cleared => exact ⟨Nat.zero_le _, nofun⟩
  | shortened =>
    -- The last character takes its bytes away and leaves the others as they are.
    constructor
    · cases ends : text.toList.getLast? with
      | none =>
        rw [List.getLast?_eq_none_iff.mp ends]
        exact Nat.zero_le _
      | some last =>
        have bytes := utf8ByteSize_dropLast ends
        have room := carried.fits
        omega
    · rw [String.toList_ofList]
      intro c member
      exact carried.shown c ((List.dropLast_prefix _).subset member)
  | added types fits =>
    -- Where a text is added, its characters are those that buttons type.
    obtain ⟨button, -, types⟩ := Option.bind_eq_some_iff.mp types
    constructor
    · rwa [String.utf8ByteSize_append]
    · rw [String.toList_append, List.forall_mem_append]
      exact ⟨carried.shown, Button.isShown_of_typed types⟩
  | worked fits =>
    -- A result has replaced the text, and it was tested for room.
    constructor
    · exact fits
    · intro c member
      exact .of_isResultChar (isResultChar_resultText _ c member)

/-- Every run from the blank display ends with such a text. -/
theorem carries_displayAfter (keypad : Keypad) (keys : List KeyPress) :
    keypad.Carries (keypad.displayAfter Display.blank keys).text := by
  -- The text begins empty and within the capacity, and every edit keeps it so.
  refine text_displayAfter_induct ?_ ⟨Nat.zero_le _, nofun⟩
  intro text carried key _ edited edits
  exact edits.carries carried

namespace Carries

variable (carried : keypad.Carries text)
include carried

/-- One byte is given back with the last character. -/
theorem utf8ByteSize_dropLast (nonempty : text ≠ "") :
    (String.ofList text.toList.dropLast).utf8ByteSize + 1 = text.utf8ByteSize := by
  -- The last character takes one byte, as every character shown does.
  have some : text.toList ≠ [] := mt String.toList_eq_nil_iff.mp nonempty
  have ends := List.getLast?_eq_some_getLast some
  have shown := carried.shown _ (List.getLast_mem some)
  rw [PocketCalculator.utf8ByteSize_dropLast ends, shown.utf8Size_eq_one]

/-- Nothing that is carried is unknown when it is read. -/
theorem unknown_not_mem {tokens : List Token} (read : Token.ofText text = .ok tokens) (c : Char) :
    .unknown c ∉ tokens := by
  intro member
  -- An unknown character would have no place in expressions, but every shown one has.
  obtain ⟨within, ⟨blank, letter, numeral⟩, opens, closes, noOperator⟩ :=
    Token.of_unknown read member
  have means := (carried.shown c within).means
  simp [blank, letter, numeral, opens, closes, noOperator] at means

/-- What is found unknown in such a text is a name among its tokens that is not one of a function. -/
theorem name_mem_of_unknownToken {quoted : String}
    (worth : evaluate keypad.unit text = .error (.unknownToken quoted)) :
    ∃ tokens, Token.ofText text = .ok tokens ∧ .name quoted ∈ tokens
      ∧ MathFunction.ofName? quoted = none := by
  cases read : Token.ofText text with
  | error error =>
    rw [evaluate_of_ofText_error read] at worth
    cases worth
  | ok tokens =>
    -- One of the tokens is to blame, and it can only be a name.
    rw [evaluate_of_ofText read] at worth
    obtain malformed | ⟨token, member, raises⟩ := canRaise_of_evaluateTokens worth
    · cases malformed
    · cases token with
      | name name =>
        obtain ⟨rfl, noFunction⟩ := raises
        exact ⟨tokens, rfl, member, noFunction⟩
      | unknown c => exact absurd member (carried.unknown_not_mem read c)
      | number | operator | opening | closing => cases raises

/-- What an attempt finds unknown is a whole word that names no function. -/
theorem of_failure_unknownToken {quoted : String}
    (failed : keypad.failure text = some (.unknownToken quoted)) :
    IsRunOf Char.isAlpha quoted.toList text.toList ∧ ∀ f : MathFunction, quoted ≠ f.name := by
  -- The failure of the key = is that of the evaluation, for room is a different error.
  have worth : evaluate keypad.unit text = .error (.unknownToken quoted) := by
    unfold failure at failed
    split at failed
    · rename_i error worth
      rw [worth, Option.some.inj failed]
    · split at failed <;> cases failed
  obtain ⟨tokens, read, member, noFunction⟩ := carried.name_mem_of_unknownToken worth
  -- The name is a run of letters in the text, and there only ASCII letters are letters.
  refine ⟨(Token.isRunOf_of_name read member).congr ?_, ?_⟩
  · intro c within
    exact (carried.shown c within).isLetter_eq_isAlpha
  · -- The name of a function would not have been refused.
    intro f same
    rw [MathFunction.ofName?_eq_some_iff.mpr same] at noFunction
    cases noFunction

/-- A label of another script is no part of what is carried. -/
theorem lacks_label {label : String} (foreign : ∃ c ∈ label.toList, 128 ≤ c.toNat) :
    ¬label.toList <:+: text.toList := by
  -- Such a label has a character outside of ASCII, and the text has none.
  intro part
  obtain ⟨c, member, high⟩ := foreign
  exact absurd (carried.shown c (part.subset member)).toNat_lt (Nat.not_lt.mpr high)

end Carries

end

/--
Whatever keys are pressed, the text has room and is made of shown characters.

So deleting gives back one byte, no character is unknown when the text is read, an unknown token is a
whole word that names no function, and no label of another script is ever part of the text.
-/
theorem text_of_displayAfter_blank {keypad : Keypad} {keys : List KeyPress} {display : Display}
    (reached : keypad.displayAfter Display.blank keys = display) :
    display.text.utf8ByteSize ≤ keypad.capacity
      ∧ (∀ c ∈ display.text.toList, IsShown c)
      ∧ (∀ key, key.button? = some .delete → display.text ≠ "" →
        (keypad.respond display key).display.text.utf8ByteSize + 1 = display.text.utf8ByteSize)
      ∧ (∀ tokens, Token.ofText display.text = .ok tokens → ∀ c, .unknown c ∉ tokens)
      ∧ (∀ key quoted, key.button? = some .equals →
        (keypad.respond display key).display.error = some (.unknownToken quoted) →
        IsRunOf Char.isAlpha quoted.toList display.text.toList
          ∧ ∀ f : MathFunction, quoted ≠ f.name)
      ∧ ∀ label : String, (∃ c ∈ label.toList, 128 ≤ c.toNat) →
        ¬label.toList <:+: display.text.toList := by
  -- All six parts follow from what every reachable text carries.
  have carried : keypad.Carries display.text := by
    rw [← reached]
    exact keypad.carries_displayAfter keys
  refine ⟨carried.fits, carried.shown, ?_, ?_, ?_, ?_⟩
  · intro key asks nonempty
    rw [respond_of_button? asks]
    exact carried.utf8ByteSize_dropLast nonempty
  · intro tokens read
    exact carried.unknown_not_mem read
  · intro key quoted asks stored
    rw [error_of_equals asks] at stored
    exact carried.of_failure_unknownToken stored
  · intro label foreign
    exact carried.lacks_label foreign

/-- The first letters of a root remain when its button is pressed and the rest deleted. -/
theorem text_of_displayAfter_blank_root :
    displayAfter ⟨.degrees, 8⟩ Display.blank [.label "√", .label "DEL", .label "DEL"]
        = ⟨" sqr", none⟩
      ∧ (respond ⟨.degrees, 8⟩ ⟨" sqr", none⟩ (.label "DEL")).display.text.utf8ByteSize + 1 = 4
      ∧ (respond ⟨.degrees, 8⟩ ⟨" sqr", none⟩ (.label "=")).display.error
        = some (.unknownToken "sqr")
      ∧ IsRunOf Char.isAlpha "sqr".toList " sqr".toList
      ∧ ¬"sin⁻¹".toList <:+: " sqr".toList := by
  -- Two deletions leave half of a name behind.
  have reached : displayAfter ⟨.degrees, 8⟩ Display.blank [.label "√", .label "DEL", .label "DEL"]
      = ⟨" sqr", none⟩ := by
    decide +kernel
  have stored : (respond ⟨.degrees, 8⟩ ⟨" sqr", none⟩ (.label "=")).display.error
      = some (.unknownToken "sqr") := by
    decide +kernel
  obtain ⟨-, -, deletes, -, quotes, labels⟩ := text_of_displayAfter_blank reached
  refine ⟨reached, ?_, stored, ?_, ?_⟩
  · exact deletes (.label "DEL") (by decide +kernel) (by decide)
  · exact (quotes (.label "=") "sqr" (by decide +kernel) stored).1
  · exact labels "sin⁻¹" ⟨'⁻', by decide, by decide⟩

end Keypad

end PocketCalculator
