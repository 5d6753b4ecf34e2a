import PocketCalculator.Proofs.Token.Placing

/-! Printed tokens are read as the same tokens, and these are all the tokens that are ever read. -/

namespace PocketCalculator

namespace Token

/-- What follows a token does not continue it. -/
def Ends (token : Token) (rest : List Char) : Prop :=
  match token with
  | number _ => ∀ c ∈ rest.head?, Decimal.isNumeral c = false
  | name _ => ∀ c ∈ rest.head?, isLetter c = false
  -- Only runs can go on.
  | _ => True

/-- A character that stands for itself alone. -/
def Single (c : Char) : Prop :=
  isBlank c = false ∧ isLetter c = false ∧ Decimal.isNumeral c = false

section

variable {previous : Option Token} {token : Token}

private theorem single_closing : Single ')' :=
  -- A parenthesis is none of the characters that come in runs.
  ⟨by decide, isLetter_of_lt (by decide), by decide⟩

private theorem toList_char (c : Char) : c.toString.toList = [c] := by
  -- A text of one character has that one.
  simp

/-- Only the parentheses and the symbols of the operators have a meaning of their own. -/
theorem ofSymbol_eq_unknown_iff {c : Char} :
    ofSymbol c = unknown c ↔ c ∉ ['(', ')', '+', '-', '*', '/', '%', '^', '!'] := by
  constructor
  · -- Each character of the list is a token other than an unknown one.
    intro unknown listed
    simp only [List.mem_cons, List.not_mem_nil, or_false] at listed
    rcases listed with rfl | rfl | rfl | rfl | rfl | rfl | rfl | rfl | rfl <;> cases unknown
  · intro unlisted
    simp only [List.mem_cons, List.not_mem_nil, or_false, not_or] at unlisted
    have other : ∀ op : Operator, c ≠ op.symbol := by
      intro op written
      cases op <;> simp [written, Operator.symbol] at unlisted
    rw [ofSymbol, if_neg unlisted.1, if_neg unlisted.2.1, Operator.ofChar?_eq_none_iff.mpr other]

/-- The text of a token is a spelled number, a run of letters or a single character. -/
theorem text_cases (readable : isReadable previous token) :
    (∃ x, token = number x ∧ Spells token.text.toList x ∧ (isSigned x → operandDue previous))
      ∨ (∃ run, token = name (String.ofList run) ∧ token.text.toList = run ∧ run ≠ []
        ∧ ∀ c ∈ run, isLetter c)
      ∨ ∃ c, token = ofSymbol c ∧ token.text.toList = [c] ∧ Single c := by
  -- A number is spelled by its positional text, a name by its letters, and each other token by a
  -- character of its own.
  cases token with
  | number value =>
    -- The sign is written in front, so an operand has to be due.
    obtain ⟨finite, sign⟩ := Bool.and_eq_true_iff.mp readable
    rw [expectsOperand_eq] at sign
    have spells : Spells (literalText value).toList value := by
      unfold literalText
      rw [String.toList_ofList]
      exact spells_positional finite
    refine .inl ⟨value, rfl, spells, ?_⟩
    intro signed
    simpa [signed] using sign
  | name text =>
    -- The name consists of letters, and there is at least one.
    obtain ⟨nonempty, letters⟩ := Bool.and_eq_true_iff.mp readable
    refine .inr (.inl ⟨text.toList, ?_, rfl, ?_, List.all_eq_true.mp letters⟩)
    · rw [String.ofList_toList]
    · simpa using nonempty
  | operator op =>
    -- The symbol of an operator stands for that operator.
    refine .inr (.inr ⟨op.symbol, ?_, toList_char _, isSymbol_apart (.inr ⟨op, rfl⟩)⟩)
    cases op <;> rfl
  | opening => exact .inr (.inr ⟨'(', rfl, rfl, isSymbol_apart (.inl rfl)⟩)
  | closing => exact .inr (.inr ⟨')', rfl, rfl, single_closing⟩)
  | unknown c =>
    -- What is kept as unknown means nothing and joins nothing.
    obtain ⟨others, meaningless⟩ := Bool.and_eq_true_iff.mp readable
    refine .inr (.inr ⟨c, ?_, toList_char c, ?_⟩)
    · exact (ofSymbol_eq_unknown_iff.mpr (of_decide_eq_true meaningless)).symm
    · simpa [Single, and_assoc] using others

/-- The text of a token is read as that token in every place that can have it. -/
theorem ofCharsAfter_text {rest : List Char} (readable : isReadable previous token)
    (ends : Ends token rest) (minus : token = operator .subtract → operandDue previous = false) :
    ofCharsAfter previous (token.text.toList ++ rest)
      = (ofCharsAfter (some token) rest).map (token :: ·) := by
  obtain ⟨x, rfl, spells, allowed⟩ | ⟨run, rfl, text, nonempty, letters⟩
    -- A number ends where its numerals do, a name where its letters do, and a symbol at once.
    | ⟨c, symbol, text, solid, letter, numeral⟩ := text_cases readable
  · exact ofCharsAfter_spelled spells allowed ends
  · rw [text]
    exact ofCharsAfter_letters nonempty letters ends
  · have sign : c = '-' → operandDue previous = false := by
      rintro rfl
      exact minus symbol
    rw [text, symbol]
    exact ofCharsAfter_symbol solid letter numeral sign

/-- A subtraction is set off exactly where an operand is due. -/
theorem spaceBefore_subtract (previous : Option Token) :
    spaceBefore previous (operator .subtract) = operandDue previous := by
  -- The minus is set apart exactly where it would be read as a sign.
  rw [← expectsOperand_eq]
  rcases previous with _ | last
  · -- At the beginning of a text.
    rfl
  · -- Behind any other token.
    cases last <;> rfl

/-- A space is only set where the token behind it has no sign. -/
theorem isReadable_behind_space (readable : isReadable previous token)
    (space : spaceBefore previous token) : isReadable (some closing) token := by
  cases token with
  | number value =>
    -- Of all tokens only another number is kept apart from a number.
    have noOperand : operandDue previous = false := by
      rcases previous with _ | last
      · exact absurd space (by simp [spaceBefore])
      · cases last <;> first | rfl | exact absurd space (by simp [spaceBefore])
    unfold isReadable at readable ⊢
    rw [expectsOperand_eq, noOperand] at readable
    exact readable
  | name text => exact readable
  | operator op => rfl
  | opening => rfl
  | closing => rfl
  | unknown c => exact readable

private theorem isLetter_head_of_spells {text : List Char} {x : Float} (spells : Spells text x)
    (rest : List Char) : ∀ c ∈ (text ++ rest).head?, isLetter c = false := by
  -- A literal begins with a numeral or a minus.
  obtain ⟨c, run, rfl, -, start, -⟩ := spells
  intro d head
  obtain rfl : c = d := by simpa using head
  rcases start with numeral | ⟨rfl, -⟩
  · exact isLetter_of_isNumeral numeral
  · exact isLetter_of_lt (by decide)

private theorem isNumeral_head_of_letters {run : List Char} (nonempty : run ≠ [])
    (letters : ∀ c ∈ run, isLetter c) (rest : List Char) :
    ∀ c ∈ (run ++ rest).head?, Decimal.isNumeral c = false := by
  -- The first letter is no numeral.
  obtain ⟨c, run, rfl⟩ := List.exists_cons_of_ne_nil nonempty
  intro d head
  obtain rfl : c = d := by simpa using head
  exact isNumeral_of_isLetter (letters c (.head _))

/-- A token that needs no space does not continue the one before it. -/
theorem ends_text {next : Token} (readable : isReadable (some token) next)
    (close : spaceBefore (some token) next = false) (rest : List Char) :
    Ends token (next.text.toList ++ rest) := by
  -- Without a space no two numbers and no two names follow each other, and tokens of different
  -- kinds end each other.
  obtain ⟨x, rfl, spells, -⟩ | ⟨run, rfl, text, nonempty, letters⟩
    | ⟨c, -, text, solid, letter, numeral⟩ := text_cases readable
  · -- A number may follow everything but a number.
    cases token with
    | number value => exact absurd close (by simp [spaceBefore])
    | name name => exact isLetter_head_of_spells spells rest
    | _ => trivial
  · -- A name may follow everything but a name.
    rw [text]
    cases token with
    | number value => exact isNumeral_head_of_letters nonempty letters rest
    | name name => exact absurd close (by simp [spaceBefore])
    | _ => trivial
  · -- A symbol ends numbers and names alike.
    rw [text]
    cases token with
    | number value => simpa [Ends] using numeral
    | name name => simpa [Ends] using letter
    | _ => trivial

/-- What is printed behind a token does not continue it. -/
theorem ends_printAfter (tokens : List Token) (readable : readableAfter (some token) tokens) :
    Ends token (printAfter (some token) tokens).toList := by
  -- Either nothing follows, or a blank does, or the next token itself.
  cases tokens with
  | nil => cases token <;> simp [Ends, printAfter]
  | cons next tokens =>
    obtain ⟨first, -⟩ := Bool.and_eq_true_iff.mp readable
    cases space : spaceBefore (some token) next with
    | true =>
      -- A blank ends numbers and names.
      obtain ⟨rest, text⟩ : ∃ rest, (printAfter (some token) (next :: tokens)).toList = ' ' :: rest := by
        simp [printAfter, space]
      rw [text]
      cases token with
      | number value => simpa [Ends] using by decide
      | name name => simpa [Ends] using isLetter_of_lt (by decide)
      | _ => trivial
    | false =>
      -- Without a blank the next token is the one that has to end this one.
      have text : (printAfter (some token) (next :: tokens)).toList
          = next.text.toList ++ (printAfter (some next) tokens).toList := by
        simp [printAfter, space]
      rw [text]
      exact ends_text first space _

/-- The printed text of tokens is read as these tokens. -/
theorem ofCharsAfter_printAfter (tokens : List Token) (previous : Option Token)
    (readable : readableAfter previous tokens) :
    ofCharsAfter previous (printAfter previous tokens).toList = .ok tokens := by
  -- The induction is on the tokens: each one is read off the front, and the text of the others has
  -- been seen to end it.
  induction tokens generalizing previous with
  | nil =>
    rw [ofCharsAfter_eq]
    rfl
  | cons token tokens ih =>
    obtain ⟨first, later⟩ := Bool.and_eq_true_iff.mp readable
    have ends := ends_printAfter tokens later
    cases space : spaceBefore previous token with
    | true =>
      -- Behind the blank no sign is due, and the token was chosen so that it needs none.
      have text : (printAfter previous (token :: tokens)).toList
          = ' ' :: (token.text.toList ++ (printAfter (some token) tokens).toList) := by
        simp [printAfter, space]
      have behind := isReadable_behind_space first space
      rw [text, ofCharsAfter_blank previous (by decide), ofCharsAfter_text behind ends fun _ => rfl,
        ih (some token) later]
      rfl
    | false =>
      -- Without a blank a minus is no sign either, or there would be one.
      have text : (printAfter previous (token :: tokens)).toList
          = token.text.toList ++ (printAfter (some token) tokens).toList := by
        simp [printAfter, space]
      have minus : token = operator .subtract → operandDue previous = false := by
        rintro rfl
        rwa [spaceBefore_subtract] at space
      rw [text, ofCharsAfter_text first ends minus, ih (some token) later]
      rfl

/-- Without a minus in front no sign is read. -/
theorem isSigned_nearest (decimal : Decimal) : isSigned decimal.nearest = false := by
  -- A decimal has no sign of its own, so it is rounded with the positive one.
  rw [Bool.eq_false_iff, Decimal.nearest_eq, ne_eq, Double.isSigned_pack, Double.signOf_rounded]
  exact nofun

/-- A literal has a sign only if a sign is allowed where it stands. -/
theorem isReadable_literal {signAllowed : Bool} {c : Char} {run : List Char} {value : Float}
    (start : Decimal.isNumeral c || (c = '-' && signAllowed))
    (read : readLiteral? (c :: run) = some value) (finite : value.isFinite)
    (due : signAllowed → operandDue previous) : isReadable previous (number value) := by
  -- A signed value was read behind a minus, and that was a sign because an operand was due.
  have sign : isSigned value → operandDue previous := by
    intro signed
    rcases Bool.or_eq_true_iff.mp start with numeral | minus
    · rw [readLiteral?_of_isNumeral numeral] at read
      obtain ⟨decimal, -, rfl⟩ := Option.map_eq_some_iff.mp read
      rw [isSigned_nearest decimal] at signed
      exact absurd signed (by decide)
    · exact due (Bool.and_eq_true_iff.mp minus).2
  show (value.isFinite && (!isSigned value || expectsOperand previous)) = true
  rw [finite, Bool.true_and, expectsOperand_eq]
  cases signed : isSigned value with
  | true => simp [sign signed]
  | false => rfl

private theorem ofSymbol_cases (c : Char) :
    ofSymbol c = opening ∨ ofSymbol c = closing ∨ (∃ op, ofSymbol c = operator op)
      ∨ ofSymbol c = unknown c := by
  -- The two parentheses come first, then the operators, and all else is unknown.
  unfold ofSymbol
  split_ifs with opens closes
  · exact .inl rfl
  · exact .inr (.inl rfl)
  · cases Operator.ofChar? c with
    | some op => exact .inr (.inr (.inl ⟨op, rfl⟩))
    | none => exact .inr (.inr (.inr rfl))

/-- A character that stands alone is a token of its own, or remains unknown. -/
theorem isReadable_ofSymbol {c : Char} (single : Single c) : isReadable previous (ofSymbol c) := by
  -- Parentheses and operators are always readable, and an unknown character if it stands alone.
  obtain ⟨solid, letter, numeral⟩ := single
  obtain symbol | symbol | ⟨op, symbol⟩ | symbol := ofSymbol_cases c
  · rw [symbol]
    rfl
  · rw [symbol]
    rfl
  · rw [symbol]
    rfl
  · rw [symbol]
    simpa [isReadable, solid, letter, numeral] using ofSymbol_eq_unknown_iff.mp symbol

/-- The token that a character begins is readable where it stands. -/
theorem isReadable_first {signAllowed : Bool} {c : Char} {rest : List Char}
    (solid : isBlank c = false) (read : (first signAllowed c rest).1 = .ok token)
    (finite : ∀ value, token = number value → value.isFinite)
    (due : signAllowed → operandDue previous) : isReadable previous token := by
  -- The three branches of the reader give a literal, a name or a symbol.
  unfold first at read
  split at read
  · rename_i start
    -- The literal was a number, or there would be no token.
    unfold ofLiteral at read
    split at read
    · rename_i value found
      cases read
      exact isReadable_literal start found (finite value rfl) due
    · exact absurd read (by simp)
  · rename_i noLiteral
    split at read
    · rename_i letter
      cases read
      -- All letters of the run make up the name.
      have letters : ∀ d ∈ c :: rest.takeWhile isLetter, isLetter d :=
        List.forall_mem_cons.mpr ⟨letter, List.all_eq_true.mp List.all_takeWhile⟩
      simpa [isReadable] using List.all_eq_true.mpr letters
    · rename_i noLetter
      cases read
      -- A numeral would have begun a literal.
      have numeral : Decimal.isNumeral c = false := by
        rw [Bool.eq_false_iff]
        intro numeral
        exact noLiteral (by simp [numeral])
      exact isReadable_ofSymbol ⟨solid, by simpa using noLetter, numeral⟩

/-- Whatever a text gives behind a token is readable there. -/
theorem readableAfter_of_ofCharsAfter {chars : List Char} {tokens : List Token}
    (read : ofCharsAfter previous chars = .ok tokens)
    (finite : ∀ value, number value ∈ tokens → value.isFinite) : readableAfter previous tokens := by
  -- Along the recursion of the reader: each token it finds is readable where it was found.
  fun_induction ofCharsAfter previous chars generalizing tokens with
  | case1 previous chars found =>
    cases read
    rfl
  | case2 previous chars c rest found signAllowed error =>
    cases read
  | case3 previous chars c rest found signAllowed token made =>
    rename_i ih
    rw [map_eq_bind, bind_eq_ok_iff] at read
    obtain ⟨others, behind, same⟩ := read
    cases same
    -- What the blanks were dropped before is not blank itself.
    have solid : isBlank c = false := by
      have head := List.head?_dropWhile_not isBlank chars
      rw [found] at head
      simpa using head
    -- A sign was allowed only where an operand was due.
    have due : signAllowed → operandDue previous := by
      intro allowed
      exact (Bool.and_eq_true_iff.mp allowed).2
    have first : isReadable previous token :=
      isReadable_first solid made (fun value same => finite value (same ▸ .head _)) due
    have later : readableAfter (some token) others :=
      ih behind fun value member => finite value (.tail _ member)
    exact Bool.and_eq_true_iff.mpr ⟨first, later⟩

end

/-- Readable tokens are those that some text gives, and their own printed text gives them exactly. -/
theorem ofText_print :
    (∀ tokens, readable tokens → ofText (print tokens) = .ok tokens)
      ∧ ∀ text tokens, ofText text = .ok tokens
        → (∀ value, number value ∈ tokens → value.isFinite) → readable tokens := by
  -- Printed tokens are read off one by one, and tokens that were read satisfy what printing needs.
  constructor
  · intro tokens readable
    exact ofCharsAfter_printAfter tokens none readable
  · intro text tokens read finite
    exact readableAfter_of_ofCharsAfter read finite

/-- Signs, subtractions and neighbours of one kind come back as they were. -/
theorem ofText_print_signs :
    readable [.number (-0), .operator .subtract, .number (-2), .number 3, .opening,
        .operator .subtract, .name "sin", .name "a"]
      ∧ ofText (print [.number (-0), .operator .subtract, .number (-2), .number 3, .opening,
          .operator .subtract, .name "sin", .name "a"])
        = .ok [.number (-0), .operator .subtract, .number (-2), .number 3, .opening,
          .operator .subtract, .name "sin", .name "a"]
      ∧ ofText " - 2.50 --1?" = .ok [.operator .subtract, .number 2.5, .operator .subtract,
          .number (-1), .unknown '?']
      ∧ readable [.operator .subtract, .number 2.5, .operator .subtract, .number (-1),
          .unknown '?'] := by
  -- A list with two signed numbers and a minus on its own, and a text that spaces its signs.
  have printed : readable [.number (-0), .operator .subtract, .number (-2), .number 3, .opening,
      .operator .subtract, .name "sin", .name "a"] := by
    decide +kernel
  have read : ofText " - 2.50 --1?" = .ok [.operator .subtract, .number 2.5, .operator .subtract,
      .number (-1), .unknown '?'] := by
    decide +kernel
  have finite : ∀ value, number value ∈ [.operator .subtract, .number 2.5, .operator .subtract,
      .number (-1), .unknown '?'] → value.isFinite := by
    intro value member
    have literal : value = 2.5 ∨ value = -1 := by simpa using member
    rcases literal with rfl | rfl <;> decide +kernel
  exact ⟨printed, ofText_print.1 _ printed, read, ofText_print.2 _ _ read finite⟩

end Token

end PocketCalculator
