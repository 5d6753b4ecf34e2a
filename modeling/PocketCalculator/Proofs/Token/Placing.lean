import PocketCalculator.Proofs.NumberText.Spelling
import PocketCalculator.Proofs.Token.Seams

/-! The token that stands at the front of a text, as long as what follows does not continue it. -/

namespace PocketCalculator

namespace Token

/-- What is read depends on the last token only by whether an operand is due. -/
theorem ofCharsAfter_congr {previous other : Option Token}
    (same : operandDue previous = operandDue other) (chars : List Char) :
    ofCharsAfter previous chars = ofCharsAfter other chars := by
  -- All that a reader remembers of the previous token is whether an operand is due.
  rw [ofCharsAfter_eq, ofCharsAfter_eq other, same]

section

variable {previous : Option Token} {rest : List Char}

/-- A run of numerals is read as one literal, with a sign in front where one may stand. -/
theorem ofCharsAfter_literal {c : Char} {run : List Char} {x : Float}
    (start : Decimal.isNumeral c ∨ c = '-' ∧ operandDue previous)
    (numerals : ∀ d ∈ run, Decimal.isNumeral d) (read : readLiteral? (c :: run) = some x)
    (stop : ∀ d ∈ rest.head?, Decimal.isNumeral d = false) :
    ofCharsAfter previous (c :: run ++ rest)
      = (ofCharsAfter (some (number x)) rest).map (number x :: ·) := by
  -- The numerals stop where the rest begins, so the literal is the whole run and no more.
  obtain ⟨taken, left⟩ := run_of_append numerals stop
  -- It is not blank.
  have solid : isBlank c = false := by
    rcases start with numeral | ⟨rfl, -⟩
    · exact isBlank_of_isNumeral numeral
    · decide
  -- It opens a literal: by a numeral, or by a minus where an operand is due.
  have begins : (Decimal.isNumeral c || (c = '-' && operandDue previous)) = true := by
    rcases start with numeral | ⟨rfl, due⟩
    · simp [numeral]
    · simp [due]
  have literal : ofLiteral (c :: run) = .ok (number x) := by
    unfold ofLiteral
    rw [read]
  rw [List.cons_append, ofCharsAfter_cons previous solid, first, if_pos begins, taken, left, literal]
  rfl

/-- A spelled number is read as itself where its sign may stand. -/
theorem ofCharsAfter_spelled {text : List Char} {x : Float} (spells : Spells text x)
    (allowed : isSigned x → operandDue previous)
    (stop : ∀ c ∈ rest.head?, Decimal.isNumeral c = false) :
    ofCharsAfter previous (text ++ rest)
      = (ofCharsAfter (some (number x)) rest).map (number x :: ·) := by
  -- A spelling is a literal, and its minus is a sign because an operand is due.
  obtain ⟨c, run, rfl, numerals, start, read⟩ := spells
  refine ofCharsAfter_literal ?_ numerals read stop
  rcases start with numeral | ⟨minus, signed⟩
  · exact .inl numeral
  · exact .inr ⟨minus, allowed signed⟩

/-- A run of letters is read as one name. -/
theorem ofCharsAfter_letters {run : List Char} (nonempty : run ≠ [])
    (letters : ∀ c ∈ run, isLetter c) (stop : ∀ c ∈ rest.head?, isLetter c = false) :
    ofCharsAfter previous (run ++ rest)
      = (ofCharsAfter (some (name (String.ofList run))) rest).map
        (name (String.ofList run) :: ·) := by
  -- The letters stop where the rest begins, so the name is the whole run and no more.
  obtain ⟨c, run, rfl⟩ := List.exists_cons_of_ne_nil nonempty
  obtain ⟨letter, others⟩ := List.forall_mem_cons.mp letters
  obtain ⟨taken, left⟩ := run_of_append others stop
  have numeral := isNumeral_of_isLetter letter
  -- A letter is no minus, so no literal is opened.
  have minus : c ≠ '-' := by
    rintro rfl
    rw [isLetter_of_lt (by decide)] at letter
    exact absurd letter (by decide)
  have begins : (Decimal.isNumeral c || (c = '-' && operandDue previous)) ≠ true := by
    simp [numeral, minus]
  rw [List.cons_append, ofCharsAfter_cons previous (isBlank_of_isLetter letter), first,
    if_neg begins, if_pos letter, taken, left]
  rfl

/-- Any other character is read by itself, a minus only where no sign is allowed. -/
theorem ofCharsAfter_symbol {c : Char} (solid : isBlank c = false) (letter : isLetter c = false)
    (numeral : Decimal.isNumeral c = false) (minus : c = '-' → operandDue previous = false) :
    ofCharsAfter previous (c :: rest)
      = (ofCharsAfter (some (ofSymbol c)) rest).map (ofSymbol c :: ·) := by
  -- No literal is opened: the character is no numeral, and a minus is no sign here.
  have begins : (Decimal.isNumeral c || (c = '-' && operandDue previous)) ≠ true := by
    rw [numeral, Bool.false_or, ne_eq, Bool.and_eq_true_iff, not_and]
    intro sign
    rw [minus (of_decide_eq_true sign)]
    decide
  rw [ofCharsAfter_cons previous solid, first, if_neg begins, if_neg (by simp [letter])]
  rfl

end

end Token

end PocketCalculator
