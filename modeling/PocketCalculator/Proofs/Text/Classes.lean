import PocketCalculator.Decimal.Numeral
import PocketCalculator.Operator
import PocketCalculator.Text.Blank
import PocketCalculator.Text.Letter

/-! Blanks, letters, numerals and operators are different characters. -/

namespace PocketCalculator

/-- Sets whose ranges lie apart have no character in common. -/
theorem CodePoints.has_eq_false {ranges others : CodePoints}
    (apart : ranges.all fun range => others.all fun other =>
      range.2.blt other.1 || other.2.blt range.1)
    {c : Char} (inside : ranges.has c) : others.has c = false := by
  rw [Bool.eq_false_iff, ne_eq, has_iff]
  rintro ⟨other, otherMember, above, below⟩
  obtain ⟨range, member, first, last⟩ := has_iff.mp inside
  -- The code point of the character would lie in two ranges at once.
  have split := List.all_eq_true.mp (List.all_eq_true.mp apart range member) other otherMember
  simp only [Bool.or_eq_true, Nat.blt_eq] at split
  omega

/-- What a list of characters was checked for holds of each of them. -/
theorem forall_mem_of_all {p : Char → Prop} [DecidablePred p] {chars : List Char}
    (checked : chars.all fun c => p c) : ∀ c ∈ chars, p c := by
  -- The check ran over all of them.
  intro c member
  exact of_decide_eq_true (List.all_eq_true.mp checked c member)

/-- The code points that numerals are made of. -/
def numerals : CodePoints :=
  [(0x2E, 0x2E), (0x30, 0x39)]

private theorem has_of_isNumeral {c : Char} (numeral : Decimal.isNumeral c) : numerals.has c := by
  -- Digits are one range of code points, and the point is another.
  rw [CodePoints.has_iff]
  rcases Bool.or_eq_true_iff.mp numeral with digit | point
  · obtain ⟨above, below⟩ := Bool.and_eq_true_iff.mp digit
    exact ⟨(0x30, 0x39), .tail _ (.head _), of_decide_eq_true above, of_decide_eq_true below⟩
  · obtain rfl := of_decide_eq_true point
    exact ⟨(0x2E, 0x2E), .head _, Nat.le_refl _, Nat.le_refl _⟩

/-- No letter is blank. -/
theorem isBlank_of_isLetter {c : Char} (letter : isLetter c) : isBlank c = false :=
  -- The tables of letters and of blanks are compared range by range.
  CodePoints.has_eq_false (by decide +kernel) letter

/-- No digit and no point is blank. -/
theorem isBlank_of_isNumeral {c : Char} (numeral : Decimal.isNumeral c) : isBlank c = false :=
  -- Neither of the two ranges of numerals touches one of the blanks.
  CodePoints.has_eq_false (by decide) (has_of_isNumeral numeral)

/-- No blank is a letter. -/
theorem isLetter_of_isBlank {c : Char} (blank : isBlank c) : isLetter c = false := by
  -- Otherwise it would be a letter that is blank.
  rw [Bool.eq_false_iff]
  intro letter
  rw [isBlank_of_isLetter letter] at blank
  cases blank

/-- No blank is a digit or a point. -/
theorem isNumeral_of_isBlank {c : Char} (blank : isBlank c) : Decimal.isNumeral c = false := by
  -- Otherwise it would be a numeral that is blank.
  rw [Bool.eq_false_iff]
  intro numeral
  rw [isBlank_of_isNumeral numeral] at blank
  cases blank

/-- The letters begin behind the blanks, the digits and most of the signs. -/
theorem isLetter_of_lt {c : Char} (low : c.toNat < 0x41) : isLetter c = false := by
  -- The letters begin with the A, and everything below it is one range.
  have below : CodePoints.has [(0, 0x40)] c := by
    rw [CodePoints.has_iff]
    exact ⟨(0, 0x40), .head _, Nat.zero_le _, Nat.le_of_lt_succ low⟩
  exact CodePoints.has_eq_false (by decide +kernel) below

/-- No digit and no point is a letter. -/
theorem isLetter_of_isNumeral {c : Char} (numeral : Decimal.isNumeral c) : isLetter c = false := by
  -- Both ranges of numerals lie below the letters.
  obtain ⟨range, member, -, last⟩ := CodePoints.has_iff.mp (has_of_isNumeral numeral)
  have most : ∀ range ∈ numerals, range.2 < 0x41 := by decide
  exact isLetter_of_lt (Nat.lt_of_le_of_lt last (most range member))

/-- No letter is a digit or a point. -/
theorem isNumeral_of_isLetter {c : Char} (letter : isLetter c) : Decimal.isNumeral c = false := by
  -- Otherwise it would be a numeral that is a letter.
  rw [Bool.eq_false_iff]
  intro numeral
  rw [isLetter_of_isNumeral numeral] at letter
  exact absurd letter (by decide)

/-- An operator and an opening parenthesis are neither blank nor part of a name or a numeral. -/
theorem isSymbol_apart {c : Char} (symbol : c = '(' ∨ ∃ op : Operator, c = op.symbol) :
    isBlank c = false ∧ isLetter c = false ∧ Decimal.isNumeral c = false := by
  -- A parenthesis and seven operators, each looked up in the tables.
  rcases symbol with rfl | ⟨op, rfl⟩
  · decide +kernel
  · cases op <;> decide +kernel

end PocketCalculator
