import PocketCalculator.Decimal.Numeral
import PocketCalculator.Proofs.Decimal.Nearest

/-! The plain notation is read with the value it was written for, and the other one up to its power. -/

namespace PocketCalculator

namespace Decimal

section

variable {chars whole fraction : List Char}

/-- A digit is part of a numeral. -/
theorem isNumeral_of_isDigit {c : Char} (digit : c.isDigit) : isNumeral c := by
  -- Digits are one of the two kinds of numerals.
  simp [isNumeral, digit]

/-- A run of digits is read as a whole number. -/
theorem ofNumeral?_digits (digits : ∀ c ∈ chars, c.isDigit) (nonempty : chars ≠ []) :
    ofNumeral? chars = some ⟨Nat.ofDigitChars 10 chars 0, 0⟩ := by
  -- All characters are taken as the whole part, and there is no point behind them.
  have all : chars.takeWhile Char.isDigit = chars := List.takeWhile_eq_self_iff.mpr digits
  have rest : chars.dropWhile Char.isDigit = [] := List.dropWhile_eq_nil_iff.mpr digits
  unfold ofNumeral?
  rw [all, rest]
  simp [nonempty]

/-- A point with digits in front and behind only shifts the number that all digits make. -/
theorem ofNumeral?_point (digits : ∀ c ∈ whole ++ fraction, c.isDigit) (nonempty : whole ≠ []) :
    ofNumeral? (whole ++ '.' :: fraction)
      = some ⟨Nat.ofDigitChars 10 (whole ++ fraction) 0, -fraction.length⟩ := by
  -- The whole part ends at the point, and all characters behind it are digits.
  have front : ∀ c ∈ whole, c.isDigit := fun c member => digits c (List.mem_append_left _ member)
  have back : fraction.all Char.isDigit :=
    List.all_eq_true.mpr fun c member => digits c (List.mem_append_right _ member)
  have all : (whole ++ '.' :: fraction).takeWhile Char.isDigit = whole := by
    rw [List.takeWhile_append_of_pos front]
    simp [show Char.isDigit '.' = false by decide]
  have rest : (whole ++ '.' :: fraction).dropWhile Char.isDigit = '.' :: fraction := by
    rw [List.dropWhile_append_of_pos front]
    simp [show Char.isDigit '.' = false by decide]
  unfold ofNumeral?
  rw [all, rest]
  simp [back, nonempty]

/-- Digits around a point are a numeral. -/
theorem isNumeral_of_mem_point (digits : ∀ c ∈ whole ++ fraction, c.isDigit) :
    ∀ c ∈ whole ++ '.' :: fraction, isNumeral c := by
  -- Before the point, the point itself, and behind it.
  intro c member
  rcases List.mem_append.mp member with before | behind
  · exact isNumeral_of_isDigit (digits c (List.mem_append_left _ before))
  · rcases List.mem_cons.mp behind with rfl | after
    · rfl
    · exact isNumeral_of_isDigit (digits c (List.mem_append_right _ after))

end

/-- A whole number is written in digits. -/
theorem isDigit_of_mem_toDigits (n : Nat) : ∀ c ∈ Nat.toDigits 10 n, c.isDigit := by
  -- The digits of a number are written by the library, which vouches for them.
  intro c member
  exact Nat.isDigit_of_mem_toDigits (by decide) (by decide) member

/-- So is its text. -/
theorem isDigit_of_mem_toString (n : Nat) : ∀ c ∈ (toString n).toList, c.isDigit := by
  -- The text of a number consists of its digits.
  rw [Nat.toString_eq_ofList_toDigits, String.toList_ofList]
  exact isDigit_of_mem_toDigits n

private theorem ofDigitChars_zeros (decimal : Decimal) (count : Nat) :
    Nat.ofDigitChars 10 (List.replicate count '0' ++ decimal.numerals) 0 = decimal.digits := by
  -- Zeros in front count nothing.
  rw [Nat.ofDigitChars_append, Nat.ofDigitChars_replicate_zero, Nat.mul_zero]
  exact Nat.ofDigitChars_ten_toDigits

private theorem isDigit_of_mem_zeros {count : Nat} :
    ∀ c ∈ List.replicate count '0', c.isDigit := by
  -- A zero is a digit.
  intro c member
  rw [List.eq_of_mem_replicate member]
  decide

/-- The plain notation is a numeral, and what is read from it has the same value. -/
theorem positional_reads (decimal : Decimal) :
    decimal.positional ≠ [] ∧ (∀ c ∈ decimal.positional, isNumeral c)
      ∧ ∃ read, ofNumeral? decimal.positional = some read ∧ read.value = decimal.value := by
  have someDigit : decimal.numerals ≠ [] := Nat.toDigits_ne_nil
  -- The layout depends on where the point falls: behind the digits, or among them.
  by_cases whole : 0 ≤ decimal.exponent
  · -- Zeros fill the places up to the point, and no point is written.
    have layout : decimal.positional
        = decimal.numerals ++ List.replicate decimal.exponent.toNat '0' := by
      simp only [positional, if_pos whole]
    have digits : ∀ c ∈ decimal.positional, c.isDigit := by
      rw [layout, List.forall_mem_append]
      exact ⟨isDigit_of_mem_toDigits _, isDigit_of_mem_zeros⟩
    have nonempty : decimal.positional ≠ [] := by
      rw [layout]
      simp [someDigit]
    refine ⟨nonempty, fun c member => isNumeral_of_isDigit (digits c member), _,
      ofNumeral?_digits digits nonempty, ?_⟩
    -- The zeros behind the digits multiply by the power of ten that the exponent asks for.
    have shifted : Nat.ofDigitChars 10 decimal.positional 0
        = 10 ^ decimal.exponent.toNat * decimal.digits := by
      rw [layout, Nat.ofDigitChars_append, Nat.ofDigitChars_replicate_zero]
      exact congrArg _ Nat.ofDigitChars_ten_toDigits
    unfold value
    rw [shifted]
    push_cast
    rw [Double.pow_toNat 10 whole]
    ring
  · -- The digits are padded in front, so that there is one before the point, and cut at the point.
    generalize places : (-decimal.exponent).toNat = count
    generalize padding : List.replicate (count + 1 - decimal.numerals.length) '0'
      ++ decimal.numerals = padded
    have layout : decimal.positional
        = padded.take (padded.length - count) ++ '.' :: padded.drop (padded.length - count) := by
      simp only [positional, if_neg whole, places, padding]
    have long : count < padded.length := by
      rw [← padding, List.length_append, List.length_replicate]
      omega
    have digits : ∀ c ∈ padded, c.isDigit := by
      rw [← padding, List.forall_mem_append]
      exact ⟨isDigit_of_mem_zeros, isDigit_of_mem_toDigits _⟩
    have front : padded.take (padded.length - count) ≠ [] := by
      rw [ne_eq, List.take_eq_nil_iff]
      rintro (none | empty)
      · omega
      · rw [empty] at long
        simp at long
    have parts := List.take_append_drop (padded.length - count) padded
    have split : ∀ c ∈ padded.take (padded.length - count) ++ padded.drop (padded.length - count),
        c.isDigit := by
      rw [parts]
      exact digits
    -- As many digits stand behind the point as the exponent says.
    have behind : (padded.drop (padded.length - count)).length = count := by
      rw [List.length_drop]
      omega
    rw [layout]
    refine ⟨by simp, isNumeral_of_mem_point split, _, ofNumeral?_point split front, ?_⟩
    have exponent : -(count : Int) = decimal.exponent := by omega
    unfold value
    rw [parts, behind, ← padding, ofDigitChars_zeros, exponent]

/-- In front of its power the other notation has a numeral too, which the power takes to the value. -/
theorem scientific_reads (decimal : Decimal) :
    ∃ mantissa, decimal.scientific = mantissa
        ++ 'e' :: (toString (decimal.exponent + (decimal.numerals.length - 1 : Nat))).toList
      ∧ mantissa ≠ [] ∧ (∀ c ∈ mantissa, isNumeral c)
      ∧ ∃ read, ofNumeral? mantissa = some read ∧ read.digits = decimal.digits
        ∧ read.exponent = -(decimal.numerals.length - 1 : Nat) := by
  have someDigit : decimal.numerals ≠ [] := Nat.toDigits_ne_nil
  have whole : Nat.ofDigitChars 10 decimal.numerals 0 = decimal.digits :=
    Nat.ofDigitChars_ten_toDigits
  have own : ∀ c ∈ decimal.numerals, c.isDigit := isDigit_of_mem_toDigits _
  -- The first digit stands before the point, and all others behind it.
  obtain ⟨digit, others, numerals⟩ := List.exists_cons_of_ne_nil someDigit
  rw [numerals] at own whole
  by_cases alone : others = []
  · -- A single digit is written without a point.
    rw [alone] at own whole numerals
    refine ⟨[digit], ?_, by simp, ?_, _, ofNumeral?_digits own (by simp), whole, ?_⟩
    · simp [scientific, numerals]
    · intro c member
      exact isNumeral_of_isDigit (own c member)
    · rw [numerals]
      rfl
  · -- Otherwise the places behind the point are the digits but one.
    have longer : ¬(digit :: others).length ≤ 1 := by simp [alone]
    have digits : ∀ c ∈ [digit] ++ others, c.isDigit := own
    refine ⟨[digit] ++ '.' :: others, ?_, by simp, isNumeral_of_mem_point digits, _,
      ofNumeral?_point digits (by simp), whole, ?_⟩
    · simp only [scientific, numerals, if_neg longer]
      simp
    · rw [numerals]
      rfl

end Decimal

end PocketCalculator
