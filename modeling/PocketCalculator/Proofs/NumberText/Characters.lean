import PocketCalculator.Proofs.NumberText.Spelling

/-! The characters that the text of a result is made of. -/

namespace PocketCalculator

open Float.Model.UnpackedFloat (Sign)

/-- What stands in results beside numerals: the sign, the mark of a power and the letters of three words. -/
def resultMarks : List Char :=
  ['-', 'e', 'i', 'n', 'f', 'N', 'a']

/-- A character that the text of a result can hold. -/
def IsResultChar (c : Char) : Prop :=
  Decimal.isNumeral c ∨ c ∈ resultMarks

/-- Only a minus stands in front of a number. -/
theorem isResultChar_signMark (sign : Sign) : ∀ c ∈ signMark sign, IsResultChar c := by
  intro c member
  -- The only mark is a minus.
  cases sign with
  | negative =>
    obtain rfl : c = '-' := List.mem_singleton.mp member
    exact .inr (.head _)
  | positive => cases member

/-- Integers are written with digits behind their sign. -/
theorem isResultChar_toString (n : Int) : ∀ c ∈ (toString n).toList, IsResultChar c := by
  -- Behind the mark stand digits.
  rw [toList_toString, List.forall_mem_append]
  refine ⟨isResultChar_signMark _, ?_⟩
  intro c member
  have digit : c.isDigit := Decimal.isDigit_of_mem_toDigits n.natAbs c member
  exact .inl (Decimal.isNumeral_of_isDigit digit)

/-- The plain notation is a numeral. -/
theorem isResultChar_positional (decimal : Decimal) : ∀ c ∈ decimal.positional, IsResultChar c := by
  -- Digits and the point, nothing else.
  intro c member
  exact .inl (decimal.positional_reads.2.1 c member)

/-- The other notation adds the mark of its power, which is an integer. -/
theorem isResultChar_scientific (decimal : Decimal) : ∀ c ∈ decimal.scientific, IsResultChar c := by
  -- The mantissa is written plainly, behind it stand the letter and an integer.
  obtain ⟨mantissa, layout, -, numerals, -⟩ := decimal.scientific_reads
  rw [layout, List.forall_mem_append, List.forall_mem_cons]
  refine ⟨fun c member => .inl (numerals c member), ?_, isResultChar_toString _⟩
  exact .inr (by decide)

/-- A sign and the words for what has no digits add no more than their own letters. -/
theorem isResultChar_signedText {layout : Decimal → List Char}
    (laidOut : ∀ decimal, ∀ c ∈ layout decimal, IsResultChar c) (x : Float) :
    ∀ c ∈ signedText layout x, IsResultChar c := by
  -- The words are spelled with letters of their own; the rest is a mark, digits and a layout.
  unfold signedText
  cases x.toModel.unpack with
  | notANumber =>
    intro c member
    exact .inr ((by decide : "NaN".toList ⊆ resultMarks) member)
  | infinity sign =>
    rw [List.forall_mem_append]
    refine ⟨isResultChar_signMark sign, ?_⟩
    intro c member
    exact .inr ((by decide : "inf".toList ⊆ resultMarks) member)
  | zero sign =>
    rw [List.forall_mem_append, List.forall_mem_singleton]
    exact ⟨isResultChar_signMark sign, .inl rfl⟩
  | finite sign significand exponent positive =>
    rw [List.forall_mem_append]
    exact ⟨isResultChar_signMark sign, laidOut _⟩

/-- No result holds any other character. -/
theorem isResultChar_resultText (x : Float) : ∀ c ∈ (resultText x).toList, IsResultChar c := by
  -- Each of the three ways to write a result uses only such characters.
  unfold resultText
  split
  · exact isResultChar_toString _
  · rw [String.toList_ofList]
    split
    · exact isResultChar_signedText isResultChar_positional x
    · exact isResultChar_signedText isResultChar_scientific x

end PocketCalculator
