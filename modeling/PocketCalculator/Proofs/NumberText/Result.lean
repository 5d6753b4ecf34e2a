import PocketCalculator.Proofs.NumberText.Spelling

/-! Which notation the text of a result has, and which results are spelled by their text. -/

namespace PocketCalculator

open Double (IsWhole value)

/-- A result whose text has no power of ten. -/
def IsPlain (x : Float) : Prop :=
  (IsWhole x ∧ |value x| ≤ 2 ^ 63) ∨ (¬IsWhole x ∧ 1e-4 ≤ x.abs)

/-- Negative zero loses its sign, and every other double stays. -/
def withoutZeroSign (x : Float) : Float :=
  if x == 0 then 0 else x

section

variable {x : Float}

private theorem unpack_upper :
    (1e16 : Float).toModel.unpack = .finite .positive 5000000000000000 1 (by decide) :=
  -- Half of the bound fills the mantissa, so its exponent is one.
  rfl

/-- The upper end of the plain notation. -/
theorem lt_upper_iff (finite : x.isFinite) : x.abs < 1e16 ↔ |value x| < 10 ^ 16 := by
  -- The bound is a double, so comparing with it is comparing values.
  have upper : value 1e16 = 10 ^ 16 := by
    unfold value
    rw [unpack_upper, Double.partsValue_positive]
    norm_num
  have upperFinite : (1e16 : Float).isFinite := by
    show (1e16 : Float).toModel.unpack.isFinite
    rw [unpack_upper]
    rfl
  rw [Double.lt_iff (by simpa using finite) upperFinite, Double.value_abs, upper]

/-- A double equals zero exactly if it stands for zero. -/
theorem beq_zero_iff (finite : x.isFinite) : x == 0 ↔ value x = 0 :=
  -- Zero is finite and its value is zero.
  Double.beq_iff finite rfl

/-- Zero is whole and in range, whatever its sign. -/
theorem isWhole_of_zero (nothing : value x = 0) : IsWhole x ∧ |value x| ≤ 2 ^ 63 := by
  -- Zero is an integer, and a small one.
  refine ⟨⟨0, ?_⟩, ?_⟩
  · rw [nothing, Int.cast_zero]
  · rw [nothing, abs_zero]
    norm_num

/-- A plain result equals its whole part, or its magnitude reads plainly. -/
theorem isPlain_iff (finite : x.isFinite) :
    IsPlain x ↔ x == ofWhole (wholePart x) ∨ readsPlainly x := by
  have range : readsPlainly x ↔ 1e-4 ≤ x.abs ∧ |value x| < 10 ^ 16 := by
    rw [← lt_upper_iff finite]
    simp [readsPlainly]
  rw [Double.beq_ofWhole_iff finite, range]
  constructor
  · rintro (whole | ⟨fraction, large⟩)
    · exact .inl whole
    · -- A fraction never reaches the upper end.
      have upper : |value x| < 10 ^ 16 := by
        calc |value x| < 2 ^ 52 := Double.abs_value_lt_of_not_isWhole finite fraction
          _ ≤ 10 ^ 16 := by norm_num
      exact .inr ⟨large, upper⟩
  · rintro (whole | ⟨large, upper⟩)
    · exact .inl whole
    · -- A whole number below the upper end is within the range of integers.
      by_cases whole : IsWhole x
      · have bounded : |value x| ≤ 2 ^ 63 := by
          calc |value x| ≤ 10 ^ 16 := upper.le
            _ ≤ 2 ^ 63 := by norm_num
        exact .inl ⟨whole, bounded⟩
      · exact .inr ⟨whole, large⟩

/-- What equals its whole part is the double of that part, but for the sign of a zero. -/
theorem ofWhole_eq_withoutZeroSign (finite : x.isFinite) (integer : x == ofWhole (wholePart x)) :
    ofWhole (wholePart x) = withoutZeroSign x := by
  -- A double equal to that of its whole part is an integer within the range, which the way back
  -- keeps but for the sign of a zero.
  obtain ⟨whole, bounded⟩ := (Double.beq_ofWhole_iff finite).mp integer
  obtain ⟨k, magnitude⟩ := Double.isWhole_iff.mp whole
  rw [magnitude] at bounded
  have zero : (x == 0) = true ↔ k = 0 := by
    rw [beq_zero_iff finite, ← abs_eq_zero, magnitude, Nat.cast_eq_zero]
  rw [Double.ofWhole_wholePart finite magnitude (by exact_mod_cast bounded)]
  unfold withoutZeroSign
  by_cases nothing : k = 0
  · rw [if_pos nothing, if_pos (zero.mpr nothing)]
    rfl
  · rw [if_neg nothing, if_neg (mt zero.mp nothing)]

/-- Every zero is shown as the integer. -/
theorem resultText_of_zero (finite : x.isFinite) (nothing : value x = 0) :
    resultText x = toString (0 : Int64).toInt := by
  -- Zero equals the double of its whole part, which is zero without a sign.
  have integer : (x == ofWhole (wholePart x)) = true :=
    (Double.beq_ofWhole_iff finite).mpr (isWhole_of_zero nothing)
  have part : wholePart x = 0 := by
    rw [Double.wholePart_eq finite, nothing, abs_zero, Nat.floor_zero]
    cases Double.signOf x.toModel.unpack <;> rfl
  unfold resultText
  rw [if_pos integer, part]

/-- The sign of a zero is not shown. -/
theorem resultText_withoutZeroSign (finite : x.isFinite) :
    resultText (withoutZeroSign x) = resultText x := by
  -- Only zeros differ from what they are without a sign, and both are written the same.
  unfold withoutZeroSign
  split
  · rename_i zero
    rw [resultText_of_zero finite ((beq_zero_iff finite).mp zero)]
    exact resultText_of_zero rfl rfl
  · rfl

/-- A plain result is spelled by its text, but for the sign of a zero. -/
theorem spells_resultText (finite : x.isFinite) (plain : IsPlain x) :
    Spells (resultText x).toList (withoutZeroSign x) := by
  unfold resultText
  by_cases integer : (x == ofWhole (wholePart x)) = true
  · rw [if_pos integer, ← ofWhole_eq_withoutZeroSign finite integer]
    exact spells_toString _
  · have plainly : readsPlainly x = true := ((isPlain_iff finite).mp plain).resolve_left integer
    have something : ¬(x == 0) = true := by
      -- A zero would equal its whole part.
      rw [beq_zero_iff finite]
      intro nothing
      exact integer ((Double.beq_ofWhole_iff finite).mpr (isWhole_of_zero nothing))
    unfold withoutZeroSign
    rw [if_neg integer, if_neg something, plainly, String.toList_ofList]
    exact spells_positional finite

/-- Every other finite result has a power of ten. -/
theorem resultText_of_not_isPlain (finite : x.isFinite) (other : ¬IsPlain x) :
    resultText x = String.ofList (signedText Decimal.scientific x) := by
  rw [isPlain_iff finite] at other
  obtain ⟨integer, plainly⟩ := not_or.mp other
  -- A plain result is an integer in range or reads plainly, and this one is neither.
  unfold resultText
  rw [if_neg integer, if_neg plainly]

end

end PocketCalculator
