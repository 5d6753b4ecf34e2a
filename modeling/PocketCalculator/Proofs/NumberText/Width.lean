import PocketCalculator.Proofs.Decimal.Shortest
import PocketCalculator.Proofs.NumberText.Result

/-! How many characters the text of a result has at most. -/

namespace PocketCalculator

open Float.Model (UnpackedFloat)
open Float.Model.UnpackedFloat (Sign)
open Double (value)

/-- A sign is one character, or none. -/
theorem length_signMark_le (sign : Sign) : (signMark sign).length ≤ 1 := by
  -- Only a negative number has a mark, and it is one character.
  cases sign <;> decide

/-- An integer has a sign in front of its digits. -/
theorem length_toString_le {n : Int} {count : Nat} (some : 0 < count)
    (small : n.natAbs < 10 ^ count) : (toString n).toList.length ≤ count + 1 := by
  -- A sign, and no more digits than the power of ten above the magnitude has zeros.
  have digits := (Nat.length_toDigits_le_iff (by decide) some).mpr small
  have mark := length_signMark_le (Double.signOfInt n)
  rw [toList_toString, List.length_append]
  omega

namespace Decimal

section

variable {decade : Int} {decimal : Decimal}

/-- A short decimal has seventeen digits at most. -/
theorem IsShort.length_numerals_le (short : IsShort decade decimal) :
    decimal.numerals.length ≤ maxDigits :=
  -- Having at most so many digits is having at most so large a number of them.
  (length_numerals_le_iff (by decide)).mpr short.few

/-- The first digit of a short decimal counts the decade, or the next one after a carry. -/
theorem IsShort.decade_between (short : IsShort decade decimal) :
    decade ≤ decimal.decade ∧ decimal.decade ≤ decade + 1 := by
  -- The value reaches its own power of ten and does not go beyond the next one.
  have first := decade_bounds short.positive
  refine ⟨(le_decade_iff short.positive).mpr short.low, ?_⟩
  have less : (10 : ℚ) ^ decimal.decade ≤ 10 ^ (decade + 1) := first.1.trans short.high
  exact (zpow_le_zpow_iff_right₀ (by norm_num)).mp less

/-- The plain notation of a short decimal needs few places on either side of the point. -/
theorem IsShort.length_positional_le (short : IsShort decade decimal) (lower : -4 ≤ decade)
    (upper : decade < 16) : decimal.positional.length ≤ 22 := by
  have digits : decimal.numerals.length ≤ 17 := short.length_numerals_le
  obtain ⟨low, high⟩ := short.decade_between
  unfold Decimal.decade at low high
  unfold positional
  dsimp only
  split
  · -- The zeros of a whole number end where its decade begins.
    rw [List.length_append, List.length_replicate]
    omega
  · -- The digits behind the point begin at most three zeros behind it.
    rw [List.length_append, List.length_cons, List.length_take, List.length_drop, List.length_append,
      List.length_replicate]
    omega

/-- The notation with a power has all digits, and a power of three digits at most. -/
theorem IsShort.length_scientific_le (short : IsShort decade decimal) (lower : -999 ≤ decade)
    (upper : decade < 999) : decimal.scientific.length ≤ 23 := by
  -- At most 17 digits with a point among them, a letter for the exponent, and the exponent itself,
  -- which has a sign and three digits at most.
  have digits : decimal.numerals.length ≤ 17 := short.length_numerals_le
  obtain ⟨low, high⟩ := short.decade_between
  have power : (toString decimal.decade).toList.length ≤ 4 :=
    length_toString_le (by decide) (by omega)
  unfold scientific
  dsimp only
  rw [List.length_append, List.length_append, List.length_take, List.length_cons]
  have fraction : (if decimal.numerals.length ≤ 1 then [] else '.' :: decimal.numerals.drop 1).length
      ≤ decimal.numerals.length := by
    -- The point stands in place of the first digit, which is in front of it.
    split
    · exact Nat.zero_le _
    · rw [List.length_cons, List.length_drop]
      omega
  unfold Decimal.decade at power
  omega

end

end Decimal

section

variable {x : Float} {sign : Sign} {m : Nat} {e : Int} {positive : 0 < m}

/-- The decade of a double is that of its magnitude. -/
theorem le_decade_ofBinary_iff (parts : x.toModel.unpack = .finite sign m e positive) {k : Int} :
    k ≤ (Decimal.ofBinary m e).decade ↔ 10 ^ k ≤ |value x| := by
  -- The exact decimal of the parts has the magnitude for its value.
  rw [Decimal.le_decade_iff (Decimal.digits_ofBinary_pos e positive), Decimal.value_ofBinary, value,
    parts, Double.abs_partsValue]

/-- The decades of doubles have three digits. -/
theorem decade_ofBinary_between (parts : x.toModel.unpack = .finite sign m e positive) :
    -999 ≤ (Decimal.ofBinary m e).decade ∧ (Decimal.ofBinary m e).decade < 999 := by
  have canonical := Double.isCanonical_unpack x
  rw [parts] at canonical
  obtain ⟨short, lowest, highest, -⟩ := canonical
  have magnitude : |value x| = m * 2 ^ e := by
    rw [value, parts, Double.abs_partsValue]
  have some : (1 : ℚ) ≤ m := by exact_mod_cast positive
  have few : (m : ℚ) < 2 ^ 53 := by exact_mod_cast short
  rw [← not_le, le_decade_ofBinary_iff parts, le_decade_ofBinary_iff parts, magnitude, not_le]
  -- Two binary digits count less than one decimal digit, which is all that has to be known of them.
  have pair : ∀ k : Int, (2 : ℚ) ^ (2 * k) = 4 ^ k := by
    intro k
    rw [zpow_mul]
    norm_num
  constructor
  · -- The lowest place counts less than 537 decimal digits behind the point.
    calc (10 : ℚ) ^ (-999 : Int) ≤ 10 ^ (-537 : Int) := Decimal.ten_zpow_le (by norm_num)
      _ ≤ 4 ^ (-537 : Int) := by
        rw [zpow_neg, zpow_neg]
        exact inv_anti₀ (zpow_pos (by norm_num) _)
          (zpow_le_zpow_left₀ (by norm_num) (by norm_num) (by norm_num))
      _ = 2 ^ (-1074 : Int) := (pair (-537)).symm
      _ ≤ 2 ^ e := zpow_le_zpow_right₀ (by norm_num) lowest
      _ ≤ m * 2 ^ e := le_mul_of_one_le_left (Double.two_zpow_pos e).le some
  · -- The largest number is below the 512th power of four.
    calc (m * 2 ^ e : ℚ) < 2 ^ (53 : Int) * 2 ^ e := by
          exact_mod_cast mul_lt_mul_of_pos_right few (Double.two_zpow_pos e)
      _ = 2 ^ (53 + e) := (zpow_add₀ (by norm_num) _ _).symm
      _ ≤ 2 ^ (1024 : Int) := zpow_le_zpow_right₀ (by norm_num) (by omega)
      _ = 4 ^ (512 : Int) := pair 512
      _ ≤ 10 ^ (512 : Int) := zpow_le_zpow_left₀ (by norm_num) (by norm_num) (by norm_num)
      _ ≤ 10 ^ (999 : Int) := Decimal.ten_zpow_le (by norm_num)

private theorem unpack_lower :
    (1e-4 : Float).toModel.unpack = .finite .positive 7378697629483821 (-66) (by decide) :=
  -- The nearest double to a ten-thousandth, with all its digits.
  rfl

/-- Where the plain notation serves, the first digit stands neither too far behind the point nor in front. -/
theorem decade_of_readsPlainly (parts : x.toModel.unpack = .finite sign m e positive)
    (plainly : readsPlainly x) :
    -4 ≤ (Decimal.ofBinary m e).decade ∧ (Decimal.ofBinary m e).decade < 16 := by
  have finite : x.isFinite := by
    show x.toModel.unpack.isFinite
    rw [parts]
    rfl
  have lowerFinite : (1e-4 : Float).isFinite := by
    show (1e-4 : Float).toModel.unpack.isFinite
    rw [unpack_lower]
    rfl
  -- That double lies a little above the decimal, so the bound holds for the decimal too.
  have lower : (10 : ℚ) ^ (-4 : Int) ≤ value 1e-4 := by
    unfold value
    rw [unpack_lower, Double.partsValue_positive]
    norm_num
  obtain ⟨large, small⟩ := Bool.and_eq_true_iff.mp plainly
  have low := (Double.le_iff lowerFinite (by simpa using finite)).mp (of_decide_eq_true large)
  have high := (lt_upper_iff finite).mp (of_decide_eq_true small)
  rw [Double.value_abs] at low
  -- Both bounds of the range are powers of ten, which the first digit is compared with.
  rw [← not_le, le_decade_ofBinary_iff parts, le_decade_ofBinary_iff parts, not_le]
  exact ⟨lower.trans low, by exact_mod_cast high⟩

/-- The text of a double is as wide as the layout of its digits, but for the sign. -/
theorem length_signedText_le {layout : Decimal → List Char} {width : Nat} (words : 3 ≤ width)
    (laidOut : ∀ sign m e positive, x.toModel.unpack = .finite sign m e positive →
      (layout (.shortest x.abs (.ofBinary m e))).length ≤ width) :
    (signedText layout x).length ≤ width + 1 := by
  -- The words are shorter than any layout, a zero is one digit, and a sign is one more.
  unfold signedText
  cases parts : x.toModel.unpack with
  | notANumber => exact words.trans (Nat.le_succ width)
  | infinity sign =>
    have mark := length_signMark_le sign
    have word : "inf".toList.length = 3 := rfl
    rw [List.length_append]
    omega
  | zero sign =>
    have mark := length_signMark_le sign
    rw [List.length_append, List.length_singleton]
    omega
  | finite sign m e positive =>
    have mark := length_signMark_le sign
    have digits := laidOut sign m e positive parts
    rw [List.length_append]
    omega

/-- The three widths of results: integers, plain fractions and powers of ten. -/
theorem length_resultText_le (x : Float) :
    (x == ofWhole (wholePart x) → (resultText x).toList.length ≤ 20)
      ∧ (readsPlainly x → (resultText x).toList.length ≤ 23)
      ∧ (resultText x).toList.length ≤ 24 := by
  -- A 64-bit integer has at most 19 digits and a sign.
  have integer : (toString (wholePart x).toInt).toList.length ≤ 20 := by
    have low := (wholePart x).le_toInt
    have high := (wholePart x).toInt_lt
    exact length_toString_le (by decide) (by omega)
  -- Within the plain range the layout needs at most 22 characters.
  have plain : readsPlainly x → (signedText Decimal.positional x).length ≤ 23 := by
    intro plainly
    refine length_signedText_le (by decide) fun sign m e positive parts => ?_
    obtain ⟨low, high⟩ := decade_of_readsPlainly parts plainly
    exact (Decimal.isShort_shortest parts).length_positional_le low high
  -- With an exponent it needs at most 23.
  have power : (signedText Decimal.scientific x).length ≤ 24 := by
    refine length_signedText_le (by decide) fun sign m e positive parts => ?_
    obtain ⟨low, high⟩ := decade_ofBinary_between parts
    exact (Decimal.isShort_shortest parts).length_scientific_le low high
  -- The three ways to write a result, each within its own bound.
  unfold resultText
  split
  · exact ⟨fun _ => integer, fun _ => by omega, by omega⟩
  · rename_i fraction
    rw [String.toList_ofList]
    refine ⟨fun whole => absurd whole fraction, fun plainly => ?_, ?_⟩
    · rw [if_pos plainly]
      exact plain plainly
    · split
      · rename_i plainly
        exact (plain plainly).trans (by decide)
      · exact power

end

end PocketCalculator
