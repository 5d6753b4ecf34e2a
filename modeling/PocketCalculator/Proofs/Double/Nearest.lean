import PocketCalculator.NumberText.Reader
import PocketCalculator.Proofs.Double.Order

/-! The double nearest to a number: what it stands for, how far off it is, and how it is ordered. -/

namespace PocketCalculator

namespace Double

open Float.Model (UnpackedFloat)
open Float.Model.UnpackedFloat (Sign)

/-- The multiple of its last place that a number is rounded to, as if there were no largest double. -/
def roundedValue (q : ℚ) : ℚ :=
  roundEven (q / 2 ^ lastPlace q) * 2 ^ lastPlace q

section

variable {p q : ℚ}

/-- A number with few digits in front of a place has its last place there or behind. -/
theorem lastPlace_le {place : Int} (front : -52 ≤ place) (small : q < 2 ^ (place + 53)) :
    lastPlace q ≤ place := by
  -- A power of two bounds the logarithm; a number that is not positive has the lowest place.
  unfold lastPlace
  by_cases positive : 0 < q
  · have log := (log_lt_iff positive).mpr small
    omega
  · rw [Int.log_of_right_le_zero _ (not_lt.mp positive)]
    omega

/-- Larger numbers have no finer places. -/
theorem lastPlace_mono (positive : 0 < p) (le : p ≤ q) : lastPlace p ≤ lastPlace q := by
  -- The place is the logarithm less a constant, cut off at the lowest exponent.
  have log : Int.log 2 p ≤ Int.log 2 q := Int.log_mono_right positive le
  unfold lastPlace
  omega

section

variable {n : Nat} {place : Int}

/-- A multiple of a coarser place is a multiple of the last one. -/
private theorem div_lastPlace_eq (n : Nat) (coarse : lastPlace q ≤ place) :
    (n * 2 ^ place : ℚ) / 2 ^ lastPlace q = (n * 2 ^ (place - lastPlace q).toNat : Nat) := by
  -- A place that is coarser than the last one is a whole number of its units.
  push_cast
  rw [pow_toNat 2 (by omega), zpow_sub₀ (by norm_num), mul_div_assoc]

/-- What is at most a multiple of its last place is rounded to at most that. -/
theorem roundedValue_le (coarse : lastPlace q ≤ place) (le : q ≤ n * 2 ^ place) :
    roundedValue q ≤ n * 2 ^ place := by
  -- A multiple of a coarser place is a whole number of last places, and rounding to an integer
  -- does not pass an integer above.
  have scale := two_zpow_pos (lastPlace q)
  have digits : roundEven (q / 2 ^ lastPlace q) ≤ n * 2 ^ (place - lastPlace q).toNat := by
    refine roundEven_le ?_
    rw [← div_lastPlace_eq n coarse]
    exact div_le_div_of_nonneg_right le scale.le
  rw [roundedValue, ← le_div_iff₀ scale, div_lastPlace_eq n coarse]
  exact_mod_cast digits

/-- What is at least a multiple of its last place is rounded to at least that. -/
theorem le_roundedValue (coarse : lastPlace q ≤ place) (le : n * 2 ^ place ≤ q) :
    n * 2 ^ place ≤ roundedValue q := by
  -- The same bound from below: rounding does not pass an integer underneath either.
  have scale := two_zpow_pos (lastPlace q)
  have digits : n * 2 ^ (place - lastPlace q).toNat ≤ roundEven (q / 2 ^ lastPlace q) := by
    refine le_roundEven ?_
    rw [← div_lastPlace_eq n coarse]
    exact div_le_div_of_nonneg_right le scale.le
  rw [roundedValue, ← div_le_iff₀ scale, div_lastPlace_eq n coarse]
  exact_mod_cast digits

/-- A multiple of its last place loses nothing. -/
theorem roundedValue_of_eq (coarse : lastPlace q ≤ place) (exact : q = n * 2 ^ place) :
    roundedValue q = q := by
  -- A number that is already a multiple of its last place is bounded by itself from both sides.
  have most := roundedValue_le coarse exact.le
  have least := le_roundedValue coarse exact.ge
  rw [← exact] at most least
  exact le_antisymm most least

end

/-- Rounding keeps the order. -/
theorem roundedValue_mono (positive : 0 < p) (le : p ≤ q) : roundedValue p ≤ roundedValue q := by
  have scale := two_zpow_pos (lastPlace p)
  rcases (lastPlace_mono positive le).lt_or_eq with finer | same
  · -- A power of two lies between the numbers, and a double is there as well.
    have place : lastPlace q = Int.log 2 q - 52 := by
      unfold lastPlace at finer ⊢
      omega
    have above : p ≤ (1 : Nat) * 2 ^ Int.log 2 q := by
      have log : Int.log 2 p < Int.log 2 q := by
        unfold lastPlace at finer
        omega
      simpa using ((log_lt_iff positive).mp log).le
    have below : (1 : Nat) * 2 ^ Int.log 2 q ≤ q := by
      simpa using (le_log_iff (lt_of_lt_of_le positive le)).mp le_rfl
    exact (roundedValue_le (by omega) above).trans (le_roundedValue (by omega) below)
  · -- Only the digits differ.
    have digits : roundEven (p / 2 ^ lastPlace p) ≤ roundEven (q / 2 ^ lastPlace p) :=
      roundEven_mono (div_le_div_of_nonneg_right le scale.le)
    rw [roundedValue, roundedValue, ← same]
    exact mul_le_mul_of_nonneg_right (by exact_mod_cast digits) scale.le

/-- A whole number of at most 53 binary digits loses nothing. -/
theorem roundedValue_natCast {n : Nat} (short : n < 2 ^ 53) : roundedValue n = n := by
  -- A natural number with at most 53 binary digits is a multiple of its last place.
  have place : lastPlace (n : ℚ) ≤ 0 := lastPlace_le (by norm_num) (by exact_mod_cast short)
  exact roundedValue_of_eq place (by rw [zpow_zero, mul_one])

/-- A whole number is rounded to a whole number. -/
theorem exists_roundedValue_natCast (n : Nat) : ∃ k : Nat, roundedValue n = k := by
  rcases le_total (lastPlace n) 0 with fraction | whole
  · -- The digits reach to the point, so none is lost.
    exact ⟨n, roundedValue_of_eq fraction (by rw [zpow_zero, mul_one])⟩
  · refine ⟨roundEven (n / 2 ^ lastPlace n) * 2 ^ (lastPlace n).toNat, ?_⟩
    push_cast
    rw [pow_toNat 2 whole, roundedValue]

/-- A number and its rounding differ by half a unit at most. -/
theorem abs_roundEven_sub_le {y : ℚ} (nonneg : 0 ≤ y) : |roundEven y - y| ≤ 1 / 2 := by
  have low := Nat.floor_le nonneg
  have high := Nat.lt_floor_add_one y
  unfold roundEven
  dsimp only
  split_ifs with near tie
  · rw [abs_le]
    constructor <;> linarith
  · -- A tie is as far from the one as from the other.
    rcases Nat.mod_two_eq_zero_or_one ⌊y⌋₊ with even | odd
    · rw [even, add_zero, abs_le]
      constructor <;> linarith
    · rw [odd, abs_le]
      push_cast
      constructor <;> linarith
  · have above : 1 / 2 < y - ⌊y⌋₊ := lt_of_le_of_ne (not_lt.mp near) (Ne.symm tie)
    push_cast
    rw [abs_le]
    constructor <;> linarith

/-- Rounding is off by one part in the fifty-third power of two at most. -/
theorem abs_roundedValue_sub_le (least : 1 ≤ q) : |roundedValue q - q| ≤ q / 2 ^ 53 := by
  -- From one on the last place lies 52 below the leading digit, so it is at most a part in 2 ^ 52
  -- of the number, and rounding moves it by half a place at most.
  have positive : 0 < q := by linarith
  have scale := two_zpow_pos (lastPlace q)
  have place : lastPlace q = Int.log 2 q - 52 := by
    have log : 0 ≤ Int.log 2 q := (le_log_iff positive).mpr (by simpa using least)
    unfold lastPlace
    omega
  have unit : (2 : ℚ) ^ lastPlace q * 2 ^ 52 ≤ q := by
    have leading := (le_log_iff positive).mp le_rfl
    rw [place, zpow_sub₀ (by norm_num)]
    norm_num
    exact leading
  have scaled : roundedValue q - q
      = (roundEven (q / 2 ^ lastPlace q) - q / 2 ^ lastPlace q) * 2 ^ lastPlace q := by
    rw [roundedValue, sub_mul, div_mul_cancel₀ _ scale.ne']
  have half := abs_roundEven_sub_le (div_pos positive scale).le
  calc |roundedValue q - q|
      = |roundEven (q / 2 ^ lastPlace q) - q / 2 ^ lastPlace q| * 2 ^ lastPlace q := by
        rw [scaled, abs_mul, abs_of_pos scale]
    _ ≤ 1 / 2 * 2 ^ lastPlace q := mul_le_mul_of_nonneg_right half scale.le
    _ ≤ q / 2 ^ 53 := by
      rw [le_div_iff₀ (by norm_num)]
      linarith

/-- A rounded number is finite as long as nothing packs it. -/
theorem isFinite_rounded (sign : Sign) (q : ℚ) : (rounded sign q).isFinite := by
  -- Rounding gives digits or a zero, and never an infinity.
  unfold rounded
  dsimp only
  split_ifs <;> rfl

/-- A rounded number stands for a multiple of its last place. -/
theorem abs_partsValue_rounded (sign : Sign) (q : ℚ) :
    |partsValue (rounded sign q)| = roundedValue q := by
  have most := roundEven_lastPlace_le q
  unfold rounded roundedValue
  dsimp only
  split_ifs with nonzero fits
  · exact abs_partsValue nonzero
  · -- The carry moves one factor of two from the digits to the exponent.
    have carry : roundEven (q / 2 ^ lastPlace q) = 2 ^ 53 := by omega
    rw [abs_partsValue, carry, zpow_add₀ (by norm_num)]
    push_cast
    ring
  · have nothing : roundEven (q / 2 ^ lastPlace q) = 0 := by omega
    simp [nothing]

/-- The parts of a rounded number lack nothing but a bound on the exponent. -/
theorem normal_of_rounded {sign other : Sign} {m : Nat} {e : Int} {nonzero : 0 < m}
    (parts : rounded sign q = .finite other m e nonzero) :
    m < 2 ^ 53 ∧ -1074 ≤ e ∧ e ≤ lastPlace q + 1 ∧ (2 ^ 52 ≤ m ∨ e = -1074) := by
  -- What has digits is positive, since too small a number would be rounded to zero.
  have lowest : -1074 ≤ lastPlace q := le_max_right _ _
  have positive : 0 < q := by
    by_contra vanishing
    have tiny : q < 2 ^ (-1075 : Int) := lt_of_le_of_lt (not_lt.mp vanishing) (two_zpow_pos _)
    rw [rounded_of_lt sign tiny] at parts
    cases parts
  unfold rounded at parts
  dsimp only at parts
  split_ifs at parts with some fits
  · cases parts
    refine ⟨fits, lowest, by omega, ?_⟩
    by_cases low : lastPlace q = -1074
    · exact .inr low
    · -- The first digit stands 52 places in front of the last one.
      have place : 52 + lastPlace q ≤ Int.log 2 q := by
        unfold lastPlace at low ⊢
        omega
      refine .inl (le_roundEven ?_)
      rw [le_div_iff₀ (two_zpow_pos _)]
      have leading := (le_log_iff positive).mp place
      rw [zpow_add₀ (by norm_num)] at leading
      exact_mod_cast leading
  · -- A carry leaves the smallest digits with a leading one.
    cases parts
    exact ⟨by norm_num, by omega, by omega, .inl le_rfl⟩

/-- A number that does not overflow is rounded to parts that a double can have. -/
theorem isCanonical_rounded (sign : Sign) (small : q < 2 ^ (1023 : Int)) :
    IsCanonical (rounded sign q) := by
  -- A zero is canonical as it stands; a number has its digits normal, and its place is bounded
  -- because it is small enough.
  obtain ⟨other, parts⟩ | ⟨other, m, e, nonzero, parts⟩ := zero_or_finite (isFinite_rounded sign q)
  · rw [parts]
    trivial
  · obtain ⟨fits, lowest, highest, normal⟩ := normal_of_rounded parts
    have place : lastPlace q ≤ 970 := lastPlace_le (by norm_num) small
    rw [parts]
    exact ⟨fits, lowest, by omega, normal⟩

end

/-- Positive infinity is packed without loss. -/
@[simp] theorem unpack_infinity : infinity.toModel.unpack = .infinity .positive :=
  -- Infinity has only one spelling, so unpacking gives it back.
  unpack_pack trivial

/-- Infinity is not finite. -/
@[simp] theorem isFinite_infinity : infinity.isFinite = false := by
  -- The kind of the number is read off its parts.
  show infinity.toModel.unpack.isFinite = false
  rw [unpack_infinity]
  rfl

/-- It is a number. -/
theorem not_isNaN_infinity : ¬infinity.isNaN := by
  -- Its parts are an infinity, and only one other kind is no number.
  show ¬infinity.toModel.unpack.isNaN
  rw [unpack_infinity]
  decide

section

variable {x y : Float}

/-- Its parts belong to infinity alone. -/
theorem eq_infinity_of_unpack (parts : x.toModel.unpack = .infinity .positive) : x = infinity := by
  -- Equal parts pack to equal doubles.
  rw [← pack_unpack x, parts, infinity]

/-- No number is above infinity. -/
theorem le_infinity (number : ¬x.isNaN) : x ≤ infinity := by
  -- Infinity is compared by kinds alone: it is above all of them but the one that is no number.
  have status : x.isNaN = x.toModel.unpack.isNaN := rfl
  rw [status] at number
  rw [le_iff_compare, unpack_infinity]
  cases found : x.toModel.unpack with
  | notANumber =>
    rw [found] at number
    exact absurd rfl number
  | infinity sign => cases sign <;> rfl
  | zero sign => rfl
  | finite sign m e positive => rfl

/-- What is not below a finite double is finite or infinity. -/
theorem finite_or_infinity_of_le (finite : x.isFinite) (le : x ≤ y) :
    y.isFinite ∨ y = infinity := by
  refine or_iff_not_imp_left.mpr fun infinite => ?_
  rw [le_iff_compare] at le
  obtain parts | ⟨sign, parts⟩ := nan_or_infinity (Bool.eq_false_iff.mpr infinite)
  · -- Nothing compares to what is not a number.
    rw [parts] at le
    cases first : x.toModel.unpack <;> rw [first] at le <;> cases le
  · cases sign with
    | positive => exact eq_infinity_of_unpack parts
    | negative =>
      rw [parts] at le
      obtain ⟨other, first⟩ | ⟨other, m, e, positive, first⟩ := zero_or_finite finite <;>
        rw [first] at le <;> cases le

/-- Only infinity is not below infinity. -/
theorem eq_infinity_of_le (le : infinity ≤ x) : x = infinity := by
  -- Among the kinds only the positive infinity is at least infinity.
  rw [le_iff_compare, unpack_infinity] at le
  cases found : x.toModel.unpack with
  | infinity sign =>
    cases sign with
    | positive => exact eq_infinity_of_unpack found
    | negative =>
      rw [found] at le
      cases le
  | _ =>
    rw [found] at le
    cases le

/-- What is finite is a number. -/
theorem not_isNaN_of_isFinite (finite : x.isFinite) : ¬x.isNaN := by
  -- The one kind that is not a number is not finite either.
  intro status
  have finite' : x.toModel.unpack.isFinite := finite
  have parts : x.toModel.unpack = .notANumber := eq_notANumber status
  rw [parts] at finite'
  cases finite'

/-- There is a bound to what finite doubles stand for. -/
theorem value_lt (finite : x.isFinite) : value x < 2 ^ (1024 : Int) := by
  have canonical := isCanonical_unpack x
  -- A zero is below the bound, and a number has less than 2 ^ 53 units of at most 2 ^ 971 each.
  refine lt_of_le_of_lt (le_abs_self _) ?_
  unfold value
  obtain ⟨sign, parts⟩ | ⟨sign, m, e, positive, parts⟩ := zero_or_finite finite
  · rw [parts, partsValue_zero, abs_zero]
    exact two_zpow_pos _
  · rw [parts] at canonical ⊢
    obtain ⟨short, -, highest, -⟩ := canonical
    have digits : (m : ℚ) < 2 ^ (53 : Int) := by exact_mod_cast short
    rw [abs_partsValue]
    calc (m * 2 ^ e : ℚ) ≤ m * 2 ^ (971 : Int) := by
          refine mul_le_mul_of_nonneg_left ?_ (Nat.cast_nonneg m)
          exact zpow_le_zpow_right₀ (by norm_num) highest
      _ < 2 ^ (53 : Int) * 2 ^ (971 : Int) := mul_lt_mul_of_pos_right digits (two_zpow_pos _)
      _ = 2 ^ (1024 : Int) := (zpow_add₀ (by norm_num) _ _).symm

end

/-- The double nearest to a number that is not negative. -/
def nearest (q : ℚ) : Float :=
  .ofModel (.pack (rounded .positive q))

section

variable {p q : ℚ} {x : Float}

/-- Under a positive sign a number is its own magnitude. -/
private theorem partsValue_rounded_positive (q : ℚ) :
    partsValue (rounded .positive q) = roundedValue q := by
  -- The sign asked for is the positive one, so the value is its own absolute value.
  have sign := signOf_rounded .positive q
  rw [← abs_partsValue_rounded .positive]
  obtain ⟨other, parts⟩ | ⟨other, m, e, nonzero, parts⟩ :=
    zero_or_finite (isFinite_rounded .positive q)
  · rw [parts, partsValue_zero, abs_zero]
  · rw [parts] at sign ⊢
    obtain rfl : other = .positive := sign
    exact (abs_partsValue nonzero).symm

/-- Parts that a double can have become the double that stands for the rounded number. -/
private theorem number_of_isCanonical (canonical : IsCanonical (rounded .positive q)) :
    (nearest q).isFinite ∧ value (nearest q) = roundedValue q := by
  -- Canonical parts survive packing, so both questions are about the rounded parts.
  have parts : (nearest q).toModel.unpack = rounded .positive q := unpack_pack canonical
  refine ⟨?_, ?_⟩
  · show (nearest q).toModel.unpack.isFinite
    rw [parts]
    exact isFinite_rounded _ _
  · rw [value, parts, partsValue_rounded_positive]

/-- A number that is not too large is rounded to a finite double. -/
theorem isFinite_nearest (small : q < 2 ^ (1023 : Int)) :
    (nearest q).isFinite ∧ value (nearest q) = roundedValue q :=
  -- Below the bound the rounded parts are canonical.
  number_of_isCanonical (isCanonical_rounded _ small)

/-- The nearest double stands for the rounded number, or the number is too large for that. -/
theorem nearest_finite_or_infinity (q : ℚ) :
    ((nearest q).isFinite ∧ value (nearest q) = roundedValue q)
      ∨ (nearest q = infinity ∧ 2 ^ (1024 : Int) ≤ roundedValue q) := by
  by_cases canonical : IsCanonical (rounded .positive q)
  · exact .inl (number_of_isCanonical canonical)
  · -- All but the exponent is as in a double, so that must be too large.
    have sign := signOf_rounded .positive q
    have same := partsValue_rounded_positive q
    obtain ⟨other, parts⟩ | ⟨other, m, e, nonzero, parts⟩ :=
      zero_or_finite (isFinite_rounded .positive q)
    · rw [parts] at canonical
      exact absurd trivial canonical
    obtain ⟨fits, lowest, -, normal⟩ := normal_of_rounded parts
    rw [parts] at sign canonical same
    obtain rfl : other = .positive := sign
    have beyond : 972 ≤ e := by
      by_contra within
      exact canonical ⟨fits, lowest, by omega, normal⟩
    have full : 2 ^ 52 ≤ m := normal.resolve_right (by omega)
    have digits : (2 : ℚ) ^ (52 : Int) ≤ m := by exact_mod_cast full
    refine .inr ⟨?_, ?_⟩
    · -- An exponent this large overflows.
      rw [nearest, parts, pack_of_le_exponent nonzero beyond, infinity]
    · -- The digits are at least 2 ^ 52, in units of at least 2 ^ 972.
      calc (2 : ℚ) ^ (1024 : Int) = 2 ^ (52 : Int) * 2 ^ (972 : Int) := zpow_add₀ (by norm_num) 52 972
        _ ≤ m * 2 ^ (972 : Int) := mul_le_mul_of_nonneg_right digits (two_zpow_pos _).le
        _ ≤ m * 2 ^ e := by
          refine mul_le_mul_of_nonneg_left ?_ (Nat.cast_nonneg m)
          exact zpow_le_zpow_right₀ (by norm_num) beyond
        _ = roundedValue q := by rw [← same, partsValue_positive]

/-- A whole number of at most 53 binary digits is the number of its nearest double. -/
theorem nearest_natCast {n : Nat} (short : n < 2 ^ 53) :
    (nearest n).isFinite ∧ value (nearest n) = n := by
  -- A number below 2 ^ 53 is far below the overflow threshold, and it is its own rounded value.
  have small : (n : ℚ) < 2 ^ (1023 : Int) :=
    calc (n : ℚ) < 2 ^ (53 : Int) := by exact_mod_cast short
      _ < 2 ^ (1023 : Int) := zpow_lt_zpow_right₀ (by norm_num) (by norm_num)
  obtain ⟨finite, number⟩ := isFinite_nearest small
  exact ⟨finite, number.trans (roundedValue_natCast short)⟩

/-- A number that is too large is rounded to infinity. -/
theorem nearest_of_le (large : 2 ^ (1024 : Int) ≤ q) : nearest q = infinity := by
  -- Past the largest double the packing of the rounded parts overflows.
  rw [nearest, pack_rounded_of_le _ large, infinity]

/-- A number that a double stands for is nearest to that double. -/
theorem nearest_value (finite : x.isFinite) (positive : 0 < value x) : nearest (value x) = x := by
  -- The parts of a positive double are the ones that its own value rounds to.
  have parts := unpack_eq_rounded finite
  rw [signOf_unpack finite positive.ne', if_neg positive.not_gt, abs_of_pos positive] at parts
  rw [nearest, ← parts, pack_unpack]

/-- Doubles lie in the order of the numbers that they are nearest to. -/
theorem nearest_mono (positive : 0 < p) (le : p ≤ q) : nearest p ≤ nearest q := by
  -- Two finite roundings are compared by value, and infinity is above everything.
  have order := roundedValue_mono positive le
  obtain ⟨finite, same⟩ | ⟨infinite, large⟩ := nearest_finite_or_infinity p
  · obtain ⟨finite', same'⟩ | ⟨infinite', -⟩ := nearest_finite_or_infinity q
    · rwa [le_iff finite finite', same, same']
    · rw [infinite']
      exact le_infinity (not_isNaN_of_isFinite finite)
  · obtain ⟨finite', same'⟩ | ⟨infinite', -⟩ := nearest_finite_or_infinity q
    · -- An overflow below a finite result is impossible: the larger number would have overflowed too.
      have bound := value_lt finite'
      rw [same'] at bound
      exact absurd (large.trans order) bound.not_ge
    · rw [infinite, infinite']
      exact le_infinity not_isNaN_infinity

end

end Double

end PocketCalculator
