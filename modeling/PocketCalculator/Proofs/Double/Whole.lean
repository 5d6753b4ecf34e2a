import PocketCalculator.Proofs.Double.Nearest

/-! Doubles that are whole numbers, and the whole part of any other one. -/

namespace PocketCalculator

namespace Double

open Float.Model (UnpackedFloat Format totalExponent)
open Float.Model.UnpackedFloat (Sign ExtendedMantissa decreaseExponent shiftToExponent)

/-- A whole number up to the sixty-third power of two is rounded to another such number. -/
theorem exists_rounded_eq_natCast {k : Nat} (bounded : k ≤ 2 ^ 63) (sign : Sign) :
    ∃ n : Nat, n ≤ 2 ^ 63 ∧ |partsValue (rounded sign k)| = n := by
  rw [abs_partsValue_rounded]
  have small : (k : ℚ) < 2 ^ (63 + 53 : Int) := by
    exact_mod_cast lt_of_le_of_lt bounded (by norm_num)
  -- The power itself is a double.
  have most : roundedValue k ≤ (1 : Nat) * 2 ^ (63 : Int) :=
    roundedValue_le (lastPlace_le (by norm_num) small) (by exact_mod_cast bounded)
  obtain ⟨n, whole⟩ := exists_roundedValue_natCast k
  rw [whole] at most
  exact ⟨n, by exact_mod_cast most, whole⟩

/-- The sign of an integer, where zero counts as positive. -/
def signOfInt (n : Int) : Sign :=
  if n < 0 then .negative else .positive

/-- Digits need no more than the shift to their last place. -/
theorem round_eq {m : Nat} (sign : Sign) (positive : 0 < m) (e : Int) :
    UnpackedFloat.round Format.binary64 sign m e = rounded sign (m * 2 ^ e) := by
  -- Rounding to a format moves digits down to the last place of the number they stand for.
  have above : (0 : ℚ) < m * 2 ^ e := mul_pos (by exact_mod_cast positive) (two_zpow_pos e)
  have digits : ⌊(m * 2 ^ e : ℚ) / 2 ^ e⌋₊ = m := by
    rw [mul_div_cancel_right₀ _ (two_zpow_pos e).ne', Nat.floor_natCast]
  have target : Format.binary64.targetExponent (totalExponent m e) = lastPlace (m * 2 ^ e) := by
    rw [targetExponent_binary64, lastPlace, log_eq_of_floor above digits positive.ne']
    omega
  unfold UnpackedFloat.round decreaseExponent
  dsimp only
  rw [target]
  generalize placed : (e - lastPlace (m * 2 ^ e)).toNat = places
  refine roundWithAccuracy_eq sign above ?_ ?_
  · -- If the digits end above that place, zeros are appended first and nothing is lost.
    have scaled : (m * 2 ^ e : ℚ) / 2 ^ (e - (places : Int)) = (m <<< places : Nat) := by
      rw [Nat.shiftLeft_eq, zpow_sub₀ (by norm_num), zpow_natCast]
      push_cast
      field_simp
    exact scaled
  · omega

/-- Digits with a sign of their own are rounded to the nearest double. -/
theorem normalize_eq (n : Int) (e : Int) :
    UnpackedFloat.normalize Format.binary64 n e .positive
      = rounded (signOfInt n) (n.natAbs * 2 ^ e) := by
  -- The sign of the integer picks the branch, and in each the magnitude is rounded.
  unfold UnpackedFloat.normalize signOfInt
  rcases lt_trichotomy n 0 with negative | rfl | positive
  · have magnitude : (-n).toNat = n.natAbs := by omega
    rw [compare_lt_iff_lt.mpr negative, if_pos negative, magnitude]
    exact round_eq .negative (by omega) e
  · rw [Int.natAbs_zero, Nat.cast_zero, zero_mul]
    exact (rounded_zero .positive).symm
  · have magnitude : n.toNat = n.natAbs := by omega
    rw [compare_gt_iff_gt.mpr positive, if_neg (by omega), magnitude]
    exact round_eq .positive (by omega) e

/-- An integer becomes the double nearest to it. -/
theorem ofInt_eq (n : Int) :
    UnpackedFloat.ofInt Format.binary64 n = rounded (signOfInt n) n.natAbs := by
  -- An integer is its own digits at the exponent zero.
  have rounding := normalize_eq n 0
  rwa [zpow_zero, mul_one] at rounding

/-- Converting to an integer cuts off what is behind the point. -/
theorem roundToInt_eq (sign : Sign) (m : Nat) (e : Int) :
    UnpackedFloat.roundToInt sign m e = sign.apply ⌊(m * 2 ^ e : ℚ)⌋₊ := by
  -- The digits are appended to for a positive exponent and cut off for a negative one;
  -- either way what remains is the whole part.
  have exact : Represents ⟨m <<< (e - 0).toNat, false, false⟩ (m <<< (e - 0).toNat : Nat) := rfl
  have floor := (exact.shiftRight (0 - (e - (e - 0).toNat)).toNat).floor
  have scaled : ((m <<< (e - 0).toNat : Nat) : ℚ) / 2 ^ (0 - (e - (e - 0).toNat)).toNat
      = m * 2 ^ e := by
    rw [Nat.shiftLeft_eq, ← zpow_natCast]
    rcases le_total 0 e with whole | fraction
    · have none : (0 - (e - (e - 0).toNat)).toNat = 0 := by omega
      rw [none]
      push_cast
      rw [pow_toNat 2 (by omega)]
      simp
    · have none : (e - 0).toNat = 0 := by omega
      rw [none, Int.toNat_of_nonneg (by omega)]
      simp [div_eq_mul_inv]
  rw [scaled] at floor
  rw [floor]
  rfl

section

variable {x : Float}

/-- The double of an integer has the parts that the integer is rounded to. -/
theorem unpack_ofWhole (n : Int64) :
    (ofWhole n).toModel.unpack = rounded (signOfInt n.toInt) n.toInt.natAbs := by
  -- A conversion rounds the integer, and a 64-bit one is far below the overflow threshold.
  have low := n.le_toInt
  have high := n.toInt_lt
  have parts : ofWhole n = .ofModel (.pack (rounded (signOfInt n.toInt) n.toInt.natAbs)) := by
    rw [← ofInt_eq]
    rfl
  rw [parts]
  refine unpack_pack (isCanonical_rounded _ ?_)
  have bounded : n.toInt.natAbs ≤ 2 ^ 63 := by omega
  calc (n.toInt.natAbs : ℚ) ≤ 2 ^ (63 : Int) := by exact_mod_cast bounded
    _ < 2 ^ (1023 : Int) := zpow_lt_zpow_right₀ (by norm_num) (by norm_num)

/-- The double of an integer is finite. -/
theorem isFinite_ofWhole (n : Int64) : (ofWhole n).isFinite := by
  -- What an integer is rounded to is always finite.
  show (ofWhole n).toModel.unpack.isFinite
  rw [unpack_ofWhole]
  exact isFinite_rounded _ _

/-- A double that is the double of an integer is whole and at most the sixty-third power of two. -/
theorem exists_value_ofWhole (n : Int64) :
    ∃ k : Nat, k ≤ 2 ^ 63 ∧ |value (ofWhole n)| = k := by
  -- The rounded magnitude of a 64-bit integer is whole and at most 2 ^ 63.
  have low := n.le_toInt
  have high := n.toInt_lt
  unfold value
  rw [unpack_ofWhole]
  exact exists_rounded_eq_natCast (by omega) _

/-- The whole part is the integer that is left when the places behind the point are cut off. -/
theorem wholePart_eq (finite : x.isFinite) :
    wholePart x = .ofIntClamp ((signOf x.toModel.unpack).apply ⌊|value x|⌋₊) := by
  -- The conversion back cuts the magnitude and clamps the result to 64 bits.
  show Int64.ofIntClamp (x.toModel.unpack.toInt _ _) = _
  congr 1
  unfold value
  obtain ⟨sign, parts⟩ | ⟨sign, m, e, positive, parts⟩ := zero_or_finite finite
  · -- A zero has no whole part, whichever sign it has.
    rw [parts]
    cases sign <;> simp [UnpackedFloat.toInt, signOf, Sign.apply]
  · -- A number is cut at the decimal point.
    rw [parts, abs_partsValue]
    exact roundToInt_eq sign m e

/-- A double at the upper end of the integers is the double of the integer just below. -/
private theorem rounded_maxValue :
    rounded (signOfInt Int64.maxValue.toInt) Int64.maxValue.toInt.natAbs
      = rounded .positive (2 ^ 63 : Nat) := by
  -- The largest 64-bit integer has more digits than a double, and both it and the power above it
  -- round to that power.
  have below := ofInt_eq Int64.maxValue.toInt
  have above := ofInt_eq (2 ^ 63)
  rw [← below]
  exact Eq.trans rfl above

/-- Stopping at the ends of the integers changes nothing that a double can tell. -/
private theorem rounded_clamp (sign : Sign) {k : Nat} (positive : 0 < k) (bounded : k ≤ 2 ^ 63) :
    rounded (signOfInt (Int64.ofIntClamp (sign.apply k)).toInt)
        (Int64.ofIntClamp (sign.apply k)).toInt.natAbs
      = rounded sign k := by
  -- Clamping leaves every integer alone except for 2 ^ 63, one past the largest.
  have lowest : Int64.minValue.toInt = -2 ^ 63 := rfl
  have highest : Int64.maxValue.toInt = 2 ^ 63 - 1 := rfl
  cases sign with
  | negative =>
    -- The lowest integer is 2 ^ 63 below zero, so no magnitude is clamped here.
    have kept : (Int64.ofIntClamp (-(k : Int))).toInt = -k :=
      Int64.toInt_ofIntClamp (by omega) (by omega)
    rw [Sign.apply, kept, signOfInt, if_pos (by omega), Int.natAbs_neg, Int.natAbs_natCast]
  | positive =>
    rw [Sign.apply]
    by_cases within : k < 2 ^ 63
    · -- Below the power there is an integer of that value.
      have kept : (Int64.ofIntClamp (k : Int)).toInt = k :=
        Int64.toInt_ofIntClamp (by omega) (by omega)
      rw [kept, signOfInt, if_neg (by omega), Int.natAbs_natCast]
    · -- The power itself is clamped to the integer before it, which rounds up again.
      obtain rfl : k = 2 ^ 63 := by omega
      exact rounded_maxValue

/-- A whole number in range is the double of its whole part, but for the sign of zero. -/
theorem ofWhole_wholePart (finite : x.isFinite) {k : Nat} (whole : |value x| = k)
    (bounded : k ≤ 2 ^ 63) : ofWhole (wholePart x) = if k = 0 then ofWhole 0 else x := by
  -- The whole part of a whole number is the number; only its sign is lost if it is zero.
  have cut : wholePart x = .ofIntClamp ((signOf x.toModel.unpack).apply k) := by
    rw [wholePart_eq finite, whole, Nat.floor_natCast]
  by_cases nothing : k = 0
  · rw [if_pos nothing, cut, nothing]
    cases signOf x.toModel.unpack <;> rfl
  -- Otherwise cutting and converting back restore the very same parts.
  have same : (ofWhole (wholePart x)).toModel.unpack = x.toModel.unpack := by
    have parts := unpack_eq_rounded finite
    rw [whole] at parts
    rw [unpack_ofWhole, cut]
    exact (rounded_clamp _ (Nat.pos_of_ne_zero nothing) bounded).trans parts.symm
  rw [if_neg nothing, ← pack_unpack (ofWhole (wholePart x)), same, pack_unpack]

/-- A double is whole if it stands for an integer. -/
def IsWhole (x : Float) : Prop :=
  ∃ n : ℤ, value x = n

/-- Only the magnitude decides whether a double is whole. -/
theorem isWhole_iff : IsWhole x ↔ ∃ k : Nat, |value x| = k := by
  -- A whole number and its magnitude are whole together.
  constructor
  · rintro ⟨n, whole⟩
    refine ⟨n.natAbs, ?_⟩
    rw [whole, Nat.cast_natAbs]
    push_cast
    rfl
  · rintro ⟨k, whole⟩
    rcases abs_eq (Nat.cast_nonneg k) |>.mp whole with positive | negative
    · exact ⟨k, by rw [positive]; push_cast; rfl⟩
    · exact ⟨-k, by rw [negative]; push_cast; rfl⟩

/-- A double equals its whole part exactly if it is whole and in the range of the integers. -/
theorem beq_ofWhole_iff (finite : x.isFinite) :
    x == ofWhole (wholePart x) ↔ IsWhole x ∧ |value x| ≤ 2 ^ 63 := by
  -- The comparison is one of values, and the double of the whole part is always whole.
  rw [beq_iff finite (isFinite_ofWhole _), isWhole_iff]
  constructor
  · -- Being equal to such a double, the number is whole and within its range.
    intro same
    obtain ⟨k, bounded, whole⟩ := exists_value_ofWhole (wholePart x)
    rw [← same] at whole
    refine ⟨⟨k, whole⟩, ?_⟩
    rw [whole]
    exact_mod_cast bounded
  · -- A whole number within the range comes back unchanged, or as the zero of the other sign.
    rintro ⟨⟨k, whole⟩, bounded⟩
    rw [whole] at bounded
    rw [ofWhole_wholePart finite whole (by exact_mod_cast bounded)]
    split_ifs with nothing
    · rw [nothing, Nat.cast_zero, abs_eq_zero] at whole
      rw [whole]
      rfl
    · rfl

/-- Doubles with places behind the point are small, for they have 53 digits at most. -/
theorem abs_value_lt_of_not_isWhole (finite : x.isFinite) (fraction : ¬IsWhole x) :
    |value x| < 2 ^ 52 := by
  have canonical := isCanonical_unpack x
  rw [isWhole_iff] at fraction
  unfold value at fraction ⊢
  -- A zero would be whole, so the number has digits.
  obtain ⟨sign, parts⟩ | ⟨sign, m, e, positive, parts⟩ := zero_or_finite finite
  · rw [parts]
    simp
  · rw [parts] at canonical fraction ⊢
    obtain ⟨short, -, -, -⟩ := canonical
    rw [abs_partsValue] at fraction ⊢
    -- With a nonnegative exponent the digits would be a whole number.
    have behind : e < 0 := by
      by_contra whole
      refine fraction ⟨m * 2 ^ e.toNat, ?_⟩
      push_cast
      rw [pow_toNat 2 (by omega)]
    have digits : (m : ℚ) < 2 ^ 53 := by exact_mod_cast short
    calc (m * 2 ^ e : ℚ) ≤ m * 2 ^ (-1 : Int) := by
          refine mul_le_mul_of_nonneg_left ?_ (Nat.cast_nonneg m)
          exact zpow_le_zpow_right₀ (by norm_num) (by omega)
      _ < 2 ^ 53 * 2 ^ (-1 : Int) := mul_lt_mul_of_pos_right digits (two_zpow_pos _)
      _ = 2 ^ 52 := by norm_num

end

end Double

end PocketCalculator
