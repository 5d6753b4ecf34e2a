import PocketCalculator.Proofs.Double.Whole

/-! Sums, differences and products of positive doubles, which are rounded once. -/

namespace PocketCalculator

namespace Double

open Float.Model (UnpackedFloat Format)
open Float.Model.UnpackedFloat (Sign decreaseExponent roundWithAccuracy)

/-- Digits may be written down to a finer place. -/
private theorem decreaseExponent_eq (m : Nat) {place e : Int} (finer : place ≤ e) :
    ((decreaseExponent m e place).1 : ℚ) * 2 ^ place = m * 2 ^ e := by
  -- Zeros are appended to the digits and the exponent is lowered by as many.
  unfold decreaseExponent
  dsimp only
  rw [Nat.shiftLeft_eq]
  push_cast
  rw [pow_toNat 2 (by omega), zpow_sub₀ (by norm_num), mul_assoc,
    div_mul_cancel₀ _ (two_zpow_pos place).ne']

/-- Digits without a sign are rounded to the nearest double. -/
private theorem normalize_of_nonneg {n : Int} (nonneg : 0 ≤ n) (e : Int) :
    UnpackedFloat.normalize Format.binary64 n e .positive = rounded .positive (n * 2 ^ e) := by
  -- A natural number is its own magnitude, with the positive sign.
  obtain ⟨digits, rfl⟩ := Int.eq_ofNat_of_zero_le nonneg
  rw [normalize_eq, signOfInt, if_neg (by omega)]
  rfl

section

variable {x y : Float}

/-- A positive double has digits and no sign. -/
private theorem exists_parts (finite : x.isFinite) (positive : 0 < value x) :
    ∃ m e nonzero, x.toModel.unpack = .finite .positive m e nonzero ∧ value x = m * 2 ^ e := by
  -- A positive double has the positive sign, and a zero is not positive.
  have sign := signOf_unpack finite positive.ne'
  rw [if_neg positive.not_gt] at sign
  unfold value at positive ⊢
  obtain ⟨other, parts⟩ | ⟨other, m, e, nonzero, parts⟩ := zero_or_finite finite
  · rw [parts, partsValue_zero] at positive
    exact absurd positive (lt_irrefl _)
  · rw [parts] at sign ⊢
    obtain rfl : other = .positive := sign
    exact ⟨m, e, nonzero, rfl, partsValue_positive nonzero⟩

/-- The sum of positive doubles is the double nearest to the sum of their numbers. -/
theorem add_eq (finite : x.isFinite) (positive : 0 < value x) (finite' : y.isFinite)
    (positive' : 0 < value y) : x + y = nearest (value x + value y) := by
  obtain ⟨m, d, nonzero, parts, number⟩ := exists_parts finite positive
  obtain ⟨n, e, nonzero', parts', number'⟩ := exists_parts finite' positive'
  -- The digits are added at the finer one of the two places.
  have aligned := decreaseExponent_eq m (min_le_left d e)
  have aligned' := decreaseExponent_eq n (min_le_right d e)
  have sum : x + y = .ofModel (.pack (UnpackedFloat.normalize Format.binary64
      ((decreaseExponent m d (min d e)).1 + (decreaseExponent n e (min d e)).1) (min d e)
      .positive)) := by
    show Float.ofModel (.pack (UnpackedFloat.add _ x.toModel.unpack y.toModel.unpack)) = _
    rw [parts, parts']
    rfl
  rw [sum, normalize_of_nonneg (by omega), nearest, number, number', ← aligned, ← aligned']
  push_cast
  rw [add_mul]

/-- Their difference is the double nearest to the difference, if that is not negative. -/
theorem sub_eq (finite : x.isFinite) (finite' : y.isFinite) (positive' : 0 < value y)
    (le : value y ≤ value x) : x - y = nearest (value x - value y) := by
  -- Both operands are written at the lower of the two exponents, where the difference is one of
  -- digits and is rounded once.
  obtain ⟨m, d, nonzero, parts, number⟩ := exists_parts finite (lt_of_lt_of_le positive' le)
  obtain ⟨n, e, nonzero', parts', number'⟩ := exists_parts finite' positive'
  have aligned := decreaseExponent_eq m (min_le_left d e)
  have aligned' := decreaseExponent_eq n (min_le_right d e)
  have difference : x - y = .ofModel (.pack (UnpackedFloat.normalize Format.binary64
      ((decreaseExponent m d (min d e)).1 - (decreaseExponent n e (min d e)).1) (min d e)
      .positive)) := by
    show Float.ofModel (.pack (UnpackedFloat.sub _ x.toModel.unpack y.toModel.unpack)) = _
    rw [parts, parts']
    rfl
  rw [number, number', ← aligned, ← aligned'] at le
  have digits := le_of_mul_le_mul_right le (two_zpow_pos _)
  have nonneg : (decreaseExponent n e (min d e)).1 ≤ (decreaseExponent m d (min d e)).1 := by
    exact_mod_cast digits
  rw [difference, normalize_of_nonneg (by omega), nearest, number, number', ← aligned, ← aligned']
  push_cast
  rw [sub_mul]

/-- The product of positive doubles is the double nearest to the product of their numbers. -/
theorem mul_eq (finite : x.isFinite) (positive : 0 < value x) (finite' : y.isFinite)
    (positive' : 0 < value y) : x * y = nearest (value x * value y) := by
  obtain ⟨m, d, nonzero, parts, number⟩ := exists_parts finite positive
  obtain ⟨n, e, nonzero', parts', number'⟩ := exists_parts finite' positive'
  have canonical := isCanonical_unpack x
  have canonical' := isCanonical_unpack y
  rw [parts] at canonical
  rw [parts'] at canonical'
  obtain ⟨-, -, -, normal⟩ := canonical
  obtain ⟨-, -, -, normal'⟩ := canonical'
  have product : x * y = .ofModel (.pack
      (roundWithAccuracy Format.binary64 .positive (m * n) (d + e) .exact)) := by
    show Float.ofModel (.pack (UnpackedFloat.mul _ x.toModel.unpack y.toModel.unpack)) = _
    rw [parts, parts']
    rfl
  -- The exponents are added and the digits multiplied, without any rounding.
  have exact : value x * value y = (m * n : Nat) * 2 ^ (d + e) := by
    rw [number, number', zpow_add₀ (by norm_num)]
    push_cast
    ring
  have above : 0 < value x * value y := mul_pos positive positive'
  -- The product shows all digits down to its last place, for one of the factors does.
  have fine : d + e ≤ lastPlace (value x * value y) := by
    by_cases full : 2 ^ 52 ≤ m * n
    · have leading : 52 + (d + e) ≤ Int.log 2 (value x * value y) := by
        rw [le_log_iff above, exact, zpow_add₀ (by norm_num)]
        refine mul_le_mul_of_nonneg_right ?_ (two_zpow_pos _).le
        exact_mod_cast full
      unfold lastPlace
      omega
    · have few : m < 2 ^ 52 := lt_of_le_of_lt (Nat.le_mul_of_pos_right m nonzero') (not_le.mp full)
      have few' : n < 2 ^ 52 := lt_of_le_of_lt (Nat.le_mul_of_pos_left n nonzero) (not_le.mp full)
      have lowest : -1074 ≤ lastPlace (value x * value y) := le_max_right _ _
      omega
  have digits : value x * value y / 2 ^ (d + e) = (m * n : Nat) := by
    rw [exact, mul_div_cancel_right₀ _ (two_zpow_pos _).ne']
  -- The product is rounded once, from its exact value.
  have once : roundWithAccuracy Format.binary64 .positive (m * n) (d + e) .exact
      = rounded .positive (value x * value y) :=
    roundWithAccuracy_eq .positive above digits fine
  rw [product, once, nearest]

/-- A factor from one on makes nothing smaller. -/
theorem le_mul (finite : x.isFinite) (positive : 0 < value x) (finite' : y.isFinite)
    (least : 1 ≤ value y) : x ≤ x * y := by
  -- Rounding is monotone, and a double is its own rounding.
  have order : nearest (value x) ≤ nearest (value x * value y) :=
    nearest_mono positive (le_mul_of_one_le_right positive.le least)
  rwa [nearest_value finite positive, ← mul_eq finite positive finite' (by linarith)] at order

/-- A positive number of times infinity is infinity. -/
theorem infinity_mul (finite : x.isFinite) (positive : 0 < value x) :
    infinity * x = infinity := by
  -- A positive double is a number with digits, and infinity times such a number is infinity.
  obtain ⟨m, e, nonzero, parts, -⟩ := exists_parts finite positive
  show Float.ofModel (.pack (UnpackedFloat.mul _ infinity.toModel.unpack x.toModel.unpack)) = _
  rw [unpack_infinity, parts]
  rfl

/-- Nothing finite can be taken from infinity. -/
theorem infinity_sub (finite : x.isFinite) : infinity - x = infinity := by
  -- Infinity absorbs what is finite, a zero or a number.
  show Float.ofModel (.pack (UnpackedFloat.sub _ infinity.toModel.unpack x.toModel.unpack)) = _
  obtain ⟨sign, parts⟩ | ⟨sign, m, e, nonzero, parts⟩ := zero_or_finite finite <;>
    rw [unpack_infinity, parts] <;> rfl

end

/-- Infinity times infinity is infinity. -/
theorem infinity_mul_infinity : infinity * infinity = infinity := by
  -- The product of two infinities is decided by their kinds.
  show Float.ofModel (.pack (UnpackedFloat.mul _ infinity.toModel.unpack infinity.toModel.unpack)) = _
  rw [unpack_infinity]
  rfl

/-- Digits with a positive sign show that a double is finite, and what it stands for. -/
theorem number_of_parts {x : Float} {m : Nat} {e : Int} {nonzero : 0 < m}
    (parts : x.toModel.unpack = .finite .positive m e nonzero) :
    x.isFinite ∧ value x = m * 2 ^ e := by
  -- Kind and value are both read off the parts.
  refine ⟨?_, ?_⟩
  · show x.toModel.unpack.isFinite
    rw [parts]
    rfl
  · rw [value, parts, partsValue_positive]

/-- Zero stands for itself. -/
theorem number_zero : (0 : Float).isFinite ∧ value 0 = 0 :=
  -- Zero has no digits and the value is computed from its parts.
  ⟨rfl, rfl⟩

/-- One stands for itself. -/
theorem number_one : (1 : Float).isFinite ∧ value 1 = 1 := by
  -- One is packed as 2 ^ 52 at the exponent -52.
  have number : (1 : Float).isFinite ∧ value 1 = (2 ^ 52 : Nat) * 2 ^ (-52 : Int) :=
    number_of_parts rfl
  norm_num at number
  exact number

/-- One is the same as one once. -/
theorem one_mul_one : (1 : Float) * 1 = 1 := by
  -- The exact product is one, which is its own nearest double.
  obtain ⟨finite, one⟩ := number_one
  have positive : 0 < value 1 := by
    rw [one]
    norm_num
  have product := mul_eq finite positive finite positive
  rwa [one, mul_one, ← one, nearest_value finite positive] at product

end Double

end PocketCalculator
