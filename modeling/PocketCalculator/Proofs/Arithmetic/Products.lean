import PocketCalculator.Proofs.Double.Arithmetic

/-! The products of the whole numbers from two on, as doubles that are rounded after each factor. -/

namespace PocketCalculator

open Double

/-- A factor is the one before it plus one, and the first of them is two. -/
def nthFactor : Nat → Float
  | 0 => 2
  | j + 1 => nthFactor j + 1

/-- The product of the first factors, rounded after each of them. -/
def partialProduct : Nat → Float
  | 0 => 1
  | j + 1 => partialProduct j * nthFactor j

/-- The first factor is two. -/
private theorem number_nthFactor_zero : (nthFactor 0).isFinite ∧ value (nthFactor 0) = 2 := by
  -- Two is packed as 2 ^ 52 at the exponent -51.
  have number : (2 : Float).isFinite ∧ value 2 = (2 ^ 52 : Nat) * 2 ^ (-51 : Int) :=
    number_of_parts rfl
  norm_num at number
  exact number

/-- The factors are the whole numbers from two on. -/
theorem number_nthFactor {j : Nat} (few : j ≤ 170) :
    (nthFactor j).isFinite ∧ value (nthFactor j) = (j + 2 : Nat) := by
  -- The loop adds one to its factor, and up to 172 the sum of two whole numbers is exact.
  induction j with
  | zero => exact_mod_cast number_nthFactor_zero
  | succ j ih =>
    obtain ⟨finite, number⟩ := ih (by omega)
    obtain ⟨oneFinite, one⟩ := number_one
    have next : nthFactor (j + 1) = nearest (j + 3 : Nat) := by
      rw [nthFactor, add_eq finite (by rw [number]; positivity) oneFinite (by rw [one]; norm_num),
        number, one]
      push_cast
      congr 1
      ring
    rw [next]
    exact nearest_natCast (by omega)

/-- A double is what a product of whole numbers becomes when it is rounded some times. -/
structure IsRounded (product : ℚ) (roundings : Nat) (x : Float) : Prop where
  /-- Nothing overflowed. -/
  finite : x.isFinite
  /-- No factor is a fraction. -/
  one_le : 1 ≤ value x
  /-- Each rounding takes away one part in the fifty-third power of two at most. -/
  low : product * (1 - 1 / 2 ^ 53) ^ roundings ≤ value x
  /-- No rounding adds more than that either. -/
  high : value x ≤ product * (1 + 1 / 2 ^ 53) ^ roundings

/-- One factor more makes one rounding more. -/
theorem IsRounded.mul {product : ℚ} {roundings k : Nat} {x y : Float}
    (near : IsRounded product roundings x) (finite : y.isFinite) (number : value y = k)
    (least : 1 ≤ k) (small : product * k * (1 + 1 / 2 ^ 53) ^ roundings < 2 ^ (1023 : Int)) :
    IsRounded (product * k) (roundings + 1) (x * y) := by
  -- The exact product of a rounded number and a whole one is rounded once, which moves it by at
  -- most one part in 2 ^ 53; the accumulated errors of the earlier roundings are carried along.
  have factor : (1 : ℚ) ≤ k := by exact_mod_cast least
  have positive : 0 < value x := by linarith [near.one_le]
  have above := le_mul near.finite positive finite (by rwa [number])
  have exact : x * y = nearest (value x * k) := by
    rw [mul_eq near.finite positive finite (by rw [number]; linarith), number]
  have high : value x * k ≤ product * k * (1 + 1 / 2 ^ 53) ^ roundings := by
    nlinarith [near.high]
  have low : product * k * (1 - 1 / 2 ^ 53) ^ roundings ≤ value x * k := by
    nlinarith [near.low]
  -- The upper bound keeps the product below the overflow threshold, so it stays finite.
  obtain ⟨finite', value'⟩ := isFinite_nearest (lt_of_le_of_lt high small)
  rw [← exact] at finite' value'
  rw [le_iff near.finite finite'] at above
  -- From one on a rounding moves a number by at most a part in 2 ^ 53 of its own size.
  have one_le : 1 ≤ value x * k := by nlinarith [near.one_le]
  obtain ⟨least', most'⟩ := abs_le.mp (abs_roundedValue_sub_le one_le)
  refine ⟨finite', near.one_le.trans above, ?_, ?_⟩
  · rw [value', pow_succ, ← mul_assoc]
    nlinarith
  · rw [value', pow_succ, ← mul_assoc]
    nlinarith

/-- The errors of 169 roundings do not even double a product. -/
private theorem errors_le {j : Nat} (few : j ≤ 169) : (1 + 1 / 2 ^ 53 : ℚ) ^ j ≤ 2 :=
  -- The errors grow with the number of roundings, so the last one is the largest.
  calc (1 + 1 / 2 ^ 53 : ℚ) ^ j ≤ (1 + 1 / 2 ^ 53) ^ 169 := pow_le_pow_right₀ (by norm_num) few
    _ ≤ 2 := by norm_num

/-- They do not halve it either. -/
private theorem le_errors : (1 / 2 : ℚ) ≤ (1 - 1 / 2 ^ 53) ^ 169 := by
  -- One numeral against another: 169 roundings together lose less than half.
  norm_num

/-- The factorial of 170 is in the range of the doubles, and so is twice as much. -/
private theorem factorial_lt : (Nat.factorial 170 : ℚ) < 2 ^ (1022 : Int) := by
  -- As a power of a power its exponents stay small enough to be computed out.
  have power : (2 : ℚ) ^ (1022 : Int) = (2 ^ 73) ^ 14 := by
    rw [zpow_ofNat, ← pow_mul]
  rw [power]
  norm_num [Nat.factorial]

/-- The factorial of 171 is out of range, and so is half as much. -/
private theorem le_factorial : 2 ^ (1025 : Int) ≤ (Nat.factorial 171 : ℚ) := by
  -- The power is split for the same reason, into other factors.
  have power : (2 : ℚ) ^ (1025 : Int) = (2 ^ 41) ^ 25 := by
    rw [zpow_ofNat, ← pow_mul]
  rw [power]
  norm_num [Nat.factorial]

/-- Another factor makes a factorial of the next number. -/
private theorem factorial_mul (j : Nat) :
    (Nat.factorial (j + 1) : ℚ) * (j + 2 : Nat) = Nat.factorial (j + 2) := by
  -- The next factorial is the previous one times the next factor.
  rw [Nat.factorial_succ (j + 1)]
  push_cast
  ring

/-- Up to the factorial of 170 all products are finite. -/
theorem isRounded_partialProduct {j : Nat} (few : j ≤ 169) :
    IsRounded (Nat.factorial (j + 1)) j (partialProduct j) := by
  -- The induction is on the rounds of the loop: one multiplication adds one rounding.
  induction j with
  | zero =>
    -- Nothing is multiplied yet: the accumulator is one and the product is 1!.
    obtain ⟨finite, one⟩ := number_one
    exact ⟨finite, one.ge, by simp [partialProduct, one], by simp [partialProduct, one]⟩
  | succ j ih =>
    obtain ⟨finite, number⟩ := @number_nthFactor j (by omega)
    have near := ih (by omega)
    -- The next factor is exact, so the multiplication is the only new rounding.
    rw [partialProduct, ← factorial_mul]
    refine near.mul finite number (by omega) ?_
    rw [factorial_mul]
    -- The size condition is the same for all rounds: 170! and the errors fit below 2 ^ 1023.
    have factors : (Nat.factorial (j + 2) : ℚ) ≤ Nat.factorial 170 := by
      exact_mod_cast Nat.factorial_le (by omega)
    calc (Nat.factorial (j + 2) : ℚ) * (1 + 1 / 2 ^ 53) ^ j
        ≤ Nat.factorial 170 * 2 :=
          mul_le_mul factors (errors_le (by omega)) (by positivity) (by positivity)
      _ < 2 ^ (1022 : Int) * 2 := by linarith [factorial_lt]
      _ = 2 ^ (1023 : Int) := (zpow_add_one₀ (by norm_num) _).symm

/-- The next product overflows. -/
theorem partialProduct_last : partialProduct 170 = infinity := by
  -- One round later the exact product is 171!, which even at its lowest lies past the largest double.
  have near := @isRounded_partialProduct 169 le_rfl
  obtain ⟨finite, number⟩ := @number_nthFactor 169 (by omega)
  have large : (2 : ℚ) ^ (1024 : Int) ≤ value (partialProduct 169) * (169 + 2 : Nat) :=
    calc (2 : ℚ) ^ (1024 : Int) = 2 ^ (1025 : Int) * (1 / 2) := by
          rw [show (1025 : Int) = 1024 + 1 from rfl, zpow_add_one₀ (by norm_num)]
          ring
      _ ≤ Nat.factorial 171 * (1 - 1 / 2 ^ 53) ^ 169 :=
          mul_le_mul le_factorial le_errors (by norm_num) (by positivity)
      _ = Nat.factorial 170 * (1 - 1 / 2 ^ 53) ^ 169 * (169 + 2 : Nat) := by
          rw [← factorial_mul 169]
          ring
      _ ≤ value (partialProduct 169) * (169 + 2 : Nat) :=
          mul_le_mul_of_nonneg_right near.low (Nat.cast_nonneg _)
  rw [partialProduct, mul_eq near.finite (by linarith [near.one_le]) finite (by rw [number]; norm_num),
    number, nearest_of_le large]

/-- The products grow with each factor. -/
theorem partialProduct_le {i j : Nat} (le : i ≤ j) (few : j ≤ 169) :
    value (partialProduct i) ≤ value (partialProduct j) := by
  -- One step of the loop multiplies a number of at least one by a factor of at least one.
  induction j, le using Nat.le_induction with
  | base => exact le_rfl
  | succ j _ ih =>
    have near := @isRounded_partialProduct j (by omega)
    obtain ⟨finite, number⟩ := @number_nthFactor j (by omega)
    have least : 1 ≤ value (nthFactor j) := by
      rw [number]
      exact_mod_cast (by omega : 1 ≤ j + 2)
    have step := le_mul near.finite (by linarith [near.one_le]) finite least
    rw [← partialProduct, le_iff near.finite (isRounded_partialProduct few).finite] at step
    exact (ih (by omega)).trans step

/-- As doubles they keep growing up to infinity. -/
theorem partialProduct_mono {i j : Nat} (le : i ≤ j) (few : j ≤ 170) :
    partialProduct i ≤ partialProduct j := by
  -- Within the finite rounds the comparison is one of values; the last product is infinite.
  rcases few.lt_or_eq with within | rfl
  · have small := @isRounded_partialProduct i (by omega)
    have large := @isRounded_partialProduct j (by omega)
    rw [le_iff small.finite large.finite]
    exact partialProduct_le le (by omega)
  · -- Nothing that is a number lies above infinity, so the last product bounds all of them.
    rw [partialProduct_last]
    refine le_infinity ?_
    rcases le.lt_or_eq with before | rfl
    · exact not_isNaN_of_isFinite (@isRounded_partialProduct i (by omega)).finite
    · rw [partialProduct_last]
      exact not_isNaN_infinity

/-- Only the last of them is infinite. -/
theorem isFinite_partialProduct_iff {j : Nat} (few : j ≤ 170) :
    (partialProduct j).isFinite ↔ j ≤ 169 := by
  constructor
  · -- A later round would be the one whose product is infinite.
    intro finite
    by_contra last
    obtain rfl : j = 170 := by omega
    rw [partialProduct_last, isFinite_infinity] at finite
    cases finite
  · -- Up to the last but one round the product is a rounded factorial, hence finite.
    exact fun within => (isRounded_partialProduct within).finite

/-- Infinity is reached with the last of them. -/
theorem partialProduct_eq_infinity_iff {j : Nat} (few : j ≤ 170) :
    partialProduct j = infinity ↔ j = 170 := by
  constructor
  · -- Every earlier product is finite, and infinity is not.
    intro infinite
    by_contra within
    have finite := (isFinite_partialProduct_iff few).mpr (by omega)
    rw [infinite, isFinite_infinity] at finite
    cases finite
  · rintro rfl
    exact partialProduct_last

end PocketCalculator
