import PocketCalculator.Arithmetic.Factorial
import PocketCalculator.Proofs.Arithmetic.Products

/-! The factorial of every double: where it is defined, how soon it is computed, and how it grows. -/

namespace PocketCalculator

open Double
open Float.Model (UnpackedFloat)

/-- After some rounds of the loop there is a factor left, and the product is finite. -/
def Continues (last : Float) (rounds : Nat) : Prop :=
  nthFactor rounds ≤ last ∧ (partialProduct rounds).isFinite

/-- The loop stops at the first round that its condition forbids, however many steps are left. -/
theorem multiplyUp_eq {last : Float} {steps start rounds : Nat} (begun : start ≤ rounds)
    (enough : rounds ≤ start + steps) (goesOn : ∀ j, start ≤ j → j < rounds → Continues last j)
    (stops : ¬Continues last rounds) :
    multiplyUp last steps (nthFactor start) (partialProduct start) = partialProduct rounds := by
  -- The induction is on the steps left, with the round the loop stands at generalised: the loop
  -- meets its own condition in each round before the last one.
  induction steps generalizing start with
  | zero =>
    -- No step is left, so the loop stands at its last round already.
    obtain rfl : start = rounds := by omega
    rfl
  | succ steps ih =>
    rw [multiplyUp]
    rcases begun.lt_or_eq with before | rfl
    · -- Its condition holds here: one more multiplication, and one step less to go.
      obtain ⟨left, finite⟩ := goesOn start le_rfl before
      rw [if_pos (by simp [left, finite])]
      exact ih before (by omega) fun j later => goesOn j (by omega)
    · -- The condition fails at the last round, and the loop returns its accumulator.
      refine if_neg fun goesOn => stops ?_
      simpa [Continues] using goesOn

/-- From its start the loop needs no more steps than it makes rounds. -/
theorem multiplyUp_start {last : Float} {steps rounds : Nat} (enough : rounds ≤ steps)
    (goesOn : ∀ j < rounds, Continues last j) (stops : ¬Continues last rounds) :
    multiplyUp last steps 2 1 = partialProduct rounds := by
  -- The loop starts at the first factor with the empty product, which is round zero.
  have whole := @multiplyUp_eq last steps 0 rounds (Nat.zero_le _) (by omega)
    (fun j _ before => goesOn j before) stops
  exact whole

section

variable {n v : Float} {k : Nat}

/-- The loop makes 170 rounds at most, for then the product is infinite. -/
theorem not_continues_last (n : Float) : ¬Continues n 170 := by
  -- The product of round 170 has overflowed, so the loop cannot go on there.
  rintro ⟨-, finite⟩
  have within := (isFinite_partialProduct_iff le_rfl).mp finite
  omega

/-- Up to a whole number there is a round for each factor, as long as the product is finite. -/
theorem continues_iff (finite : n.isFinite) (number : value n = k) {j : Nat} (few : j ≤ 170) :
    Continues n j ↔ j + 2 ≤ k ∧ j ≤ 169 := by
  -- The factor of a round is a whole number, so the comparison of doubles is one of naturals.
  obtain ⟨finite', number'⟩ := number_nthFactor few
  rw [Continues, isFinite_partialProduct_iff few, le_iff finite' finite, number, number',
    Nat.cast_le]

/-- The factorial of a whole number is the product of the factors up to it. -/
theorem multiplyUp_of_natCast (finite : n.isFinite) (number : value n = k) :
    multiplyUp n maxFactors 2 1 = partialProduct (min (k - 1) 170) := by
  -- The loop runs until the factor passes n or the product overflows, whichever comes first.
  refine multiplyUp_start (by simp [maxFactors]) ?_ ?_
  · intro j before
    exact (continues_iff finite number (by omega)).mpr (by omega)
  · rw [continues_iff finite number (by omega)]
    omega

/-- The factorial of infinity is the product of all factors that are ever used. -/
theorem multiplyUp_infinity : multiplyUp infinity maxFactors 2 1 = infinity := by
  -- No factor passes infinity, so only the overflow at round 170 ends the loop.
  refine (multiplyUp_start le_rfl ?_ (not_continues_last _)).trans partialProduct_last
  intro j before
  have few : j < 170 := before
  refine ⟨le_infinity ?_, (isFinite_partialProduct_iff (by omega)).mpr (by omega)⟩
  exact not_isNaN_of_isFinite (@number_nthFactor j (by omega)).1

/-- Digits stand for a whole number if those behind the point are zeros. -/
private theorem exists_eq_natCast_iff (m : Nat) (e : Int) :
    (∃ k : Nat, (m * 2 ^ e : ℚ) = k) ↔ m % 2 ^ (-e).toNat = 0 := by
  -- A nonnegative exponent makes every mantissa whole; a negative one divides it by a power of two.
  rcases le_total 0 e with whole | fraction
  · have none : (-e).toNat = 0 := by omega
    rw [none, pow_zero, Nat.mod_one, ← pow_toNat 2 whole]
    exact iff_of_true ⟨m * 2 ^ e.toNat, by push_cast; rfl⟩ rfl
  · have power : (2 : ℚ) ^ e = ((2 ^ (-e).toNat : Nat) : ℚ)⁻¹ := by
      -- The mantissa is a whole number exactly when the power divides it.
      push_cast
      rw [pow_toNat 2 (by omega), zpow_neg, inv_inv]
    have nonzero : ((2 ^ (-e).toNat : Nat) : ℚ) ≠ 0 := by positivity
    rw [power, ← Nat.dvd_iff_mod_eq_zero]
    constructor
    · rintro ⟨k, same⟩
      rw [mul_inv_eq_iff_eq_mul₀ nonzero] at same
      exact ⟨k, by rw [mul_comm]; exact_mod_cast same⟩
    · rintro ⟨k, rfl⟩
      refine ⟨k, ?_⟩
      rw [mul_inv_eq_iff_eq_mul₀ nonzero]
      push_cast
      ring

/-- Infinite doubles have no fraction, and the others are tested for what they stand for. -/
theorem isWhole_eq_true_iff : isWhole n ↔ ¬n.isNaN ∧ (n.isFinite → IsWhole n) := by
  -- All three notions are read off the unpacked parts, one case per kind of double.
  have status : n.isNaN = n.toModel.unpack.isNaN := rfl
  have size : n.isFinite = n.toModel.unpack.isFinite := rfl
  rw [status, size, Double.isWhole_iff, value, isWhole]
  cases n.toModel.unpack with
  | notANumber => simp [UnpackedFloat.isNaN]
  | infinity sign => simp [UnpackedFloat.isNaN, UnpackedFloat.isFinite]
  | zero sign =>
    -- A zero is the whole number zero.
    refine iff_of_true rfl ⟨by simp [UnpackedFloat.isNaN], fun _ => ⟨0, ?_⟩⟩
    rw [partsValue_zero, abs_zero, Nat.cast_zero]
  | finite sign m e positive =>
    -- A number that is not zero is whole when its mantissa holds all the halves its exponent takes.
    rw [abs_partsValue, exists_eq_natCast_iff]
    simp [UnpackedFloat.isNaN, UnpackedFloat.isFinite]

/-- A double has no factorial if it is not a number, negative or a fraction. -/
def IsRefused (n : Float) : Prop :=
  n.isNaN ∨ n < 0 ∨ (n.isFinite ∧ ¬IsWhole n)

private theorem refused_iff : (n < 0 || !isWhole n) = true ↔ IsRefused n := by
  -- The guard is a disjunction of two tests; being refused has the three ways they come true.
  rw [Bool.or_eq_true, decide_eq_true_iff, Bool.not_eq_true', ← Bool.not_eq_true,
    isWhole_eq_true_iff, IsRefused]
  tauto

/-- Exactly those are refused. -/
theorem factorial_eq_error_iff : factorial n = .error .factorialDomain ↔ IsRefused n := by
  -- The error is returned under the guard and nowhere else.
  rw [factorial, ← refused_iff]
  split_ifs with refused <;> simp [refused]

/-- All others have the factorial that the loop computes. -/
theorem factorial_eq_ok_iff :
    factorial n = .ok v ↔ ¬IsRefused n ∧ v = multiplyUp n maxFactors 2 1 := by
  -- Past the guard the result is the loop's product.
  rw [factorial, ← refused_iff]
  split_ifs with refused <;> simp [refused, eq_comm]

/-- What has a factorial is a whole number that is not negative, or infinity. -/
theorem whole_or_infinity (accepted : ¬IsRefused n) :
    (∃ k : Nat, n.isFinite ∧ value n = k) ∨ n = infinity := by
  -- What the guard lets through is a number, not negative, and whole if it is finite.
  obtain ⟨number, nonneg, noFraction⟩ : ¬n.isNaN ∧ ¬n < 0 ∧ ¬(n.isFinite ∧ ¬IsWhole n) := by
    simpa only [IsRefused, not_or] using accepted
  by_cases finite : n.isFinite
  · -- A finite number is whole and not negative, hence a natural number.
    obtain ⟨z, whole⟩ : IsWhole n := by
      by_contra fraction
      exact noFraction ⟨finite, fraction⟩
    rw [lt_iff finite number_zero.1, number_zero.2, whole] at nonneg
    obtain ⟨k, rfl⟩ := Int.eq_ofNat_of_zero_le (by exact_mod_cast not_lt.mp nonneg : 0 ≤ z)
    exact .inl ⟨k, finite, whole⟩
  · -- An infinity that passes the guard is the positive one.
    obtain ⟨sign, parts⟩ := exists_infinity number finite
    cases sign with
    | negative =>
      refine absurd ?_ nonneg
      rw [lt_iff_compare, parts]
      rfl
    | positive => exact .inr (eq_infinity_of_unpack parts)

/-- A whole number that is not negative is not refused. -/
theorem not_isRefused_of_natCast (finite : n.isFinite) (number : value n = k) :
    ¬IsRefused n := by
  -- None of the three reasons for a refusal applies to a natural number.
  rintro (status | negative | ⟨-, fraction⟩)
  · exact not_isNaN_of_isFinite finite status
  · rw [lt_iff finite number_zero.1, number, number_zero.2] at negative
    exact absurd negative (Nat.cast_nonneg k).not_gt
  · exact fraction ⟨k, by rw [number]; push_cast; rfl⟩

/-- Infinity is not refused either. -/
theorem not_isRefused_infinity : ¬IsRefused infinity := by
  -- Infinity is a number, not negative and not finite, so no reason for a refusal applies.
  rintro (status | negative | ⟨finite, -⟩)
  · cases status
  · cases negative
  · rw [isFinite_infinity] at finite
    cases finite

/-- The factorial of a whole number is a product of as many factors, with 170 at most. -/
theorem factorial_of_natCast (finite : n.isFinite) (number : value n = k) :
    factorial n = .ok (partialProduct (min (k - 1) 170)) :=
  -- The guard lets the number through, and the loop runs for as many rounds as it has factors.
  factorial_eq_ok_iff.mpr
    ⟨not_isRefused_of_natCast finite number, (multiplyUp_of_natCast finite number).symm⟩

/-- The factorial of infinity is infinity. -/
theorem factorial_infinity : factorial infinity = .ok infinity :=
  -- The guard lets infinity through, and the loop runs until its product overflows.
  factorial_eq_ok_iff.mpr ⟨not_isRefused_infinity, multiplyUp_infinity.symm⟩

/-- Each factorial is one of these. -/
theorem factorial_cases (found : factorial n = .ok v) :
    (∃ k : Nat, n.isFinite ∧ value n = k ∧ v = partialProduct (min (k - 1) 170))
      ∨ (n = infinity ∧ v = infinity) := by
  -- The accepted arguments are the natural numbers and infinity.
  obtain ⟨accepted, rfl⟩ := factorial_eq_ok_iff.mp found
  obtain ⟨k, finite, number⟩ | rfl := whole_or_infinity accepted
  · exact .inl ⟨k, finite, number, multiplyUp_of_natCast finite number⟩
  · exact .inr ⟨rfl, multiplyUp_infinity⟩

/-- No factorial is smaller than one. -/
theorem one_le_factorial (found : factorial n = .ok v) : 1 ≤ v := by
  -- The empty product is one, and the products only grow from there.
  obtain ⟨k, -, -, rfl⟩ | ⟨-, rfl⟩ := factorial_cases found
  · have empty : partialProduct 0 = 1 := rfl
    rw [← empty]
    exact partialProduct_mono (Nat.zero_le _) (min_le_right _ _)
  · exact le_infinity (not_isNaN_of_isFinite number_one.1)

/-- Larger numbers have no smaller factorials. -/
theorem factorial_mono {m u : Float} (found : factorial m = .ok u) (found' : factorial n = .ok v)
    (le : m ≤ n) : u ≤ v := by
  obtain ⟨k, finite', number', rfl⟩ | ⟨-, rfl⟩ := factorial_cases found'
  · obtain ⟨i, finite, number, rfl⟩ | ⟨rfl, rfl⟩ := factorial_cases found
    · rw [le_iff finite finite', number, number', Nat.cast_le] at le
      exact partialProduct_mono (by omega) (min_le_right _ _)
    · -- Nothing finite is above infinity.
      rw [eq_infinity_of_le le, isFinite_infinity] at finite'
      cases finite'
  · refine le_infinity ?_
    obtain ⟨i, -, -, rfl⟩ | ⟨-, rfl⟩ := factorial_cases found
    · by_cases within : min (i - 1) 170 ≤ 169
      · exact not_isNaN_of_isFinite (isRounded_partialProduct within).finite
      · rw [(partialProduct_eq_infinity_iff (min_le_right _ _)).mpr (by omega)]
        exact not_isNaN_infinity
    · exact not_isNaN_infinity

/-- The number whose factorial overflows first is a double. -/
private theorem number_171 : (171 : Float).isFinite ∧ value 171 = 171 := by
  -- The integer 171 is packed with the exponent -45.
  have number : (171 : Float).isFinite ∧ value 171 = (171 * 2 ^ 45 : Nat) * 2 ^ (-45 : Int) :=
    number_of_parts rfl
  norm_num at number
  exact number

/-- Infinite are the factorials from that of 171 on. -/
theorem factorial_eq_infinity_iff (found : factorial n = .ok v) : v = infinity ↔ 171 ≤ n := by
  -- The argument is infinite or a natural number k; for k the product is that of round k - 1.
  obtain ⟨finite', last⟩ := number_171
  obtain ⟨k, finite, number, rfl⟩ | ⟨rfl, rfl⟩ := factorial_cases found
  · rw [partialProduct_eq_infinity_iff (min_le_right _ _), le_iff finite' finite, last, number]
    have bound : (171 : ℚ) ≤ k ↔ 171 ≤ k := by norm_cast
    rw [bound]
    omega
  · exact iff_of_true rfl (le_infinity (not_isNaN_of_isFinite finite'))

/-- One less than a whole number is a whole number, and the exact one as long as it matters. -/
theorem exists_value_sub_one (finite : n.isFinite) (number : value n = k) (least : 1 ≤ k) :
    ∃ i : Nat, (n - 1).isFinite ∧ value (n - 1) = i ∧ (k ≤ 171 → i = k - 1)
      ∧ (172 ≤ k → 171 ≤ i) := by
  obtain ⟨finite', one⟩ := number_one
  have above : (1 : ℚ) ≤ k := by exact_mod_cast least
  -- The difference is rounded from its exact value.
  have exact : n - 1 = nearest (k - 1 : Nat) := by
    rw [sub_eq finite finite' (by rw [one]; norm_num) (by rwa [one, number]), number, one,
      Nat.cast_sub least, Nat.cast_one]
  rw [exact]
  by_cases short : k ≤ 171
  · -- A small difference is a double, so it is not rounded at all.
    obtain ⟨finite', number'⟩ := @nearest_natCast (k - 1) (by omega)
    exact ⟨k - 1, finite', number', fun _ => rfl, fun large => by omega⟩
  · -- A large number is rounded, but neither below 171 nor to infinity.
    have within : nearest (k - 1 : Nat) ≤ n := by
      have positive : (0 : ℚ) < (k - 1 : Nat) := by exact_mod_cast (by omega : 0 < k - 1)
      have order : nearest (k - 1 : Nat) ≤ nearest k :=
        nearest_mono positive (by exact_mod_cast Nat.sub_le k 1)
      rwa [← number, nearest_value finite (by linarith)] at order
    obtain ⟨finite', number'⟩ | ⟨infinite, -⟩ := nearest_finite_or_infinity (k - 1 : Nat)
    · obtain ⟨i, whole⟩ := exists_roundedValue_natCast (k - 1)
      have order : roundedValue (171 : Nat) ≤ roundedValue (k - 1 : Nat) :=
        roundedValue_mono (by norm_num) (by exact_mod_cast (by omega : 171 ≤ k - 1))
      rw [roundedValue_natCast (by norm_num), whole] at order
      exact ⟨i, finite', number'.trans whole, fun few => absurd few short,
        fun _ => by exact_mod_cast order⟩
    · rw [infinite] at within
      rw [eq_infinity_of_le within, isFinite_infinity] at finite
      cases finite

/-- What is at least one and has no fraction is a whole number or infinity. -/
theorem whole_or_infinity_of_le (whole : n.isFinite → IsWhole n) (least : 1 ≤ n) :
    (∃ k : Nat, n.isFinite ∧ value n = k ∧ 1 ≤ k) ∨ n = infinity := by
  -- A finite whole number of at least one is a positive natural number.
  obtain ⟨oneFinite, one⟩ := number_one
  obtain finite | same := finite_or_infinity_of_le oneFinite least
  · obtain ⟨z, number⟩ := whole finite
    rw [le_iff oneFinite finite, one, number] at least
    have some : 1 ≤ z := by exact_mod_cast least
    obtain ⟨k, rfl⟩ := Int.eq_ofNat_of_zero_le (by omega : 0 ≤ z)
    exact .inl ⟨k, finite, number, by omega⟩
  · exact .inr same

/-- As long as nothing overflows, the last factor of a factorial is the number itself. -/
theorem partialProduct_mul (finite : n.isFinite) (number : value n = k) (least : 1 ≤ k)
    (few : k ≤ 171) :
    partialProduct (min (k - 1 - 1) 170) * n = partialProduct (min (k - 1) 170) := by
  obtain ⟨oneFinite, one⟩ := number_one
  rcases least.lt_or_eq with two | rfl
  · have factor : nthFactor (k - 2) = n := by
      obtain ⟨finite', number'⟩ := @number_nthFactor (k - 2) (by omega)
      rw [Nat.sub_add_cancel two] at number'
      refine eq_of_value_eq finite' finite (number'.trans number.symm) ?_
      rw [number']
      positivity
    have before : min (k - 1 - 1) 170 = k - 2 := by omega
    have after : min (k - 1) 170 = k - 2 + 1 := by omega
    rw [before, after, partialProduct, factor]
  · -- One is the product of no factors at all.
    have same : n = 1 := by
      refine eq_of_value_eq finite oneFinite ?_ ?_ <;> rw [number] <;> simp [one]
    rw [same]
    exact one_mul_one

/-- The factorial of a number is that of the number before it times the number. -/
theorem factorial_step (whole : n.isFinite → IsWhole n) (least : 1 ≤ n) :
    ∃ u, factorial (n - 1) = .ok u ∧ factorial n = .ok (u * n) := by
  obtain ⟨k, finite, number, some⟩ | rfl := whole_or_infinity_of_le whole least
  · obtain ⟨i, finite', number', small, large⟩ := exists_value_sub_one finite number some
    refine ⟨_, factorial_of_natCast finite' number', ?_⟩
    rw [factorial_of_natCast finite number]
    congr 1
    by_cases few : k ≤ 171
    · -- While the product is finite, the last factor of the loop is the number itself.
      obtain rfl := small few
      exact (partialProduct_mul finite number some few).symm
    · -- Both products overflowed, so the factor makes no difference.
      have last : min (k - 1) 170 = 170 := by omega
      have last' : min (i - 1) 170 = 170 := by omega
      have positive : 0 < value n := by
        rw [number]
        exact_mod_cast some
      rw [last, last', partialProduct_last, infinity_mul finite positive]
  · -- Infinity less one is infinity, and its factorial is too.
    refine ⟨infinity, ?_, ?_⟩
    · rw [infinity_sub number_one.1]
      exact factorial_infinity
    · rw [infinity_mul_infinity]
      exact factorial_infinity

/-- The loop ends by itself after 170 rounds at most, also for numbers that have no factorial. -/
theorem exists_rounds (n : Float) :
    ∃ rounds ≤ 170, (∀ earlier < rounds, Continues n earlier) ∧ ¬Continues n rounds := by
  -- The last round fails for certain, so there is a first round at which the condition fails.
  classical
  have stops : ∃ rounds, ¬Continues n rounds := ⟨170, not_continues_last n⟩
  refine ⟨Nat.find stops, Nat.find_min' stops (not_continues_last n), ?_, Nat.find_spec stops⟩
  intro earlier before
  exact not_not.mp (Nat.find_min stops before)

end

/--
The factorial of any double: the loop makes at most 170 multiplications, whatever its steps allow.

It is refused for what is not a number, negative or a fraction.
All others have a factorial of at least one, which grows with the number,
is the factorial of one less times the number, and is infinite from 171 on.
-/
theorem factorial_of_every_double (n : Float) :
    (∃ rounds ≤ 170,
        (∀ earlier < rounds, nthFactor earlier ≤ n ∧ (partialProduct earlier).isFinite)
        ∧ ¬(nthFactor rounds ≤ n ∧ (partialProduct rounds).isFinite)
        ∧ (∀ steps ≥ rounds, multiplyUp n steps 2 1 = partialProduct rounds)
        ∧ ∀ v, factorial n = .ok v → v = partialProduct rounds)
      ∧ (factorial n = .error .factorialDomain
        ↔ n.isNaN ∨ n < 0 ∨ (n.isFinite ∧ ¬IsWhole n))
      ∧ (¬(n.isNaN ∨ n < 0 ∨ (n.isFinite ∧ ¬IsWhole n)) → ∃ v, factorial n = .ok v ∧ 1 ≤ v)
      ∧ (∀ m u v, factorial m = .ok u → factorial n = .ok v → m ≤ n → u ≤ v)
      ∧ ((n.isFinite → IsWhole n) → 1 ≤ n →
        ∃ u, factorial (n - 1) = .ok u ∧ factorial n = .ok (u * n))
      ∧ ∀ v, factorial n = .ok v → (v = infinity ↔ 171 ≤ n) := by
  refine ⟨?_, factorial_eq_error_iff, ?_, fun m u v => factorial_mono, factorial_step,
    fun v => factorial_eq_infinity_iff⟩
  · -- The first round whose condition fails bounds the loop from both sides.
    obtain ⟨rounds, few, goesOn, stops⟩ := exists_rounds n
    refine ⟨rounds, few, goesOn, stops, fun steps enough => multiplyUp_start enough goesOn stops, ?_⟩
    intro v found
    rw [(factorial_eq_ok_iff.mp found).2]
    exact multiplyUp_start few goesOn stops
  · -- An accepted argument has a product, and every product is at least one.
    intro accepted
    have found := factorial_eq_ok_iff.mpr ⟨accepted, rfl⟩
    exact ⟨_, found, one_le_factorial found⟩

/-- The factorial of 171 is that of 170 times 171, which overflows. -/
theorem factorial_of_every_double_overflow :
    -- At 171 the factorial has overflowed, while that of 170 has not; the step still holds.
    ∃ u, factorial (171 - 1) = .ok u ∧ factorial 171 = .ok (u * 171) ∧ u * 171 = infinity := by
  obtain ⟨finite, number⟩ := number_171
  have least : (1 : Float) ≤ 171 := by
    rw [le_iff number_one.1 finite, number_one.2, number]
    norm_num
  have whole : IsWhole 171 := ⟨171, by rw [number]; norm_num⟩
  obtain ⟨-, -, -, -, step, infinite⟩ := factorial_of_every_double 171
  obtain ⟨u, before, found⟩ := step (fun _ => whole) least
  have same : (171 : Float) ≤ 171 := (le_iff finite finite).mpr le_rfl
  exact ⟨u, before, found, (infinite _ found).mpr same⟩

end PocketCalculator
