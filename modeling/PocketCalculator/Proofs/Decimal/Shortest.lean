import PocketCalculator.Proofs.Decimal.Nearest
import PocketCalculator.Proofs.Double.Spacing

/-! Seventeen digits name every double, and stay in the decade of what they stand for. -/

namespace PocketCalculator

namespace Decimal

open Float.Model (UnpackedFloat)

/-- The power of ten that the first digit counts. -/
def decade (decimal : Decimal) : Int :=
  decimal.exponent + (decimal.numerals.length - 1 : Nat)

/-- A power of ten is positive, also where its exponent is negative. -/
theorem ten_zpow_pos (k : Int) : (0 : ℚ) < 10 ^ k :=
  -- The base is positive, and so is each of its powers.
  zpow_pos (by norm_num) k

/-- Powers of ten grow with their exponents. -/
theorem ten_zpow_le {j k : Int} (le : j ≤ k) : (10 : ℚ) ^ j ≤ 10 ^ k :=
  -- The base is at least one, so its powers grow.
  zpow_le_zpow_right₀ (by norm_num) le

section

variable {decimal : Decimal}

/-- There is at least one digit. -/
theorem length_numerals_pos (decimal : Decimal) : 0 < decimal.numerals.length :=
  -- Zero is written with a digit too.
  Nat.length_toDigits_pos

/-- How many digits there are depends on the number that they make. -/
theorem length_numerals_le_iff {count : Nat} (some : 0 < count) :
    decimal.numerals.length ≤ count ↔ decimal.digits < 10 ^ count :=
  -- A number has at most as many digits as the power of ten it stays below.
  Nat.length_toDigits_le_iff (by decide) some

/-- Digits make less than the next power of ten. -/
theorem digits_lt (decimal : Decimal) : decimal.digits < 10 ^ decimal.numerals.length :=
  -- The bound is read at the number's own count of digits.
  (length_numerals_le_iff decimal.length_numerals_pos).mp le_rfl

/-- The first digit is no zero, unless all of them are. -/
theorem le_digits (positive : 0 < decimal.digits) :
    10 ^ (decimal.numerals.length - 1) ≤ decimal.digits := by
  rcases Nat.eq_zero_or_pos (decimal.numerals.length - 1) with single | several
  · rw [single]
    exact positive
  · -- One digit less would not be enough.
    have short : ¬decimal.numerals.length ≤ decimal.numerals.length - 1 := by omega
    rw [length_numerals_le_iff several] at short
    exact Nat.not_lt.mp short

/-- A power of ten is reached where its digits are, counted from the last place. -/
theorem le_value_iff {count : Nat} :
    10 ^ (decimal.exponent + count) ≤ decimal.value ↔ 10 ^ count ≤ decimal.digits := by
  -- Both sides are measured in units of the last place.
  unfold value
  rw [zpow_add₀ (by norm_num), zpow_natCast, mul_comm,
    mul_le_mul_iff_of_pos_right (ten_zpow_pos decimal.exponent)]
  exact_mod_cast Iff.rfl

/-- The same is true of not going beyond it. -/
theorem value_le_iff {count : Nat} :
    decimal.value ≤ 10 ^ (decimal.exponent + count) ↔ decimal.digits ≤ 10 ^ count := by
  -- In the same units, from the other side.
  unfold value
  rw [zpow_add₀ (by norm_num), zpow_natCast, mul_comm (10 ^ decimal.exponent : ℚ),
    mul_le_mul_iff_of_pos_right (ten_zpow_pos decimal.exponent)]
  exact_mod_cast Iff.rfl

/-- A decimal lies between the power of ten of its first digit and the next one. -/
theorem decade_bounds (positive : 0 < decimal.digits) :
    10 ^ decimal.decade ≤ decimal.value ∧ decimal.value < 10 ^ (decimal.decade + 1) := by
  -- The number of digits says between which powers of ten the digits lie, and the exponent moves
  -- both bounds.
  have some := decimal.length_numerals_pos
  have next : decimal.decade + 1 = decimal.exponent + decimal.numerals.length := by
    unfold decade
    omega
  rw [next, ← not_le, le_value_iff, decade, le_value_iff]
  exact ⟨le_digits positive, Nat.not_le.mpr (digits_lt decimal)⟩

/-- A power of ten is reached exactly if the first digit counts it. -/
theorem le_decade_iff (positive : 0 < decimal.digits) {k : Int} :
    k ≤ decimal.decade ↔ 10 ^ k ≤ decimal.value := by
  -- The value lies between two consecutive powers, so a power it reaches is not the upper one.
  obtain ⟨low, high⟩ := decade_bounds positive
  constructor
  · intro le
    exact (ten_zpow_le le).trans low
  · intro reached
    by_contra above
    have beyond : decimal.value < 10 ^ k := high.trans_le (ten_zpow_le (by omega))
    linarith

/-- What has digits is positive. -/
theorem value_pos_iff : 0 < decimal.value ↔ 0 < decimal.digits := by
  -- The power of ten is positive, so the digits decide.
  unfold value
  rw [mul_pos_iff_of_pos_right (ten_zpow_pos _), Nat.cast_pos]

end

section

variable {decimal near : Decimal} {places : Nat}

/-- Where nothing is cut off, the decimal itself is the nearer neighbour. -/
theorem neighbours_zero (decimal : Decimal) :
    ∃ above, decimal.neighbours 0 = [decimal, above] := by
  -- Nothing is cut off, so the lower neighbour is the number itself.
  refine ⟨⟨decimal.digits + 1, decimal.exponent⟩, ?_⟩
  simp [neighbours, Nat.mod_one]

/-- The nearer neighbour is at most half a unit of the last digit that is left away. -/
theorem exists_near (decimal : Decimal) (places : Nat) :
    ∃ near far, decimal.neighbours places = [near, far]
      ∧ 2 * |near.value - decimal.value| ≤ 10 ^ (decimal.exponent + places) := by
  have scale := ten_zpow_pos decimal.exponent
  -- The digits that are cut off and those that are left make up the number.
  have parts : (decimal.digits : ℚ) = (decimal.digits % 10 ^ places : Nat)
      + 10 ^ places * (decimal.digits / 10 ^ places : Nat) := by
    exact_mod_cast (Nat.mod_add_div decimal.digits (10 ^ places)).symm
  have within : ((decimal.digits % 10 ^ places : Nat) : ℚ) ≤ 10 ^ places := by
    exact_mod_cast (Nat.mod_lt decimal.digits (Nat.pow_pos (by decide))).le
  have unit : (10 : ℚ) ^ (decimal.exponent + places) = 10 ^ places * 10 ^ decimal.exponent := by
    rw [zpow_add₀ (by norm_num), zpow_natCast, mul_comm]
  by_cases low : 2 * (decimal.digits % 10 ^ places) < 10 ^ places
  · -- Less than half a unit is cut off, so the number below is at most that far away.
    refine ⟨_, _, if_pos low, ?_⟩
    have half : (2 : ℚ) * (decimal.digits % 10 ^ places : Nat) ≤ 10 ^ places := by
      exact_mod_cast low.le
    have nonneg : 0 ≤ ((decimal.digits % 10 ^ places : Nat) : ℚ) := Nat.cast_nonneg _
    have off : value ⟨decimal.digits / 10 ^ places, decimal.exponent + places⟩ - decimal.value
        = -((decimal.digits % 10 ^ places : Nat) * 10 ^ decimal.exponent) := by
      unfold value
      rw [unit, parts]
      ring
    rw [unit]
    show 2 * |value ⟨decimal.digits / 10 ^ places, decimal.exponent + places⟩ - decimal.value| ≤ _
    rw [off, abs_neg, abs_of_nonneg (mul_nonneg nonneg scale.le), ← mul_assoc]
    exact mul_le_mul_of_nonneg_right half scale.le
  · -- Otherwise the number above is as near or nearer.
    refine ⟨_, _, if_neg low, ?_⟩
    have half : (10 : ℚ) ^ places ≤ 2 * (decimal.digits % 10 ^ places : Nat) := by
      exact_mod_cast not_lt.mp low
    have off : value ⟨decimal.digits / 10 ^ places + 1, decimal.exponent + places⟩ - decimal.value
        = (10 ^ places - (decimal.digits % 10 ^ places : Nat)) * 10 ^ decimal.exponent := by
      unfold value
      push_cast
      rw [unit, parts]
      ring
    rw [unit]
    show 2 * |value ⟨decimal.digits / 10 ^ places + 1, decimal.exponent + places⟩ - decimal.value| ≤ _
    rw [off, abs_of_nonneg (mul_nonneg (by linarith) scale.le), ← mul_assoc]
    exact mul_le_mul_of_nonneg_right (by linarith) scale.le

/-- Both neighbours have as many digits as are left, and stay in the decade of the whole. -/
theorem neighbours_bounds (positive : 0 < decimal.digits) (fewer : places < decimal.numerals.length)
    (member : near ∈ decimal.neighbours places) :
    0 < near.digits ∧ near.digits ≤ 10 ^ (decimal.numerals.length - places)
      ∧ 10 ^ decimal.decade ≤ near.value ∧ near.value ≤ 10 ^ (decimal.decade + 1) := by
  -- The digits that are left begin with the first one, and a carry makes at most one more.
  have low : 10 ^ (decimal.numerals.length - 1 - places) ≤ decimal.digits / 10 ^ places := by
    rw [Nat.le_div_iff_mul_le (Nat.pow_pos (by decide)), ← Nat.pow_add]
    refine (Nat.pow_le_pow_right (by decide) ?_).trans (le_digits positive)
    omega
  have high : decimal.digits / 10 ^ places < 10 ^ (decimal.numerals.length - places) := by
    rw [Nat.div_lt_iff_lt_mul (Nat.pow_pos (by decide)), ← Nat.pow_add]
    refine (digits_lt decimal).trans_le (Nat.pow_le_pow_right (by decide) ?_)
    omega
  -- Above and below have the same exponent, and differ by one in their digits.
  have among : near.exponent = decimal.exponent + places
      ∧ (near.digits = decimal.digits / 10 ^ places ∨ near.digits = decimal.digits / 10 ^ places + 1) := by
    unfold neighbours at member
    dsimp only at member
    split at member
    all_goals
      simp only [List.mem_cons, List.not_mem_nil, or_false] at member
      rcases member with rfl | rfl
      · exact ⟨rfl, by simp⟩
      · exact ⟨rfl, by simp⟩
  obtain ⟨exponent, digits⟩ := among
  have least : 10 ^ (decimal.numerals.length - 1 - places) ≤ near.digits := by omega
  have most : near.digits ≤ 10 ^ (decimal.numerals.length - places) := by omega
  -- The first digit stays in its decade, and a carry reaches no further than the next one.
  have first : decimal.decade = near.exponent + (decimal.numerals.length - 1 - places : Nat) := by
    unfold decade
    omega
  have next : decimal.decade + 1 = near.exponent + (decimal.numerals.length - places : Nat) := by
    unfold decade
    omega
  refine ⟨lt_of_lt_of_le (Nat.pow_pos (by decide)) least, most, ?_, ?_⟩
  · rw [first]
    exact le_value_iff.mpr least
  · rw [next]
    exact value_le_iff.mpr most

end

section

variable {decimal : Decimal}

/-- Taking zeros away makes the digits no more. -/
theorem digits_trimmed_le (decimal : Decimal) : decimal.trimmed.digits ≤ decimal.digits := by
  -- Along the recursion: a zero is dropped by dividing, which never makes the digits more.
  fun_induction trimmed decimal with
  | case1 decimal trailing ih => exact ih.trans (Nat.div_le_self _ _)
  | case2 decimal full => exact le_rfl

/-- What is left ends in no zero, unless it is zero. -/
theorem digits_trimmed_mod (decimal : Decimal) :
    decimal.trimmed.digits = 0 ∨ decimal.trimmed.digits % 10 ≠ 0 := by
  -- Along the recursion: it ends where the last digit is no zero, or there are no digits.
  fun_induction trimmed decimal with
  | case1 decimal trailing ih => exact ih
  | case2 decimal full => omega

/-- A power of ten has more digits than it needs. -/
theorem digits_trimmed_lt {count : Nat} (some : 0 < count) (most : decimal.digits ≤ 10 ^ count) :
    decimal.trimmed.digits < 10 ^ count := by
  have less := decimal.digits_trimmed_le
  refine lt_of_le_of_ne (less.trans most) fun same => ?_
  -- All digits of the power but the first are zeros.
  have nonzero : 10 ^ count ≠ 0 := (Nat.pow_pos (by decide)).ne'
  have zeros : 10 ^ count % 10 = 0 := Nat.mod_eq_zero_of_dvd (dvd_pow_self 10 some.ne')
  rcases decimal.digits_trimmed_mod with none | last <;> omega

end

/-- The exact decimal of a significand has digits. -/
theorem digits_ofBinary_pos {m : Nat} (e : Int) (positive : 0 < m) : 0 < (ofBinary m e).digits := by
  -- The value is the binary number, which is positive.
  rw [← value_pos_iff, value_ofBinary]
  exact mul_pos (by exact_mod_cast positive) (Double.two_zpow_pos e)

section

variable {x : Float} {sign : UnpackedFloat.Sign} {m : Nat} {e : Int} {positive : 0 < m}

/-- A decimal that is close enough to a double names the magnitude of the double. -/
theorem nearest_of_near (parts : x.toModel.unpack = .finite sign m e positive) {decimal : Decimal}
    (near : 2 * 10 ^ 16 * |decimal.value - m * 2 ^ e| ≤ m * 2 ^ e) : decimal.nearest = x.abs :=
  -- What is as near as this rounds to the double itself.
  nearest_of_rounded parts (Double.rounded_of_near (isCanonical_magnitude parts) near)

/-- With seventeen digits one of the neighbours is close enough. -/
theorem exists_neighbour (parts : x.toModel.unpack = .finite sign m e positive) :
    ∃ near ∈ (ofBinary m e).neighbours ((ofBinary m e).numerals.length - maxDigits),
      near.nearest = x.abs := by
  have exact := value_ofBinary m e
  by_cases short : (ofBinary m e).numerals.length ≤ maxDigits
  · -- Nothing has to be cut off.
    obtain ⟨other, same⟩ := neighbours_zero (ofBinary m e)
    rw [Nat.sub_eq_zero_of_le short, same]
    exact ⟨_, .head _, nearest_ofBinary parts⟩
  · obtain ⟨near, far, same, half⟩ :=
      (ofBinary m e).exists_near ((ofBinary m e).numerals.length - maxDigits)
    rw [same]
    refine ⟨near, .head _, nearest_of_near parts ?_⟩
    rw [← exact]
    -- The seventeenth digit stands sixteen places behind the first one.
    have unit : (10 : ℚ) ^ 16 * 10 ^ ((ofBinary m e).exponent
        + ((ofBinary m e).numerals.length - maxDigits : Nat)) = 10 ^ (ofBinary m e).decade := by
      rw [← zpow_natCast, ← zpow_add₀ (by norm_num)]
      congr 1
      unfold decade
      unfold maxDigits at short ⊢
      push_cast
      omega
    have first := (decade_bounds (digits_ofBinary_pos e positive)).1
    linarith

end

/-- A decimal that serves as the text of a number between two powers of ten. -/
structure IsShort (decade : Int) (decimal : Decimal) : Prop where
  /-- Some digit is not zero. -/
  positive : 0 < decimal.digits
  /-- There are no more digits than any double needs. -/
  few : decimal.digits < 10 ^ maxDigits
  /-- The decimal does not fall below the decade. -/
  low : 10 ^ decade ≤ decimal.value
  /-- The decimal goes at most as far as the next decade begins. -/
  high : decimal.value ≤ 10 ^ (decade + 1)

/-- The shortest decimal of a double is short, in the decade of the double. -/
theorem isShort_shortest {x : Float} {sign : UnpackedFloat.Sign} {m : Nat} {e : Int}
    {positive : 0 < m} (parts : x.toModel.unpack = .finite sign m e positive) :
    IsShort (ofBinary m e).decade (shortest x.abs (ofBinary m e)) := by
  have above := digits_ofBinary_pos e positive
  unfold shortest
  dsimp only
  cases found : (List.range' 1 maxDigits).findSome? fun count =>
      ((ofBinary m e).neighbours ((ofBinary m e).numerals.length - count)).find?
        (·.nearest = x.abs) with
  | none =>
    -- The search ends with seventeen digits at the latest.
    obtain ⟨near, member, names⟩ := exists_neighbour parts
    have nothing := List.findSome?_eq_none_iff.mp found maxDigits (by decide)
    simpa [names] using List.find?_eq_none.mp nothing near member
  | some decimal =>
    -- Otherwise the search ends earlier, at a neighbour of the number with fewer digits.
    obtain ⟨count, range, among⟩ := List.exists_of_findSome?_eq_some found
    obtain ⟨least, most⟩ := List.mem_range'_1.mp range
    have width := (ofBinary m e).length_numerals_pos
    obtain ⟨nonzero, few, low, high⟩ :=
      neighbours_bounds above (by omega) (List.mem_of_find?_eq_some among)
    have fits : decimal.digits ≤ 10 ^ maxDigits := by
      refine few.trans (Nat.pow_le_pow_right (by decide) ?_)
      omega
    rw [Option.getD_some]
    -- Dropping zeros changes neither the value nor the bounds.
    refine ⟨?_, digits_trimmed_lt (by decide) fits, ?_, ?_⟩
    · rwa [← value_pos_iff, value_trimmed, value_pos_iff]
    · rwa [value_trimmed]
    · rwa [value_trimmed]

end Decimal

end PocketCalculator
