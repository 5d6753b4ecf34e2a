import PocketCalculator.Proofs.Double.Packing

/-! Rounding of rational numbers to doubles, which depends on nothing but the number that is rounded. -/

namespace PocketCalculator

namespace Double

open Float.Model (UnpackedFloat Format totalExponent)
open Float.Model.UnpackedFloat (Sign Accuracy ExtendedMantissa shiftToTargetExponent shiftToExponent
  roundWithAccuracy decreaseExponent)

/-- The whole number nearest to a nonnegative one, and the even one of two that are equally near. -/
def roundEven (y : ℚ) : Nat :=
  let whole := ⌊y⌋₊
  if y - whole < 1 / 2 then whole
  else if y - whole = 1 / 2 then whole + whole % 2
  else whole + 1

/-- The exponent of the last digit that a double near a number has. -/
def lastPlace (q : ℚ) : Int :=
  -- There are 53 digits at most, and none below the smallest exponent.
  max (Int.log 2 q - 52) (-1074)

/-- The parts of the double nearest to a number, if it does not overflow. -/
def rounded (sign : Sign) (q : ℚ) : UnpackedFloat :=
  let significand := roundEven (q / 2 ^ lastPlace q)
  if nonzero : 0 < significand then
    if significand < 2 ^ 53 then .finite sign significand (lastPlace q) nonzero
    -- A carry out of the first digit leaves a one and zeros.
    else .finite sign (2 ^ 52) (lastPlace q + 1) (by decide)
  else .zero sign

/-- Where a number lies between two neighbouring whole ones is all that rounding has to know of it. -/
def Represents (digits : ExtendedMantissa) (y : ℚ) : Prop :=
  match digits.roundBit, digits.stickyBit with
  | false, false => y = digits.mantissa
  | false, true => digits.mantissa < y ∧ y < digits.mantissa + 1 / 2
  | true, false => y = digits.mantissa + 1 / 2
  | true, true => digits.mantissa + 1 / 2 < y ∧ y < digits.mantissa + 1

/-- What represents a number has its whole part. -/
theorem Represents.floor {digits : ExtendedMantissa} {y : ℚ} (represents : Represents digits y) :
    ⌊y⌋₊ = digits.mantissa := by
  -- The two bits place the number in the upper or lower half of the interval above its whole part.
  obtain ⟨whole, half, rest⟩ := digits
  have nonneg : (0 : ℚ) ≤ whole := Nat.cast_nonneg whole
  have between : (whole : ℚ) ≤ y ∧ y < whole + 1 := by
    cases half <;> cases rest <;> simp only [Represents] at represents <;>
      constructor <;> linarith
  exact (Nat.floor_eq_iff (by linarith)).mpr between

/-- Rounding needs only what represents a number. -/
theorem Represents.roundedMantissa_eq {digits : ExtendedMantissa} {y : ℚ}
    (represents : Represents digits y) : digits.roundedMantissa = roundEven y := by
  -- The bits say how the rest compares with one half, which is what rounding asks.
  have floor := represents.floor
  obtain ⟨whole, half, rest⟩ := digits
  unfold roundEven
  rw [floor]
  cases half <;> cases rest <;> simp only [Represents] at represents
  case false.false =>
    -- Exactly the whole part.
    have low : y - whole < 1 / 2 := by linarith
    rw [if_pos low]
    rfl
  case false.true =>
    -- Below the middle.
    have low : y - whole < 1 / 2 := by linarith
    rw [if_pos low]
    rfl
  case true.false =>
    -- The middle itself, where the even neighbour is taken.
    have tie : y - whole = 1 / 2 := by linarith
    rw [if_neg (by linarith), if_pos tie]
    rfl
  case true.true =>
    -- Above the middle.
    have high : 1 / 2 < y - whole := by linarith
    rw [if_neg (by linarith), if_neg high.ne']
    rfl

/-- Moving the point by one place halves the number. -/
theorem Represents.shiftRightOne {digits : ExtendedMantissa} {y : ℚ}
    (represents : Represents digits y) : Represents digits.shiftRightOne (y / 2) := by
  obtain ⟨whole, half, rest⟩ := digits
  -- The last binary digit becomes the half, and what was behind it only counts as a rest.
  have parts : (whole : ℚ) = 2 * (whole / 2 : Nat) + (whole % 2 : Nat) := by
    exact_mod_cast (Nat.div_add_mod whole 2).symm
  rcases Nat.mod_two_eq_zero_or_one whole with last | last <;>
    rw [last] at parts <;> push_cast at parts <;>
    cases half <;> cases rest <;>
    simp [Represents, ExtendedMantissa.shiftRightOne, last] at represents ⊢ <;>
    first | linarith | constructor <;> linarith

/-- Moving the point by some places divides by a power of two. -/
theorem Represents.shiftRight {digits : ExtendedMantissa} {y : ℚ}
    (represents : Represents digits y) (places : Nat) :
    Represents (digits >>> places) (y / 2 ^ places) := by
  -- The shift is repeated place by place, and each place halves the number.
  show Represents (places.repeat ExtendedMantissa.shiftRightOne digits) _
  induction places with
  | zero => simpa [Nat.repeat] using represents
  | succ places ih =>
    rw [Nat.repeat, pow_succ, ← div_div]
    exact ih.shiftRightOne

section

variable {y z : ℚ} {n : Nat}

private theorem roundEven_between (y : ℚ) : ⌊y⌋₊ ≤ roundEven y ∧ roundEven y ≤ ⌊y⌋₊ + 1 := by
  -- Three ways to round, each of which takes the whole part or the next number.
  unfold roundEven
  dsimp only
  split_ifs <;> omega

/-- Rounding keeps the order. -/
theorem roundEven_mono (le : y ≤ z) : roundEven y ≤ roundEven z := by
  have low := roundEven_between y
  have high := roundEven_between z
  rcases (Nat.floor_mono le).lt_or_eq with apart | same
  · omega
  · -- Above the same whole number only the rests differ.
    unfold roundEven
    rw [same]
    dsimp only
    split_ifs <;> first | omega | grind

/-- A whole number is its own rounding. -/
@[simp] theorem roundEven_natCast (n : Nat) : roundEven n = n := by
  -- A whole number has no rest, so it stays below one half.
  simp [roundEven]

/-- What is at most a whole number is rounded to at most that number. -/
theorem roundEven_le (le : y ≤ n) : roundEven y ≤ n := by
  -- Rounding is monotone and leaves the bound where it is.
  simpa using roundEven_mono le

/-- What is at least a whole number is rounded to at least that number. -/
theorem le_roundEven (le : n ≤ y) : n ≤ roundEven y := by
  -- The bound from below stays where it is too.
  simpa using roundEven_mono le

end

section

variable {q : ℚ}

/-- A power of two is positive, also where its exponent is negative. -/
theorem two_zpow_pos (e : Int) : (0 : ℚ) < 2 ^ e :=
  -- The base is positive, and so is each of its powers.
  zpow_pos (by norm_num) e

/-- A power with a whole exponent that is not negative is an ordinary one. -/
theorem pow_toNat (a : ℚ) {e : Int} (whole : 0 ≤ e) : a ^ e.toNat = a ^ e := by
  -- Both sides take the same exponent, once as a natural number.
  rw [← zpow_natCast, Int.toNat_of_nonneg whole]

/-- The logarithm is the largest power of two that a number reaches. -/
theorem le_log_iff (positive : 0 < q) {k : Int} : k ≤ Int.log 2 q ↔ 2 ^ k ≤ q := by
  -- The binary logarithm is the largest exponent whose power does not exceed the number.
  exact_mod_cast (Int.zpow_le_iff_le_log (by norm_num) positive).symm

/-- A number stays below every power of two above its logarithm. -/
theorem log_lt_iff (positive : 0 < q) {k : Int} : Int.log 2 q < k ↔ q < 2 ^ k := by
  -- The next power above the logarithm is the first one past the number.
  exact_mod_cast (Int.lt_zpow_iff_log_lt (by norm_num) positive).symm

/-- A number has at most 53 digits in front of its last place. -/
theorem div_lastPlace_lt (q : ℚ) : q / 2 ^ lastPlace q < 2 ^ 53 := by
  -- The last place lies at most 52 below the leading digit, so 53 digits are enough.
  rw [div_lt_iff₀ (two_zpow_pos _)]
  calc q < 2 ^ (Int.log 2 q + 1) := by exact_mod_cast Int.lt_zpow_succ_log_self (by norm_num) q
    _ ≤ 2 ^ (53 + lastPlace q) := by
      refine zpow_le_zpow_right₀ (by norm_num) ?_
      unfold lastPlace
      omega
    _ = 2 ^ 53 * 2 ^ lastPlace q := by
      rw [zpow_add₀ (by norm_num)]
      norm_num

/-- Rounding adds at most a carry to the digits. -/
theorem roundEven_lastPlace_le (q : ℚ) : roundEven (q / 2 ^ lastPlace q) ≤ 2 ^ 53 := by
  -- Rounding does not pass the whole number that bounds the quotient.
  refine roundEven_le ?_
  exact_mod_cast (div_lastPlace_lt q).le

/-- The exponent that the first digit of an approximation promises. -/
theorem targetExponent_binary64 (m : Nat) (e : Int) :
    Format.binary64.targetExponent (totalExponent m e)
      = max (m.log2 + 1 + e - 53) (-1074) :=
  -- Precision and lowest exponent of the format, computed out.
  rfl

/-- The digits of an approximation show where the first place is. -/
theorem log_eq_of_floor {m : Nat} {e : Int} (positive : 0 < q) (floor : ⌊q / 2 ^ e⌋₊ = m)
    (nonzero : m ≠ 0) : Int.log 2 q = m.log2 + e := by
  -- The number lies between its whole part and the next integer, in units of the place; the leading
  -- digit of the whole part is then that of the number.
  have quotient : 0 ≤ q / 2 ^ e := div_nonneg positive.le (two_zpow_pos e).le
  obtain ⟨low, high⟩ := (Nat.floor_eq_iff quotient).mp floor
  rw [le_div_iff₀ (two_zpow_pos e)] at low
  rw [div_lt_iff₀ (two_zpow_pos e)] at high
  have above : (2 : ℚ) ^ (m.log2 + e) ≤ q := by
    have digits : ((2 ^ m.log2 : Nat) : ℚ) ≤ m := by exact_mod_cast Nat.log2_self_le nonzero
    calc (2 : ℚ) ^ (m.log2 + e) = (2 ^ m.log2 : Nat) * 2 ^ e := by
          rw [zpow_add₀ (by norm_num)]
          norm_num
      _ ≤ m * 2 ^ e := mul_le_mul_of_nonneg_right digits (two_zpow_pos e).le
      _ ≤ q := low
  have below : q < (2 : ℚ) ^ (m.log2 + e + 1) := by
    have digits : (m + 1 : ℚ) ≤ (2 ^ (m.log2 + 1) : Nat) := by
      exact_mod_cast Nat.lt_log2_self
    calc q < (m + 1) * 2 ^ e := high
      _ ≤ (2 ^ (m.log2 + 1) : Nat) * 2 ^ e :=
        mul_le_mul_of_nonneg_right digits (two_zpow_pos e).le
      _ = 2 ^ (m.log2 + e + 1) := by
        rw [add_right_comm, zpow_add₀ (by norm_num)]
        push_cast
        norm_cast
  have least := (le_log_iff positive).mpr above
  have most := (log_lt_iff positive).mpr below
  omega

/-- The digits of a fine enough approximation show where the last place is. -/
theorem targetExponent_eq {m : Nat} {e : Int} (positive : 0 < q) (floor : ⌊q / 2 ^ e⌋₊ = m)
    (fine : e ≤ lastPlace q) :
    Format.binary64.targetExponent (totalExponent m e) = lastPlace q := by
  rw [targetExponent_binary64]
  by_cases zero : m = 0
  · -- The number is smaller than its approximation can show, so only the smallest exponent is left.
    have small : Int.log 2 q < e := by
      have below := Nat.floor_eq_zero.mp (floor.trans zero)
      rw [div_lt_one (two_zpow_pos e)] at below
      exact (log_lt_iff positive).mpr below
    rw [zero, Nat.log2_zero]
    unfold lastPlace at fine ⊢
    omega
  · unfold lastPlace
    rw [log_eq_of_floor positive floor zero]
    omega

/-- Digits that fit need no further shift. -/
private theorem shiftToTargetExponent_of_lt {m : Nat} {e : Int} (fits : m < 2 ^ 53)
    (lowest : -1074 ≤ e) :
    shiftToTargetExponent Format.binary64 m e .exact = (⟨m, false, false⟩, e) := by
  -- The digits fit, so the place where they should end is no higher than the one where they do.
  have target := targetExponent_binary64 m e
  have digits : m.log2 < 53 := by
    by_cases zero : m = 0
    · simp [zero]
    · exact (Nat.log2_lt zero).mpr fits
  have unshifted : (Format.binary64.targetExponent (totalExponent m e) - e).toNat = 0 := by omega
  unfold shiftToTargetExponent shiftToExponent
  simp only [unshifted]
  simp
  rfl

private theorem shiftToTargetExponent_of_carry {e : Int} (lowest : -1074 ≤ e) :
    shiftToTargetExponent Format.binary64 (2 ^ 53) e .exact = (⟨2 ^ 52, false, false⟩, e + 1) := by
  -- The carry has one digit too many, so everything moves by exactly one place, and only a zero
  -- falls off.
  have target := targetExponent_binary64 (2 ^ 53) e
  have digits : (2 ^ 53 : Nat).log2 = 53 := Nat.log2_two_pow
  have once : (Format.binary64.targetExponent (totalExponent (2 ^ 53) e) - e).toNat = 1 := by omega
  unfold shiftToTargetExponent shiftToExponent
  simp only [once]
  rfl

/-- An approximation that is fine enough is rounded to the parts of what it approximates. -/
theorem roundWithAccuracy_eq (sign : Sign) {m : Nat} {e : Int} {accuracy : Accuracy}
    (positive : 0 < q)
    (represents : Represents (.ofMantissaAndAccuracy m accuracy) (q / 2 ^ e))
    (fine : e ≤ lastPlace q) :
    roundWithAccuracy Format.binary64 sign m e accuracy = rounded sign q := by
  -- The digits are shifted to the last place of the number, rounded there, and shifted once more
  -- if a carry made them too long.
  have whole : (ExtendedMantissa.ofMantissaAndAccuracy m accuracy).mantissa = m := by
    rcases accuracy with _ | _ | _ | _ <;> rfl
  have target := targetExponent_eq positive (represents.floor.trans whole) fine
  have lowest : -1074 ≤ lastPlace q := le_max_right _ _
  have shifted := represents.shiftRight (lastPlace q - e).toNat
  have point : q / 2 ^ e / 2 ^ (lastPlace q - e).toNat = q / 2 ^ lastPlace q := by
    rw [div_div, pow_toNat 2 (by omega), ← zpow_add₀ (by norm_num)]
    congr 2
    omega
  rw [point] at shifted
  have first : shiftToTargetExponent Format.binary64 m e accuracy
      = (ExtendedMantissa.ofMantissaAndAccuracy m accuracy >>> (lastPlace q - e).toNat,
        lastPlace q) := by
    simp only [shiftToTargetExponent, shiftToExponent, target]
    congr 1
    omega
  have most := roundEven_lastPlace_le q
  unfold roundWithAccuracy rounded
  simp only [first, shifted.roundedMantissa_eq]
  rcases most.lt_or_eq with fits | carry
  · -- They still fit after rounding: nothing is left to shift, and no digits at all mean a zero.
    simp only [shiftToTargetExponent_of_lt fits lowest]
    by_cases zero : roundEven (q / 2 ^ lastPlace q) = 0
    · simp [zero]
    · simpa [zero, Nat.pos_of_ne_zero zero] using fits
  · -- A carry leaves a power of two, which loses its last zero.
    simp only [carry, shiftToTargetExponent_of_carry lowest]
    rfl

/-- Parts that a double has are the rounding of what they stand for. -/
theorem rounded_of_isCanonical {sign : Sign} {m : Nat} {e : Int} {nonzero : 0 < m}
    (canonical : IsCanonical (.finite sign m e nonzero)) :
    rounded sign (m * 2 ^ e) = .finite sign m e nonzero := by
  obtain ⟨fits, lowest, -, normal⟩ := canonical
  have positive : (0 : ℚ) < m * 2 ^ e := mul_pos (by exact_mod_cast nonzero) (two_zpow_pos e)
  have digits : (m * 2 ^ e : ℚ) / 2 ^ e = m := mul_div_cancel_right₀ _ (two_zpow_pos e).ne'
  have fine : e ≤ lastPlace (m * 2 ^ e) := by
    rcases normal with full | rfl
    · have log : 52 + e ≤ Int.log 2 (m * 2 ^ e : ℚ) := by
        rw [le_log_iff positive, zpow_add₀ (by norm_num)]
        refine mul_le_mul_of_nonneg_right ?_ (two_zpow_pos e).le
        exact_mod_cast full
      unfold lastPlace
      omega
    · exact le_max_right _ _
  -- The digits fill the places down to the last one, so nothing is left to round.
  have place : lastPlace (m * 2 ^ e) = e := by
    have log : m.log2 < 53 := (Nat.log2_lt nonzero.ne').mpr fits
    have target := targetExponent_binary64 m e
    have floor : ⌊(m * 2 ^ e : ℚ) / 2 ^ e⌋₊ = m := by rw [digits, Nat.floor_natCast]
    rw [targetExponent_eq positive floor fine] at target
    omega
  simp only [rounded, place, digits, roundEven_natCast, nonzero, fits, dif_pos, if_pos]

private theorem roundEven_of_lt {y : ℚ} (small : y < 1 / 2) : roundEven y = 0 := by
  -- Less than one half has no whole part and rounds down to it.
  have floor : ⌊y⌋₊ = 0 := Nat.floor_eq_zero.mpr (by linarith)
  simp only [roundEven, floor, Nat.cast_zero, sub_zero, if_pos small]

/-- What is less than half of the smallest place vanishes. -/
theorem rounded_of_lt (sign : Sign) (small : q < 2 ^ (-1075 : Int)) :
    rounded sign q = .zero sign := by
  -- The last place is never finer than the lowest one, of which this is less than a half.
  have half : q / 2 ^ lastPlace q < 1 / 2 := by
    have lowest : (2 : ℚ) ^ (-1074 : Int) ≤ 2 ^ lastPlace q :=
      zpow_le_zpow_right₀ (by norm_num) (le_max_right _ _)
    rw [div_lt_iff₀ (two_zpow_pos _)]
    calc q < 2 ^ (-1075 : Int) := small
      _ = 1 / 2 * 2 ^ (-1074 : Int) := by
        rw [show (-1075 : Int) = -1 + -1074 from rfl, zpow_add₀ (by norm_num)]
        norm_num
      _ ≤ 1 / 2 * 2 ^ lastPlace q := by linarith
  simp [rounded, roundEven_of_lt half]

/-- An exponent beyond the largest one makes infinity of all digits. -/
theorem pack_of_le_exponent {sign : Sign} {m : Nat} {e : Int} (nonzero : 0 < m) (beyond : 972 ≤ e) :
    Float.Model.pack (.finite sign m e nonzero) = .pack (.infinity sign) := by
  -- The biased exponent no longer fits its field, which is how packing notices an overflow.
  have bias : Format.binary64.exponentBias = 1023 := rfl
  have out : 2 ^ 11 ≤ (e + (1023 : Nat) + (52 : Nat)).toNat + 1 := by omega
  simp only [Float.Model.pack, UnpackedFloat.pack, bias, out, if_true]

/-- What is beyond the largest exponent overflows. -/
theorem pack_rounded_of_le (sign : Sign) (large : 2 ^ (1024 : Int) ≤ q) :
    Float.Model.pack (rounded sign q) = .pack (.infinity sign) := by
  -- The leading digit lies at 1024 or above, so the last place lies at 972 or above.
  have positive : 0 < q := lt_of_lt_of_le (two_zpow_pos _) large
  have log : 1024 ≤ Int.log 2 q := (le_log_iff positive).mpr large
  have place : lastPlace q = Int.log 2 q - 52 := by
    unfold lastPlace
    omega
  have nonzero : 0 < roundEven (q / 2 ^ lastPlace q) := by
    refine le_roundEven ?_
    rw [Nat.cast_one, one_le_div (two_zpow_pos _), ← le_log_iff positive]
    omega
  unfold rounded
  dsimp only
  rw [dif_pos nonzero]
  split_ifs
  · -- Without a carry the exponent is that of the last place, and with one it is even larger.
    exact pack_of_le_exponent nonzero (by omega)
  · exact pack_of_le_exponent (by decide) (by omega)

end

private theorem represents_exact (m : Nat) :
    Represents (.ofMantissaAndAccuracy m .exact) m :=
  -- Nothing is lost, so both bits are clear.
  rfl

/-- A quotient of whole numbers is represented by its whole part and what the rest amounts to. -/
theorem represents_div {a d : Nat} (positive : 0 < d) :
    Represents (.ofMantissaAndAccuracy (a / d) (UnpackedFloat.accuracyOfFraction (a % d) d))
      (a / d) := by
  -- The quotient is its whole part and a proper fraction; how twice the remainder compares with
  -- the divisor says on which side of one half the fraction lies.
  have parts : (a / d : ℚ) = (a / d : Nat) + (a % d : Nat) / d := by
    have whole : (a : ℚ) = d * (a / d : Nat) + (a % d : Nat) := by
      exact_mod_cast (Nat.div_add_mod a d).symm
    have nonzero : (d : ℚ) ≠ 0 := by exact_mod_cast positive.ne'
    field_simp
    linarith
  have denominator : (0 : ℚ) < d := by exact_mod_cast positive
  have proper : (a % d : Nat) / (d : ℚ) < 1 := by
    rw [div_lt_one denominator]
    exact_mod_cast Nat.mod_lt a positive
  rw [parts]
  unfold UnpackedFloat.accuracyOfFraction
  by_cases exact : a % d = 0
  · simp [exact, Represents, ExtendedMantissa.ofMantissaAndAccuracy]
  · have rest : (0 : ℚ) < (a % d : Nat) / d := by
      refine div_pos ?_ denominator
      exact_mod_cast Nat.pos_of_ne_zero exact
    rw [if_neg exact]
    rcases compared : compare (2 * (a % d)) d with _ | _ | _
    · have less : (a % d : Nat) / (d : ℚ) < 1 / 2 := by
        rw [div_lt_div_iff₀ denominator (by norm_num), one_mul, mul_comm]
        exact_mod_cast Nat.compare_eq_lt.mp compared
      constructor <;> simp only [ExtendedMantissa.ofMantissaAndAccuracy] <;> linarith
    · have tie : (a % d : Nat) / (d : ℚ) = 1 / 2 := by
        rw [div_eq_div_iff denominator.ne' (by norm_num), one_mul, mul_comm]
        exact_mod_cast Nat.compare_eq_eq.mp compared
      simp only [Represents, ExtendedMantissa.ofMantissaAndAccuracy, tie]
    · have more : 1 / 2 < (a % d : Nat) / (d : ℚ) := by
        rw [div_lt_div_iff₀ (by norm_num) denominator, one_mul, mul_comm]
        exact_mod_cast Nat.compare_eq_gt.mp compared
      constructor <;> simp only [ExtendedMantissa.ofMantissaAndAccuracy] <;> linarith

/-- A decimal whose power of ten is positive is a product that is rounded once. -/
private theorem mul_eq_rounded {m : Nat} {e : Int} (nonzero : 0 < m) (whole : 0 ≤ e) :
    roundWithAccuracy Format.binary64 .positive ((m <<< 53) * 10 ^ e.toNat) (-53) .exact
      = rounded .positive (m * 10 ^ e) := by
  have least : (1 : ℚ) ≤ m * 10 ^ e := by
    have digits : (1 : ℚ) ≤ m := by exact_mod_cast nonzero
    have power : (1 : ℚ) ≤ 10 ^ e := one_le_zpow₀ (by norm_num) whole
    nlinarith
  have positive : (0 : ℚ) < m * 10 ^ e := by linarith
  -- The shift leaves 53 binary places for the digits behind the point.
  have scaled : (m * 10 ^ e : ℚ) / (2 : ℚ) ^ (-53 : Int) = ((m <<< 53) * 10 ^ e.toNat : Nat) := by
    rw [← pow_toNat 10 whole, Nat.shiftLeft_eq]
    push_cast
    norm_num
    ring
  refine roundWithAccuracy_eq .positive positive ?_ ?_
  · rw [scaled]
    exact represents_exact _
  · -- A number from one on has no digits that far behind the point.
    have log : 0 ≤ Int.log 2 (m * 10 ^ e : ℚ) := by
      rw [le_log_iff positive]
      simpa using least
    unfold lastPlace
    omega

/-- A decimal whose power of ten is negative is a quotient that is rounded once. -/
private theorem div_eq_rounded {m d : Nat} (nonzero : 0 < m) (divisor : 0 < d) :
    (let (quotient, e, accuracy) := UnpackedFloat.divCore Format.binary64 m 0 d 0
    roundWithAccuracy Format.binary64 .positive quotient e accuracy)
      = rounded .positive (m / d) := by
  have positive : (0 : ℚ) < m / d :=
    div_pos (by exact_mod_cast nonzero) (by exact_mod_cast divisor)
  -- The quotient is worked out to as many digits as the format needs, or down to its lowest place.
  have target : Format.binary64.targetExponent (totalExponent m 0 - totalExponent d 0)
      = max ((m.log2 : Int) + 1 + 0 - (d.log2 + 1 + 0) - 53) (-1074) := rfl
  unfold UnpackedFloat.divCore
  dsimp only
  rw [target]
  generalize placed : min ((0 : Int) - 0)
    (max ((m.log2 : Int) + 1 + 0 - (d.log2 + 1 + 0) - 53) (-1074)) = place
  have shift : (0 - 0 - place).toNat = (-place).toNat := by simp
  -- Shifted by the place, the fraction is one of whole numbers, which division splits exactly.
  have scaled : (m / d : ℚ) / (2 : ℚ) ^ place = (m <<< (-place).toNat : Nat) / d := by
    have power : (2 : ℚ) ^ place = (2 ^ (-place).toNat)⁻¹ := by
      rw [pow_toNat 2 (by omega), zpow_neg, inv_inv]
    rw [power, Nat.shiftLeft_eq]
    push_cast
    field_simp
  refine roundWithAccuracy_eq .positive positive ?_ ?_
  · rw [scaled, shift]
    exact represents_div divisor
  · -- The quotient has at most one digit fewer than the difference of the lengths promises.
    have log : m.log2 - d.log2 - 1 ≤ Int.log 2 (m / d : ℚ) := by
      have numerator : (2 : ℚ) ^ (m.log2 : Int) ≤ m := by
        exact_mod_cast Nat.log2_self_le nonzero.ne'
      have denominator : (d : ℚ) ≤ 2 ^ (d.log2 + 1 : Int) := by
        exact_mod_cast Nat.lt_log2_self.le
      rw [le_log_iff positive, le_div_iff₀ (by exact_mod_cast divisor)]
      calc (2 : ℚ) ^ (m.log2 - d.log2 - 1 : Int) * d
          ≤ 2 ^ (m.log2 - d.log2 - 1 : Int) * 2 ^ (d.log2 + 1 : Int) :=
            mul_le_mul_of_nonneg_left denominator (two_zpow_pos _).le
        _ = 2 ^ (m.log2 : Int) := by
          rw [← zpow_add₀ (by norm_num)]
          congr 1
          ring
        _ ≤ m := numerator
    unfold lastPlace
    omega

/-- A decimal becomes the double nearest to its value. -/
theorem ofScientific_eq (m : Nat) (e : Int) :
    Float.Model.ofScientific m e = .pack (rounded .positive (m * 10 ^ e)) := by
  have allowance : (2 : Int) ^ Format.binary64.exponentBits = 2048 := rfl
  unfold Float.Model.ofScientific UnpackedFloat.ofScientific
  split_ifs with zero large small whole
  · rw [zero, rounded_of_lt]
    simp
  · -- Where the power of ten is not even computed, the number overflows.
    refine (pack_rounded_of_le .positive ?_).symm
    have digits : (1 : ℚ) ≤ m := by exact_mod_cast Nat.pos_of_ne_zero zero
    calc (2 : ℚ) ^ (1024 : Int) ≤ 10 ^ (1024 : Int) :=
          zpow_le_zpow_left₀ (by norm_num) (by norm_num) (by norm_num)
      _ ≤ 10 ^ e := zpow_le_zpow_right₀ (by norm_num) (by omega)
      _ ≤ m * 10 ^ e := le_mul_of_one_le_left (zpow_pos (by norm_num) e).le digits
  · -- The other power that is not computed makes the number vanish.
    rw [rounded_of_lt]
    have digits : (m : ℚ) < 2 ^ (m.log2 + 1 : Int) := by exact_mod_cast Nat.lt_log2_self
    have power : (10 : ℚ) ^ e ≤ 2 ^ e := by
      rw [show (10 : ℚ) = 5 * 2 by norm_num, mul_zpow]
      exact mul_le_of_le_one_left (two_zpow_pos e).le
        (zpow_le_one_of_nonpos₀ (by norm_num) (by omega))
    calc (m * 10 ^ e : ℚ) ≤ m * 2 ^ e := mul_le_mul_of_nonneg_left power (Nat.cast_nonneg m)
      _ < 2 ^ (m.log2 + 1 : Int) * 2 ^ e := mul_lt_mul_of_pos_right digits (two_zpow_pos e)
      _ = 2 ^ (m.log2 + 1 + e : Int) := (zpow_add₀ (by norm_num) _ _).symm
      _ ≤ 2 ^ (-1075 : Int) := zpow_le_zpow_right₀ (by norm_num) (by omega)
  · exact congrArg Float.Model.pack (mul_eq_rounded (Nat.pos_of_ne_zero zero) whole)
  · have power : (m * 10 ^ e : ℚ) = m / (10 ^ (-e).toNat : Nat) := by
      push_cast
      rw [pow_toNat 10 (by omega), zpow_neg, div_inv_eq_mul]
    rw [power]
    exact congrArg Float.Model.pack
      (div_eq_rounded (Nat.pos_of_ne_zero zero) (Nat.pow_pos (by decide)))

end Double

end PocketCalculator
