import PocketCalculator.Proofs.Double.Rounding

/-! The order of doubles is the order of the rational numbers that they stand for. -/

namespace PocketCalculator

namespace Double

open Float.Model (UnpackedFloat)
open Float.Model.UnpackedFloat (Sign)

/-- The rational number that some parts stand for, which is zero for all but the finite ones. -/
def partsValue : UnpackedFloat → ℚ
  | .finite sign significand exponent _ => (sign.apply significand : ℤ) * 2 ^ exponent
  | _ => 0

/-- The rational number that a finite double stands for. -/
def value (x : Float) : ℚ :=
  partsValue x.toModel.unpack

section

variable {m n : Nat} {d e : Int}

/-- A larger exponent outweighs all digits, for only the smallest one goes with few of them. -/
theorem lt_of_exponent_lt (short : m < 2 ^ 53) (full : 2 ^ 52 ≤ n) (less : d < e) :
    (m * 2 ^ d : ℚ) < n * 2 ^ e := by
  -- Fewer than 2 ^ 53 units of the one exponent are at most 2 ^ 52 units of the next, and the
  -- larger exponent is at least that next one.
  have digits : (m : ℚ) < 2 ^ 53 := by exact_mod_cast short
  have others : (2 : ℚ) ^ 52 ≤ n := by exact_mod_cast full
  calc (m * 2 ^ d : ℚ) < 2 ^ 53 * 2 ^ d := mul_lt_mul_of_pos_right digits (two_zpow_pos d)
    _ = 2 ^ 52 * 2 ^ (d + 1) := by
      rw [zpow_add₀ (by norm_num)]
      ring
    _ ≤ 2 ^ 52 * 2 ^ e := by
      refine mul_le_mul_of_nonneg_left ?_ (by norm_num)
      exact zpow_le_zpow_right₀ (by norm_num) less
    _ ≤ n * 2 ^ e := mul_le_mul_of_nonneg_right others (two_zpow_pos e).le

/-- Under one exponent only the digits count. -/
theorem compare_digits (m n : Nat) (e : Int) :
    compare m n = compare (m * 2 ^ e : ℚ) (n * 2 ^ e) := by
  -- A common positive scale changes no comparison, whichever way it goes.
  have scale := two_zpow_pos e
  rcases lt_trichotomy m n with less | rfl | more
  · have digits : (m : ℚ) < n := by exact_mod_cast less
    rw [compare_lt_iff_lt.mpr less, compare_lt_iff_lt.mpr (mul_lt_mul_of_pos_right digits scale)]
  · rw [compare_eq_iff_eq.mpr rfl, compare_eq_iff_eq.mpr rfl]
  · have digits : (n : ℚ) < m := by exact_mod_cast more
    rw [compare_gt_iff_gt.mpr more, compare_gt_iff_gt.mpr (mul_lt_mul_of_pos_right digits scale)]

/-- Magnitudes are compared by their exponents first and then by their digits. -/
theorem compare_magnitudes {sign other : Sign} {positive : 0 < m} {positive' : 0 < n}
    (canonical : IsCanonical (.finite sign m d positive))
    (canonical' : IsCanonical (.finite other n e positive')) :
    (compare d e).then (compare m n) = compare (m * 2 ^ d : ℚ) (n * 2 ^ e) := by
  -- The exponents decide unless they are the same.
  obtain ⟨short, lowest, -, normal⟩ := canonical
  obtain ⟨short', lowest', -, normal'⟩ := canonical'
  rcases lt_trichotomy d e with less | rfl | more
  · -- An exponent above another is not the lowest, so the mantissa under it has its leading digit.
    have full : 2 ^ 52 ≤ n := normal'.resolve_right (by omega)
    rw [compare_lt_iff_lt.mpr less, compare_lt_iff_lt.mpr (lt_of_exponent_lt short full less)]
    rfl
  · rw [compare_eq_iff_eq.mpr rfl]
    exact compare_digits m n d
  · -- Here the other mantissa is the full one.
    have full : 2 ^ 52 ≤ m := normal.resolve_right (by omega)
    rw [compare_gt_iff_gt.mpr more, compare_gt_iff_gt.mpr (lt_of_exponent_lt short' full more)]
    rfl

private theorem magnitude_pos (positive : 0 < m) : (0 : ℚ) < m * 2 ^ e := by
  -- Both factors of a magnitude are positive.
  have digits : (0 : ℚ) < m := by exact_mod_cast positive
  exact mul_pos digits (two_zpow_pos e)

end

/-- Without a sign the digits are scaled by the exponent. -/
@[simp] theorem partsValue_positive {m : Nat} {e : Int} (positive : 0 < m) :
    partsValue (.finite .positive m e positive) = m * 2 ^ e :=
  rfl

/-- A sign negates the number. -/
@[simp] theorem partsValue_negative {m : Nat} {e : Int} (positive : 0 < m) :
    partsValue (.finite .negative m e positive) = -(m * 2 ^ e) := by
  -- The sign is applied to the digits before the scale.
  simp [partsValue, Sign.apply]

/-- Both zeros stand for zero. -/
@[simp] theorem partsValue_zero (sign : Sign) : partsValue (.zero sign) = 0 :=
  rfl

/-- The sign has no part in the magnitude. -/
theorem abs_partsValue {sign : Sign} {m : Nat} {e : Int} (positive : 0 < m) :
    |partsValue (.finite sign m e positive)| = m * 2 ^ e := by
  -- A magnitude is positive, so the absolute value drops the sign.
  have above := magnitude_pos (e := e) positive
  cases sign with
  | negative => rw [partsValue_negative, abs_neg, abs_of_pos above]
  | positive => rw [partsValue_positive, abs_of_pos above]

private theorem compare_neg (p q : ℚ) : (compare p q).swap = compare (-p) (-q) := by
  -- Less and more change places under negation, and equality stays.
  rcases lt_trichotomy p q with less | rfl | more
  · rw [compare_lt_iff_lt.mpr less, compare_gt_iff_gt.mpr (neg_lt_neg less)]
    rfl
  · rw [compare_eq_iff_eq.mpr rfl, compare_eq_iff_eq.mpr rfl]
    rfl
  · rw [compare_gt_iff_gt.mpr more, compare_lt_iff_lt.mpr (neg_lt_neg more)]
    rfl

/-- Finite parts are a zero or have digits. -/
theorem zero_or_finite {parts : UnpackedFloat} (finite : parts.isFinite) :
    (∃ sign, parts = .zero sign) ∨ ∃ sign m e positive, parts = .finite sign m e positive := by
  -- The finite kinds are the zeros and the numbers with digits.
  cases parts with
  | notANumber => exact absurd finite (by decide)
  | infinity sign => exact absurd finite (by simp [UnpackedFloat.isFinite])
  | zero sign => exact .inl ⟨sign, rfl⟩
  | finite sign m e positive => exact .inr ⟨sign, m, e, positive, rfl⟩

/-- All other parts are infinite or not a number. -/
theorem nan_or_infinity {parts : UnpackedFloat} (infinite : parts.isFinite = false) :
    parts = .notANumber ∨ ∃ sign, parts = .infinity sign := by
  -- The two kinds with no finite size are the ones left over.
  cases parts with
  | notANumber => exact .inl rfl
  | infinity sign => exact .inr ⟨sign, rfl⟩
  | zero sign => exact absurd infinite (by simp [UnpackedFloat.isFinite])
  | finite sign m e positive => exact absurd infinite (by simp [UnpackedFloat.isFinite])

/-- Only one choice of parts is not a number. -/
theorem eq_notANumber {parts : UnpackedFloat} (status : parts.isNaN) : parts = .notANumber := by
  -- All other kinds say that they are numbers.
  cases parts with
  | notANumber => rfl
  | infinity sign => exact absurd status (by simp [UnpackedFloat.isNaN])
  | zero sign => exact absurd status (by simp [UnpackedFloat.isNaN])
  | finite sign m e positive => exact absurd status (by simp [UnpackedFloat.isNaN])

/-- Finite parts are compared by what they stand for. -/
theorem compare_parts {u v : UnpackedFloat} (canonical : IsCanonical u) (canonical' : IsCanonical v)
    (finite : u.isFinite) (finite' : v.isFinite) :
    u.compare v = some (compare (partsValue u) (partsValue v)) := by
  -- A zero is compared by the sign of the other side, two numbers by their signs first and their
  -- magnitudes after, which for two negative ones are compared the other way round.
  obtain ⟨sign, rfl⟩ | ⟨sign, m, d, positive, rfl⟩ := zero_or_finite finite
  · obtain ⟨other, rfl⟩ | ⟨other, n, e, positive', rfl⟩ := zero_or_finite finite'
    · -- Zeros are equal, whatever their signs.
      rfl
    · -- Zero lies between the negative and the positive numbers.
      have above := magnitude_pos (e := e) positive'
      cases other with
      | negative =>
        rw [partsValue_zero, partsValue_negative, compare_gt_iff_gt.mpr (by linarith)]
        rfl
      | positive =>
        rw [partsValue_zero, partsValue_positive, compare_lt_iff_lt.mpr above]
        rfl
  · have above := magnitude_pos (e := d) positive
    obtain ⟨other, rfl⟩ | ⟨other, n, e, positive', rfl⟩ := zero_or_finite finite'
    · cases sign with
      | negative =>
        rw [partsValue_zero, partsValue_negative, compare_lt_iff_lt.mpr (by linarith)]
        rfl
      | positive =>
        rw [partsValue_zero, partsValue_positive, compare_gt_iff_gt.mpr above]
        rfl
    · have above' := magnitude_pos (e := e) positive'
      have magnitudes := compare_magnitudes canonical canonical'
      cases sign <;> cases other
      -- Of two negative numbers the one of larger magnitude is the smaller.
      case negative.negative =>
        rw [partsValue_negative, partsValue_negative, ← compare_neg, ← magnitudes]
        rfl
      -- Numbers of different signs lie on either side of zero.
      case negative.positive =>
        rw [partsValue_negative, partsValue_positive, compare_lt_iff_lt.mpr (by linarith)]
        rfl
      case positive.negative =>
        rw [partsValue_positive, partsValue_negative, compare_gt_iff_gt.mpr (by linarith)]
        rfl
      -- Positive numbers are ordered as their magnitudes are.
      case positive.positive =>
        rw [partsValue_positive, partsValue_positive, ← magnitudes]
        rfl

section

variable {x y : Float}

/-- Finite doubles are compared by what they stand for. -/
theorem compare_eq (finite : x.isFinite) (finite' : y.isFinite) :
    x.toModel.unpack.compare y.toModel.unpack = some (compare (value x) (value y)) :=
  -- The parts of a double are canonical, which is all that the comparison of parts asks for.
  compare_parts (isCanonical_unpack x) (isCanonical_unpack y) finite finite'

/-- Equality of finite doubles is equality of what they stand for. -/
theorem beq_iff (finite : x.isFinite) (finite' : y.isFinite) : x == y ↔ value x = value y := by
  -- Being equal is one of the outcomes of the comparison.
  show (x.toModel.unpack.compare y.toModel.unpack == some .eq) = true ↔ _
  rw [compare_eq finite finite', ← compare_eq_iff_eq]
  exact ⟨fun same => by simpa using same, fun same => by simp [same]⟩

/-- One double is less than another if their parts compare so. -/
theorem lt_iff_compare : x < y ↔ (x.toModel.unpack.compare y.toModel.unpack == some .lt) = true :=
  -- The order of doubles is decided by this very test.
  decide_eq_true_iff

/-- The same for less or equal, which takes parts that compare at all. -/
theorem le_iff_compare : x ≤ y ↔ (x.toModel.unpack.compare y.toModel.unpack).any (·.isLE) = true :=
  -- Here two of the three outcomes of the comparison will do.
  decide_eq_true_iff

/-- The order of finite doubles is the order of what they stand for. -/
theorem lt_iff (finite : x.isFinite) (finite' : y.isFinite) : x < y ↔ value x < value y := by
  -- Being less is one of the outcomes of the comparison.
  rw [lt_iff_compare, compare_eq finite finite', ← compare_lt_iff_lt]
  exact ⟨fun less => by simpa using less, fun less => by simp [less]⟩

/-- The same holds where equality is allowed. -/
theorem le_iff (finite : x.isFinite) (finite' : y.isFinite) : x ≤ y ↔ value x ≤ value y := by
  -- Two of the three outcomes are at most; each is what the rational numbers say.
  rw [le_iff_compare, compare_eq finite finite', ← compare_le_iff_le]
  cases compare (value x) (value y) <;> simp

/-- The sign of some parts, where what is not a number counts as positive. -/
def signOf : UnpackedFloat → Sign
  | .finite sign _ _ _ => sign
  | .zero sign => sign
  | .infinity sign => sign
  | .notANumber => .positive

/-- Zero is rounded to the zero of the sign that is asked for. -/
theorem rounded_zero (sign : Sign) : rounded sign 0 = .zero sign :=
  -- Zero lies below every power of two, so it rounds to the zero of its sign.
  rounded_of_lt sign (two_zpow_pos _)

/-- Rounding keeps the sign. -/
theorem signOf_rounded (sign : Sign) (q : ℚ) : signOf (rounded sign q) = sign := by
  -- Zero or not, the rounded parts carry the sign they were asked for.
  unfold rounded
  dsimp only
  split_ifs <;> rfl

/-- A magnitude is rounded as it is under any sign. -/
theorem abs_rounded (sign : Sign) (q : ℚ) : (rounded sign q).abs = rounded .positive q := by
  -- Only the sign is replaced, on both of the ways a number can round.
  unfold rounded
  dsimp only
  split_ifs <;> rfl

/-- Finite parts are determined by their sign and by what they stand for. -/
theorem eq_rounded {parts : UnpackedFloat} (canonical : IsCanonical parts) (finite : parts.isFinite) :
    parts = rounded (signOf parts) |partsValue parts| := by
  -- A zero rounds to itself, and canonical parts are the ones their own value rounds to.
  obtain ⟨sign, rfl⟩ | ⟨sign, m, e, positive, rfl⟩ := zero_or_finite finite
  · rw [partsValue_zero, abs_zero]
    exact (rounded_zero sign).symm
  · rw [abs_partsValue]
    exact (rounded_of_isCanonical canonical).symm

/-- A finite double is the rounding of what it stands for. -/
theorem unpack_eq_rounded (finite : x.isFinite) :
    x.toModel.unpack = rounded (signOf x.toModel.unpack) |value x| :=
  -- Every double unpacks to canonical parts.
  eq_rounded (isCanonical_unpack x) finite

/-- Equal doubles are numbers, and finite ones at that or infinite ones. -/
theorem status_of_beq (same : x == y) : ¬x.isNaN ∧ ¬y.isNaN ∧ x.isFinite = y.isFinite := by
  -- The comparison is one of parts, so it is enough to look at which kinds can be equal at all:
  -- an infinity only to one of its own sign, and the finite kinds only among themselves.
  have model : (x.toModel.unpack.compare y.toModel.unpack == some .eq) = true := same
  show ¬x.toModel.unpack.isNaN ∧ ¬y.toModel.unpack.isNaN
    ∧ x.toModel.unpack.isFinite = y.toModel.unpack.isFinite
  generalize x.toModel.unpack = left at model ⊢
  generalize y.toModel.unpack = right at model ⊢
  cases left with
  | notANumber => cases model
  | infinity sign =>
    cases right with
    | notANumber => cases model
    | infinity other => exact ⟨nofun, nofun, rfl⟩
    | zero other => cases sign <;> cases model
    | finite other n d positive => cases sign <;> cases model
  | zero sign =>
    cases right with
    | notANumber => cases model
    | infinity other => cases other <;> cases model
    | zero other => exact ⟨nofun, nofun, rfl⟩
    | finite other n d positive => exact ⟨nofun, nofun, rfl⟩
  | finite sign m e positive =>
    cases right with
    | notANumber => cases model
    | infinity other => cases other <;> cases model
    | zero other => exact ⟨nofun, nofun, rfl⟩
    | finite other n d positive => exact ⟨nofun, nofun, rfl⟩

/-- A number that is not finite is infinite. -/
theorem exists_infinity (number : ¬x.isNaN) (infinite : ¬x.isFinite) :
    ∃ sign, x.toModel.unpack = .infinity sign := by
  -- What is not finite is an infinity or no number, and the latter is excluded.
  refine (nan_or_infinity (Bool.eq_false_iff.mpr infinite)).resolve_left ?_
  intro parts
  refine number ?_
  show x.toModel.unpack.isNaN
  rw [parts]
  rfl

/-- Beside zero the sign of a double is that of its number. -/
theorem signOf_unpack (finite : x.isFinite) (something : value x ≠ 0) :
    signOf x.toModel.unpack = if value x < 0 then .negative else .positive := by
  -- Of the two finite kinds a zero is excluded, and a number is negative when its sign says so.
  unfold value at something ⊢
  obtain ⟨sign, parts⟩ | ⟨sign, m, e, positive, parts⟩ := zero_or_finite finite
  · rw [parts] at something
    exact absurd (partsValue_zero sign) something
  · have above := magnitude_pos (e := e) positive
    rw [parts]
    cases sign with
    | negative =>
      rw [partsValue_negative, if_pos (by linarith)]
      rfl
    | positive =>
      rw [partsValue_positive, if_neg (by linarith)]
      rfl

/-- Beside zero no number has two doubles. -/
theorem eq_of_value_eq (finite : x.isFinite) (finite' : y.isFinite) (same : value x = value y)
    (something : value x ≠ 0) : x = y := by
  -- A value other than zero fixes the sign, and sign and magnitude fix the parts.
  have sign : signOf x.toModel.unpack = signOf y.toModel.unpack := by
    rw [signOf_unpack finite something, same, ← signOf_unpack finite' (same ▸ something)]
  have parts : x.toModel.unpack = y.toModel.unpack := by
    rw [unpack_eq_rounded finite, unpack_eq_rounded finite', sign, same]
  rw [← pack_unpack x, parts, pack_unpack]

/-- The magnitude of a double stands for the magnitude of its number. -/
@[simp] theorem value_abs (x : Float) : value x.abs = |value x| := by
  -- Taking the absolute value replaces the sign of the parts and keeps their digits.
  unfold value
  rw [unpack_abs]
  cases x.toModel.unpack with
  | notANumber => rfl
  | infinity sign => rfl
  | zero sign => rfl
  | finite sign m e positive =>
    rw [UnpackedFloat.abs, partsValue_positive, abs_partsValue]

/-- The magnitude of a double is finite exactly if the double is. -/
@[simp] theorem isFinite_abs (x : Float) : x.abs.isFinite = x.isFinite := by
  -- The kind of the parts is not touched by replacing their sign.
  show x.abs.toModel.unpack.isFinite = x.toModel.unpack.isFinite
  rw [unpack_abs]
  cases x.toModel.unpack <;> rfl

end

end Double

end PocketCalculator
