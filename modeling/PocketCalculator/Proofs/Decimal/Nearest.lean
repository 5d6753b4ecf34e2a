import PocketCalculator.Decimal.Shortest
import PocketCalculator.Proofs.Double.Order

/-! The double nearest to a decimal depends on the value of the decimal alone. -/

namespace PocketCalculator

namespace Decimal

open Float.Model (UnpackedFloat)
open Double (rounded partsValue IsCanonical pow_toNat)

/-- The rational number that a decimal stands for. -/
def value (decimal : Decimal) : ℚ :=
  decimal.digits * 10 ^ decimal.exponent

/-- The nearest double is the rounding of the value. -/
theorem nearest_eq (decimal : Decimal) :
    decimal.nearest = .ofModel (.pack (rounded .positive decimal.value)) :=
  -- The library rounds the exact value of the decimal.
  congrArg Float.ofModel (Double.ofScientific_eq decimal.digits decimal.exponent)

/-- Decimals of one value have one nearest double. -/
theorem nearest_congr {decimal other : Decimal} (same : decimal.value = other.value) :
    decimal.nearest = other.nearest := by
  -- Rounding looks at the value only.
  rw [nearest_eq, nearest_eq, same]

/-- Zeros that move into the exponent leave the value alone. -/
theorem value_trimmed (decimal : Decimal) : decimal.trimmed.value = decimal.value := by
  -- Along the recursion: a zero at the end is a factor of ten, which moves into the exponent.
  fun_induction trimmed decimal with
  | case1 decimal trailing ih =>
    have digits : decimal.digits = decimal.digits / 10 * 10 := by omega
    have rational : (decimal.digits : ℚ) = (decimal.digits / 10 : Nat) * 10 := by
      exact_mod_cast digits
    rw [ih]
    unfold value
    rw [rational, zpow_add₀ (by norm_num)]
    ring
  | case2 decimal full => rfl

/-- The decimal of a significand and an exponent has exactly their value. -/
theorem value_ofBinary (significand : Nat) (exponent : Int) :
    (ofBinary significand exponent).value = significand * 2 ^ exponent := by
  show ((significand * 2 ^ exponent.toNat * 5 ^ (-exponent).toNat : Nat) : ℚ)
    * 10 ^ min exponent 0 = _
  rcases le_total 0 exponent with whole | fraction
  · -- Without places behind the point only the power of two is left.
    have none : (-exponent).toNat = 0 := by omega
    rw [none, min_eq_right whole]
    push_cast
    rw [pow_toNat 2 whole]
    ring
  · have none : exponent.toNat = 0 := by omega
    have split : (2 : ℚ) ^ exponent = 5 ^ (-exponent).toNat * 10 ^ exponent := by
      rw [pow_toNat 5 (by omega), show (10 : ℚ) = 5 * 2 by norm_num, mul_zpow, ← mul_assoc,
        ← zpow_add₀ (by norm_num)]
      simp
    rw [none, min_eq_left fraction, split]
    push_cast
    ring

section

variable {x : Float} {sign : UnpackedFloat.Sign} {m : Nat} {e : Int} {positive : 0 < m}

/-- A decimal that is rounded to the parts of a double names the magnitude of the double. -/
theorem nearest_of_rounded (parts : x.toModel.unpack = .finite sign m e positive) {decimal : Decimal}
    (rounds : rounded .positive decimal.value = .finite .positive m e positive) :
    decimal.nearest = x.abs := by
  -- The parts are those of the magnitude, and packing them restores it.
  have magnitude : x.abs.toModel.unpack = .finite .positive m e positive := by
    rw [Double.unpack_abs, parts]
    rfl
  rw [nearest_eq, rounds, ← magnitude, Double.pack_unpack]

/-- The sign has no part in whether a double can have some digits. -/
theorem isCanonical_magnitude (parts : x.toModel.unpack = .finite sign m e positive) :
    IsCanonical (.finite .positive m e positive) := by
  -- Being canonical says nothing of the sign.
  have own := Double.isCanonical_unpack x
  rw [parts] at own
  exact own

/-- The exact decimal of a double names the magnitude of the double. -/
theorem nearest_ofBinary (parts : x.toModel.unpack = .finite sign m e positive) :
    (ofBinary m e).nearest = x.abs := by
  -- The decimal has the exact value of the binary digits, which are a double's own.
  refine nearest_of_rounded parts ?_
  rw [value_ofBinary, Double.rounded_of_isCanonical (isCanonical_magnitude parts)]

end

/-- The shortest decimal names the same double as the exact one. -/
theorem nearest_shortest {x : Float} {exact : Decimal} (names : exact.nearest = x) :
    (shortest x exact).nearest = x := by
  unfold shortest
  dsimp only
  rw [nearest_congr (value_trimmed _)]
  -- Whatever the search returns was tested, and otherwise the exact decimal is left.
  cases found : (List.range' 1 maxDigits).findSome? fun count =>
      (exact.neighbours (exact.numerals.length - count)).find? (·.nearest = x) with
  | none => exact names
  | some decimal =>
    obtain ⟨count, -, among⟩ := List.exists_of_findSome?_eq_some found
    have tested := List.find?_some among
    exact of_decide_eq_true tested

end Decimal

end PocketCalculator
