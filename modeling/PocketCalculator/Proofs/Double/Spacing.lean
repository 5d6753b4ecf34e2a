import PocketCalculator.Proofs.Double.Rounding

/-! How close to a double a number has to be in order to be rounded to it. -/

namespace PocketCalculator

namespace Double

open Float.Model (UnpackedFloat)
open Float.Model.UnpackedFloat (Sign)

/-- What is less than a half away from a positive whole number is rounded to it. -/
theorem roundEven_of_near {y : ℚ} {n : Nat} (positive : 0 < n) (near : |y - n| < 1 / 2) :
    roundEven y = n := by
  obtain ⟨less, rfl⟩ : ∃ less, n = less + 1 := ⟨n - 1, by omega⟩
  obtain ⟨low, high⟩ := abs_lt.mp near
  have nonneg : (0 : ℚ) ≤ less := Nat.cast_nonneg less
  push_cast at low high
  unfold roundEven
  by_cases above : (less : ℚ) + 1 ≤ y
  · -- The whole part is the number itself, and the rest is small.
    have floor : ⌊y⌋₊ = less + 1 := by
      rw [Nat.floor_eq_iff (by linarith)]
      push_cast
      exact ⟨above, by linarith⟩
    rw [floor]
    push_cast
    rw [if_pos (by linarith)]
  · -- The whole part is one less, and the rest is large.
    have floor : ⌊y⌋₊ = less := (Nat.floor_eq_iff (by linarith)).mpr ⟨by linarith, not_le.mp above⟩
    have large : 1 / 2 < y - less := by linarith
    rw [floor, if_neg large.not_gt, if_neg large.ne']

section

variable {m : Nat} {e : Int} {q : ℚ}

/-- Where the last place of a number is that of a double nearby, the number is rounded to the double. -/
theorem rounded_of_lastPlace_eq (sign : Sign) (positive : 0 < m) (short : m < 2 ^ 53)
    (place : lastPlace q = e) (near : |q / 2 ^ e - m| < 1 / 2) :
    rounded sign q = .finite sign m e positive := by
  -- Near the digits m the quotient rounds to m, and m needs no carry.
  have digits := roundEven_of_near positive near
  simp only [rounded, place, digits, positive, short, dif_pos, if_pos]

/-- Just below a power of two the places are finer by one, and rounding carries back to the power. -/
theorem rounded_of_lastPlace_below (sign : Sign) (place : lastPlace q = e - 1)
    (near : |q / 2 ^ e - (2 ^ 52 : Nat)| < 1 / 4) :
    rounded sign q = .finite sign (2 ^ 52) e (by decide) := by
  -- All digits are ones, so that the last one carries through all the others.
  have halved : q / 2 ^ (e - 1) = 2 * (q / 2 ^ e) := by
    rw [zpow_sub_one₀ (by norm_num)]
    field_simp
  have carry : roundEven (q / 2 ^ (e - 1)) = 2 ^ 53 := by
    refine roundEven_of_near (by norm_num) ?_
    rw [halved]
    rw [abs_lt] at near ⊢
    push_cast at near ⊢
    constructor <;> linarith
  simp only [rounded, place, carry, show (0 : Nat) < 2 ^ 53 by norm_num, dif_pos, lt_irrefl, if_false]
  congr 1
  omega

/-- A number nearby has the last place of the double, or the one below if the double is a power of two. -/
theorem lastPlace_of_near {sign : Sign} {positive : 0 < m}
    (canonical : IsCanonical (.finite sign m e positive)) (near : |q / 2 ^ e - m| < 1 / 2) :
    lastPlace q = e ∨ (lastPlace q = e - 1 ∧ m = 2 ^ 52) := by
  obtain ⟨short, lowest, -, normal⟩ := canonical
  obtain ⟨low, high⟩ := abs_lt.mp near
  have scale := two_zpow_pos e
  have above : 0 < q := by
    have some : (1 : ℚ) ≤ m := by exact_mod_cast positive
    have quotient : 0 < q / 2 ^ e := by linarith
    exact (div_pos_iff_of_pos_right scale).mp quotient
  -- A power of two is reached exactly if it is reached in units of the last place.
  have reaches : ∀ k : Int, k + e ≤ Int.log 2 q ↔ 2 ^ k ≤ q / 2 ^ e := by
    intro k
    rw [le_log_iff above, zpow_add₀ (by norm_num), le_div_iff₀ scale]
  -- The digits are at most 53, so the leading one is no higher than that.
  have most : ¬53 + e ≤ Int.log 2 q := by
    have digits : (m : ℚ) + 1 ≤ 2 ^ 53 := by exact_mod_cast short
    rw [reaches, not_le]
    exact_mod_cast (by linarith : q / 2 ^ e < 2 ^ 53)
  by_cases reached : 52 + e ≤ Int.log 2 q
  · -- With the leading digit in its full place the last one is where it was.
    left
    unfold lastPlace
    omega
  -- At the lowest exponent there is no finer place.
  by_cases small : e = -1074
  · left
    unfold lastPlace
    omega
  -- Just below the smallest significand with all its digits the places are finer.
  right
  have full : 2 ^ 52 ≤ m := by omega
  have least : 51 + e ≤ Int.log 2 q := by
    have leading : (2 : ℚ) ^ 52 ≤ m := by exact_mod_cast full
    rw [reaches]
    exact_mod_cast (by linarith : (2 : ℚ) ^ 51 ≤ q / 2 ^ e)
  -- One place lower the digits can only be those of the power of two.
  have smallest : m < 2 ^ 52 + 1 := by
    rw [reaches, not_le] at reached
    have bound : q / 2 ^ e < 2 ^ 52 := by exact_mod_cast reached
    have less : (m : ℚ) < (2 ^ 52 + 1 : Nat) := by
      push_cast
      linarith
    exact_mod_cast less
  unfold lastPlace
  omega

/--
A number is rounded to a double if it is off by one part in `2 * 10 ^ 16` at most.

Doubles lie further apart than twice as much everywhere.
-/
theorem rounded_of_near {sign : Sign} {positive : 0 < m}
    (canonical : IsCanonical (.finite sign m e positive))
    (near : 2 * 10 ^ 16 * |q - m * 2 ^ e| ≤ m * 2 ^ e) :
    rounded sign q = .finite sign m e positive := by
  have short := canonical.1
  -- The distance is measured in the last place of the double.
  have relative : 2 * 10 ^ 16 * |q / 2 ^ e - m| ≤ m := by
    have scale := two_zpow_pos e
    have scaled : q - m * 2 ^ e = (q / 2 ^ e - m) * 2 ^ e := by field_simp
    rw [scaled, abs_mul, abs_of_pos scale, ← mul_assoc] at near
    exact le_of_mul_le_mul_right near scale
  have close : |q / 2 ^ e - m| < 1 / 2 := by
    have digits : (m : ℚ) < 2 ^ 53 := by exact_mod_cast short
    linarith
  obtain place | ⟨place, rfl⟩ := lastPlace_of_near canonical close
  · exact rounded_of_lastPlace_eq sign positive short place close
  · -- Significands that are so small lie closer to their numbers still.
    refine rounded_of_lastPlace_below sign place ?_
    push_cast at relative ⊢
    linarith

end

end Double

end PocketCalculator
