import PocketCalculator.Proofs.Decimal.Notation
import PocketCalculator.Proofs.Double.Whole
import PocketCalculator.Token.Printer

/-! Texts that are read as a given double, with a minus sign only in front of one with a sign. -/

namespace PocketCalculator

open Float.Model (UnpackedFloat Format)
open Float.Model.UnpackedFloat (Sign packComponents)

namespace Double

/-- Every word that is packed begins with the sign of its parts. -/
private theorem exists_packComponents (parts : UnpackedFloat) :
    ∃ exponent digits, UnpackedFloat.pack Format.binary64 parts
      = packComponents Format.binary64 (signOf parts) exponent digits := by
  -- Each way to pack a double ends in three fields, the first of which is its sign.
  cases parts with
  | notANumber => exact ⟨_, _, rfl⟩
  | infinity sign => exact ⟨_, _, rfl⟩
  | zero sign => exact ⟨_, _, rfl⟩
  | finite sign m e positive =>
    simp only [UnpackedFloat.pack]
    -- A number may overflow, and otherwise has or lacks its leading digit.
    split
    · exact ⟨_, _, rfl⟩
    · split
      · exact ⟨_, _, rfl⟩
      · exact ⟨_, _, rfl⟩

/-- A double has the sign that its highest bit shows. -/
theorem isSigned_pack (parts : UnpackedFloat) :
    Token.isSigned (.ofModel (.pack parts)) ↔ signOf parts = .negative := by
  obtain ⟨exponent, digits, packed⟩ := exists_packComponents parts
  have word : (Float.toBits (.ofModel (.pack parts))).toNat.testBit 63
      = (packComponents Format.binary64 (signOf parts) exponent digits).getLsbD 63 := by
    rw [← packed]
    rfl
  have bit : (packComponents Format.binary64 (signOf parts) exponent digits).getLsbD 63
      = (signOf parts).toBitVec.getLsbD 0 := by
    -- The sign stands above eleven bits of the exponent and 52 digits.
    show ((signOf parts).toBitVec ++ (exponent : BitVec 11) ++ (digits : BitVec 52)).getLsbD 63 = _
    rw [BitVec.getLsbD_append, BitVec.getLsbD_append]
    rfl
  unfold Token.isSigned
  rw [word, bit]
  cases signOf parts <;> simp [Sign.toBitVec]

/-- The same holds of the parts that a double is taken apart into. -/
theorem isSigned_iff (x : Float) : Token.isSigned x ↔ signOf x.toModel.unpack = .negative := by
  -- A double is what its own parts pack to.
  have packed := isSigned_pack x.toModel.unpack
  rwa [pack_unpack] at packed

/-- Without a sign a double is its own magnitude. -/
theorem abs_of_positive {x : Float} (unsigned : signOf x.toModel.unpack = .positive) : x.abs = x := by
  -- Dropping a positive sign changes no part.
  have same : x.abs.toModel.unpack = x.toModel.unpack := by
    rw [unpack_abs]
    cases parts : x.toModel.unpack <;> rw [parts] at unsigned <;> first | rfl | cases unsigned; rfl
  rw [← pack_unpack x.abs, same, pack_unpack]

/-- With a sign a double is its magnitude with the sign changed. -/
theorem neg_abs_of_negative {x : Float} (signed : signOf x.toModel.unpack = .negative) :
    -x.abs = x := by
  -- Dropping a negative sign and setting it again changes no part.
  have same : (-x.abs).toModel.unpack = x.toModel.unpack := by
    rw [unpack_neg, unpack_abs]
    cases parts : x.toModel.unpack <;> rw [parts] at signed <;> cases signed <;> rfl
  rw [← pack_unpack (-x.abs), same, pack_unpack]

end Double

open Double (signOf signOfInt rounded)

/-- A text that is read as a double, and begins with a minus only if the double has a sign. -/
def Spells (text : List Char) (x : Float) : Prop :=
  ∃ c run, text = c :: run ∧ (∀ d ∈ run, Decimal.isNumeral d)
    ∧ (Decimal.isNumeral c ∨ c = '-' ∧ Token.isSigned x) ∧ readLiteral? text = some x

/-- A literal that begins with a numeral is read without a sign. -/
theorem readLiteral?_of_isNumeral {c : Char} (numeral : Decimal.isNumeral c) (run : List Char) :
    readLiteral? (c :: run) = (Decimal.ofNumeral? (c :: run)).map (·.nearest) := by
  unfold readLiteral?
  -- A numeral is not the minus that the reader looks for first.
  split
  · rename_i behind same
    obtain ⟨rfl, rfl⟩ := List.cons.inj same
    exact absurd numeral (by decide)
  · rfl

section

variable {x : Float} {numeral : List Char} {decimal : Decimal}

/-- The magnitude is spelled by its numeral, and the sign by its mark. -/
theorem spells_of_abs (nonempty : numeral ≠ []) (numerals : ∀ c ∈ numeral, Decimal.isNumeral c)
    (read : Decimal.ofNumeral? numeral = some decimal) (names : decimal.nearest = x.abs) :
    Spells (signMark (signOf x.toModel.unpack) ++ numeral) x := by
  -- A negative number is spelled by a minus and its magnitude, any other one by the magnitude alone.
  cases sign : signOf x.toModel.unpack with
  | negative =>
    refine ⟨'-', numeral, rfl, numerals, .inr ⟨rfl, (Double.isSigned_iff x).mpr sign⟩, ?_⟩
    show (Decimal.ofNumeral? numeral).map (-·.nearest) = some x
    rw [read, Option.map_some, names, Double.neg_abs_of_negative sign]
  | positive =>
    obtain ⟨c, run, rfl⟩ := List.exists_cons_of_ne_nil nonempty
    obtain ⟨first, others⟩ := List.forall_mem_cons.mp numerals
    refine ⟨c, run, rfl, others, .inl first, ?_⟩
    show readLiteral? (c :: run) = some x
    rw [readLiteral?_of_isNumeral first, read, Option.map_some, names,
      Double.abs_of_positive sign]

/-- The plain notation spells every finite double. -/
theorem spells_positional (finite : x.isFinite) : Spells (signedText Decimal.positional x) x := by
  unfold signedText
  -- A zero is spelled by a zero, and a number by its shortest decimal.
  obtain ⟨sign, parts⟩ | ⟨sign, m, e, positive, parts⟩ := Double.zero_or_finite finite
  · -- The magnitude of a zero is the positive one.
    have magnitude : x.abs = .ofModel (.pack (.zero .positive)) := by
      rw [← Double.pack_unpack x.abs, Double.unpack_abs, parts]
      rfl
    have zero : Decimal.nearest ⟨0, 0⟩ = x.abs := by
      rw [magnitude]
      rfl
    have spelled : Spells (signMark (signOf x.toModel.unpack) ++ ['0']) x :=
      spells_of_abs (List.cons_ne_nil _ _) (List.forall_mem_singleton.mpr rfl) rfl zero
    rw [parts] at spelled ⊢
    exact spelled
  · obtain ⟨nonempty, numerals, decimal, read, same⟩ :=
      Decimal.positional_reads (.shortest x.abs (.ofBinary m e))
    -- The layout has the value of the decimal, and that is nearest to the magnitude.
    have names : decimal.nearest = x.abs := by
      rw [Decimal.nearest_congr same]
      exact Decimal.nearest_shortest (Decimal.nearest_ofBinary parts)
    have spelled := spells_of_abs nonempty numerals read names
    rw [parts] at spelled ⊢
    exact spelled

/-- The text of an integer is that of its magnitude behind the mark of its sign. -/
theorem toList_toString (n : Int) :
    (toString n).toList = signMark (signOfInt n) ++ Nat.toDigits 10 n.natAbs := by
  -- The library writes the digits of a natural number, with a minus in front of a negative one.
  cases n with
  | ofNat n =>
    show (toString n).toList = Nat.toDigits 10 n
    rw [Nat.toString_eq_ofList_toDigits, String.toList_ofList]
  | negSucc n =>
    have sign : signOfInt (.negSucc n) = .negative := if_pos (Int.negSucc_lt_zero n)
    rw [sign]
    show ("-" ++ toString (n + 1)).toList = '-' :: Nat.toDigits 10 (n + 1)
    rw [Nat.toString_eq_ofList_toDigits, String.toList_append]
    exact congrArg ('-' :: ·) String.toList_ofList

/-- An integer spells the double that it is rounded to. -/
theorem spells_toString (n : Int64) : Spells (toString n.toInt).toList (ofWhole n) := by
  -- The digits of the magnitude are read as an integer, and the double of the integer is the
  -- nearest one to it.
  have digits := Decimal.isDigit_of_mem_toDigits n.toInt.natAbs
  have read := Decimal.ofNumeral?_digits digits Nat.toDigits_ne_nil
  rw [Nat.ofDigitChars_ten_toDigits] at read
  have sign : signOf (ofWhole n).toModel.unpack = signOfInt n.toInt := by
    rw [Double.unpack_ofWhole, Double.signOf_rounded]
  have names : Decimal.nearest ⟨n.toInt.natAbs, 0⟩ = (ofWhole n).abs := by
    have value : Decimal.value ⟨n.toInt.natAbs, 0⟩ = n.toInt.natAbs := by
      simp [Decimal.value]
    rw [Decimal.nearest_eq, value, ← Double.pack_unpack (ofWhole n).abs, Double.unpack_abs,
      Double.unpack_ofWhole, Double.abs_rounded]
  rw [toList_toString, ← sign]
  exact spells_of_abs Nat.toDigits_ne_nil
    (fun c member => Decimal.isNumeral_of_isDigit (digits c member)) read names

end

end PocketCalculator
