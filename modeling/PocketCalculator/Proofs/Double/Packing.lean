import Mathlib

/-! Doubles taken apart into sign, significand and exponent, and put together again. -/

namespace PocketCalculator

namespace Double

open Float.Model (UnpackedFloat Format)
open Float.Model.UnpackedFloat (Sign packComponents unpackSign unpackExponent unpackMantissa)

/--
The parts that a double can have.

A significand with fewer than 53 bits belongs to the smallest exponent.
-/
def IsCanonical : UnpackedFloat → Prop
  | .finite _ significand exponent _ =>
    significand < 2 ^ 53 ∧ -1074 ≤ exponent ∧ exponent ≤ 971
      ∧ (2 ^ 52 ≤ significand ∨ exponent = -1074)
  -- Zeros, infinities and what is not a number have no other part than a sign.
  | _ => True

/-- The parts that the three fields of a word stand for. -/
def ofFields (sign : Sign) (exponent : BitVec 11) (digits : BitVec 52) : UnpackedFloat :=
  if exponent = -1 then
    if digits = 0 then .infinity sign else .notANumber
  else if exponent = 0 then
    -- The leading digit is zero.
    if nonzero : 0 < digits.toNat then .finite sign digits.toNat (-1074) nonzero else .zero sign
  else
    -- The leading digit is one and not written down.
    .finite sign (2 ^ 52 + digits.toNat) (exponent.toNat - 1075) (by omega)

private theorem toNat_eq_iff {width : Nat} {a b : BitVec width} : a = b ↔ a.toNat = b.toNat :=
  -- Bit vectors of one width are equal when the numbers they spell are.
  BitVec.toNat_inj.symm

private theorem toNat_leading (digits : BitVec 52) :
    (1#1 ++ digits).toNat = 2 ^ 52 + digits.toNat := by
  -- The leading one stands 52 places above the first digit and overlaps with none of them.
  rw [BitVec.toNat_append, ← Nat.shiftLeft_add_eq_or_of_lt digits.isLt]
  rfl

private theorem ofBitVec_toBitVec (sign : Sign) : Sign.ofBitVec sign.toBitVec = sign := by
  -- Two signs, each spelled by one bit.
  cases sign <;> rfl

/-- The sign of a word is the one that it was put together with. -/
theorem unpackSign_packComponents {spec : Format} (sign : Sign)
    (exponent : BitVec spec.exponentBits) (digits : BitVec spec.mantissaBitsWithoutImplicit) :
    unpackSign (packComponents spec sign exponent digits) = sign.toBitVec := by
  -- The field has a single bit.
  apply BitVec.eq_of_getLsbD_eq
  intro i within
  obtain rfl : i = 0 := by omega
  simp [unpackSign, packComponents, BitVec.getLsbD_append, BitVec.getElem_append]

/-- The three fields make up the whole word. -/
theorem packComponents_unpack {spec : Format} (word : BitVec spec.numBits) :
    packComponents spec (Sign.ofBitVec (unpackSign word)) (unpackExponent word)
      (unpackMantissa word) = word := by
  have sign : (Sign.ofBitVec (unpackSign word)).toBitVec = unpackSign word := by
    generalize unpackSign word = bit
    revert bit
    decide
  have someDigits := spec.hm
  have someExponent := spec.he
  -- Each bit lies in exactly one of the fields.
  apply BitVec.eq_of_getLsbD_eq
  intro i within
  rw [packComponents, sign]
  simp only [unpackSign, unpackExponent, unpackMantissa, BitVec.getLsbD_append,
    BitVec.getLsbD_cast, BitVec.getLsbD_extract]
  by_cases low : i < spec.mantissaBitsWithoutImplicit
  · -- A bit of the digits.
    simp [low]
    omega
  by_cases middle : i < spec.mantissaBitsWithoutImplicit + spec.exponentBits
  · -- A bit of the exponent.
    have place : spec.mantissaBitsWithoutImplicit + (i - spec.mantissaBitsWithoutImplicit) = i := by
      omega
    simp only [low, if_false, if_pos (by omega : i - spec.mantissaBitsWithoutImplicit
      < spec.exponentBits), place]
    simp
    omega
  · -- The bit of the sign, which is the highest.
    obtain rfl : i = spec.mantissaBitsWithoutImplicit + spec.exponentBits := by
      simp only [Format.numBits] at within
      omega
    simp

/-- A word is taken apart by its fields. -/
theorem unpack_packComponents (sign : Sign) (exponent : BitVec 11) (digits : BitVec 52) :
    UnpackedFloat.unpack Format.binary64 (packComponents Format.binary64 sign exponent digits)
      = ofFields sign exponent digits := by
  -- The three fields are read back first; what remains is the same choice on both sides.
  have bias : Format.binary64.exponentBias = 1023 := rfl
  simp only [UnpackedFloat.unpack, UnpackedFloat.unpackExponent_packComponents,
    UnpackedFloat.unpackMantissa_packComponents, unpackSign_packComponents, ofBitVec_toBitVec,
    toNat_leading, bias]
  unfold ofFields
  -- The highest exponent marks infinities and what is no number.
  by_cases special : exponent = -1#11
  · simp [special]
  -- The lowest exponent marks zeros and numbers without a leading digit.
  by_cases least : exponent = 0#11
  · subst least
    by_cases noDigits : digits = 0#52
    · simp [noDigits]
    · have nonzero : 0 < digits.toNat := by
        rw [toNat_eq_iff] at noDigits
        simp at noDigits
        omega
      simp [noDigits, nonzero]
  · -- All others carry the leading digit that is not stored.
    simp [least]

/-- The parts of a word are canonical. -/
theorem isCanonical_ofFields (sign : Sign) (exponent : BitVec 11) (digits : BitVec 52) :
    IsCanonical (ofFields sign exponent digits) := by
  -- The bounds are those of the fields themselves: 52 stored digits and an exponent of 11 bits.
  have within := digits.isLt
  have bounded := exponent.isLt
  unfold ofFields
  split_ifs with special noDigits least nonzero
  · trivial
  · trivial
  · -- A number without its leading digit has the lowest exponent.
    exact ⟨by omega, by omega, by omega, .inr rfl⟩
  · trivial
  · -- Any other one has its leading digit.
    rw [toNat_eq_iff] at special least
    simp at special least
    exact ⟨by omega, by omega, by omega, .inl (by omega)⟩

/-- Parts that are no mere sign are packed by their fields. -/
theorem pack_ofFields {sign : Sign} {exponent : BitVec 11} {digits : BitVec 52}
    (number : exponent = -1 → digits = 0) :
    UnpackedFloat.pack Format.binary64 (ofFields sign exponent digits)
      = packComponents Format.binary64 sign exponent digits := by
  -- One case for each kind of double, with the fields that packing chooses for it.
  have bias : Format.binary64.exponentBias = 1023 := rfl
  have within := digits.isLt
  have bounded := exponent.isLt
  unfold ofFields
  split_ifs with special noDigits least nonzero
  · -- An infinity.
    rw [special, noDigits]
    rfl
  · -- What is no number is excluded.
    exact absurd (number special) noDigits
  · -- The digits are too few for a leading one, so the exponent field is zero.
    have short : digits.toNat.log2 < 52 := (Nat.log2_lt (by omega)).mpr within
    have notFull : digits.toNat.log2 + 1 ≠ Format.binary64.mantissaBits := by
      simp [Format.mantissaBits]
      omega
    simp only [UnpackedFloat.pack, notFull, bias]
    rw [least]
    simp
  · -- A zero has no digits.
    obtain rfl : digits = 0 := by
      rw [toNat_eq_iff]
      simp
      omega
    rw [least]
    rfl
  · -- The leading digit is there, so it is dropped and the exponent is biased.
    rw [toNat_eq_iff] at special least
    simp at special least
    have full : (2 ^ 52 + digits.toNat).log2 + 1 = Format.binary64.mantissaBits := by
      have log : (2 ^ 52 + digits.toNat).log2 = 52 := by
        rw [Nat.log2_eq_iff (by omega)]
        constructor <;> omega
      rw [log]
      rfl
    have biased : ((exponent.toNat - 1075 : Int) + (1023 : Nat) + (52 : Nat)).toNat
        = exponent.toNat := by
      omega
    have inRange : ¬2 ^ 11 ≤ exponent.toNat + 1 := by omega
    simp only [UnpackedFloat.pack, full, bias, biased, inRange, if_false, if_true]
    congr 1
    · simp
    · rw [toNat_eq_iff]
      simpa using within

/-- All canonical parts are those of some fields. -/
theorem exists_ofFields {parts : UnpackedFloat} (canonical : IsCanonical parts)
    (number : parts ≠ .notANumber) :
    ∃ sign exponent digits, (exponent = -1 → digits = 0) ∧ ofFields sign exponent digits = parts := by
  cases parts with
  | notANumber => exact absurd rfl number
  | infinity sign => exact ⟨sign, -1, 0, fun _ => rfl, rfl⟩
  | zero sign => exact ⟨sign, 0, 0, fun _ => rfl, rfl⟩
  | finite sign significand exponent positive =>
    obtain ⟨below, lowest, highest, normal⟩ := canonical
    by_cases short : significand < 2 ^ 52
    · -- The leading digit is zero, so the exponent is the smallest.
      obtain rfl : exponent = -1074 := normal.resolve_left (by omega)
      have digits : (BitVec.ofNat 52 significand).toNat = significand := by
        simpa using short
      exact ⟨sign, 0, .ofNat 52 significand, nofun, by simp [ofFields, digits, positive]⟩
    · -- Otherwise the leading digit is dropped, and the exponent is biased into its field.
      have digits : (BitVec.ofNat 52 (significand - 2 ^ 52)).toNat = significand - 2 ^ 52 := by
        rw [BitVec.toNat_ofNat, Nat.mod_eq_of_lt (by omega)]
      have biased : (BitVec.ofNat 11 (exponent + 1075).toNat).toNat = (exponent + 1075).toNat := by
        rw [BitVec.toNat_ofNat, Nat.mod_eq_of_lt (by omega)]
      -- The field is neither the highest nor the lowest one.
      have special : BitVec.ofNat 11 (exponent + 1075).toNat ≠ -1 := by
        rw [ne_eq, toNat_eq_iff, biased]
        simp
        omega
      have least : BitVec.ofNat 11 (exponent + 1075).toNat ≠ 0 := by
        rw [ne_eq, toNat_eq_iff, biased]
        simp
        omega
      refine ⟨sign, .ofNat 11 (exponent + 1075).toNat, .ofNat 52 (significand - 2 ^ 52),
        fun same => absurd same special, ?_⟩
      have restored : 2 ^ 52 + (significand - 2 ^ 52) = significand := by omega
      have placed : ((exponent + 1075).toNat : Int) - 1075 = exponent := by omega
      simp only [ofFields, special, least, if_false, digits, biased, restored, placed]

/-- Canonical parts survive being packed. -/
theorem unpack_pack {parts : UnpackedFloat} (canonical : IsCanonical parts) :
    (Float.Model.pack parts).unpack = parts := by
  -- Canonical parts come from fields, and the fields survive packing and unpacking.
  by_cases number : parts = .notANumber
  · rw [number]
    rfl
  · obtain ⟨sign, exponent, digits, finite, rfl⟩ := exists_ofFields canonical number
    show UnpackedFloat.unpack Format.binary64 (UnpackedFloat.pack Format.binary64 _) = _
    rw [pack_ofFields finite, unpack_packComponents]

/-- A double has canonical parts. -/
theorem isCanonical_unpack (x : Float) : IsCanonical x.toModel.unpack := by
  -- Every word of 64 bits is made of its three fields, and fields give canonical parts.
  have whole := @packComponents_unpack Format.binary64 x.toModel.toBits.toBitVec
  rw [Float.Model.unpack, ← whole, unpack_packComponents]
  exact isCanonical_ofFields _ _ _

/-- A double is determined by its parts. -/
theorem pack_unpack (x : Float) : Float.ofModel (.pack x.toModel.unpack) = x := by
  obtain ⟨⟨bits, valid⟩⟩ := x
  have whole := @packComponents_unpack Format.binary64 bits.toBitVec
  have packed : UnpackedFloat.pack Format.binary64 (UnpackedFloat.unpack Format.binary64 bits.toBitVec)
      = bits.toBitVec := by
    rw [← whole, unpack_packComponents]
    by_cases number : @unpackExponent Format.binary64 bits.toBitVec = -1
        → @unpackMantissa Format.binary64 bits.toBitVec = 0
    · exact pack_ofFields number
    · -- Only one word that is not a number is valid.
      obtain ⟨special, digits⟩ := Classical.not_imp.mp number
      have canonical := valid.eq_packedNaN special digits
      rw [whole, canonical]
      rfl
  unfold Float.Model.pack
  simp only [Float.Model.unpack, packed]

/-- Changing the sign changes nothing else. -/
theorem unpack_neg (x : Float) : (-x).toModel.unpack = x.toModel.unpack.neg := by
  -- Negation keeps the parts canonical, so packing them loses nothing.
  refine unpack_pack ?_
  have canonical := isCanonical_unpack x
  cases parts : x.toModel.unpack <;> rw [parts] at canonical <;> exact canonical

/-- The magnitude has a positive sign and the same digits. -/
theorem unpack_abs (x : Float) : x.abs.toModel.unpack = x.toModel.unpack.abs := by
  -- No condition on canonical parts speaks of the sign, so they stay canonical without it.
  refine unpack_pack ?_
  have canonical := isCanonical_unpack x
  cases parts : x.toModel.unpack <;> rw [parts] at canonical <;> exact canonical

end Double

end PocketCalculator
