import PocketCalculator.NumberText.Reader
import PocketCalculator.Proofs.NumberText.Result

/-! The text of a result is read as the result, so different results have different texts. -/

namespace PocketCalculator

open Double (IsWhole value signOf signOfInt)

/-- The text of an integer is read as the integer. -/
theorem readInteger?_toString (n : Int) : readInteger? (toString n).toList = some n := by
  -- Behind the sign stand the digits of the magnitude, and nothing else.
  rw [toList_toString]
  generalize run : Nat.toDigits 10 n.natAbs = digits
  have all : ∀ c ∈ digits, c.isDigit := by
    rw [← run]
    exact Decimal.isDigit_of_mem_toDigits _
  have read : Nat.ofDigitChars 10 digits 0 = n.natAbs := by
    rw [← run, Nat.ofDigitChars_ten_toDigits]
  have accepted : (!digits.isEmpty && digits.all Char.isDigit) = true := by
    rw [Bool.and_eq_true_iff, List.all_eq_true]
    refine ⟨?_, all⟩
    rw [← run]
    simp
  unfold signOfInt
  split
  · -- The sign is taken off in front and put back behind.
    show (if (!digits.isEmpty && digits.all Char.isDigit) = true
      then some (-(Nat.ofDigitChars 10 digits 0 : Int)) else none) = some n
    rw [if_pos accepted, read, Option.some.injEq]
    omega
  · show readInteger? digits = some n
    unfold readInteger?
    split
    · -- A minus is no digit.
      exact absurd (all '-' (.head _)) (by decide)
    · rw [if_pos accepted, read, Option.some.injEq]
      omega

section

variable {chars mantissa : List Char} {decimal : Decimal} {x : Float}

private theorem not_mark {c : Char} (numeral : Decimal.isNumeral c) : decide (c ≠ 'e') = true := by
  -- The letter of the exponent is no numeral.
  rw [decide_eq_true_iff]
  rintro rfl
  exact absurd numeral (by decide)

/-- Without a power the notation is a numeral. -/
theorem Decimal.ofNotation?_numeral (numerals : ∀ c ∈ chars, isNumeral c) :
    ofNotation? chars = ofNumeral? chars := by
  -- The search for the mark runs through the whole text.
  have unmarked : ∀ c ∈ chars, decide (c ≠ 'e') = true := fun c member =>
    not_mark (numerals c member)
  unfold ofNotation?
  rw [List.takeWhile_eq_self_iff.mpr unmarked, List.dropWhile_eq_nil_iff.mpr unmarked]

/-- A power shifts the numeral in front of its mark. -/
theorem Decimal.ofNotation?_power (numerals : ∀ c ∈ mantissa, isNumeral c)
    (read : ofNumeral? mantissa = some decimal) (power : Int) :
    ofNotation? (mantissa ++ 'e' :: (toString power).toList)
      = some ⟨decimal.digits, decimal.exponent + power⟩ := by
  -- The mark in front of the power is the first one in the text.
  have unmarked : ∀ c ∈ mantissa, decide (c ≠ 'e') = true := fun c member =>
    not_mark (numerals c member)
  unfold ofNotation?
  rw [List.takeWhile_append_of_pos unmarked, List.dropWhile_append_of_pos unmarked,
    List.takeWhile_cons_of_neg (by simp), List.dropWhile_cons_of_neg (by simp), List.append_nil]
  show (do
    let front ← ofNumeral? mantissa
    let shift ← readInteger? (toString power).toList
    return (⟨front.digits, front.exponent + shift⟩ : Decimal)) = _
  rw [read, readInteger?_toString]
  rfl

/-- The notation with a power is read as the decimal that it was written for. -/
theorem Decimal.ofNotation?_scientific (decimal : Decimal) :
    ofNotation? decimal.scientific = some decimal := by
  obtain ⟨mantissa, layout, -, numerals, front, read, digits, exponent⟩ := decimal.scientific_reads
  rw [layout, ofNotation?_power numerals read, digits, exponent]
  -- The places behind the point and the power make up the exponent.
  congr 2
  omega

/-- A numeral is a magnitude. -/
theorem readMagnitude?_numeral (numerals : ∀ c ∈ chars, Decimal.isNumeral c) :
    readMagnitude? chars = (Decimal.ofNumeral? chars).map (·.nearest) := by
  have noWord : chars ≠ "inf".toList := by
    -- A numeral has no letters.
    rintro rfl
    exact absurd (numerals 'i' (.head _)) (by decide)
  unfold readMagnitude?
  rw [if_neg noWord, Decimal.ofNotation?_numeral numerals]

/-- So is the notation with a power. -/
theorem readMagnitude?_scientific (decimal : Decimal) :
    readMagnitude? decimal.scientific = some decimal.nearest := by
  obtain ⟨mantissa, layout, -⟩ := decimal.scientific_reads
  have noWord : decimal.scientific ≠ "inf".toList := by
    -- The word has no mark of a power.
    rw [layout]
    intro same
    have mark : 'e' ∈ "inf".toList := by
      rw [← same]
      simp
    exact absurd mark (by decide)
  unfold readMagnitude?
  rw [if_neg noWord, decimal.ofNotation?_scientific, Option.map_some]

/-- No minus stands in front of the notation with a power. -/
theorem scientific_unsigned (decimal : Decimal) (run : List Char) :
    decimal.scientific ≠ '-' :: run := by
  -- A mantissa begins with a numeral, and a minus is none.
  obtain ⟨mantissa, layout, nonempty, numerals, -⟩ := decimal.scientific_reads
  obtain ⟨c, others, rfl⟩ := List.exists_cons_of_ne_nil nonempty
  rw [layout]
  rintro ⟨⟩
  exact absurd (numerals '-' (.head _)) (by decide)

/-- Without a minus in front the whole text is a magnitude. -/
theorem readResult?_unsigned {text : String} (unsigned : ∀ run, text.toList ≠ '-' :: run) :
    readResult? text = readMagnitude? text.toList := by
  -- Without a minus in front the whole text is read as a magnitude.
  unfold readResult?
  split
  · rename_i run same
    exact absurd same (unsigned run)
  · rfl

/-- A text that spells a double is read as this double. -/
theorem readResult?_of_spells {text : String} (spells : Spells text.toList x) :
    readResult? text = some x := by
  obtain ⟨c, run, layout, numerals, first, literal⟩ := spells
  rw [layout] at literal
  rcases first with numeral | ⟨rfl, -⟩
  · -- Literals and results are read alike as long as there is no power.
    have unsigned : ∀ run, text.toList ≠ '-' :: run := by
      rw [layout]
      rintro others ⟨⟩
      exact absurd numeral (by decide)
    rw [readResult?_unsigned unsigned, layout,
      readMagnitude?_numeral (List.forall_mem_cons.mpr ⟨numeral, numerals⟩), ← literal,
      readLiteral?_of_isNumeral numeral]
  · -- A minus is applied to the double in both.
    unfold readResult?
    rw [layout]
    show (readMagnitude? run).map (-·) = some x
    rw [readMagnitude?_numeral numerals, Option.map_map]
    exact literal

/-- The sign in front of a magnitude is that of the double. -/
theorem readResult?_signed (unsigned : ∀ run, chars ≠ '-' :: run)
    (read : readMagnitude? chars = some x.abs) :
    readResult? (String.ofList (signMark (signOf x.toModel.unpack) ++ chars)) = some x := by
  -- A negative number is written with a mark, which is what the reader takes the sign from.
  cases sign : signOf x.toModel.unpack with
  | negative =>
    unfold readResult?
    rw [String.toList_ofList]
    show (readMagnitude? chars).map (-·) = some x
    rw [read, Option.map_some, Double.neg_abs_of_negative sign]
  | positive =>
    -- Any other one is written without, and is its own magnitude.
    have front : signMark .positive ++ chars = chars := rfl
    rw [front, readResult?_unsigned (by simpa using unsigned), String.toList_ofList, read,
      Double.abs_of_positive sign]

end

section

variable {x u v : Float}

/-- Doubles are equal if they are one and the same number, or two zeros. -/
theorem beq_iff_same : u == v ↔ (u = v ∧ ¬u.isNaN) ∨ (u == 0 ∧ v == 0) := by
  constructor
  · intro same
    obtain ⟨number, number', status⟩ := Double.status_of_beq same
    by_cases finite : u.isFinite
    · -- Only zero has two doubles.
      have finite' : v.isFinite := status ▸ finite
      have numbers : value u = value v := (Double.beq_iff finite finite').mp same
      by_cases nothing : value u = 0
      · refine .inr ⟨(beq_zero_iff finite).mpr nothing, (beq_zero_iff finite').mpr ?_⟩
        rw [← numbers, nothing]
      · exact .inl ⟨Double.eq_of_value_eq finite finite' numbers nothing, number⟩
    · -- Infinities are equal if they have one sign.
      obtain ⟨sign, parts⟩ := Double.exists_infinity number finite
      obtain ⟨other, parts'⟩ := Double.exists_infinity number' (status ▸ finite)
      have model : (u.toModel.unpack.compare v.toModel.unpack == some .eq) = true := same
      have signs : sign = other := by
        rw [parts, parts'] at model
        cases sign <;> cases other <;> first | rfl | cases model
      refine .inl ⟨?_, number⟩
      rw [← Double.pack_unpack u, parts, signs, ← parts', Double.pack_unpack]
  · rintro (⟨rfl, number⟩ | ⟨zero, zero'⟩)
    · -- A number equals itself, finite or not.
      by_cases finite : u.isFinite
      · exact (Double.beq_iff finite finite).mpr rfl
      · obtain ⟨sign, parts⟩ := Double.exists_infinity number finite
        show (u.toModel.unpack.compare u.toModel.unpack == some .eq) = true
        rw [parts]
        cases sign <;> rfl
    · -- Two zeros are equal by their value.
      have finite : u.isFinite := (Double.status_of_beq zero).2.2
      have finite' : v.isFinite := (Double.status_of_beq zero').2.2
      rw [Double.beq_iff finite finite', (beq_zero_iff finite).mp zero,
        (beq_zero_iff finite').mp zero']

/-- What is not finite has no integer to equal, and is shown as a word. -/
theorem resultText_of_not_isFinite (infinite : ¬x.isFinite) :
    resultText x = String.ofList (signedText Decimal.scientific x) := by
  have integer : ¬x == ofWhole (wholePart x) := by
    intro same
    refine infinite ?_
    rw [(Double.status_of_beq same).2.2]
    exact Double.isFinite_ofWhole _
  unfold resultText
  rw [if_neg integer]
  -- Words are not laid out, so both layouts are alike.
  unfold signedText
  obtain parts | ⟨sign, parts⟩ := Double.nan_or_infinity (Bool.eq_false_iff.mpr infinite)
  · rw [parts]
  · rw [parts]

/-- What is not a number is shown as a word that is read as no number. -/
theorem readResult?_of_isNaN (status : x.isNaN) : readResult? (resultText x) = none := by
  -- What is no number is written as a word, and no number is read from that word.
  have parts : x.toModel.unpack = .notANumber := Double.eq_notANumber status
  have infinite : ¬x.isFinite := by
    show ¬x.toModel.unpack.isFinite
    rw [parts]
    exact nofun
  -- It is not finite, so it is not written with digits.
  rw [resultText_of_not_isFinite infinite, signedText, parts]
  show readResult? (String.ofList "NaN".toList) = none
  unfold readResult?
  rw [String.toList_ofList]
  rfl

/-- Every number is read from its text, but for the sign of a zero. -/
theorem readResult?_resultText (number : ¬x.isNaN) :
    readResult? (resultText x) = some (withoutZeroSign x) := by
  by_cases finite : x.isFinite
  · by_cases plain : IsPlain x
    · exact readResult?_of_spells (spells_resultText finite plain)
    · -- What is not plain has a power, and is no zero.
      have something : value x ≠ 0 := fun nothing => plain (.inl (isWhole_of_zero nothing))
      have kept : withoutZeroSign x = x := if_neg (mt (beq_zero_iff finite).mp something)
      rw [resultText_of_not_isPlain finite plain, kept]
      unfold signedText
      obtain ⟨sign, parts⟩ | ⟨sign, m, e, positive, parts⟩ := Double.zero_or_finite finite
      · refine absurd ?_ something
        rw [value, parts, Double.partsValue_zero]
      · have digits := readMagnitude?_scientific (.shortest x.abs (.ofBinary m e))
        rw [Decimal.nearest_shortest (Decimal.nearest_ofBinary parts)] at digits
        have read := readResult?_signed (scientific_unsigned _) digits
        rw [parts] at read ⊢
        exact read
  · -- The word behind the sign is that of positive infinity.
    obtain ⟨sign, parts⟩ := Double.exists_infinity number finite
    have magnitude : x.abs = infinity := by
      rw [← Double.pack_unpack x.abs, Double.unpack_abs, parts]
      rfl
    have kept : withoutZeroSign x = x := if_neg fun zero =>
      finite (Double.status_of_beq zero).2.2
    have word : readMagnitude? "inf".toList = some x.abs := by
      rw [magnitude]
      exact if_pos rfl
    have read := readResult?_signed (by simp) word
    rw [resultText_of_not_isFinite finite, kept, signedText, parts]
    rw [parts] at read
    exact read

/-- So every number is read as one that equals it. -/
theorem exists_readResult? (number : ¬x.isNaN) : ∃ w, readResult? (resultText x) = some w ∧ w == x := by
  refine ⟨_, readResult?_resultText number, ?_⟩
  -- The reader gives the number back, up to the sign of a zero, which is all that == forgives.
  unfold withoutZeroSign
  split
  · rename_i zero
    exact beq_iff_same.mpr (.inr ⟨rfl, zero⟩)
  · exact beq_iff_same.mpr (.inl ⟨rfl, number⟩)

private theorem zero_beq_zero : (0 : Float) == 0 :=
  -- Zero equals itself.
  rfl

/-- Losing the sign of a zero is all that makes two numbers one. -/
theorem beq_of_withoutZeroSign_eq (number : ¬u.isNaN)
    (same : withoutZeroSign u = withoutZeroSign v) : u == v := by
  -- Either both are zeros, or both were left alone and are the same.
  unfold withoutZeroSign at same
  split at same
  · rename_i zero
    split at same
    · rename_i zero'
      exact beq_iff_same.mpr (.inr ⟨zero, zero'⟩)
    · rename_i other
      -- A zero that lost its sign is still a zero.
      exact absurd (same ▸ zero_beq_zero) other
  · rename_i other
    split at same
    · subst same
      exact absurd zero_beq_zero other
    · exact beq_iff_same.mpr (.inl ⟨same, number⟩)

/-- Two results have one text exactly if they are equal or both not a number. -/
theorem resultText_eq_iff (u v : Float) :
    resultText u = resultText v ↔ u == v ∨ (u.isNaN ∧ v.isNaN) := by
  constructor
  · -- Both are read from the one text, each as itself.
    intro same
    by_cases status : u.isNaN <;> by_cases status' : v.isNaN
    · exact .inr ⟨status, status'⟩
    · have read := readResult?_resultText status'
      rw [← same, readResult?_of_isNaN status] at read
      cases read
    · have read := readResult?_resultText status
      rw [same, readResult?_of_isNaN status'] at read
      cases read
    · have read := readResult?_resultText status
      rw [same, readResult?_resultText status', Option.some.injEq] at read
      exact .inl (beq_of_withoutZeroSign_eq status read.symm)
  · -- Equal doubles differ in the sign of a zero at most, which is not shown.
    rintro (same | ⟨status, status'⟩)
    · rcases beq_iff_same.mp same with ⟨rfl, -⟩ | ⟨zero, zero'⟩
      · rfl
      · have finite : u.isFinite := (Double.status_of_beq zero).2.2
        have finite' : v.isFinite := (Double.status_of_beq zero').2.2
        rw [resultText_of_zero finite ((beq_zero_iff finite).mp zero),
          resultText_of_zero finite' ((beq_zero_iff finite').mp zero')]
    · obtain rfl : u = .nan := by simpa using status
      obtain rfl : v = .nan := by simpa using status'
      rfl

/-- Equal doubles are both written as integers, or neither. -/
theorem beq_ofWhole_congr (same : u == v) (integer : u == ofWhole (wholePart u)) :
    v == ofWhole (wholePart v) := by
  -- Which doubles are written as integers depends on their numbers only.
  have finite : u.isFinite := by
    rw [(Double.status_of_beq integer).2.2]
    exact Double.isFinite_ofWhole _
  have finite' : v.isFinite := by
    rwa [← (Double.status_of_beq same).2.2]
  have numbers : value u = value v := (Double.beq_iff finite finite').mp same
  rw [Double.beq_ofWhole_iff finite] at integer
  rwa [Double.beq_ofWhole_iff finite', IsWhole, ← numbers]

end

/--
The text of a result names its value: equal results have one text, and other ones have others.

Only the sign of a zero is lost, and no integer is written for a double other than the nearest to it.
-/
theorem resultText_names_value :
    (∀ u v : Float, resultText u = resultText v ↔ u == v ∨ (u.isNaN ∧ v.isNaN))
      ∧ (∀ u v : Float, resultText u = resultText v → u ≠ v → u == 0 ∧ v == 0)
      ∧ (∀ v : Float, ¬v.isNaN → ∃ w, readResult? (resultText v) = some w ∧ w == v)
      ∧ (∀ v : Float, v == ofWhole (wholePart v) →
        resultText v = toString (wholePart v).toInt
          ∧ ∃ w, readResult? (toString (wholePart v).toInt) = some w ∧ w == v)
      ∧ ∀ u v : Float, u == ofWhole (wholePart u) → ¬v == ofWhole (wholePart v) →
        resultText u ≠ resultText v := by
  refine ⟨resultText_eq_iff, ?_, fun v => exists_readResult?, ?_, ?_⟩
  · intro u v text different
    rcases (resultText_eq_iff u v).mp text with same | ⟨status, status'⟩
    · exact (beq_iff_same.mp same).resolve_left fun one => different one.1
    · -- There is only one double that is not a number.
      obtain rfl : u = .nan := by simpa using status
      obtain rfl : v = .nan := by simpa using status'
      exact absurd rfl different
  · -- The integer is read like every other result, so the double it was cut from is the nearest to it.
    intro v integer
    have text : resultText v = toString (wholePart v).toInt := if_pos integer
    refine ⟨text, ?_⟩
    rw [← text]
    exact exists_readResult? (Double.status_of_beq integer).1
  · intro u v integer fraction text
    rcases (resultText_eq_iff u v).mp text with same | ⟨status, -⟩
    · exact fraction (beq_ofWhole_congr same integer)
    · exact (Double.status_of_beq integer).1 status

/-- The sixty-third power of two is written as the integer below it, and read as itself again. -/
theorem resultText_names_value_ends :
    resultText 0 = resultText (-0) ∧ (0 : Float) ≠ -0
      ∧ (resultText 9223372036854775808 = "9223372036854775807"
        ∧ ∃ w, readResult? "9223372036854775807" = some w ∧ w == 9223372036854775808)
      ∧ (∃ w, readResult? (resultText 1e-5) = some w ∧ w == 1e-5)
      ∧ resultText 9223372036854775808 ≠ resultText 9223372036854777856 := by
  obtain ⟨texts, -, reads, integers, branches⟩ := resultText_names_value
  -- The whole part of 2 ^ 63 is the largest 64-bit integer.
  have part : (wholePart 9223372036854775808).toInt = 9223372036854775807 := rfl
  have integer := integers 9223372036854775808 (by decide)
  rw [part] at integer
  exact ⟨(texts 0 (-0)).mpr (.inl (by decide)), by decide, integer, reads 1e-5 (by decide),
    branches _ _ (by decide) (by decide)⟩

end PocketCalculator
