import PocketCalculator.NumberText.Reader
import PocketCalculator.Proofs.NumberText.Result
import PocketCalculator.Proofs.Stacks.Settling
import PocketCalculator.Proofs.Token.Placing

/-! What the text of a result is worth when it is worked out again. -/

namespace PocketCalculator

open Token (ofText ofCharsAfter operandDue)
open Double (IsWhole value)

/-- A single number is its own value. -/
theorem evaluateTokens_number (unit : AngleUnit) (x : Float) :
    evaluateTokens unit [.number x] = .ok x := by
  -- The number is on the stack, and nothing waits.
  show Stacks.finish unit ⟨[x], []⟩ = .ok x
  unfold Stacks.finish Stacks.settleWhile
  rfl

/-- The value of a text is the value of the tokens that its characters are read as. -/
theorem evaluate_ofList {unit : AngleUnit} {chars : List Char} {tokens : List Token}
    {result : Float} (read : ofCharsAfter none chars = .ok tokens)
    (worth : evaluateTokens unit tokens = .ok result) :
    evaluate unit (String.ofList chars) = .ok result := by
  -- The characters of the text are the given ones.
  have ofChars : ofText (String.ofList chars) = .ok tokens := by
    rw [ofText, String.toList_ofList, read]
  rw [evaluate_of_ofText ofChars, worth]

/-- A name without a meaning spoils everything behind a number. -/
theorem evaluateTokens_unknown_name (unit : AngleUnit) (x : Float) {text : String}
    (unknown : MathFunction.named text = .error (.unknownToken text)) (tokens : List Token) :
    evaluateTokens unit (.number x :: .name text :: tokens) = .error (.unknownToken text) := by
  -- The name is looked up before anything is done with the number.
  have fed : Stacks.feed unit ⟨[x], []⟩ (.name text) = .error (.unknownToken text) := by
    show (MathFunction.named text >>= _) = _
    rw [unknown]
    rfl
  show (Stacks.feed unit ⟨[x], []⟩ (.name text) >>= _) >>= _ = _
  rw [fed]
  rfl

/-- What the text of a plain result gives in front of any text that does not go on with a numeral. -/
theorem ofCharsAfter_resultText {x : Float} (finite : x.isFinite) (plain : IsPlain x)
    {rest : List Char} (seam : ∀ c ∈ rest.head?, Decimal.isNumeral c = false) :
    ofCharsAfter none ((resultText x).toList ++ rest)
      = (ofCharsAfter (some (.number (withoutZeroSign x))) rest).map
        (.number (withoutZeroSign x) :: ·) :=
  -- The text spells the number, and at the beginning a sign is always allowed.
  Token.ofCharsAfter_spelled (spells_resultText finite plain) (fun _ => rfl) seam

/-- A plain result is worth itself. -/
theorem evaluate_resultText (unit : AngleUnit) {x : Float} (finite : x.isFinite) (plain : IsPlain x) :
    evaluate unit (resultText x) = .ok (withoutZeroSign x) := by
  -- Nothing follows the text, so the number is its only token.
  have read : ofText (resultText x) = .ok [.number (withoutZeroSign x)] := by
    have whole := @ofCharsAfter_resultText x finite plain [] nofun
    rw [List.append_nil, Token.ofCharsAfter_eq (some _)] at whole
    exact whole
  rw [evaluate_of_ofText read]
  exact evaluateTokens_number unit _

section

variable {rest numeral : List Char}

/-- A numeral is some number in every place. -/
theorem exists_ofCharsAfter_numeral (nonempty : numeral ≠ [])
    (numerals : ∀ c ∈ numeral, Decimal.isNumeral c)
    (read : ∃ decimal, Decimal.ofNumeral? numeral = some decimal)
    (seam : ∀ c ∈ rest.head?, Decimal.isNumeral c = false) (previous : Option Token) :
    ∃ x, ofCharsAfter previous (numeral ++ rest)
      = (ofCharsAfter (some (.number x)) rest).map (.number x :: ·) := by
  -- The numerals name a decimal, and the number is the double nearest to it.
  obtain ⟨decimal, found⟩ := read
  obtain ⟨c, run, rfl⟩ := List.exists_cons_of_ne_nil nonempty
  obtain ⟨first, others⟩ := List.forall_mem_cons.mp numerals
  have literal : readLiteral? (c :: run) = some decimal.nearest := by
    rw [readLiteral?_of_isNumeral first, found]
    rfl
  exact ⟨_, Token.ofCharsAfter_literal (.inl first) others literal seam⟩

/-- At the start of a text it may have a sign. -/
theorem exists_ofCharsAfter_signed (sign : Float.Model.UnpackedFloat.Sign) (nonempty : numeral ≠ [])
    (numerals : ∀ c ∈ numeral, Decimal.isNumeral c)
    (read : ∃ decimal, Decimal.ofNumeral? numeral = some decimal)
    (seam : ∀ c ∈ rest.head?, Decimal.isNumeral c = false) :
    ∃ x, ofCharsAfter none (signMark sign ++ numeral ++ rest)
      = (ofCharsAfter (some (.number x)) rest).map (.number x :: ·) := by
  -- At the beginning of the text the minus is read as a sign.
  cases sign with
  | negative =>
    obtain ⟨decimal, found⟩ := read
    have literal : readLiteral? ('-' :: numeral) = some (-decimal.nearest) := by
      show (Decimal.ofNumeral? numeral).map (-·.nearest) = _
      rw [found]
      rfl
    exact ⟨_, Token.ofCharsAfter_literal (.inr ⟨rfl, rfl⟩) numerals literal seam⟩
  | positive => exact exists_ofCharsAfter_numeral nonempty numerals read seam none

/-- The power behind the mark is read without an error, whatever it is. -/
theorem exists_ofCharsAfter_power (power : Int) :
    ∃ tokens, ofCharsAfter (some (.name "e")) (toString power).toList = .ok tokens := by
  have digits := Decimal.isDigit_of_mem_toDigits power.natAbs
  -- The digits of the power are a literal wherever they stand.
  have magnitude : ∀ previous, ∃ tokens,
      ofCharsAfter previous (Nat.toDigits 10 power.natAbs) = .ok tokens := by
    intro previous
    obtain ⟨x, read⟩ := @exists_ofCharsAfter_numeral [] _ Nat.toDigits_ne_nil
      (fun c member => Decimal.isNumeral_of_isDigit (digits c member))
      ⟨_, Decimal.ofNumeral?_digits digits Nat.toDigits_ne_nil⟩ nofun previous
    rw [List.append_nil, Token.ofCharsAfter_eq (some _)] at read
    exact ⟨_, read⟩
  rw [toList_toString]
  cases Double.signOfInt power with
  | negative =>
    -- A minus behind a name is a subtraction.
    obtain ⟨tokens, behind⟩ := magnitude (some (.operator .subtract))
    refine ⟨.operator .subtract :: tokens, ?_⟩
    obtain ⟨solid, letter, numeral⟩ := isSymbol_apart (.inr ⟨.subtract, rfl⟩)
    show ofCharsAfter (some (.name "e"))
      (Operator.subtract.symbol :: Nat.toDigits 10 power.natAbs) = _
    rw [Token.ofCharsAfter_symbol solid letter numeral fun _ => rfl]
    show (ofCharsAfter (some (.operator .subtract)) _).map _ = _
    rw [behind]
    rfl
  | positive => exact magnitude _

/-- No power begins with a letter. -/
theorem isLetter_head_toString (power : Int) :
    ∀ c ∈ (toString power).toList.head?, isLetter c = false := by
  intro c head
  -- A power begins with a minus or a digit, and neither is a letter.
  rw [toList_toString] at head
  cases sign : Double.signOfInt power with
  | negative =>
    rw [sign] at head
    obtain rfl : '-' = c := by simpa [signMark] using head
    exact isLetter_of_lt (by decide)
  | positive =>
    rw [sign] at head
    have member : c ∈ Nat.toDigits 10 power.natAbs := List.mem_of_mem_head? head
    have digit : c.isDigit := Decimal.isDigit_of_mem_toDigits _ c member
    exact isLetter_of_isNumeral (Decimal.isNumeral_of_isDigit digit)

end

/-- A result with a power is read as a number, a name and the tokens of the power. -/
theorem exists_ofText_scientific {x : Float} (finite : x.isFinite) (other : ¬IsPlain x) :
    ∃ mantissa power, ofText (resultText x) = .ok (.number mantissa :: .name "e" :: power) := by
  rw [resultText_of_not_isPlain finite other]
  obtain ⟨sign, parts⟩ | ⟨sign, m, e, positive, parts⟩ := Double.zero_or_finite finite
  · -- A zero is whole, so it is written without a power.
    have nothing : value x = 0 := by
      unfold value
      rw [parts, Double.partsValue_zero]
    exact absurd (.inl (isWhole_of_zero nothing)) other
  · -- The mantissa ends at the letter, because the letter is no numeral.
    obtain ⟨numeral, layout, nonempty, numerals, decimal, read, -⟩ :=
      (Decimal.shortest x.abs (.ofBinary m e)).scientific_reads
    generalize (Decimal.shortest x.abs (.ofBinary m e)).exponent
      + ((Decimal.shortest x.abs (.ofBinary m e)).numerals.length - 1 : Nat) = power at layout
    obtain ⟨mantissa, front⟩ := @exists_ofCharsAfter_signed ('e' :: (toString power).toList) _ sign
      nonempty numerals ⟨decimal, read⟩ (by simpa using by decide)
    -- The letter is a name of its own, since what follows it is a sign or a digit.
    have mark : ofCharsAfter (some (.number mantissa)) (['e'] ++ (toString power).toList)
        = (ofCharsAfter (some (.name "e")) (toString power).toList).map (.name "e" :: ·) :=
      Token.ofCharsAfter_letters (List.cons_ne_nil _ _)
        (List.forall_mem_singleton.mpr (isLetter_of_isAlpha (by decide)))
        (isLetter_head_toString power)
    obtain ⟨tokens, behind⟩ := exists_ofCharsAfter_power power
    refine ⟨mantissa, tokens, ?_⟩
    have text : signedText Decimal.scientific x
        = signMark sign ++ numeral ++ 'e' :: (toString power).toList := by
      unfold signedText
      rw [parts, List.append_assoc, ← layout]
    unfold ofText
    rw [String.toList_ofList, text, front]
    show (ofCharsAfter _ (['e'] ++ (toString power).toList)).map _ = _
    rw [mark, behind]
    rfl

/-- The mark of a power is a name without a meaning, so a result with a power has no value. -/
theorem evaluate_resultText_scientific (unit : AngleUnit) {x : Float} (finite : x.isFinite)
    (other : ¬IsPlain x) : evaluate unit (resultText x) = .error (.unknownToken "e") := by
  -- The mantissa is a number, and the letter behind it is read as a name that means nothing.
  obtain ⟨mantissa, power, read⟩ := exists_ofText_scientific finite other
  rw [evaluate_of_ofText read]
  exact evaluateTokens_unknown_name unit mantissa rfl power

/-- Infinities and what is not a number are shown as words, and only the negative one has a sign. -/
theorem evaluate_resultText_words (unit : AngleUnit) :
    evaluate unit (resultText infinity) = .error (.unknownToken "inf")
      ∧ evaluate unit (resultText (-infinity)) = .error .malformed
      ∧ ∀ x : Float, x.isNaN → evaluate unit (resultText x) = .error (.unknownToken "NaN") := by
  -- Two of the words are single texts; what is no number always has the third.
  refine ⟨?_, ?_, ?_⟩
  · cases unit <;> decide +kernel
  · cases unit <;> decide +kernel
  · -- All doubles that are no number have the same text.
    intro x notANumber
    have parts : x.toModel.unpack = .notANumber := Double.eq_notANumber notANumber
    obtain rfl : .ofModel (.pack .notANumber) = x := by
      rw [← parts, Double.pack_unpack]
    cases unit <;> decide +kernel

/-- The text of the double zero is a single digit. -/
private theorem ofText_zero_append (text : String) :
    -- The zero is the first character of the text.
    ofText ("0" ++ text) = ofCharsAfter none (['0'] ++ text.toList) := by
  unfold ofText
  rw [String.toList_append]
  rfl

/--
Any text may follow a plain result, as long as it does not go on with the last numeral.

It is read as if it followed a zero, whose place the result takes.
-/
theorem ofText_resultText_append {v : Float} (finite : v.isFinite) (plain : IsPlain v)
    {text : String} (seam : ∀ c ∈ text.toList.head?, Decimal.isNumeral c = false) :
    (∀ tokens, ofText ("0" ++ text) = .ok tokens → tokens.head? = some (.number 0))
      ∧ ofText (resultText v ++ text)
        = (ofText ("0" ++ text)).map (fun tokens => .number (withoutZeroSign v) :: tokens.tail)
      ∧ ∀ unit, evaluate unit (resultText v ++ text) = ofText ("0" ++ text)
        >>= fun tokens => evaluateTokens unit (.number (withoutZeroSign v) :: tokens.tail) := by
  -- A zero in front of the text is a literal of one digit.
  have zero : ofText ("0" ++ text)
      = (ofCharsAfter (some (.number 0)) text.toList).map (.number 0 :: ·) := by
    rw [ofText_zero_append]
    exact Token.ofCharsAfter_literal (.inl rfl) nofun rfl seam
  have result : ofText (resultText v ++ text)
      = (ofCharsAfter (some (.number 0)) text.toList).map (.number (withoutZeroSign v) :: ·) := by
    -- All numbers are alike for what follows them.
    rw [Token.ofCharsAfter_congr (show operandDue (some (.number 0))
      = operandDue (some (.number (withoutZeroSign v))) from rfl)]
    unfold ofText
    rw [String.toList_append]
    exact ofCharsAfter_resultText finite plain seam
  -- The two readings differ in their first tokens only.
  have replaced : ofText (resultText v ++ text)
      = (ofText ("0" ++ text)).map (fun tokens => .number (withoutZeroSign v) :: tokens.tail) := by
    rw [zero, result]
    cases ofCharsAfter (some (.number 0)) text.toList <;> rfl
  refine ⟨?_, replaced, ?_⟩
  · intro tokens read
    rw [zero, map_eq_bind, bind_eq_ok_iff] at read
    obtain ⟨others, -, same⟩ := read
    cases same
    rfl
  · intro unit
    unfold evaluate
    rw [replaced]
    cases ofText ("0" ++ text) <;> rfl

/-- The text of a negative result can be followed by a minus, which then subtracts. -/
theorem ofText_negative_append :
    (-2.5 : Float).isFinite ∧ IsPlain (-2.5)
      ∧ (∀ c ∈ "-1".toList.head?, Decimal.isNumeral c = false)
      ∧ ofText (resultText (-2.5) ++ "-1") = .ok [.number (-2.5), .operator .subtract, .number 1]
      ∧ evaluate .degrees (resultText (-2.5) ++ "-1")
        = evaluateTokens .degrees [.number (-2.5), .operator .subtract, .number 1] := by
  -- A negative number, behind which the minus is an operator.
  have finite : (-2.5 : Float).isFinite := by decide +kernel
  have plain : IsPlain (-2.5) := (isPlain_iff finite).mpr (by decide +kernel)
  have seam : ∀ c ∈ "-1".toList.head?, Decimal.isNumeral c = false := by
    intro c head
    obtain rfl : '-' = c := by simpa using head
    decide
  obtain ⟨-, read, worth⟩ := ofText_resultText_append finite plain seam
  have zero : ofText ("0" ++ "-1") = .ok [.number 0, .operator .subtract, .number 1] := by
    decide +kernel
  have unsigned : withoutZeroSign (-2.5) = -2.5 := by decide +kernel
  have ordinary := worth .degrees
  rw [zero, unsigned] at read ordinary
  exact ⟨finite, plain, seam, read, ordinary⟩

/-- A whole result beyond the integers has a power, and negative zero does not keep its sign. -/
theorem resultText_append_power :
    (¬∀ v : Float, v.isFinite → (IsWhole v ∧ |value v| ≤ 2 ^ 63) ∨ 1e-4 ≤ v.abs
        → ∀ text : String, (∀ c ∈ text.toList.head?, Decimal.isNumeral c = false)
        → ofText (resultText v ++ text)
          = (ofText ("0" ++ text)).map fun tokens => .number (withoutZeroSign v) :: tokens.tail)
      ∧ evaluate .degrees (resultText (-0) ++ "") ≠ evaluateTokens .degrees [.number (-0)] := by
  constructor
  · -- The integer 1e20 is beyond the range of 64 bits, so its text has a letter in it.
    intro claim
    have read := claim 1e20 (by decide +kernel) (.inr (by decide +kernel)) "" nofun
    have written : ofText (resultText 1e20 ++ "")
        = .ok [.number 1, .name "e", .number 20] := by
      decide +kernel
    have zero : ofText ("0" ++ "") = .ok [.number 0] := by decide +kernel
    rw [written, zero] at read
    exact absurd read (by decide +kernel)
  · -- The sign of a negative zero is lost.
    decide +kernel

end PocketCalculator
