import PocketCalculator.Token.Lexeme

/-! Exactly the literals with a digit and at most one point are read as numbers. -/

namespace PocketCalculator

namespace Decimal

private theorem not_isDigit_point : Char.isDigit '.' = false := by
  -- The point is not one of the ten digits.
  decide

private theorem eq_point {c : Char} (numeral : isNumeral c) (other : c.isDigit = false) : c = '.' := by
  -- A numeral that is no digit is a point.
  simpa [isNumeral, other] using numeral

/-- A run of digits and points holds digits only exactly if it holds no point. -/
theorem all_isDigit_iff {chars : List Char} (numerals : ∀ c ∈ chars, isNumeral c) :
    chars.all Char.isDigit ↔ chars.count '.' = 0 := by
  -- Among numerals the points are just those that are not digits.
  rw [List.all_eq_true, List.count_eq_zero]
  constructor
  · intro digits point
    have digit := digits '.' point
    rw [not_isDigit_point] at digit
    exact absurd digit (by decide)
  · intro noPoint c member
    cases digit : c.isDigit with
    | true => rfl
    | false => exact absurd (eq_point (numerals c member) digit ▸ member) noPoint

private theorem any_isDigit_of_all {chars : List Char} (digits : chars.all Char.isDigit) :
    chars.any Char.isDigit = !chars.isEmpty := by
  -- The first character of a run of digits is a digit.
  cases chars with
  | nil => rfl
  | cons c rest =>
    have first := List.all_eq_true.mp digits c (by simp)
    simp [first]

/-- Behind a point only digits follow exactly if no second point does. -/
theorem digits_beside_point {whole fraction : List Char} (digits : whole.all Char.isDigit)
    (numerals : ∀ c ∈ fraction, isNumeral c) :
    (fraction.all Char.isDigit && !(whole ++ fraction).isEmpty)
      = ((whole ++ '.' :: fraction).any Char.isDigit && (whole ++ '.' :: fraction).count '.' ≤ 1) := by
  -- The point that separates the two parts is one point more than they hold.
  have wholeNumerals : ∀ c ∈ whole, isNumeral c := by
    intro c member
    simp [isNumeral, List.all_eq_true.mp digits c member]
  have points : (whole ++ '.' :: fraction).count '.' = fraction.count '.' + 1 := by
    rw [List.count_append, (all_isDigit_iff wholeNumerals).mp digits, List.count_cons_self,
      Nat.zero_add]
  have either : (whole ++ '.' :: fraction).any Char.isDigit = (whole ++ fraction).any Char.isDigit := by
    simp [not_isDigit_point]
  rw [points, either]
  cases plain : fraction.all Char.isDigit with
  | true =>
    -- All that is left to ask for is one digit on either side.
    have together : (whole ++ fraction).all Char.isDigit := by
      rw [List.all_append, digits, plain]
      rfl
    rw [any_isDigit_of_all together, (all_isDigit_iff numerals).mp plain]
    simp
  | false =>
    -- A part behind the point that is not all digits holds another point.
    have morePoints : fraction.count '.' ≠ 0 := by
      intro none
      rw [(all_isDigit_iff numerals).mpr none] at plain
      exact absurd plain (by decide)
    simp [morePoints]

/-- A run of digits and points is read exactly if it has a digit and at most one point. -/
theorem isSome_ofNumeral? {chars : List Char} (numerals : ∀ c ∈ chars, isNumeral c) :
    (ofNumeral? chars).isSome = (chars.any Char.isDigit && chars.count '.' ≤ 1) := by
  -- The digits in front of the first point are set apart from everything behind them.
  have parts : chars.takeWhile Char.isDigit ++ chars.dropWhile Char.isDigit = chars :=
    List.takeWhile_append_dropWhile
  have digits : (chars.takeWhile Char.isDigit).all Char.isDigit := List.all_takeWhile
  unfold ofNumeral?
  cases behind : chars.dropWhile Char.isDigit with
  | nil =>
    rw [behind, List.append_nil] at parts
    rw [parts] at digits ⊢
    rw [any_isDigit_of_all digits, (all_isDigit_iff numerals).mp digits]
    cases chars <;> simp
  | cons point fraction =>
    -- What stops the digits is a point.
    have stop : point.isDigit = false := by
      have head := List.head?_dropWhile_not Char.isDigit chars
      rw [behind] at head
      simpa using head
    rw [behind] at parts
    have within : ∀ c ∈ point :: fraction, isNumeral c := by
      intro c member
      refine numerals c ?_
      rw [← parts]
      exact List.mem_append_right _ member
    obtain rfl : point = '.' := eq_point (within point (.head _)) stop
    have beside := digits_beside_point digits fun c member => within c (.tail _ member)
    rw [parts] at beside
    rw [← beside]
    cases plain : fraction.all Char.isDigit
      && !(chars.takeWhile Char.isDigit ++ fraction).isEmpty <;> simp_all

end Decimal

/-- A literal is read exactly if it is a number, whatever its sign. -/
theorem isSome_readLiteral? {c : Char} {run : List Char} (start : Decimal.isNumeral c ∨ c = '-')
    (numerals : ∀ d ∈ run, Decimal.isNumeral d) :
    (readLiteral? (c :: run)).isSome = Lexeme.isNumber (c :: run) := by
  rcases start with numeral | rfl
  · -- No numeral begins with a minus, so nothing is taken off its front.
    have unsigned : c ≠ '-' := by
      rintro rfl
      exact absurd numeral (by decide)
    have whole : ∀ d ∈ c :: run, Decimal.isNumeral d :=
      List.forall_mem_cons.mpr ⟨numeral, numerals⟩
    have read : readLiteral? (c :: run) = (Decimal.ofNumeral? (c :: run)).map (·.nearest) := by
      unfold readLiteral?
      split
      · simp_all
      · rfl
    rw [read, Option.isSome_map, Decimal.isSome_ofNumeral? whole]
    simp [Lexeme.isNumber, unsigned]
  · have read : readLiteral? ('-' :: run) = (Decimal.ofNumeral? run).map (-·.nearest) := rfl
    rw [read, Option.isSome_map, Decimal.isSome_ofNumeral? numerals]
    rfl

end PocketCalculator
