import PocketCalculator.Proofs.Outcome
import PocketCalculator.Proofs.Text.Classes
import PocketCalculator.Proofs.Token.Literal

/-! Telling signs by the token before them is telling them by the character before them. -/

namespace PocketCalculator

namespace Lexeme

/-- The characters that a piece takes from its text. -/
def chars : Lexeme → List Char
  | literal chars => chars
  | name chars => chars
  -- A symbol stands alone.
  | symbol c => [c]

/-- A literal begins with a numeral or a sign, and goes on with numerals only. -/
def Scanned : Lexeme → Prop
  | literal chars => ∃ c run, chars = c :: run ∧ (Decimal.isNumeral c ∨ c = '-')
      ∧ ∀ d ∈ run, Decimal.isNumeral d
  | _ => True

/-- The tokens of pieces, all of whose literals must be numbers. -/
def read (lexemes : List Lexeme) : Except CalcError (List Token) :=
  if lexemes.all isValid then .ok (lexemes.filterMap token?) else .error .malformed

/-- The pieces of a whole text. -/
def scan (text : String) : List Lexeme :=
  ofCharsAfter none text.toList

/-- A sign is due behind an opening parenthesis and behind the symbols of the binary operators. -/
theorem signDue_iff {c : Char} :
    signDue (some c) ↔ c = '(' ∨ ∃ op : Operator, op.isBinary ∧ c = op.symbol := by
  constructor
  · -- Each character of the list but the first belongs to one operator.
    intro due
    have listed : c ∈ ['(', '+', '-', '*', '/', '%', '^'] := of_decide_eq_true due
    simp only [List.mem_cons, List.not_mem_nil, or_false] at listed
    rcases listed with rfl | rfl | rfl | rfl | rfl | rfl | rfl
    · exact .inl rfl
    · exact .inr ⟨.add, rfl, rfl⟩
    · exact .inr ⟨.subtract, rfl, rfl⟩
    · exact .inr ⟨.multiply, rfl, rfl⟩
    · exact .inr ⟨.divide, rfl, rfl⟩
    · exact .inr ⟨.remainder, rfl, rfl⟩
    · exact .inr ⟨.power, rfl, rfl⟩
  · rintro (rfl | ⟨op, binary, rfl⟩)
    · rfl
    · cases op <;> first | rfl | cases binary

/-- No sign can follow a blank, a letter or a numeral. -/
theorem signDue_eq_false {c : Char} (other : isBlank c ∨ isLetter c ∨ Decimal.isNumeral c) :
    signDue (some c) = false := by
  -- The characters that let a minus be a sign are all symbols, so none is a blank, letter or numeral.
  rw [Bool.eq_false_iff]
  intro due
  have symbol : c = '(' ∨ ∃ op : Operator, c = op.symbol :=
    (signDue_iff.mp due).imp_right fun ⟨op, _, same⟩ => ⟨op, same⟩
  obtain ⟨blank, letter, numeral⟩ := isSymbol_apart symbol
  simp [blank, letter, numeral] at other

private theorem signDue_getLast? {run : List Char} (nonempty : run ≠ [])
    (others : ∀ c ∈ run, isLetter c ∨ Decimal.isNumeral c) : signDue run.getLast? = false := by
  -- The last character of a run is one of the run.
  rw [List.getLast?_eq_some_getLast nonempty]
  exact signDue_eq_false (.inr (others _ (List.getLast_mem nonempty)))

/-- No sign can follow a number, for a sign alone is none. -/
theorem signDue_of_isNumber {chars : List Char} (scanned : (literal chars).Scanned)
    (number : isNumber chars) : signDue chars.getLast? = false := by
  -- A run of numerals ends in one, and a minus alone is no number.
  obtain ⟨c, run, rfl, numeral | rfl, numerals⟩ := scanned
  · have whole : ∀ d ∈ c :: run, Decimal.isNumeral d :=
      List.forall_mem_cons.mpr ⟨numeral, numerals⟩
    exact signDue_getLast? (List.cons_ne_nil _ _) fun d member => .inr (whole d member)
  · cases run with
    | nil => exact absurd number (by decide)
    | cons d run =>
      rw [List.getLast?_cons_cons]
      exact signDue_getLast? (List.cons_ne_nil _ _) fun e member => .inr (numerals e member)

/-- A piece has a token exactly if it is valid. -/
theorem isSome_token? {lexeme : Lexeme} (scanned : lexeme.Scanned) :
    -- Only a literal can fail to have a token, and it does when it is no number.
    lexeme.token?.isSome = lexeme.isValid := by
  cases lexeme with
  | literal chars =>
    obtain ⟨c, run, rfl, start, numerals⟩ := scanned
    rw [token?, Option.isSome_map, isSome_readLiteral? start numerals]
    rfl
  | name chars => rfl
  | symbol c => rfl

private theorem scanned_literal {c : Char} {signed : Bool}
    (start : Decimal.isNumeral c || (c = '-' && signed)) (rest : List Char) :
    (literal (c :: rest.takeWhile Decimal.isNumeral)).Scanned := by
  -- The run is made of numerals, and its first character passed the test for a literal.
  refine ⟨c, _, rfl, ?_, List.all_eq_true.mp List.all_takeWhile⟩
  rcases Bool.or_eq_true_iff.mp start with numeral | sign
  · exact .inl numeral
  · exact .inr (of_decide_eq_true (Bool.and_eq_true_iff.mp sign).1)

/-- Every piece of a text is scanned as it should be. -/
theorem scanned_of_mem {previous : Option Char} {chars : List Char} :
    ∀ lexeme ∈ ofCharsAfter previous chars, lexeme.Scanned := by
  -- Along the recursion: each piece is taken by its own branch, and the rest is scanned likewise.
  fun_induction ofCharsAfter previous chars with
  | case1 => exact fun _ member => absurd member List.not_mem_nil
  | case2 previous c rest blank ih => exact ih
  | case3 previous c rest blank start run ih =>
    exact List.forall_mem_cons.mpr ⟨scanned_literal start rest, ih⟩
  | case4 previous c rest blank start letter run ih =>
    exact List.forall_mem_cons.mpr ⟨trivial, ih⟩
  | case5 previous c rest blank start letter ih =>
    exact List.forall_mem_cons.mpr ⟨trivial, ih⟩

/-- A run without blanks stays whole when the blanks around it are left out. -/
private theorem takeWhile_append_filter {p : Char → Bool} (solid : ∀ c, p c → isBlank c = false)
    (rest : List Char) :
    rest.takeWhile p ++ (rest.dropWhile p).filter (fun c => !isBlank c)
      = rest.filter fun c => !isBlank c := by
  -- No character of the run is blank, so the filter keeps it whole.
  have kept : (rest.takeWhile p).filter (fun c => !isBlank c) = rest.takeWhile p := by
    refine List.filter_eq_self.mpr fun c member => ?_
    rw [solid c (List.all_eq_true.mp List.all_takeWhile c member)]
    rfl
  calc rest.takeWhile p ++ (rest.dropWhile p).filter (fun c => !isBlank c)
      = (rest.takeWhile p ++ rest.dropWhile p).filter (fun c => !isBlank c) := by
        rw [List.filter_append, kept]
    _ = rest.filter fun c => !isBlank c := by rw [List.takeWhile_append_dropWhile]

/-- No character but the blanks is lost, and none is read twice. -/
theorem flatMap_chars (previous : Option Char) (chars : List Char) :
    (ofCharsAfter previous chars).flatMap Lexeme.chars = chars.filter fun c => !isBlank c := by
  -- Along the recursion: a blank is dropped, and each piece is followed by what the rest holds.
  fun_induction ofCharsAfter previous chars with
  | case1 => rfl
  | case2 previous c rest blank ih =>
    rw [ih, List.filter_cons_of_neg (by simp [blank])]
  | case3 previous c rest blank start run ih =>
    rw [List.flatMap_cons, ih, List.filter_cons_of_pos (by simp [blank])]
    -- A run of numerals has no blanks in it.
    exact congrArg (c :: ·) (takeWhile_append_filter (fun _ => isBlank_of_isNumeral) rest)
  | case4 previous c rest blank start letter run ih =>
    rw [List.flatMap_cons, ih, List.filter_cons_of_pos (by simp [blank])]
    -- Neither has a run of letters.
    exact congrArg (c :: ·) (takeWhile_append_filter (fun _ => isBlank_of_isLetter) rest)
  | case5 previous c rest blank start letter ih =>
    rw [List.flatMap_cons, ih, List.filter_cons_of_pos (by simp [blank])]
    rfl

/-- A valid piece in front adds its token to those of the others. -/
theorem read_cons {lexeme : Lexeme} {token : Token} (valid : lexeme.isValid)
    (made : lexeme.token? = some token) (others : List Lexeme) :
    read (lexeme :: others) = (read others).map (token :: ·) := by
  -- A valid piece decides nothing, so the others do.
  unfold read
  rw [List.all_cons, valid, Bool.true_and, List.filterMap_cons_some made]
  split <;> rfl

/-- A piece that is not valid spoils all the others. -/
theorem read_cons_of_not_valid {lexeme : Lexeme} (spoilt : lexeme.isValid = false)
    (others : List Lexeme) : read (lexeme :: others) = .error .malformed := by
  -- One spoilt piece is enough.
  unfold read
  rw [List.all_cons, spoilt, Bool.false_and]
  rfl

/-- Reading fails exactly if a literal is no number. -/
theorem read_eq_error_iff {lexemes : List Lexeme} :
    read lexemes = .error .malformed
      ↔ ∃ chars, .literal chars ∈ lexemes ∧ isNumber chars = false := by
  -- The pieces are read unless one of them is not valid.
  have failed : read lexemes = .error .malformed ↔ lexemes.all isValid = false := by
    unfold read
    cases lexemes.all isValid <;> simp
  rw [failed, List.all_eq_false]
  constructor
  · rintro ⟨lexeme, member, spoilt⟩
    -- Names and symbols are always valid, so the spoilt piece is a literal.
    cases lexeme with
    | literal chars => exact ⟨chars, member, by simpa [isValid] using spoilt⟩
    | name chars => exact absurd rfl spoilt
    | symbol c => exact absurd rfl spoilt
  · rintro ⟨chars, member, spoilt⟩
    exact ⟨.literal chars, member, by simpa [isValid] using spoilt⟩

/-- Reading succeeds exactly if every piece has a token, and gives these tokens. -/
theorem read_eq_ok_iff {lexemes : List Lexeme} (scanned : ∀ lexeme ∈ lexemes, lexeme.Scanned)
    {tokens : List Token} : read lexemes = .ok tokens ↔ lexemes.map token? = tokens.map some := by
  -- The induction peels off one piece and one token at a time.
  induction lexemes generalizing tokens with
  | nil => cases tokens <;> simp [read]
  | cons lexeme others ih =>
    obtain ⟨first, later⟩ := List.forall_mem_cons.mp scanned
    have valid := isSome_token? first
    cases made : lexeme.token? with
    | none =>
      -- This piece is spoilt, so there is neither a result nor a token for it.
      rw [made] at valid
      rw [read_cons_of_not_valid valid.symm]
      cases tokens <;> simp [made]
    | some token =>
      -- This one has a token, so the others decide on both sides.
      rw [made] at valid
      rw [read_cons valid.symm made]
      rw [map_eq_bind, bind_eq_ok_iff, List.map_cons, made]
      constructor
      · rintro ⟨rest, found, same⟩
        cases same
        rw [ih later |>.mp found]
        rfl
      · intro same
        cases tokens with
        | nil => exact absurd same (List.cons_ne_nil _ _)
        | cons head rest =>
          obtain ⟨heads, rests⟩ := List.cons.inj same
          cases heads
          exact ⟨rest, (ih later).mpr rests, rfl⟩

end Lexeme

namespace Token

/-- The tokens that a text gives from its first token on. -/
theorem ofCharsAfter_eq (previous : Option Token) (chars : List Char) :
    ofCharsAfter previous chars = match chars.dropWhile isBlank with
      | [] => .ok []
      | c :: rest =>
        let signAllowed := !(chars.head?.any isBlank) && operandDue previous
        (first signAllowed c rest).1 >>= fun token =>
          (ofCharsAfter (some token) (first signAllowed c rest).2).map (token :: ·) := by
  -- The recursion names the token it found; the equation hands it on instead.
  rw [ofCharsAfter]
  split
  · rename_i found
    rw [found]
  · rename_i c rest found
    simp only [found]
    cases (first (!(chars.head?.any isBlank) && operandDue previous) c rest).1 <;> rfl

/-- Behind a blank a minus is an operator, as it is behind a closing parenthesis. -/
theorem ofCharsAfter_blank (previous : Option Token) {c : Char} (blank : isBlank c)
    (rest : List Char) :
    ofCharsAfter previous (c :: rest) = ofCharsAfter (some closing) rest := by
  -- Both skip the same blanks, and neither allows a sign behind them.
  rw [ofCharsAfter_eq, ofCharsAfter_eq, List.dropWhile_cons_of_pos blank]
  simp [blank, operandDue]

/-- A character that is no blank begins a token. -/
theorem ofCharsAfter_cons (previous : Option Token) {c : Char} (solid : isBlank c = false)
    (rest : List Char) :
    ofCharsAfter previous (c :: rest)
      = (first (operandDue previous) c rest).1 >>= fun token =>
        (ofCharsAfter (some token) (first (operandDue previous) c rest).2).map (token :: ·) := by
  -- There is no blank to skip, so an allowed sign depends on the previous token alone.
  rw [ofCharsAfter_eq, List.dropWhile_cons_of_neg (by simp [solid])]
  simp [solid]

/-- An operand is due behind a symbol exactly if a sign is. -/
theorem operandDue_ofSymbol (c : Char) :
    operandDue (some (ofSymbol c)) = Lexeme.signDue (some c) := by
  rw [Bool.eq_iff_iff, Lexeme.signDue_iff]
  by_cases opens : c = '('
  · subst opens
    exact iff_of_true rfl (.inl rfl)
  by_cases closes : c = ')'
  · -- No operator is written as a parenthesis.
    subst closes
    refine iff_of_false (by decide) ?_
    rintro (same | ⟨op, -, same⟩)
    · cases same
    · cases op <;> cases same
  rw [ofSymbol, if_neg opens, if_neg closes, or_iff_right opens]
  -- What is left is an operator, of which the binary ones make a sign due, or an unknown character.
  cases found : Operator.ofChar? c with
  | none =>
    have other := Operator.ofChar?_eq_none_iff.mp found
    simp [operandDue, other]
  | some op =>
    obtain rfl := Operator.ofChar?_eq_some_iff.mp found
    constructor
    · exact fun binary => ⟨op, binary, rfl⟩
    · rintro ⟨other, binary, same⟩
      rwa [Operator.eq_of_symbol_eq same]

private theorem ofLiteral_eq (literal : List Char) :
    ofLiteral literal = (Lexeme.literal literal).token?.elim (.error .malformed) .ok := by
  show ofLiteral literal = ((readLiteral? literal).map number).elim (.error .malformed) .ok
  -- A literal either names a number or spoils the text.
  unfold ofLiteral
  cases readLiteral? literal <;> rfl

private theorem operandDue_of_literal {chars : List Char} {token : Token}
    (made : (Lexeme.literal chars).token? = some token) : operandDue (some token) = false := by
  -- A number completes an operand.
  obtain ⟨value, _, rfl⟩ := Option.map_eq_some_iff.mp made
  rfl

/-- The last token knows of the last character whether a minus behind it is a sign. -/
theorem ofCharsAfter_eq_read (previous : Option Char) (chars : List Char) (last : Option Token)
    (agree : operandDue last = Lexeme.signDue previous) :
    ofCharsAfter last chars = Lexeme.read (Lexeme.ofCharsAfter previous chars) := by
  -- The two ends of what is read so far agree in front of every piece.
  fun_induction Lexeme.ofCharsAfter previous chars generalizing last with
  | case1 =>
    rw [ofCharsAfter_eq]
    rfl
  | case2 previous c rest blank ih =>
    -- A blank is skipped on both sides, and behind it no sign is due.
    rw [ofCharsAfter_blank last blank]
    exact ih _ (Lexeme.signDue_eq_false (.inl blank)).symm
  | case3 previous c rest blank start run ih =>
    rw [ofCharsAfter_cons last (by simpa using blank), agree, first, if_pos start]
    have scanned : (Lexeme.literal (c :: rest.takeWhile Decimal.isNumeral)).Scanned :=
      Lexeme.scanned_literal start rest
    have valid := Lexeme.isSome_token? scanned
    -- A sign alone would disagree about what follows, but it is no number and ends the reading.
    cases made : (Lexeme.literal (c :: rest.takeWhile Decimal.isNumeral)).token? with
    | none =>
      rw [made] at valid
      rw [Lexeme.read_cons_of_not_valid valid.symm, ofLiteral_eq, made]
      rfl
    | some token =>
      rw [made] at valid
      have sign := Lexeme.signDue_of_isNumber scanned valid.symm
      rw [Lexeme.read_cons valid.symm made, ofLiteral_eq, made,
        ← ih (some token) ((operandDue_of_literal made).trans sign.symm)]
      rfl
  | case4 previous c rest blank start letter run ih =>
    rw [ofCharsAfter_cons last (by simpa using blank), agree, first, if_neg start, if_pos letter,
      Lexeme.read_cons rfl rfl]
    -- Behind a name no sign is due either.
    have letters : ∀ d ∈ c :: rest.takeWhile isLetter, isLetter d :=
      List.forall_mem_cons.mpr ⟨letter, List.all_eq_true.mp List.all_takeWhile⟩
    have noSign : Lexeme.signDue (c :: rest.takeWhile isLetter).getLast? = false :=
      Lexeme.signDue_getLast? (List.cons_ne_nil _ _) fun d member => .inl (letters d member)
    rw [← ih (some (name (String.ofList (c :: rest.takeWhile isLetter)))) noSign.symm]
    rfl
  | case5 previous c rest blank start letter ih =>
    -- Behind a symbol both sides ask whether it is an opening or a binary operator.
    rw [ofCharsAfter_cons last (by simpa using blank), agree, first, if_neg start, if_neg letter,
      Lexeme.read_cons rfl rfl, ← ih _ (operandDue_ofSymbol c)]
    rfl

/-- A text begins where both an operand and a sign are due. -/
theorem ofText_eq_read (text : String) : ofText text = Lexeme.read (Lexeme.scan text) :=
  -- The empty front of the text is where both readers start.
  ofCharsAfter_eq_read none text.toList none rfl

/--
Reading a text by its tokens gives what scanning it by its characters gives.

Only a literal that is no number spoils the text, and otherwise every piece has its token.
-/
theorem ofText_eq_scan (text : String) :
    ofText text = Lexeme.tokens text
      ∧ (∀ lexeme ∈ Lexeme.scan text, lexeme.Scanned)
      ∧ (ofText text = .error .malformed
        ↔ ∃ chars, .literal chars ∈ Lexeme.scan text ∧ Lexeme.isNumber chars = false)
      ∧ (∀ tokens, ofText text = .ok tokens
        ↔ (Lexeme.scan text).map Lexeme.token? = tokens.map some)
      ∧ ((∃ tokens, ofText text = .ok tokens) ∨ ofText text = .error .malformed)
      ∧ (Lexeme.scan text).flatMap Lexeme.chars = text.toList.filter fun c => !isBlank c := by
  -- A text begins where both an operand and a sign are due.
  have same : ofText text = Lexeme.read (Lexeme.scan text) :=
    ofCharsAfter_eq_read none text.toList none rfl
  refine ⟨same, Lexeme.scanned_of_mem, ?_, ?_, ?_, Lexeme.flatMap_chars none text.toList⟩
  · rw [same]
    exact Lexeme.read_eq_error_iff
  · intro tokens
    rw [same]
    exact Lexeme.read_eq_ok_iff Lexeme.scanned_of_mem
  · rw [same]
    unfold Lexeme.read
    split
    · exact .inl ⟨_, rfl⟩
    · exact .inr rfl

end Token

end PocketCalculator
