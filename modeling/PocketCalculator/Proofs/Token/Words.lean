import PocketCalculator.Evaluation
import PocketCalculator.Proofs.Token.Lexing

/-! The names that are read from a text are its longest runs of letters. -/

namespace PocketCalculator

/-- A part of a text that is made of characters of one kind, and goes on as far as they do on both sides. -/
def IsRunOf (p : Char → Bool) (run text : List Char) : Prop :=
  run ≠ [] ∧ (∀ c ∈ run, p c) ∧ ∃ before after, text = before ++ run ++ after
    ∧ (∀ c ∈ before.getLast?, p c = false) ∧ ∀ c ∈ after.head?, p c = false

namespace IsRunOf

variable {p q : Char → Bool} {run text : List Char}

/-- A run is a part of its text. -/
theorem isInfix (isRun : IsRunOf p run text) : run <:+: text := by
  -- A run has the text around it on both sides.
  obtain ⟨-, -, before, after, rfl, -, -⟩ := isRun
  exact List.infix_append before run after

/-- Two kinds that are the same for the characters of a text have the same runs in it. -/
theorem congr (isRun : IsRunOf p run text) (same : ∀ c ∈ text, p c = q c) : IsRunOf q run text := by
  -- The run and the characters beside it are all characters of the text.
  have part := isRun.isInfix
  obtain ⟨nonempty, whole, before, after, rfl, stop, stops⟩ := isRun
  -- Inside the run.
  refine ⟨nonempty, ?_, before, after, rfl, ?_, ?_⟩
  · intro c member
    rw [← same c (part.subset member)]
    exact whole c member
  · -- Just before it.
    intro c last
    rw [← same c (by simp [List.mem_of_mem_getLast? last])]
    exact stop c last
  · -- Just behind it.
    intro c first
    rw [← same c (by simp [List.mem_of_mem_head? first])]
    exact stops c first

end IsRunOf

namespace Lexeme

/-- How a piece lies in its text, as far as letters and single characters go. -/
def LiesIn (text : List Char) : Lexeme → Prop
  | literal chars => chars <:+: text
  | name chars => IsRunOf isLetter chars text
  -- Whatever belongs to no run stands by itself.
  | symbol c => c ∈ text ∧ isBlank c = false ∧ isLetter c = false ∧ Decimal.isNumeral c = false

private theorem isLetter_of_start {c : Char} {signed : Bool}
    (start : Decimal.isNumeral c || (c = '-' && signed)) : isLetter c = false := by
  -- A literal begins with a numeral or a minus.
  rcases Bool.or_eq_true_iff.mp start with numeral | sign
  · exact isLetter_of_isNumeral numeral
  · obtain rfl : c = '-' := of_decide_eq_true (Bool.and_eq_true_iff.mp sign).1
    exact isLetter_of_lt (by decide)

private theorem isLetter_getLast? {front run : List Char} (nonempty : run ≠ [])
    (others : ∀ c ∈ run, isLetter c = false) :
    ∀ c ∈ (front ++ run).getLast?, isLetter c = false := by
  -- The run is not empty, so its last character is that of the whole.
  intro c last
  rw [List.getLast?_append, List.getLast?_eq_some_getLast nonempty, Option.some_or] at last
  obtain rfl := Option.some.inj last
  exact others _ (List.getLast_mem nonempty)

/-- Every piece of the rest of a text lies in the whole, where no run of letters was cut in two. -/
theorem liesIn_of_mem {previous : Option Char} {chars : List Char} (front : List Char)
    (cut : (∀ c ∈ front.getLast?, isLetter c = false) ∨ ∀ c ∈ chars.head?, isLetter c = false) :
    ∀ lexeme ∈ ofCharsAfter previous chars, lexeme.LiesIn (front ++ chars) := by
  -- What was read already goes to the front, which then ends with a complete piece.
  fun_induction ofCharsAfter previous chars generalizing front with
  | case1 => exact fun _ member => absurd member List.not_mem_nil
  | case2 previous c rest blank ih =>
    -- A blank is no letter, so what follows it is cut off cleanly.
    have behind := ih (front ++ [c]) (.inl (isLetter_getLast? (List.cons_ne_nil _ _)
      (List.forall_mem_singleton.mpr (isLetter_of_isBlank blank))))
    rwa [List.append_assoc] at behind
  | case3 previous c rest blank start run ih =>
    have parts : rest = rest.takeWhile Decimal.isNumeral ++ rest.dropWhile Decimal.isNumeral :=
      List.takeWhile_append_dropWhile.symm
    have whole : front ++ c :: rest
        = front ++ (c :: rest.takeWhile Decimal.isNumeral) ++ rest.dropWhile Decimal.isNumeral := by
      rw [List.append_assoc, List.cons_append, ← parts]
    -- Nor does a literal hold a letter, so no name touches its end.
    have others : ∀ d ∈ c :: rest.takeWhile Decimal.isNumeral, isLetter d = false := by
      refine List.forall_mem_cons.mpr ⟨isLetter_of_start start, ?_⟩
      intro d member
      exact isLetter_of_isNumeral (List.all_eq_true.mp List.all_takeWhile d member)
    have behind := ih (front ++ run) (.inl (isLetter_getLast? (List.cons_ne_nil _ _) others))
    rw [whole]
    exact List.forall_mem_cons.mpr ⟨List.infix_append _ _ _, behind⟩
  | case4 previous c rest blank start letter run ih =>
    have parts : rest = rest.takeWhile isLetter ++ rest.dropWhile isLetter :=
      List.takeWhile_append_dropWhile.symm
    have whole : front ++ c :: rest
        = front ++ (c :: rest.takeWhile isLetter) ++ rest.dropWhile isLetter := by
      rw [List.append_assoc, List.cons_append, ← parts]
    have letters : ∀ d ∈ c :: rest.takeWhile isLetter, isLetter d :=
      List.forall_mem_cons.mpr ⟨letter, List.all_eq_true.mp List.all_takeWhile⟩
    -- The run of letters ends where letters end, which cuts it off on that side too.
    have stop : ∀ d ∈ (rest.dropWhile isLetter).head?, isLetter d = false := by
      intro d first
      have head := List.head?_dropWhile_not isLetter rest
      rw [first] at head
      simpa using head
    -- The run begins with a letter, so the text before it does not end with one.
    have clear : ∀ d ∈ front.getLast?, isLetter d = false := by
      refine cut.resolve_right ?_
      intro noLetter
      rw [noLetter c rfl] at letter
      cases letter
    have behind := ih (front ++ run) (.inr stop)
    rw [whole]
    exact List.forall_mem_cons.mpr
      ⟨⟨List.cons_ne_nil _ _, letters, front, _, rfl, clear, stop⟩, behind⟩
  | case5 previous c rest blank start letter ih =>
    -- A symbol is a character of the text that is no letter.
    have noLetter : isLetter c = false := by simpa using letter
    have numeral : Decimal.isNumeral c = false := by
      rw [Bool.or_eq_true_iff, not_or] at start
      simpa using start.1
    have behind := ih (front ++ [c]) (.inl (isLetter_getLast? (List.cons_ne_nil _ _)
      (List.forall_mem_singleton.mpr noLetter)))
    rw [List.append_assoc] at behind
    refine List.forall_mem_cons.mpr ⟨⟨?_, by simpa using blank, noLetter, numeral⟩, behind⟩
    simp

/-- Every piece of a text lies in it. -/
theorem liesIn_of_mem_scan {text : String} : ∀ lexeme ∈ scan text, lexeme.LiesIn text.toList :=
  -- The text is scanned from its beginning, with nothing before it.
  liesIn_of_mem [] (.inl nofun)

end Lexeme

namespace Token

/-- The tokens of a text are those of its pieces. -/
theorem eq_filterMap_of_ofText {text : String} {tokens : List Token}
    (read : ofText text = .ok tokens) : tokens = (Lexeme.scan text).filterMap Lexeme.token? := by
  -- Reading succeeds with the tokens of the pieces.
  rw [ofText_eq_read, Lexeme.read] at read
  split at read
  · exact (Except.ok.inj read).symm
  · cases read

/-- Every token of a text is that of a piece. -/
theorem exists_lexeme {text : String} {tokens : List Token} (read : ofText text = .ok tokens)
    {token : Token} (member : token ∈ tokens) :
    ∃ lexeme ∈ Lexeme.scan text, lexeme.token? = some token := by
  -- Every token is that of some piece.
  rw [eq_filterMap_of_ofText read] at member
  exact List.mem_filterMap.mp member

/-- A character by itself makes no name. -/
theorem ofSymbol_ne_name (c : Char) (text : String) : ofSymbol c ≠ name text := by
  -- A symbol is a parenthesis, an operator or unknown.
  unfold ofSymbol
  split
  · nofun
  · split
    · nofun
    · split <;> nofun

/-- It remains unknown exactly if it has no meaning. -/
private theorem eq_of_ofSymbol {c d : Char} (unread : ofSymbol d = unknown c) :
    d = c ∧ c ≠ '(' ∧ c ≠ ')' ∧ Operator.ofChar? c = none := by
  -- A character is left unread only after all its possible meanings are tried.
  unfold ofSymbol at unread
  split at unread
  · cases unread
  · rename_i opens
    split at unread
    · cases unread
    · rename_i closes
      split at unread
      · cases unread
      · rename_i meaningless
        cases unread
        exact ⟨rfl, opens, closes, meaningless⟩

private theorem literal_ne {chars : List Char} {token : Token}
    (made : (Lexeme.literal chars).token? = some token) : ∃ x, token = number x := by
  -- A literal has a number for its token.
  obtain ⟨x, -, same⟩ := Option.map_eq_some_iff.mp made
  exact ⟨x, same.symm⟩

/-- Every name that is read is a longest run of letters of the text. -/
theorem isRunOf_of_name {text quoted : String} {tokens : List Token}
    (read : ofText text = .ok tokens) (member : name quoted ∈ tokens) :
    IsRunOf isLetter quoted.toList text.toList := by
  -- The name comes from a piece, and of the three kinds only a run of letters makes names.
  obtain ⟨lexeme, found, made⟩ := exists_lexeme read member
  have lies := Lexeme.liesIn_of_mem_scan lexeme found
  cases lexeme with
  | literal chars =>
    obtain ⟨x, same⟩ := literal_ne made
    cases same
  | name chars =>
    obtain rfl : String.ofList chars = quoted := Token.name.inj (Option.some.inj made)
    rwa [String.toList_ofList]
  | symbol c => exact absurd (Option.some.inj made) (ofSymbol_ne_name c quoted)

/-- Every character that remains unknown is one of the text, and means nothing. -/
theorem of_unknown {text : String} {tokens : List Token} {c : Char}
    (read : ofText text = .ok tokens) (member : unknown c ∈ tokens) :
    c ∈ text.toList ∧ (isBlank c = false ∧ isLetter c = false ∧ Decimal.isNumeral c = false)
      ∧ c ≠ '(' ∧ c ≠ ')' ∧ Operator.ofChar? c = none := by
  -- The character comes from a piece, and of the three kinds only a symbol can be unknown.
  obtain ⟨lexeme, found, made⟩ := exists_lexeme read member
  have lies := Lexeme.liesIn_of_mem_scan lexeme found
  cases lexeme with
  | literal chars =>
    obtain ⟨x, same⟩ := literal_ne made
    cases same
  | name chars => cases made
  | symbol d =>
    obtain ⟨rfl, meaningless⟩ := eq_of_ofSymbol (Option.some.inj made)
    exact ⟨lies.1, lies.2, meaningless⟩

/-- Reading fails in one way only. -/
theorem ofText_eq_error {text : String} {error : CalcError} (failed : ofText text = .error error) :
    error = .malformed := by
  -- Reading has one error only.
  rw [ofText_eq_read, Lexeme.read] at failed
  split at failed
  · cases failed
  · cases failed
    rfl

end Token

/-- A text that cannot be read is malformed, whatever the readable part of it would lead to. -/
theorem evaluate_of_ofText_error {unit : AngleUnit} {text : String} {error : CalcError}
    (unread : Token.ofText text = .error error) : evaluate unit text = .error .malformed := by
  -- The tokens come first, and their only error is that the text is malformed.
  obtain rfl := Token.ofText_eq_error unread
  rw [evaluate, unread, error_bind]

end PocketCalculator
