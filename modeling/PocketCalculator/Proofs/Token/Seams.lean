import Mathlib.Data.List.Basic
import PocketCalculator.Proofs.Token.Lexing

/-! A text can be cut wherever no piece of it goes on across the cut. -/

namespace PocketCalculator

/-- A run that does not go on behind a cut is the same with and without what follows the cut. -/
theorem run_append_of_stop {p : Char → Bool} {front back : List Char}
    (stop : (∀ c ∈ front, p c) → ∀ c ∈ back.head?, p c = false) :
    (front ++ back).takeWhile p = front.takeWhile p
      ∧ (front ++ back).dropWhile p = front.dropWhile p ++ back := by
  -- The run either ends inside the front, or goes exactly as far as the cut.
  induction front with
  | nil =>
    have first := stop nofun
    cases back with
    | nil => exact ⟨rfl, rfl⟩
    | cons c back => simp [first c rfl]
  | cons c front ih =>
    cases part : p c with
    | false => simp [part]
    | true =>
      obtain ⟨taken, left⟩ := ih fun whole => stop (List.forall_mem_cons.mpr ⟨part, whole⟩)
      simp [part, taken, left]

/-- A run goes exactly up to the first character that is not part of it. -/
theorem run_of_append {p : Char → Bool} {run rest : List Char} (whole : ∀ c ∈ run, p c)
    (stop : ∀ c ∈ rest.head?, p c = false) :
    (run ++ rest).takeWhile p = run ∧ (run ++ rest).dropWhile p = rest := by
  -- The run is taken whole and stops where the rest begins.
  rw [List.takeWhile_append_of_pos whole, List.dropWhile_append_of_pos whole]
  cases rest with
  | nil => simp
  | cons c rest =>
    have next : p c = false := stop c rfl
    simp [next]

/-- What precedes a text does not matter to its last character, unless the text is empty. -/
theorem getLast?_append_or {front : List Char} (nonempty : front ≠ []) (back : List Char)
    (previous : Option Char) :
    (front ++ back).getLast?.or previous = back.getLast?.or front.getLast? := by
  -- The last character is that of the back, and only an empty back shows the front.
  rw [List.getLast?_append, List.getLast?_eq_some_getLast nonempty]
  cases back.getLast? <;> rfl

namespace Lexeme

/-- Two neighbours that can belong to one piece of a text. -/
def Joins (a b : Char) : Prop :=
  -- A sign opens a literal, but nothing other than a numeral continues one.
  (Decimal.isNumeral a ∧ Decimal.isNumeral b) ∨ (isLetter a ∧ isLetter b)
    ∨ (a = '-' ∧ Decimal.isNumeral b)

/-- Two characters show whether they can belong to one piece. -/
instance (a b : Char) : Decidable (Joins a b) :=
  inferInstanceAs (Decidable (_ ∨ _))

/-- No piece goes on across the place where two texts are put together. -/
def Apart (front back : List Char) : Prop :=
  ∀ a ∈ front.getLast?, ∀ b ∈ back.head?, ¬Joins a b

/-- A blank belongs to no piece. -/
theorem not_joins_of_isBlank {a b : Char} (blank : isBlank b) : ¬Joins a b := by
  -- A blank is neither a letter nor a numeral, and only those join.
  have letter := isLetter_of_isBlank blank
  have numeral := isNumeral_of_isBlank blank
  simp [Joins, letter, numeral]

/-- A text is apart from what its end is apart from. -/
private theorem Apart.of_append {front middle back : List Char}
    (apart : Apart (front ++ middle) back) : Apart middle back := by
  -- The last character of the middle is that of the whole front.
  intro a last
  exact apart a (List.mem_getLast?_append_of_mem_getLast? last)

section

variable {p : Char → Bool} {c : Char} {rest back : List Char}

/-- A run whose characters join each other stops where two texts are apart. -/
private theorem Apart.stop (apart : Apart (c :: rest) back)
    (joins : ∀ a b, p a ∨ a = c → p b → Joins a b) (whole : ∀ a ∈ rest, p a) :
    ∀ b ∈ back.head?, p b = false := by
  -- If the back began with such a character, it would join the last one of the front, which is the
  -- first character of the piece or part of its run.
  intro b first
  rw [Bool.eq_false_iff]
  intro part
  refine apart _ (List.getLast?_eq_some_getLast (List.cons_ne_nil c rest)) b first ?_
  refine joins _ b ?_ part
  rcases List.mem_cons.mp (List.getLast_mem (List.cons_ne_nil c rest)) with same | member
  · exact .inr same
  · exact .inl (whole _ member)

/-- The piece at the front is the same without the second text, and leaves it apart from the rest. -/
private theorem Apart.piece (apart : Apart (c :: rest) back)
    (joins : ∀ a b, p a ∨ a = c → p b → Joins a b) (previous : Option Char) :
    (rest ++ back).takeWhile p = rest.takeWhile p
      ∧ (rest ++ back).dropWhile p = rest.dropWhile p ++ back
      ∧ Apart (rest.dropWhile p) back
      ∧ (c :: rest).getLast?.or previous
        = (rest.dropWhile p).getLast?.or (c :: rest.takeWhile p).getLast? := by
  -- The run ends before the back, so taking and dropping it leaves the back alone.
  obtain ⟨taken, left⟩ := run_append_of_stop (apart.stop joins)
  have parts : c :: rest = (c :: rest.takeWhile p) ++ rest.dropWhile p :=
    congrArg (c :: ·) List.takeWhile_append_dropWhile.symm
  rw [parts] at apart
  refine ⟨taken, left, apart.of_append, ?_⟩
  -- The last character before the back is that of what is left, or of the run itself.
  conv_lhs => rw [parts]
  exact getLast?_append_or (List.cons_ne_nil _ _) _ _

end

/-- The pieces of two texts that are apart are those of the one and then those of the other. -/
theorem ofCharsAfter_append {front back : List Char} (previous : Option Char)
    (apart : Apart front back) :
    ofCharsAfter previous (front ++ back)
      = ofCharsAfter previous front ++ ofCharsAfter (front.getLast?.or previous) back := by
  -- The scan of the whole comes to the second text with the last character of the first one.
  fun_induction ofCharsAfter previous front with
  | case1 => rfl
  | case2 previous c rest blank ih =>
    -- A blank is skipped, and it is the last character read.
    have last : (c :: rest).getLast?.or previous = rest.getLast?.or (some c) :=
      getLast?_append_or (List.cons_ne_nil c []) rest previous
    rw [List.cons_append, ofCharsAfter, if_pos blank, last]
    exact ih (@Apart.of_append [c] rest back apart)
  | case3 previous c rest blank start run ih =>
    -- A sign at the front of the run joins the numerals behind it as they join each other.
    have joins : ∀ a b, Decimal.isNumeral a ∨ a = c → Decimal.isNumeral b → Joins a b := by
      rintro a b (numeral | rfl) next
      · exact .inl ⟨numeral, next⟩
      · rcases Bool.or_eq_true_iff.mp start with numeral | sign
        · exact .inl ⟨numeral, next⟩
        · exact .inr (.inr ⟨of_decide_eq_true (Bool.and_eq_true_iff.mp sign).1, next⟩)
    obtain ⟨taken, left, further, last⟩ := apart.piece joins previous
    rw [List.cons_append, ofCharsAfter, if_neg blank, if_pos start, taken, left, last]
    exact congrArg (literal run :: ·) (ih further)
  | case4 previous c rest blank start letter run ih =>
    -- Letters join letters, so no run of them crosses the seam.
    have joins : ∀ a b, isLetter a ∨ a = c → isLetter b → Joins a b := by
      rintro a b (part | rfl) next
      · exact .inr (.inl ⟨part, next⟩)
      · exact .inr (.inl ⟨letter, next⟩)
    obtain ⟨taken, left, further, last⟩ := apart.piece joins previous
    rw [List.cons_append, ofCharsAfter, if_neg blank, if_neg start, if_pos letter, taken, left, last]
    exact congrArg (name run :: ·) (ih further)
  | case5 previous c rest blank start letter ih =>
    -- A symbol is a piece of its own.
    have last : (c :: rest).getLast?.or previous = rest.getLast?.or (some c) :=
      getLast?_append_or (List.cons_ne_nil c []) rest previous
    rw [List.cons_append, ofCharsAfter, if_neg blank, if_neg start, if_neg letter, last]
    exact congrArg (symbol c :: ·) (ih (@Apart.of_append [c] rest back apart))

/-- A run of letters makes a name, as far as it goes. -/
theorem ofCharsAfter_letters {run rest : List Char} (nonempty : run ≠ [])
    (letters : ∀ c ∈ run, isLetter c) (stop : ∀ c ∈ rest.head?, isLetter c = false)
    (previous : Option Char) :
    ofCharsAfter previous (run ++ rest) = name run :: ofCharsAfter run.getLast? rest := by
  -- A run of letters is taken as a name: its first letter is no blank and opens no literal.
  obtain ⟨c, run, rfl⟩ := List.exists_cons_of_ne_nil nonempty
  obtain ⟨letter, others⟩ := List.forall_mem_cons.mp letters
  obtain ⟨taken, left⟩ := run_of_append others stop
  have blank := isBlank_of_isLetter letter
  have start : ¬(Decimal.isNumeral c || (c = '-' && signDue previous)) = true := by
    have numeral := isNumeral_of_isLetter letter
    have minus : c ≠ '-' := by
      rintro rfl
      rw [isLetter_of_lt (by decide)] at letter
      cases letter
    simp [numeral, minus]
  rw [List.cons_append, ofCharsAfter, if_neg (by simp [blank]), if_neg start, if_pos letter, taken,
    left]

/-- Any other character but a minus makes a piece of its own. -/
theorem ofCharsAfter_symbol {c : Char} (solid : isBlank c = false) (letter : isLetter c = false)
    (numeral : Decimal.isNumeral c = false) (minus : c ≠ '-') (previous : Option Char)
    (rest : List Char) :
    ofCharsAfter previous (c :: rest) = symbol c :: ofCharsAfter (some c) rest := by
  -- It is no blank, opens no literal and begins no name, so it stands for itself.
  have start : ¬(Decimal.isNumeral c || (c = '-' && signDue previous)) = true := by
    simp [numeral, minus]
  rw [ofCharsAfter, if_neg (by simp [solid]), if_neg start, if_neg (by simp [letter])]

/-- Blanks make no pieces. -/
theorem ofCharsAfter_blanks {blanks : List Char} (blank : ∀ c ∈ blanks, isBlank c)
    (previous : Option Char) : ofCharsAfter previous blanks = [] := by
  -- The induction follows the blanks; each one is skipped.
  induction blanks generalizing previous with
  | nil => rw [ofCharsAfter]
  | cons c blanks ih =>
    obtain ⟨first, others⟩ := List.forall_mem_cons.mp blank
    rw [ofCharsAfter, if_pos first, ih others]

end Lexeme

/-- Blanks at the end of a text are not read. -/
theorem Token.ofText_append_blanks (text : String) {blanks : String}
    (blank : ∀ c ∈ blanks.toList, isBlank c) : ofText (text ++ blanks) = ofText text := by
  -- A blank joins nothing, so the two parts are scanned apart, and blanks have no pieces.
  have apart : Lexeme.Apart text.toList blanks.toList := by
    intro a _ b first
    exact Lexeme.not_joins_of_isBlank (blank b (List.mem_of_mem_head? first))
  have same : Lexeme.scan (text ++ blanks) = Lexeme.scan text := by
    rw [Lexeme.scan, String.toList_append, Lexeme.ofCharsAfter_append none apart,
      Lexeme.ofCharsAfter_blanks blank, List.append_nil]
    rfl
  rw [ofText_eq_read, ofText_eq_read, same]

/-- Blanks in front of a text only make a minus behind them an operator. -/
theorem Token.ofText_blanks_append {blanks : String} (nonempty : blanks ≠ "")
    (blank : ∀ c ∈ blanks.toList, isBlank c) (text : String) :
    ofText (blanks ++ text) = ofCharsAfter (some closing) text.toList := by
  -- The induction follows the blanks: the first one makes every minus an operator, and so does
  -- each later one.
  have skipped : ∀ (front : List Char) (previous : Option Token), front ≠ [] →
      (∀ c ∈ front, isBlank c) →
      ofCharsAfter previous (front ++ text.toList) = ofCharsAfter (some closing) text.toList := by
    intro front
    induction front with
    | nil => exact fun _ nonempty => absurd rfl nonempty
    | cons c front ih =>
      intro previous _ blank
      obtain ⟨first, others⟩ := List.forall_mem_cons.mp blank
      rw [List.cons_append, ofCharsAfter_blank previous first]
      cases front with
      | nil => rfl
      | cons d front => exact ih _ (List.cons_ne_nil d front) others
  rw [ofText, String.toList_append]
  exact skipped _ none (mt String.toList_eq_nil_iff.mp nonempty) blank

end PocketCalculator
