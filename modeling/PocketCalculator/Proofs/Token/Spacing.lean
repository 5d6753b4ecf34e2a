import PocketCalculator.Proofs.Token.Seams

/-! Where blanks stand in a text, and how many of them, hardly ever matters. -/

namespace PocketCalculator

namespace Lexeme

/-- A blank between two neighbours can make a difference to what is read. -/
def SpaceMatters : Option Char → Char → Prop
  -- In front of the text it can only turn a sign into an operator.
  | none, next => next = '-'
  -- Inside the text it can tear a piece apart as well.
  | some a, next => Joins a next ∨ (next = '-' ∧ signDue (some a))

/-- Two neighbours show whether a blank between them matters. -/
instance : (previous : Option Char) → (next : Char) → Decidable (SpaceMatters previous next)
  | none, next => inferInstanceAs (Decidable (next = '-'))
  | some _, _ => inferInstanceAs (Decidable (_ ∨ _))

/-- Where a blank would not matter, no piece goes on and no minus is a sign. -/
theorem of_not_spaceMatters {previous : Option Char} {next : Char}
    (idle : ¬SpaceMatters previous next) :
    (∀ a ∈ previous, ¬Joins a next) ∧ (next = '-' → signDue previous = false) := by
  -- At the beginning of a text only a minus is sensitive to a blank; elsewhere also what would join.
  cases previous with
  | none => exact ⟨nofun, fun minus => absurd minus idle⟩
  | some a =>
    obtain ⟨apart, noSign⟩ := not_or.mp idle
    refine ⟨?_, fun minus => Bool.eq_false_iff.mpr fun due => noSign ⟨minus, due⟩⟩
    intro found same
    obtain rfl := Option.some.inj same
    exact apart

/-- What precedes a text matters only to a minus at its front. -/
theorem ofCharsAfter_congr {previous other : Option Char} {chars : List Char}
    (same : chars.head? = some '-' → signDue previous = signDue other) :
    ofCharsAfter previous chars = ofCharsAfter other chars := by
  cases chars with
  | nil => rw [ofCharsAfter, ofCharsAfter]
  | cons c rest =>
    -- The character before is asked for in a single place, and only behind the test for a minus.
    have sign : (c = '-' && signDue previous) = (c = '-' && signDue other) := by
      by_cases minus : c = '-'
      · rw [same (congrArg some minus)]
      · simp [minus]
    rw [ofCharsAfter, ofCharsAfter, sign]

/-- Blanks in front of a text make no pieces, but behind them no minus is a sign. -/
theorem ofCharsAfter_blanks_append {blanks : List Char} (nonempty : blanks ≠ [])
    (blank : ∀ c ∈ blanks, isBlank c) (previous : Option Char) (chars : List Char) :
    ofCharsAfter previous (blanks ++ chars) = ofCharsAfter (some ' ') chars := by
  -- Each blank takes the place of what precedes the next one.
  induction blanks generalizing previous with
  | nil => exact absurd rfl nonempty
  | cons c rest ih =>
    obtain ⟨first, others⟩ := List.forall_mem_cons.mp blank
    rw [List.cons_append, ofCharsAfter, if_pos first]
    by_cases last : rest = []
    · subst last
      -- No sign can follow the last of them, nor a space.
      refine ofCharsAfter_congr fun _ => ?_
      rw [signDue_eq_false (.inl first), signDue_eq_false (.inl (by decide))]
    · exact ih last others (some c)

/-- Blanks cut a text in two, and how many they are and of which kind does not matter. -/
theorem scan_blanks (front back : String) {blanks : String} (nonempty : blanks ≠ "")
    (blank : ∀ c ∈ blanks.toList, isBlank c) :
    scan (front ++ blanks ++ back) = scan front ++ ofCharsAfter (some ' ') back.toList := by
  have someBlank : blanks.toList ≠ [] := mt String.toList_eq_nil_iff.mp nonempty
  -- The first blank belongs to no piece, so no piece goes on across it.
  have apart : Apart front.toList (blanks.toList ++ back.toList) := by
    intro a _ b first
    rw [List.head?_append_of_ne_nil _ someBlank] at first
    exact not_joins_of_isBlank (blank b (List.mem_of_mem_head? first))
  rw [scan, String.toList_append, String.toList_append, List.append_assoc,
    ofCharsAfter_append none apart, ofCharsAfter_blanks_append someBlank blank]
  rfl

/-- A text falls into the same pieces where a blank would not matter. -/
theorem scan_append {front back : String}
    (idle : ∀ b ∈ back.toList.head?, ¬SpaceMatters front.toList.getLast? b) :
    scan (front ++ back) = scan front ++ ofCharsAfter (some ' ') back.toList := by
  have apart : Apart front.toList back.toList := by
    intro a last b first
    exact (of_not_spaceMatters (idle b first)).1 a last
  rw [scan, String.toList_append, ofCharsAfter_append none apart, Option.or_none]
  refine congrArg (scan front ++ ·) (ofCharsAfter_congr fun minus => ?_)
  -- A minus at the seam is no sign without the blank either.
  rw [(of_not_spaceMatters (idle '-' minus)).2 rfl]
  exact (signDue_eq_false (.inl (by decide))).symm

end Lexeme

/--
Blanks separate what stands on both sides of them, and mean nothing else.

Any blanks do as well as any others, those at the end can be left out, and so can those between two
characters that neither belong to one piece nor make a minus a sign.
All this is also true of texts that cannot be read.
-/
theorem Token.ofText_spacing (front back : String) {blanks : String} (nonempty : blanks ≠ "")
    (blank : ∀ c ∈ blanks.toList, isBlank c) :
    ofText (front ++ blanks) = ofText front
      ∧ (∀ others : String, others ≠ "" → (∀ c ∈ others.toList, isBlank c) →
        ofText (front ++ blanks ++ back) = ofText (front ++ others ++ back))
      ∧ ∀ b ∈ back.toList.head?, ¬Lexeme.SpaceMatters front.toList.getLast? b →
        ofText (front ++ blanks ++ back) = ofText (front ++ back) := by
  -- Blanks at the end have no pieces, and between two texts any blanks give the pieces of both.
  refine ⟨ofText_append_blanks front blank, ?_, ?_⟩
  · intro others someOther alsoBlank
    rw [ofText_eq_read, ofText_eq_read, Lexeme.scan_blanks front back nonempty blank,
      Lexeme.scan_blanks front back someOther alsoBlank]
  · intro b first idle
    -- The seam is the one at the first character behind the blanks.
    have only : ∀ c ∈ back.toList.head?, ¬Lexeme.SpaceMatters front.toList.getLast? c := by
      intro c same
      obtain rfl : b = c := Option.mem_unique first same
      exact idle
    rw [ofText_eq_read, ofText_eq_read, Lexeme.scan_blanks front back nonempty blank,
      Lexeme.scan_append only]

/-- A blank behind an operator is one too many before a minus, but not before a parenthesis. -/
theorem Token.ofText_spacing_product :
    (∀ c ∈ "\t ".toList, isBlank c) ∧ (∀ c ∈ "\u3000".toList, isBlank c)
      ∧ ofText ("2*" ++ "\t ") = ofText "2*"
      ∧ ofText ("2*" ++ "\t " ++ "-3") = ofText ("2*" ++ "\u3000" ++ "-3")
      ∧ Lexeme.SpaceMatters "2*".toList.getLast? '-'
      ∧ ofText ("2*" ++ "\t " ++ "-3") ≠ ofText ("2*" ++ "-3")
      ∧ ¬Lexeme.SpaceMatters "2*".toList.getLast? '('
      ∧ ofText ("2*" ++ "\t " ++ "(-3)") = ofText ("2*" ++ "(-3)")
      ∧ ofText ("2*" ++ "(-3)")
        = .ok [.number 2, .operator .multiply, .opening, .number (-3), .closing] := by
  -- Two kinds of blanks, in front of a minus where they matter and of a parenthesis where they
  -- do not.
  have blank : ∀ c ∈ "\t ".toList, isBlank c := forall_mem_of_all (by decide +kernel)
  have wide : ∀ c ∈ "\u3000".toList, isBlank c := forall_mem_of_all (by decide +kernel)
  have idle : ¬Lexeme.SpaceMatters "2*".toList.getLast? '(' := by decide +kernel
  have nonempty : "\t " ≠ "" := by decide
  obtain ⟨atEnd, others, -⟩ := ofText_spacing "2*" "-3" nonempty blank
  obtain ⟨-, -, seam⟩ := ofText_spacing "2*" "(-3)" nonempty blank
  exact ⟨blank, wide, atEnd, others "\u3000" (by decide) wide, by decide +kernel, by decide +kernel,
    idle, seam '(' (by decide) idle, by decide +kernel⟩

end PocketCalculator
