import Mathlib.Data.List.Basic
import PocketCalculator.Text.Split

/-! Lines are cut off where line ends stand, and no word goes on across one. -/

namespace PocketCalculator

/-- The lines of a text, each with its line end. -/
def textLines (text : String) : List String :=
  (splitLines text.toList).map String.ofList

/-- The words of a text. -/
def textWords (text : String) : List String :=
  (splitWords text.toList).map String.ofList

/-- Texts that are the lines of one text when they are put together. -/
inductive AreLines : List String → Prop where
  /-- An empty text has no lines. -/
  | none : AreLines []
  /-- The last line may lack its line end, unless it is empty. -/
  | last {line : String} (whole : '\n' ∉ line.toList) (nonempty : line ≠ "") : AreLines [line]
  /-- Every other line ends where its only line end stands. -/
  | ended {line : String} {lines : List String} (whole : '\n' ∉ line.toList)
      (others : AreLines lines) : AreLines ((line ++ "\n") :: lines)

/-- A text has no line end, or goes on behind its first line. -/
private theorem lines_induct {Holds : List Char → Prop}
    (last : ∀ chars, '\n' ∉ chars → Holds chars)
    (line : ∀ chars rest, '\n' ∉ chars → Holds rest → Holds (chars ++ '\n' :: rest))
    (chars : List Char) : Holds chars := by
  -- What follows a line is shorter than the text.
  induction size : chars.length using Nat.strongRecOn generalizing chars with
  | ind size ih =>
    by_cases ends : '\n' ∈ chars
    · obtain ⟨first, rest, rfl, whole⟩ := List.eq_append_cons_of_mem ends
      refine line first rest whole (ih rest.length ?_ rest rfl)
      rw [← size, List.length_append, List.length_cons]
      omega
    · exact last chars ends

/-- The first line of a text goes up to its first line end. -/
theorem splitLines_append {line : List Char} (whole : '\n' ∉ line) (rest : List Char) :
    splitLines (line ++ '\n' :: rest) = (line ++ ['\n']) :: splitLines rest := by
  -- The induction is on the line: nothing in it ends it, so it goes on until the line end.
  induction line with
  | nil => rfl
  | cons c line ih =>
    obtain ⟨first, others⟩ := not_or.mp (mt List.mem_cons.mpr whole)
    rw [List.cons_append, splitLines, if_neg (Ne.symm first), ih others]
    rfl

/-- A text without a line end is a line by itself, unless it is empty. -/
theorem splitLines_of_not_mem {line : List Char} (whole : '\n' ∉ line) (nonempty : line ≠ []) :
    splitLines line = [line] := by
  -- The induction is on the line: its last character has nothing behind it.
  induction line with
  | nil => exact absurd rfl nonempty
  | cons c line ih =>
    obtain ⟨first, others⟩ := not_or.mp (mt List.mem_cons.mpr whole)
    rw [splitLines, if_neg (Ne.symm first)]
    cases line with
    | nil => rfl
    | cons d line => rw [ih others (List.cons_ne_nil d line)]

/-- Cutting a text into lines leaves them as lines of it. -/
theorem areLines_textLines (text : String) : AreLines (textLines text) := by
  unfold textLines
  -- The recursion of the lines is followed: a last line without an end, or one with it.
  induction text.toList using lines_induct with
  | last chars whole =>
    -- An empty rest is no line at all.
    by_cases empty : chars = []
    · rw [empty]
      exact .none
    · rw [splitLines_of_not_mem whole empty]
      refine .last ?_ ?_
      · rwa [String.toList_ofList]
      · rwa [ne_eq, String.ofList_eq_empty_iff]
  | line chars rest whole ih =>
    rw [splitLines_append whole, List.map_cons, String.ofList_append]
    refine .ended ?_ ih
    rwa [String.toList_ofList]

/-- Putting the lines of a text together gives it back. -/
theorem join_textLines (text : String) : String.join (textLines text) = text := by
  -- Each character is kept in its line, so joining only undoes the grouping.
  rw [← String.toList_inj, String.toList_join, textLines, List.flatMap_map]
  simp only [String.toList_ofList, List.flatMap_id', flatten_splitLines]

/-- The text of some lines goes on behind the end of the first one. -/
private theorem toList_join_ended (line : String) (lines : List String) :
    (String.join ((line ++ "\n") :: lines)).toList
      = line.toList ++ '\n' :: (String.join lines).toList := by
  -- The line end is the last character of the first line.
  rw [String.join_cons, String.toList_append, String.toList_append, List.append_assoc]
  rfl

/-- Putting lines together and cutting them apart again gives them back. -/
theorem textLines_join {lines : List String} (areLines : AreLines lines) :
    textLines (String.join lines) = lines := by
  -- The first line end of the text is that of its first line.
  induction areLines with
  | none => rfl
  | @last line whole nonempty =>
    have single : splitLines line.toList = [line.toList] :=
      splitLines_of_not_mem whole (mt String.toList_eq_nil_iff.mp nonempty)
    rw [String.join_cons, String.join_nil, String.append_empty, textLines, single, List.map_singleton,
      String.ofList_toList]
  | @ended line lines whole others ih =>
    rw [textLines, toList_join_ended, splitLines_append whole, List.map_cons, String.ofList_append,
      String.ofList_toList]
    exact congrArg ((line ++ "\n") :: ·) ih

/-- A blank in front of a text belongs to no word. -/
theorem splitWords_of_isBlank {c : Char} (blank : isBlank c) (rest : List Char) :
    splitWords (c :: rest) = splitWords rest := by
  -- A blank begins no word.
  rw [splitWords.eq_def]
  exact if_pos blank

/-- Any other character stands in front of the first word behind it, or is a word by itself. -/
private theorem splitWords_cons {c : Char} (solid : isBlank c = false) (rest : List Char) :
    splitWords (c :: rest) = match rest, splitWords rest with
      | next :: _, word :: words =>
        if isBlank next then [c] :: word :: words else (c :: word) :: words
      | _, words => [c] :: words := by
  -- What is not blank begins a word, alone or in front of the next one.
  rw [splitWords.eq_def]
  exact if_neg (by simp [solid])

/-- A word ends where a blank or nothing follows. -/
theorem splitWords_of_stop {c : Char} (solid : isBlank c = false) {rest : List Char}
    (stop : ∀ d ∈ rest.head?, isBlank d) : splitWords (c :: rest) = [c] :: splitWords rest := by
  -- The next character is blank or missing, so the word ends here.
  rw [splitWords_cons solid]
  cases rest with
  | nil => rfl
  | cons d rest =>
    cases splitWords (d :: rest) with
    | nil => rfl
    | cons word words => exact if_pos (stop d rfl)

/-- A word goes on where anything but a blank follows. -/
theorem splitWords_of_next {c d : Char} (solid : isBlank c = false) (next : isBlank d = false)
    {rest : List Char} {word : List Char} {words : List (List Char)}
    (found : splitWords (d :: rest) = word :: words) :
    splitWords (c :: d :: rest) = (c :: word) :: words := by
  -- The next character goes on with the word.
  rw [splitWords_cons solid, found]
  exact if_neg (by simp [next])

/-- Anything but a blank belongs to a word. -/
theorem exists_splitWords_cons {c : Char} (solid : isBlank c = false) (rest : List Char) :
    ∃ word words, splitWords (c :: rest) = word :: words := by
  -- Whatever follows, the character stands in the first word.
  rw [splitWords_cons solid]
  split
  · split <;> exact ⟨_, _, rfl⟩
  · exact ⟨_, _, rfl⟩

/-- A text without blanks is a word by itself, unless it is empty. -/
theorem splitWords_of_solid {word : List Char} (nonempty : word ≠ [])
    (solid : ∀ c ∈ word, isBlank c = false) : splitWords word = [word] := by
  -- The induction is on the word: no character in it is blank, so it is never cut.
  induction word with
  | nil => exact absurd rfl nonempty
  | cons c word ih =>
    obtain ⟨first, others⟩ := List.forall_mem_cons.mp solid
    cases word with
    | nil => exact splitWords_of_stop first (fun _ none => nomatch none)
    | cons d word =>
      exact splitWords_of_next first (others d (.head _)) (ih (List.cons_ne_nil d word) others)

/-- No word goes on across a blank. -/
theorem splitWords_append {c : Char} (blank : isBlank c) (front back : List Char) :
    splitWords (front ++ c :: back) = splitWords front ++ splitWords back := by
  induction front with
  | nil => exact splitWords_of_isBlank blank back
  | cons d front ih =>
    cases solid : isBlank d with
    | true => rw [List.cons_append, splitWords_of_isBlank solid, splitWords_of_isBlank solid, ih]
    | false =>
      -- Whether the word goes on is told by what follows in the front, or by the blank behind it.
      cases front with
      -- The word is a single character, and the blank ends it.
      | nil =>
        have stop : ∀ e ∈ (c :: back).head?, isBlank e := by
          rintro e ⟨⟩
          exact blank
        have alone : splitWords [d] = [[d]] :=
          splitWords_of_solid (List.cons_ne_nil d []) (List.forall_mem_singleton.mpr solid)
        rw [List.singleton_append, splitWords_of_stop solid stop, splitWords_of_isBlank blank, alone]
        rfl
      | cons e front =>
        cases next : isBlank e with
        -- The word is a single character here too, ended by a blank of the front.
        | true =>
          have stop : ∀ rest, ∀ b ∈ (e :: rest).head?, isBlank b := by
            rintro rest b ⟨⟩
            exact next
          rw [List.cons_append, splitWords_of_stop solid (stop front)]
          exact (splitWords_of_stop solid (stop (front ++ c :: back))).trans (congrArg ([d] :: ·) ih)
        | false =>
          -- The word goes on, so its first character is put in front of it on both sides.
          obtain ⟨word, words, found⟩ := exists_splitWords_cons next front
          rw [found] at ih
          rw [splitWords_of_next solid next found]
          exact splitWords_of_next solid next ih

/-- An empty text has no words. -/
theorem textWords_empty : textWords "" = [] := rfl

/-- A text without blanks is its only word, unless it is empty. -/
theorem textWords_of_solid {word : String} (nonempty : word ≠ "")
    (solid : ∀ c ∈ word.toList, isBlank c = false) : textWords word = [word] := by
  -- A text without blanks is one word.
  rw [textWords, splitWords_of_solid (mt String.toList_eq_nil_iff.mp nonempty) solid,
    List.map_singleton, String.ofList_toList]

/-- A blank parts the words in front of it from those behind it. -/
theorem textWords_append {c : Char} (blank : isBlank c) (front back : String) :
    textWords (front ++ String.singleton c ++ back) = textWords front ++ textWords back := by
  -- The blank stands between the two texts, and words are cut there.
  have parted : (front ++ String.singleton c ++ back).toList = front.toList ++ c :: back.toList := by
    rw [String.toList_append, String.toList_append, String.toList_singleton, List.append_assoc]
    rfl
  rw [textWords, parted, splitWords_append blank, List.map_append]
  rfl

/-- So the words of a text are those of its lines. -/
theorem textWords_join {lines : List String} (areLines : AreLines lines) :
    textWords (String.join lines) = lines.flatMap textWords := by
  induction areLines with
  | none => rfl
  | @last line whole nonempty =>
    rw [String.join_cons, String.join_nil, String.append_empty, List.flatMap_singleton]
  | @ended line lines whole others ih =>
    -- The line end is a blank, so it parts the words of the line from the others.
    have parted : ∀ back : String,
        textWords (line ++ "\n" ++ back) = textWords line ++ textWords back :=
      @textWords_append '\n' rfl line
    have ended : textWords (line ++ "\n") = textWords line := by
      have alone := parted ""
      rwa [String.append_empty, textWords_empty, List.append_nil] at alone
    rw [List.flatMap_cons, ended, ← ih, String.join_cons, parted]

end PocketCalculator
