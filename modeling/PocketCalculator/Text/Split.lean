import PocketCalculator.Text.Blank

/-! Texts cut into lines and into words. -/

namespace PocketCalculator

/-- The lines of a text, each with its line end, where a last line may lack one. -/
def splitLines : List Char → List (List Char)
  -- An empty text has no line, not even an empty one.
  | [] => []
  | c :: rest =>
    -- A line end closes its line.
    if c = '\n' then [c] :: splitLines rest
    -- Any other character belongs to the line that goes on behind it.
    else match splitLines rest with
      | [] => [[c]]
      | line :: lines => (c :: line) :: lines

/-- Joining the lines gives the text back. -/
theorem flatten_splitLines (chars : List Char) : (splitLines chars).flatten = chars := by
  -- Every character goes to the front of the first line of what follows it.
  induction chars with
  | nil => rfl
  | cons c rest ih =>
    unfold splitLines
    split
    · simp [ih]
    · split <;> simp_all

/-- The words of a text, which are the longest runs without a blank. -/
def splitWords : List Char → List (List Char)
  | [] => []
  | c :: rest =>
    -- Blanks only separate.
    if isBlank c then splitWords rest
    else match rest, splitWords rest with
      -- The word goes on exactly if the next character is no blank either.
      | next :: _, word :: words =>
        if isBlank next then [c] :: word :: words else (c :: word) :: words
      | _, words => [c] :: words

end PocketCalculator
