import PocketCalculator.Text.CodePoints

/-! The white space that separates tokens and key labels. -/

namespace PocketCalculator

/-- The code points with the Unicode property of white space. -/
def blanks : CodePoints :=
  -- Tab to carriage return, space, next line and no-break space come before the script-specific ones.
  [(0x09, 0x0D), (0x20, 0x20), (0x85, 0x85), (0xA0, 0xA0), (0x1680, 0x1680), (0x2000, 0x200A),
    (0x2028, 0x2029), (0x202F, 0x202F), (0x205F, 0x205F), (0x3000, 0x3000)]

/-- A blank is any character of white space, not only the space itself. -/
def isBlank (c : Char) : Bool :=
  blanks.has c

end PocketCalculator
