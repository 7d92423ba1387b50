import LineShell.Text.CodeRanges
import LineShell.Text.Runs

/-!
# Words of a line

The command language has no quotes, escapes or operators: a line is a sequence of words between
runs of blanks.  A blank is any character with the Unicode property White_Space.  The class of
core's `Char.isWhitespace` has four members only, so the property has a table of its own.
-/

namespace LineShell

/-- The code points with the property White_Space. -/
def blankRanges : CodeRanges :=
  [(0x9, 0xD), (0x20, 0x20), (0x85, 0x85), (0xA0, 0xA0), (0x1680, 0x1680), (0x2000, 0x200A),
   (0x2028, 0x2029), (0x202F, 0x202F), (0x205F, 0x205F), (0x3000, 0x3000)]

def isBlank (c : Char) : Bool := blankRanges.has c

theorem isBlank_space : isBlank ' ' = true := rfl

example : blankRanges.size = 25 := rfl

/-- The words of a line.  A line of blanks has none. -/
def tokenize (line : String) : List String :=
  (runs isBlank line.toList).map String.ofList

/-- Words written as one line, a single space between neighbours. -/
def joinWords (words : List String) : String :=
  " ".intercalate words

end LineShell
