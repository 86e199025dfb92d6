import GrantList.Text.CodeRanges

/-!
# Blank characters and trimming

A character is blank when it has the property `White_Space`: the ASCII blanks, the no-break space,
the spaces of the general punctuation block and the line separators, but none of the zero-width
characters. `Text.trim` removes blanks at both ends of a text and touches nothing between them.
-/

namespace GrantList

/-- The property `White_Space`. -/
def CodeRanges.whiteSpace : CodeRanges where
  ranges :=
    [(0x0009, 0x000D), (0x0020, 0x0020), (0x0085, 0x0085), (0x00A0, 0x00A0), (0x1680, 0x1680),
    (0x2000, 0x200A), (0x2028, 0x2029), (0x202F, 0x202F), (0x205F, 0x205F), (0x3000, 0x3000)]

namespace Text

/-- Whether `c` is a blank. -/
def isBlank (c : Char) : Bool :=
  c ∈ CodeRanges.whiteSpace

/-- The characters of `l` without the blanks at its end. -/
def dropBlankEnd (l : List Char) : List Char :=
  (l.reverse.dropWhile isBlank).reverse

/-- The text without the blanks at its start and at its end. -/
def trim (s : String) : String :=
  .ofList (dropBlankEnd (s.toList.dropWhile isBlank))

/-- Whether the text has nothing but blanks. -/
def isBlankText (s : String) : Bool :=
  s.toList.all isBlank

end Text

end GrantList
