import Parlor.Text.CodeRange

/-!
# White space

The white space of every script, and trimming it off a text.
-/

namespace Parlor.Text

/-- The code points of white space. -/
def blankRanges : List CodeRange :=
  [(0x9, 0xd), (0x20, 0x20), (0x85, 0x85), (0xa0, 0xa0), (0x1680, 0x1680), (0x2000, 0x200a),
   (0x2028, 0x2029), (0x202f, 0x202f), (0x205f, 0x205f), (0x3000, 0x3000)]

/-- Tests for white space. -/
def isBlank (c : Char) : Bool := inRanges blankRanges c

/-- Drops the white space at both ends of a list of characters. -/
def trimChars (cs : List Char) : List Char :=
  ((cs.dropWhile isBlank).reverse.dropWhile isBlank).reverse

/-- Drops the white space at both ends of a text. -/
def trim (s : String) : String := String.ofList (trimChars s.toList)

end Parlor.Text
