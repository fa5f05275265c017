import ReversePolish.Unicode.Ranges

/-! # Blanks

Two sets of blank characters matter to a calculator line.  Words are separated, and
rows of the display end, at any *blank*: the characters with the White_Space property
of Unicode and the four information separators U+001C to U+001F.  A numeral may be
surrounded by *white space* proper, which leaves those four out.
-/

namespace ReversePolish.Unicode

/-- The characters with the White_Space property. -/
def whiteSpaceRanges : Ranges := [
  (0x0009, 0x000D), (0x0020, 0x0020), (0x0085, 0x0085), (0x00A0, 0x00A0), (0x1680, 0x1680),
  (0x2000, 0x200A), (0x2028, 0x2029), (0x202F, 0x202F), (0x205F, 0x205F), (0x3000, 0x3000)]

/-- The characters that separate words: white space and the information separators. -/
def blankRanges : Ranges := [
  (0x0009, 0x000D), (0x001C, 0x0020), (0x0085, 0x0085), (0x00A0, 0x00A0), (0x1680, 0x1680),
  (0x2000, 0x200A), (0x2028, 0x2029), (0x202F, 0x202F), (0x205F, 0x205F), (0x3000, 0x3000)]

def isWhiteSpace (c : Char) : Bool := whiteSpaceRanges.contains c.toNat

def isBlank (c : Char) : Bool := blankRanges.contains c.toNat

end ReversePolish.Unicode
