import NamedSql.Text.Ranges

/-!
# Blanks

The white space of Unicode together with the four information separators of ASCII. Stripping a
text removes the blanks at both ends.
-/

namespace NamedSql

def blankRanges : RangeTable := [
  (0x9, 0xD), (0x1C, 0x20), (0x85, 0x85), (0xA0, 0xA0), (0x1680, 0x1680), (0x2000, 0x200A),
  (0x2028, 0x2029), (0x202F, 0x202F), (0x205F, 0x205F), (0x3000, 0x3000)]

def isBlank (c : Char) : Bool := blankRanges.contains c.toNat

/-- The text without the blanks at its ends. -/
def strip (s : Text) : Text :=
  ((s.dropWhile isBlank).reverse.dropWhile isBlank).reverse

end NamedSql
