import ReceiverLoader.Text.Ident
import ReceiverLoader.Text.Word.Table

/-!
# Letters, numbers and blanks

The character classes of free-form names: alphabetic or numeric characters, and white space.
-/

namespace ReceiverLoader.Text

/-- Whether `c` is alphabetic or numeric, in any script. -/
def isAlphanumeric (c : Char) : Bool :=
  if c.toNat < 0x80 then isAsciiLetter c || isAsciiDigit c
  else CodeRange.holds c.toNat Word.wordRanges

/-- The characters with the Unicode property `White_Space`. -/
def blankRanges : List CodeRange :=
  [(0x9, 0xd), (0x20, 0x20), (0x85, 0x85), (0xa0, 0xa0), (0x1680, 0x1680), (0x2000, 0x200a),
   (0x2028, 0x2029), (0x202f, 0x202f), (0x205f, 0x205f), (0x3000, 0x3000)]

/-- Whether `c` is white space, in any script. -/
def isBlank (c : Char) : Bool := CodeRange.holds c.toNat blankRanges

/-- `text` without the white space at its two ends. -/
def trimBlanks (text : List Char) : List Char :=
  ((text.dropWhile isBlank).reverse.dropWhile isBlank).reverse

end ReceiverLoader.Text
