/-!
# Leading space

The white space that may stand in front of a text: the characters of Unicode's
`White_Space` property and the four separator controls `U+001C` to `U+001F`.
Every line break is among them.
-/

namespace BitmapFont.Text

def isWhiteSpace (c : Char) : Bool :=
  let point := c.toNat
  (0x09 ≤ point && point ≤ 0x0D) || point == 0x20 || point == 0x85 || point == 0xA0 ||
    point == 0x1680 || (0x2000 ≤ point && point ≤ 0x200A) || point == 0x2028 ||
    point == 0x2029 || point == 0x202F || point == 0x205F || point == 0x3000

/-- The characters skipped in front of a text. -/
def isLeadingSpace (c : Char) : Bool :=
  isWhiteSpace c || (0x1C ≤ c.toNat && c.toNat ≤ 0x1F)

def trim (text : List Char) : List Char :=
  ((text.dropWhile isWhiteSpace).reverse.dropWhile isWhiteSpace).reverse

end BitmapFont.Text
