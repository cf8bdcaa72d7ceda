/-!
# Blank characters

The characters with the Unicode property `White_Space`, and trimming them off both ends of a text.
-/

namespace SpriteStage.Text

/-- The code points with the property `White_Space`. -/
def isBlank (c : Char) : Bool :=
  let n := c.toNat
  (0x09 ≤ n && n ≤ 0x0d) || n == 0x20 || n == 0x85 || n == 0xa0 || n == 0x1680 ||
    (0x2000 ≤ n && n ≤ 0x200a) || n == 0x2028 || n == 0x2029 || n == 0x202f || n == 0x205f ||
    n == 0x3000

/-- A text without the blanks at its two ends. -/
def trim (s : String) : String :=
  String.ofList (((s.toList.dropWhile isBlank).reverse.dropWhile isBlank).reverse)

/-- A text of blanks only, the empty text included. -/
def isEmptyTrimmed (s : String) : Bool := s.toList.all isBlank

/-- The lower-case form of an ASCII letter; other characters stay as they are. -/
def lowerCase (s : String) : String := s.map Char.toLower

end SpriteStage.Text
