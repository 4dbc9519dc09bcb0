/-!
This module contains the characters that count as blank space, and the removal of blanks from the two ends of a
text. The class is Unicode's `White_Space` property, which is larger than the class of core's `Char.isWhitespace`.
-/

namespace PodProbe.Text

def isBlank (c : Char) : Bool :=
  let n := c.toNat
  (9 ≤ n && n ≤ 13) || n == 0x20 || n == 0x85 || n == 0xA0 || n == 0x1680 || (0x2000 ≤ n && n ≤ 0x200A)
    || n == 0x2028 || n == 0x2029 || n == 0x202F || n == 0x205F || n == 0x3000

def trimRight (cs : List Char) : List Char :=
  (cs.reverse.dropWhile isBlank).reverse

def trim (cs : List Char) : List Char :=
  trimRight (cs.dropWhile isBlank)

end PodProbe.Text
