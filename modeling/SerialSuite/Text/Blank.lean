/-!
White space, and texts without the white space around them.
-/

namespace SerialSuite.Text

/-- Unicode's `White_Space` characters. -/
def isBlank (c : Char) : Bool :=
  let n := c.toNat
  (9 ≤ n && n ≤ 13) || n == 0x20 || n == 0x85 || n == 0xA0 || n == 0x1680 ||
    (0x2000 ≤ n && n ≤ 0x200A) || n == 0x2028 || n == 0x2029 || n == 0x202F || n == 0x205F ||
    n == 0x3000

def trim (text : List Char) : List Char :=
  ((text.dropWhile isBlank).reverse.dropWhile isBlank).reverse

/-- Whether there is nothing but white space. -/
def allBlank (text : List Char) : Bool := text.all isBlank

end SerialSuite.Text
