/-!
# Blank characters

The White_Space property of Unicode, and trimming by it. A name that consists of blank
characters only counts as empty wherever this library asks for a name. The property is a
fixed set of twenty-five code points; it is wider than the ASCII class of the core library.
-/

namespace StateHolders.Text

/-- The White_Space property of Unicode. -/
def isBlank (c : Char) : Bool :=
  let n := c.toNat
  (9 ≤ n && n ≤ 13) || n == 32 || n == 0x85 || n == 0xA0 || n == 0x1680 ||
    (0x2000 ≤ n && n ≤ 0x200A) || n == 0x2028 || n == 0x2029 || n == 0x202F ||
    n == 0x205F || n == 0x3000

/-- What is left after the blank characters at both ends are dropped. -/
def trim (cs : List Char) : List Char :=
  ((cs.dropWhile isBlank).reverse.dropWhile isBlank).reverse

/-- Whether trimming leaves nothing. -/
def isAllBlank (s : String) : Bool :=
  (trim s.toList).isEmpty

end StateHolders.Text
