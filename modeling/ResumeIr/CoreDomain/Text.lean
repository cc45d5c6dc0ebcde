import Mathlib.Data.String.Basic

/-!
# Character classes

The classes of Unicode characters that the checks of the source name.
-/

namespace ResumeIr.CoreDomain

/-- The control characters of Unicode. -/
def isControl (c : Char) : Bool :=
  c.toNat ≤ 0x1f || (0x7f ≤ c.toNat && c.toNat ≤ 0x9f)

/-- The characters with the property `White_Space`. -/
def isWhiteSpace (c : Char) : Bool :=
  let n := c.toNat
  (0x9 ≤ n && n ≤ 0xd) || n == 0x20 || n == 0x85 || n == 0xa0 || n == 0x1680
    || (0x2000 ≤ n && n ≤ 0x200a) || n == 0x2028 || n == 0x2029 || n == 0x202f
    || n == 0x205f || n == 0x3000

/-- `text.trim() == text`: no white space at either end. -/
def isTrimmed (text : String) : Bool :=
  !text.toList.head?.any isWhiteSpace && !text.toList.getLast?.any isWhiteSpace

/-- `text.trim()`. -/
def trim (text : String) : String :=
  String.ofList
    ((text.toList.dropWhile isWhiteSpace).reverse.dropWhile isWhiteSpace).reverse

end ResumeIr.CoreDomain
