/-!
# Blanks and trimming

Blank characters and trimming. A character is blank when it has the Unicode property
`White_Space`; trimming removes blanks, or any other class of characters, from the ends of a text.
-/

namespace Scaffold.Text

/-- A character with the property `White_Space`. -/
def isBlank (c : Char) : Bool :=
  let n := c.toNat
  (9 ≤ n && n ≤ 13) || n == 0x20 || n == 0x85 || n == 0xA0 || n == 0x1680 ||
    (0x2000 ≤ n && n ≤ 0x200A) || n == 0x2028 || n == 0x2029 || n == 0x202F || n == 0x205F ||
    n == 0x3000

/-- The text without its longest ending of characters that satisfy `p`. -/
def dropEndWhile {α : Type} (p : α → Bool) (cs : List α) : List α :=
  (cs.reverse.dropWhile p).reverse

def trimWhile (p : Char → Bool) (cs : List Char) : List Char :=
  dropEndWhile p (cs.dropWhile p)

def trim (cs : List Char) : List Char :=
  trimWhile isBlank cs

def isBlankText (cs : List Char) : Bool :=
  cs.all isBlank

end Scaffold.Text
