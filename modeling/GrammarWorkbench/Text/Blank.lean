import GrammarWorkbench.Text.Ranges

/-!
# Blank characters

The white space of Unicode 14 together with the four information separators, and trimming: taking
the blank characters off both ends of a text.
-/

set_option autoImplicit false

namespace GrammarWorkbench.Text

/-- The code points of the blank characters, in ascending order. -/
def blankRanges : Ranges :=
  [(0x9, 0xD), (0x1C, 0x20), (0x85, 0x85), (0xA0, 0xA0), (0x1680, 0x1680), (0x2000, 0x200A),
   (0x2028, 0x2029), (0x202F, 0x202F), (0x205F, 0x205F), (0x3000, 0x3000)]

/-- A character is blank when it is white space or an information separator. -/
def isBlank (c : Char) : Bool :=
  blankRanges.covers c.toNat

/-- The information separators, which delimit records rather than set words apart. -/
def isSeparator (c : Char) : Bool :=
  decide (0x1C ≤ c.toNat) && decide (c.toNat ≤ 0x1F)

/-- White space proper: blank, and no information separator. -/
def isWhiteSpace (c : Char) : Bool :=
  isBlank c && !isSeparator c

/-- The text between the first and the last character outside a class. -/
def trimBy (p : Char → Bool) (cs : List Char) : List Char :=
  ((cs.dropWhile p).reverse.dropWhile p).reverse

/-- The text without the blank characters at its ends. -/
def trim (s : String) : String :=
  String.ofList (trimBy isBlank s.toList)

end GrammarWorkbench.Text
