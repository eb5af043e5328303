import GrammarWorkbench.Text.Letter
import GrammarWorkbench.Text.Ranges

/-!
# Names of hosts

The name of a host consists of labels with points between them. A label has at most 63 characters.
Characters beyond ASCII are brought to a plain form first; of those that remain some are refused,
and letters of scripts that run from right to left do not stand in one label with others.
-/

set_option autoImplicit false

namespace GrammarWorkbench.Service.HostName

/-! ## Characters -/

/-- Whether a character is in ASCII. -/
def isAscii (c : Char) : Bool :=
  decide (c.toNat < 0x80)

/-- The code points that leave nothing in the plain form. -/
def ignoredRanges : Text.Ranges :=
  [(0xAD, 0xAD), (0x34F, 0x34F), (0x1806, 0x1806), (0x180B, 0x180D), (0x200B, 0x200D),
    (0x2060, 0x2060), (0xFE00, 0xFE0F), (0xFEFF, 0xFEFF)]

/-- The code points that are refused: spaces, controls and marks of direction that have no plain
form, and code points for private use or without a character. -/
def refusedRanges : Text.Ranges :=
  [(0x80, 0x9F), (0x6DD, 0x6DD), (0x70F, 0x70F), (0x1680, 0x1680), (0x180E, 0x180E),
    (0x200E, 0x200F), (0x2028, 0x202E), (0x2061, 0x2063), (0x206A, 0x206F), (0x2FF0, 0x2FFB),
    (0xE000, 0xF8FF), (0xFDD0, 0xFDEF), (0xFFF9, 0xFFFF), (0x1D173, 0x1D17A), (0x1FFFE, 0x1FFFF),
    (0x2FFFE, 0x2FFFF), (0x3FFFE, 0x3FFFF), (0x4FFFE, 0x4FFFF), (0x5FFFE, 0x5FFFF),
    (0x6FFFE, 0x6FFFF), (0x7FFFE, 0x7FFFF), (0x8FFFE, 0x8FFFF), (0x9FFFE, 0x9FFFF),
    (0xAFFFE, 0xAFFFF), (0xBFFFE, 0xBFFFF), (0xCFFFE, 0xCFFFF), (0xDFFFE, 0xDFFFF),
    (0xE0001, 0xE0001), (0xE0020, 0xE007F), (0xEFFFE, 0x10FFFF)]

/-- The code points of scripts that run from right to left. -/
def rightToLeftRanges : Text.Ranges :=
  [(0x5BE, 0x5BE), (0x5C0, 0x5C0), (0x5C3, 0x5C3), (0x5D0, 0x5EA), (0x5F0, 0x5F4), (0x61B, 0x61B),
    (0x61F, 0x61F), (0x621, 0x63A), (0x640, 0x64A), (0x66D, 0x66F), (0x671, 0x6D5), (0x6DD, 0x6DD),
    (0x6E5, 0x6E6), (0x6FA, 0x6FE), (0x700, 0x70D), (0x710, 0x710), (0x712, 0x72C), (0x780, 0x7A5),
    (0x7B1, 0x7B1), (0x200F, 0x200F), (0xFB1D, 0xFB1D), (0xFB1F, 0xFB28), (0xFB2A, 0xFB36),
    (0xFB38, 0xFB3C), (0xFB3E, 0xFB3E), (0xFB40, 0xFB41), (0xFB43, 0xFB44), (0xFB46, 0xFBB1),
    (0xFBD3, 0xFD3D), (0xFD50, 0xFD8F), (0xFD92, 0xFDC7), (0xFDF0, 0xFDFC), (0xFE70, 0xFE74),
    (0xFE76, 0xFEFC)]

/-- The code points beyond the letters that run from left to right: numerals that are written like
letters, and the iota below a letter. -/
def leftToRightRanges : Text.Ranges :=
  [(0x345, 0x345), (0x966, 0x96F), (0x2160, 0x2188), (0x3007, 0x3007)]

/-- A character of a script that runs from right to left. -/
def isRightToLeft (c : Char) : Bool :=
  rightToLeftRanges.covers c.toNat

/-- A character of a script that runs from left to right. -/
def isLeftToRight (c : Char) : Bool :=
  (Text.isLetter c || leftToRightRanges.covers c.toNat) && !isRightToLeft c

/-- Code points beyond the wide forms whose plain form is in ASCII: raised letters and digits, the
double s, blanks of other widths, the eighth numeral, a circled digit, a ligature, and a letter and
a digit of mathematics. -/
def plainForms : List (Nat × List Char) :=
  [(0xA0, [' ']), (0xAA, ['a']), (0xB2, ['2']), (0xB3, ['3']), (0xBA, ['o']), (0xDF, ['s', 's']),
    (0x2B0, ['h']), (0x2003, [' ']), (0x2167, ['v', 'i', 'i', 'i']), (0x2460, ['1']),
    (0x3000, [' ']), (0xFB01, ['f', 'i']), (0x1D49C, ['a']), (0x1D7D9, ['1'])]

/-- The plain form of a character. A wide form of a character of ASCII becomes that character. -/
def plainForm (c : Char) : List Char :=
  if ignoredRanges.covers c.toNat then []
  else if 0xFF01 ≤ c.toNat ∧ c.toNat ≤ 0xFF5E then [(Char.ofNat (c.toNat - 0xFEE0)).toLower]
  else (plainForms.lookup c.toNat).getD [c]

/-! ## Labels -/

/-- A character that separates labels: a point, or a full stop of another script. -/
def isPoint (c : Char) : Bool :=
  c = '.' || c.toNat = 0x3002 || c.toNat = 0xFF0E || c.toNat = 0xFF61

/-- The labels of a name. -/
def labels (name : List Char) : List (List Char) :=
  name.splitOnP isPoint

/-- The plain form of a label. -/
def plainLabel (label : List Char) : List Char :=
  label.flatMap plainForm

/-- The plain form of a name. -/
def plain (name : List Char) : List Char :=
  List.intercalate ['.'] ((labels name).map plainLabel)

/-- Whether a label with characters from right to left starts and ends with one and has no
characters from left to right. -/
def keepsDirection (label : List Char) : Bool :=
  !label.any isRightToLeft ||
    (label.head?.any isRightToLeft && label.getLast?.any isRightToLeft &&
      !label.any isLeftToRight)

/-- What stands in front of a label that is written by codes. -/
def codeMark : List Char := "xn--".toList

/-- The number of characters that no label reaches. -/
def labelLimit : Nat := 64

/-- Whether a label has characters, and not too many. -/
def fits (label : List Char) : Bool :=
  !label.isEmpty && decide (label.length < labelLimit)

/-- Whether a label in its plain form is allowed. A label with characters beyond ASCII is counted
together with the mark of its codes, and does not start with that mark itself. -/
def allowsPlain (label : List Char) : Bool :=
  if label.all isAscii then fits label
  else
    !label.any (fun c => refusedRanges.covers c.toNat) && keepsDirection label &&
      !codeMark.isPrefixOf label && fits (codeMark ++ label)

/-- Whether a label is allowed. -/
def allowsLabel (label : List Char) : Bool :=
  allowsPlain (plainLabel label)

/-- Whether all labels of a name pass a test; the last one may also be empty. -/
def allLabels (test : List Char → Bool) (name : List Char) : Bool :=
  (labels name).dropLast.all test &&
    (labels name).getLast?.all fun label => label.isEmpty || test label

/-- Whether a name is allowed. -/
def allows (name : List Char) : Bool :=
  allLabels allowsLabel name

end GrammarWorkbench.Service.HostName
