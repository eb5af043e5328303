import GrammarWorkbench.Text.Blank
import GrammarWorkbench.Text.Numeral

/-!
# Whole numbers in texts

A whole number is written with decimal digits of any script, perhaps with a sign before them and
white space around. Single underscores may stand between digits. More than 4300 digits are not
read.
-/

set_option autoImplicit false

namespace GrammarWorkbench.Text

/-- The values of digits with single underscores between them. -/
def digitValues? : List Char → Option (List Nat)
  | [] => none
  | [c] => (decimalValue? c).map ([·])
  | c :: '_' :: rest => do
    let digit ← decimalValue? c
    let digits ← digitValues? rest
    some (digit :: digits)
  | c :: rest => do
    let digit ← decimalValue? c
    let digits ← digitValues? rest
    some (digit :: digits)

/-- The greatest number of digits that are read. -/
def maxDigits : Nat := 4300

/-- The number written by digits. -/
def natural? (cs : List Char) : Option Nat := do
  let digits ← digitValues? cs
  if maxDigits < digits.length then none
  else some (digits.foldl (fun n digit => 10 * n + digit) 0)

/-- The whole number that a text holds. -/
def integer? (s : String) : Option Int :=
  match trimBy isWhiteSpace s.toList with
  | '-' :: rest => (natural? rest).map fun n => -(n : Int)
  | '+' :: rest => (natural? rest).map fun n => (n : Int)
  | cs => (natural? cs).map fun n => (n : Int)

end GrammarWorkbench.Text
