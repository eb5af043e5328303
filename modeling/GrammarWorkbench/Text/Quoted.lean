import GrammarWorkbench.Text.Hex
import GrammarWorkbench.Text.Printable

/-!
# Quoted text

A text between quotes, with everything that could not be read back from a line of plain characters
written as an escape. The apostrophe is the quote unless the text holds an apostrophe and no
double quote.
-/

set_option autoImplicit false

namespace GrammarWorkbench.Text

/-- The escape of a character by its code point: two, four or eight hexadecimal digits, the
fewest that hold it. -/
def codePointEscape (n : Nat) : List Char :=
  if n < 0x100 then '\\' :: 'x' :: hexDigits 2 n
  else if n < 0x10000 then '\\' :: 'u' :: hexDigits 4 n
  else '\\' :: 'U' :: hexDigits 8 n

/-- A character as it stands between quotes. -/
def quotedChar (quote c : Char) : List Char :=
  if c = quote || c = '\\' then ['\\', c]
  else if c = '\n' then ['\\', 'n']
  else if c = '\r' then ['\\', 'r']
  else if c = '\t' then ['\\', 't']
  else if isPrintable c then [c]
  else codePointEscape c.toNat

/-- The quote a text is written with. -/
def quoteFor (cs : List Char) : Char :=
  if cs.contains '\'' && !cs.contains '"' then '"' else '\''

/-- The text between quotes. -/
def quoted (s : String) : String :=
  let quote := quoteFor s.toList
  String.ofList (quote :: (s.toList.flatMap (quotedChar quote) ++ [quote]))

end GrammarWorkbench.Text
