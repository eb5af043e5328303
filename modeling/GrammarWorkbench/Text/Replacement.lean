/-!
# Replacing characters

Characters of a text are replaced by texts one after the other. Every replacement goes through the
whole text, also through what the ones before it have put in.
-/

set_option autoImplicit false

namespace GrammarWorkbench.Text

/-- A text with every occurrence of a character replaced. -/
def replaceChar (cs : List Char) (c : Char) (replacement : List Char) : List Char :=
  cs.flatMap fun d => if d = c then replacement else [d]

/-- A text after the replacements of a table, the first one first. -/
def replaceInTurn (table : List (Char × List Char)) (cs : List Char) : List Char :=
  table.foldl (fun cs entry => replaceChar cs entry.1 entry.2) cs

end GrammarWorkbench.Text
