import GrammarWorkbench.Text.Replacement

/-!
# Strings of graph descriptions

A string of a graph description stands between double quotes. Backslashes and quotes in it are
escaped by a backslash, and a line break, a tab and a carriage return are written as escapes.
-/

set_option autoImplicit false

namespace GrammarWorkbench.Text

/-- The characters that are escaped. The backslash comes first, since it stands in all escapes. -/
def graphEscapes : List (Char × List Char) :=
  [('\\', ['\\', '\\']), ('"', ['\\', '"']), ('\n', ['\\', 'n']), ('\t', ['\\', 't']),
    ('\r', ['\\', 'r'])]

/-- A text as it stands in a string of a graph description. -/
def escapeGraph (s : String) : String :=
  String.ofList (replaceInTurn graphEscapes s.toList)

end GrammarWorkbench.Text
