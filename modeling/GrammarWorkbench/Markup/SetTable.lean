import GrammarWorkbench.Markup.Options
import GrammarWorkbench.Text.Entity
import GrammarWorkbench.FirstOccurrence

/-!
# Tables of FIRST and FOLLOW sets

The sets come as texts under labels such as `FIRST(E)` and `FOLLOW(E)`. The table has a row for
every name that occurs in a label, in the order in which the names occur first.
-/

set_option autoImplicit false

namespace GrammarWorkbench.Markup

/-- A row: a name with the texts of its two sets. -/
structure SetRow where
  name : String
  first : String
  follow : String
  deriving DecidableEq

/-- The text of a set without members. -/
def emptySetText : String := "\x7b \x7d"

/-- The name in a label: what stands between the first opening parenthesis and the last character.
A label without a parenthesis is a name itself. -/
def labelName (label : String) : String :=
  if label.toList.contains '(' then
    String.ofList ((label.toList.dropWhile (· ≠ '(')).drop 1).dropLast
  else label

/-- The text under a label, or that of the empty set. -/
def setText (sets : List (String × String)) (label : String) : String :=
  (sets.lookup label).getD emptySetText

/-- The rows of the table. -/
def setRows (firstSets followSets : List (String × String)) : List SetRow :=
  (firstOccurrences ((firstSets.map Prod.fst ++ followSets.map Prod.fst).map labelName)).map
    fun name =>
      { name
        first := setText firstSets ("FIRST(" ++ name ++ ")")
        follow := setText followSets ("FOLLOW(" ++ name ++ ")") }

/-- The styles of the table. -/
def tableStyles : String :=
  "\n<style>\n.first-follow-table \x7b\n    border-collapse: collapse;\n" ++
  "    font-family: 'Courier New', monospace;\n    font-size: 12px;\n\x7d\n\n" ++
  ".first-follow-table th, .first-follow-table td \x7b\n    border: 1px solid #374151;\n" ++
  "    padding: 6px 10px;\n    text-align: left;\n\x7d\n</style>"

/-- The lines above the rows. -/
def tableOpening (options : Options) : List String :=
  ["<table class=\"grammar-table " ++ options.tableClasses ++
      "\" role=\"table\" aria-label=\"FIRST and FOLLOW sets\">",
    "<thead>",
    "<tr>",
    "<th class=\"grammar-table-header grammar-table-header-primary\" scope=\"col\">" ++
      "Non-terminal</th>",
    "<th class=\"grammar-table-header\" scope=\"col\">FIRST</th>",
    "<th class=\"grammar-table-header\" scope=\"col\">FOLLOW</th>",
    "</tr>",
    "</thead>",
    "<tbody>"]

/-- The lines of a row. -/
def rowLines (row : SetRow) : List String :=
  ["<tr>",
    "<th class=\"grammar-table-cell grammar-table-cell-primary\" scope=\"row\">" ++
      Text.escapeMarkup row.name ++ "</th>",
    "<td class=\"grammar-table-cell\">" ++ Text.escapeMarkup row.first ++ "</td>",
    "<td class=\"grammar-table-cell\">" ++ Text.escapeMarkup row.follow ++ "</td>",
    "</tr>"]

/-- The lines below the rows. -/
def tableClosing : List String :=
  ["</tbody>", "</table>"]

/-- The block that stands for a table without rows. -/
def emptyTable (options : Options) (message : String) : String :=
  joinLines
    ["<div class=\"" ++ options.errorClasses ++ "\">",
      "<p>" ++ Text.escapeMarkup message ++ "</p>", "</div>"]

/-- The table of the FIRST and FOLLOW sets. -/
def setTable (options : Options) (firstSets followSets : List (String × String)) : String :=
  let rows := setRows firstSets followSets
  if rows.isEmpty then emptyTable options "No non-terminals found"
  else
    joinLines (options.styled tableStyles (
      tableOpening options ++ rows.flatMap rowLines ++ tableClosing))

end GrammarWorkbench.Markup
