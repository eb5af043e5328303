import GrammarWorkbench.Text.Replacement

/-!
# Character entities

Text inside markup: the five characters with a meaning in markup are replaced by entities, one
character after the other. The apostrophe has two spellings, a hexadecimal and a decimal one, and
each kind of output keeps to one of them.
-/

set_option autoImplicit false

namespace GrammarWorkbench.Text

/-- The spelling of the apostrophe as an entity. -/
inductive ApostropheSpelling where
  | hexadecimal
  | decimal
  deriving DecidableEq

/-- The entity of an apostrophe in a spelling. -/
def ApostropheSpelling.entity : ApostropheSpelling → List Char
  | .hexadecimal => ['&', '#', 'x', '2', '7', ';']
  | .decimal => ['&', '#', '0', '3', '9', ';']

/-- The characters that are replaced, with their entities. The ampersand comes first, since it
stands in all entities. -/
def entityTable (apostrophe : ApostropheSpelling) : List (Char × List Char) :=
  [('&', ['&', 'a', 'm', 'p', ';']), ('<', ['&', 'l', 't', ';']), ('>', ['&', 'g', 't', ';']),
    ('"', ['&', 'q', 'u', 'o', 't', ';']), ('\'', apostrophe.entity)]

/-- A text with its markup characters replaced by entities. -/
def escapeMarkupWith (apostrophe : ApostropheSpelling) (s : String) : String :=
  String.ofList (replaceInTurn (entityTable apostrophe) s.toList)

/-- The escaping of rendered pages, with the hexadecimal apostrophe. -/
def escapeMarkup (s : String) : String :=
  escapeMarkupWith .hexadecimal s

/-- The escaping of messages sent back by the service, with the decimal apostrophe. -/
def escapeMessage (s : String) : String :=
  escapeMarkupWith .decimal s

end GrammarWorkbench.Text
