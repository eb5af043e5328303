import GrammarWorkbench.Markup.Options
import GrammarWorkbench.Text.Entity

/-!
# Pages of messages

Syntax and semantic messages as blocks of markup, a section for each kind, and the block for a
single message.
-/

set_option autoImplicit false

namespace GrammarWorkbench.Markup

/-- The styles of an error block. -/
def errorStyles : String :=
  "\n<style>\n.error-message \x7b\n    color: #cc0000;\n    background-color: #ffeeee;\n" ++
  "    border: 1px solid #cc0000;\n    border-radius: 4px;\n    padding: 10px;\n" ++
  "    margin: 10px 0;\n    font-family: Arial, sans-serif;\n\x7d\n\n" ++
  ".error-text \x7b\n    font-weight: bold;\n    margin: 5px 0;\n\x7d\n</style>"

/-- The block of the error class around some lines. -/
def errorBlock (options : Options) (lines : List String) : List String :=
  ("<div class=\"" ++ options.errorClasses ++ "\">") :: (lines ++ ["</div>"])

/-- A message as an item of a list. -/
def messageItem (message : String) : String :=
  "<li class=\"error-text\">" ++ Text.escapeMarkup message ++ "</li>"

/-- A section of messages: its title with their number, and a list of them. -/
def messageSection (title : String) (messages : List String) : String :=
  joinLines (
    ["<h4>" ++ Text.escapeMarkup title ++ " (" ++ toString messages.length ++ " found)</h4>",
      "<ul>"] ++ messages.map messageItem ++ ["</ul>"])

/-- The section of messages, if there are any. -/
def messageSections (title : String) (messages : List String) : List String :=
  if messages.isEmpty then [] else [messageSection title messages]

/-- The page of syntax and semantic messages. -/
def diagnosticsPage (options : Options) (syntaxErrors semanticErrors : List String) : String :=
  if syntaxErrors.isEmpty && semanticErrors.isEmpty then
    "<div class=\"no-errors\">No errors found.</div>"
  else
    joinLines (options.styled errorStyles (errorBlock options (
      messageSections "Parser Errors" syntaxErrors ++
      messageSections "Semantic Errors" semanticErrors)))

/-- The page of a single message. -/
def errorPage (options : Options) (message : String) : String :=
  joinLines (options.styled errorStyles (errorBlock options
    ["<h4>Error</h4>", "<p class=\"error-text\">" ++ Text.escapeMarkup message ++ "</p>"]))

end GrammarWorkbench.Markup
