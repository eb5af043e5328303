import GrammarWorkbench.Expression.Parser
import GrammarWorkbench.Expression.Walk
import GrammarWorkbench.Typing.Analyzer

/-!
# The analysis of a source text

Reading a source text and, if it has no syntax error, finding the types of its tree. The outcome
keeps the tree with its types, the symbol table and both kinds of messages.
-/

set_option autoImplicit false

namespace GrammarWorkbench.Typing

open GrammarWorkbench.Expression

/-- The lines of a section of messages under its heading, or nothing without messages. -/
def errorSection (heading : String) (messages : List String) : String :=
  if messages.isEmpty then ""
  else heading ++ "\n" ++ String.join (messages.map fun message => message ++ "\n")

/-- The messages of both kinds, each kind under its heading. -/
def errorSummary (syntaxErrors semanticErrors : List String) : String :=
  errorSection "Parser Errors:" syntaxErrors ++ errorSection "Semantic Errors:" semanticErrors

/-- What is known of a source text after its analysis. A text with a syntax error has neither a
tree nor a symbol table. -/
structure Analysis where
  tree : Option Expr
  table : Option SymbolTable
  syntaxErrors : List String
  semanticErrors : List String

namespace Analysis

/-- The analysis found no error. -/
def success (analysis : Analysis) : Bool :=
  analysis.tree.isSome && analysis.syntaxErrors.isEmpty && analysis.semanticErrors.isEmpty

/-- The tree as text. -/
def treeText (analysis : Analysis) : Option String :=
  analysis.tree.map fun tree => tree.render ""

/-- The symbol table as text. -/
def tableText (analysis : Analysis) : Option String :=
  analysis.table.map SymbolTable.display

/-- All messages. -/
def errors (analysis : Analysis) : String :=
  errorSummary analysis.syntaxErrors analysis.semanticErrors

end Analysis

/-- Reads a source text and analyzes its tree, with some names declared beforehand. -/
def analyzeSource (limit : NestingLimit) (settings : Settings)
    (declarations : List (String × String)) (source : String) : Analysis :=
  match (Parser.ofSource source).parse limit with
  | (none, parser) =>
    { tree := none, table := none
      syntaxErrors := parser.errors.map SyntaxError.message, semanticErrors := [] }
  | (some tree, parser) =>
    let (tree, analyzer) := (Analyzer.ofDeclarations settings declarations).analyze tree
    { tree := some tree, table := some analyzer.table
      syntaxErrors := parser.errors.map SyntaxError.message
      semanticErrors := analyzer.diagnostics.map Diagnostic.message }

end GrammarWorkbench.Typing
