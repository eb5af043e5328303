import GrammarWorkbench.Expression.Cursor
import GrammarWorkbench.Expression.Parser
import GrammarWorkbench.Expression.Phrase
import GrammarWorkbench.Expression.Scanner
import GrammarWorkbench.Expression.Token
import GrammarWorkbench.Expression.Tree
import GrammarWorkbench.Expression.Walk
import GrammarWorkbench.FirstOccurrence
import GrammarWorkbench.Grammar.Basic
import GrammarWorkbench.Grammar.Description
import GrammarWorkbench.Grammar.Name
import GrammarWorkbench.Grammar.Query
import GrammarWorkbench.Grammar.Report
import GrammarWorkbench.Grammar.SequenceCache
import GrammarWorkbench.Grammar.SetMap
import GrammarWorkbench.Grammar.ShiftExpression
import GrammarWorkbench.Grammar.Solution
import GrammarWorkbench.Grammar.Symbol
import GrammarWorkbench.Json.Basic
import GrammarWorkbench.Json.Display
import GrammarWorkbench.Json.Printer
import GrammarWorkbench.Json.Reader
import GrammarWorkbench.Markup.Diagnostics
import GrammarWorkbench.Markup.Options
import GrammarWorkbench.Markup.SetTable
import GrammarWorkbench.Markup.TreeGraph
import GrammarWorkbench.Number.Binary64
import GrammarWorkbench.Number.Shortest
import GrammarWorkbench.Service.Answer
import GrammarWorkbench.Service.Reception.Address
import GrammarWorkbench.Service.Reception.Authority
import GrammarWorkbench.Service.Reception.Exchange
import GrammarWorkbench.Service.Reception.HostName
import GrammarWorkbench.Service.Reception.Message
import GrammarWorkbench.Service.Reception.Reference
import GrammarWorkbench.Service.Reception.Routing
import GrammarWorkbench.Service.Server
import GrammarWorkbench.Settings
import GrammarWorkbench.Text.Blank
import GrammarWorkbench.Text.Encoding
import GrammarWorkbench.Text.Entity
import GrammarWorkbench.Text.GraphString
import GrammarWorkbench.Text.Hex
import GrammarWorkbench.Text.Integer
import GrammarWorkbench.Text.Letter
import GrammarWorkbench.Text.Numeral
import GrammarWorkbench.Text.Printable
import GrammarWorkbench.Text.Quoted
import GrammarWorkbench.Text.Ranges
import GrammarWorkbench.Text.UpperCase
import GrammarWorkbench.Text.Utf16
import GrammarWorkbench.Typing.Analysis
import GrammarWorkbench.Typing.Analyzer
import GrammarWorkbench.Typing.Draft
import GrammarWorkbench.Typing.SymbolTable
import GrammarWorkbench.Proofs.Grammar.Derivation
import GrammarWorkbench.Proofs.Grammar.Passes
import GrammarWorkbench.Proofs.Grammar.Sequence
import GrammarWorkbench.Proofs.Grammar.First
import GrammarWorkbench.Proofs.Grammar.Follow
import GrammarWorkbench.Proofs.Grammar.Exactness
import GrammarWorkbench.Proofs.Expression.Phrases
import GrammarWorkbench.Proofs.Expression.Language
import GrammarWorkbench.Proofs.Expression.Lexing
import GrammarWorkbench.Proofs.Expression.Printing
import GrammarWorkbench.Proofs.Grammar.Transparency
import GrammarWorkbench.Proofs.Expression.Misfit
import GrammarWorkbench.Proofs.Expression.Places
import GrammarWorkbench.Proofs.Typing.Cascade
import GrammarWorkbench.Proofs.Expression.Splitting
import GrammarWorkbench.Expression.StreamParser
import GrammarWorkbench.Proofs.Expression.Pointer
import GrammarWorkbench.Proofs.Expression.Readings
import GrammarWorkbench.Proofs.Expression.Calls
import GrammarWorkbench.Proofs.Typing.Entries
import GrammarWorkbench.Proofs.Typing.Success
import GrammarWorkbench.Proofs.Expression.Depth
import GrammarWorkbench.Proofs.Expression.Rendering
import GrammarWorkbench.Proofs.Grammar.Names
import GrammarWorkbench.Proofs.Grammar.Descriptions
import GrammarWorkbench.Proofs.Service.Responses
import GrammarWorkbench.Proofs.Service.SentGrammars
import GrammarWorkbench.Proofs.Grammar.Histories
import GrammarWorkbench.Proofs.Grammar.CacheCounts
import GrammarWorkbench.Proofs.Grammar.Questions
import GrammarWorkbench.Proofs.Service.SentExpressions
import GrammarWorkbench.Proofs.Typing.Scopes
import GrammarWorkbench.Proofs.Typing.Keys
import GrammarWorkbench.Proofs.Grammar.Consistency
import GrammarWorkbench.Proofs.Grammar.Reports
import GrammarWorkbench.Proofs.Service.SolvedGrammars
import GrammarWorkbench.Proofs.Expression.Respacing
import GrammarWorkbench.Proofs.Text.Replacement
import GrammarWorkbench.Proofs.Typing.Reanalysis
import GrammarWorkbench.Proofs.Text.GraphString
import GrammarWorkbench.Proofs.Expression.Paths
import GrammarWorkbench.Proofs.Markup.TreeGraph
import GrammarWorkbench.Proofs.Text.PrefixFree
import GrammarWorkbench.Proofs.Text.Occurrences
import GrammarWorkbench.Proofs.Markup.Lines
import GrammarWorkbench.Proofs.Text.Entity
import GrammarWorkbench.Proofs.Expression.Traversals
import GrammarWorkbench.Proofs.Markup.Diagnostics
import GrammarWorkbench.Proofs.Markup.SetTable
import GrammarWorkbench.Proofs.Grammar.Labels
import GrammarWorkbench.Proofs.Markup.ReportTable
