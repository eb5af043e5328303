import GrammarWorkbench.Grammar.Description
import GrammarWorkbench.Grammar.Report
import GrammarWorkbench.Markup.Diagnostics
import GrammarWorkbench.Markup.SetTable
import GrammarWorkbench.Markup.TreeGraph
import GrammarWorkbench.Typing.Analysis

/-!
# The answers of the service

The report on the grammar of shift expressions, the FIRST and FOLLOW sets of a grammar sent as JSON,
and the analysis of an expression sent as JSON. What is wrong with a request is answered with a
message, as text and as a page; an error for which there is no message ends in a bare status 500.
-/

set_option autoImplicit false

namespace GrammarWorkbench.Service

open GrammarWorkbench.Expression (NestingLimit)
open GrammarWorkbench.Grammar (Report)
open GrammarWorkbench.Typing (Analysis)

/-- A response: its status, its caching rule, and its JSON value. A response without a value has
a page or nothing as its body. -/
structure Response where
  status : Nat
  cacheControl : Option String := none
  json : Option Json := none

/-- A list of texts as JSON. -/
def textsJson (texts : List String) : Json :=
  .list (texts.map .text)

/-- Texts under labels as JSON. -/
def labelledJson (entries : List (String × String)) : Json :=
  .object (entries.map fun entry => (entry.1, .text entry.2))

/-- A value that may be missing as JSON. -/
def optionJson {α : Type} (encode : α → Json) : Option α → Json
  | none => .null
  | some value => encode value

/-- A successful response. -/
def ok (members : List (String × Json)) : Response :=
  { status := 200, json := some (.object members) }

/-- The response to a bad request: the message as text and as a page, and perhaps more. -/
def badRequest (message : String) (more : List (String × Json)) : Response :=
  { status := 400
    json := some (.object (
      [("error", .text message), ("errorHtml", .text (Markup.errorPage {} message))] ++ more)) }

/-- A value as a part of a message, with its markup characters escaped; nothing for `null`. -/
def messageText : Json → String
  | .null => ""
  | value => Text.escapeMessage value.mention

/-- The response to a request that failed in an unforeseen way, with a message. -/
def serverError (message : String) : Response :=
  { status := 500
    json := some (.object
      [("error", .text ("Unexpected server error: " ++ messageText (.text message)))]) }

/-- The response to a request that failed without a message. -/
def failure : Response :=
  { status := 500 }

/-- The table of the sets of a report. -/
def reportTable (report : Report) : Json :=
  .text (Markup.setTable {} report.firstSets report.followSets)

/-- The report on the grammar of shift expressions. -/
def indexReport : Response :=
  match Grammar.ShiftExpression.report with
  | .error error => serverError error.message
  | .ok (report, _) =>
    { ok
        [("grammar", textsJson report.productions),
          ("firstSets", labelledJson report.firstSets),
          ("followSets", labelledJson report.followSets),
          ("expectedFirstSets", labelledJson report.expectedFirst),
          ("expectedFollowSets", labelledJson report.expectedFollow),
          ("matchesExpected", optionJson .boolean report.matchesExpected),
          ("setsTableHtml", reportTable report),
          ("showParserLink", .boolean true)] with
      cacheControl := some "no-cache, no-store, must-revalidate" }

/-- The FIRST and FOLLOW sets of a described grammar. -/
def firstFollow (description : Json) : Response :=
  if description.isEmpty then badRequest "No grammar provided" []
  else
    match Grammar.ofJson description with
    | .error error =>
      match error.report? with
      | some message => badRequest message [("success", .boolean false)]
      | none => failure
    | .ok grammar =>
      match Report.ofGrammar grammar [] [] with
      | .error error => serverError error.message
      | .ok (report, _) =>
        ok
          [("success", .boolean true),
            ("grammar", textsJson report.productions),
            ("firstSets", labelledJson report.firstSets),
            ("followSets", labelledJson report.followSets),
            ("setsTableHtml", reportTable report)]

/-- The members of an object that maps names to texts. -/
def declarations? : Json → Option (List (String × String))
  | .object members =>
    members.mapM fun member =>
      match member.2 with
      | .text type => some (member.1, type)
      | _ => none
  | value => if value.isEmpty then some [] else none

/-- The members that show an analysis. -/
def analysisMembers (analysis : Analysis) : List (String × Json) :=
  [("success", .boolean analysis.success),
    ("syntax_tree", optionJson .text analysis.treeText),
    ("errors", .text analysis.errors),
    ("symbol_table", optionJson .text analysis.tableText),
    ("syntax_errors", textsJson analysis.syntaxErrors),
    ("semantic_errors", textsJson analysis.semanticErrors)]

/-- The answer with the analysis of an expression. -/
def analysisResponse (input : String) (analysis : Analysis) : Response :=
  ok (analysisMembers analysis ++
    [("input", .text input),
      ("treeDot", .text (Markup.graph {} Markup.defaultTitle analysis.tree)),
      ("errorsHtml",
        .text (Markup.diagnosticsPage {} analysis.syntaxErrors analysis.semanticErrors))])

/-- The analysis of a sent expression: an object with a text under `input` and perhaps an object
under `declarations`. An empty value counts as an object without members. -/
def analyzeExpression (limit : NestingLimit) (settings : Typing.Settings) (sent : Json) :
    Response :=
  match if sent.isEmpty then .object [] else sent with
  | .object members =>
    match members.lookup "input" with
    | none => badRequest "No input string provided" []
    | some .null => badRequest "No input string provided" []
    | some (.text input) =>
      match declarations? ((members.lookup "declarations").getD .null) with
      | none => badRequest "Declarations must map names to type names" []
      | some declarations =>
        analysisResponse input (Typing.analyzeSource limit settings declarations input)
    | some _ => badRequest "Input must be a string" []
  | _ => failure

end GrammarWorkbench.Service
