import GrammarWorkbench.Service.Server

/-!
# What a response shows

A bad request shows its message as text and as a page (`IsBadRequest`), the answer with an analysis
shows every part of the analysis and the expression itself (`ShowsAnalysis`), and a bare failure has
no value at all. What a server answers at an endpoint depends on the sent value alone
(`Server.respond_sets`, `Server.respond_analysis`), however requests are received.
-/

set_option autoImplicit false

namespace GrammarWorkbench.Service

open GrammarWorkbench.Typing (Analysis)

/-! ## Responses -/

/-- The value under a name in a response. -/
def Response.member? (response : Response) (name : String) : Option Json :=
  response.json.bind (·.member? name)

/-- A bad request, answered with a message. -/
structure IsBadRequest (response : Response) (message : String) : Prop where
  status : response.status = 400
  error : response.member? "error" = some (.text message)
  errorHtml : response.member? "errorHtml" = some (.text (Markup.errorPage {} message))

/-- The answer with the analysis of an expression. -/
structure ShowsAnalysis (response : Response) (input : String) (analysis : Analysis) : Prop where
  status : response.status = 200
  input : response.member? "input" = some (.text input)
  success : response.member? "success" = some (.boolean analysis.success)
  tree : response.member? "syntax_tree" = some (optionJson .text analysis.treeText)
  errors : response.member? "errors" = some (.text analysis.errors)
  table : response.member? "symbol_table" = some (optionJson .text analysis.tableText)
  syntaxErrors : response.member? "syntax_errors" = some (textsJson analysis.syntaxErrors)
  semanticErrors : response.member? "semantic_errors" = some (textsJson analysis.semanticErrors)
  treeGraph : response.member? "treeDot" =
    some (.text (Markup.graph {} Markup.defaultTitle analysis.tree))
  errorsHtml : response.member? "errorsHtml" =
    some (.text (Markup.diagnosticsPage {} analysis.syntaxErrors analysis.semanticErrors))

theorem isBadRequest_badRequest (message : String) (more : List (String × Json)) :
    IsBadRequest (badRequest message more) message where
  status := rfl
  error := rfl
  errorHtml := rfl

theorem not_isBadRequest_failure (message : String) : ¬ IsBadRequest failure message := by
  rintro ⟨hstatus, -, -⟩
  cases hstatus

theorem showsAnalysis_analysisResponse (input : String) (analysis : Analysis) :
    ShowsAnalysis (analysisResponse input analysis) input analysis where
  status := rfl
  input := rfl
  success := rfl
  tree := rfl
  errors := rfl
  table := rfl
  syntaxErrors := rfl
  semanticErrors := rfl
  treeGraph := rfl
  errorsHtml := rfl

/-! ## Servers -/

namespace Server

variable {Request : Type} {server : Server Request} {request : Request}

/-- A request that leads to an endpoint gets its answer. -/
theorem respond_eq_answer {endpoint : Endpoint}
    (hdestination : server.destination request = .endpoint endpoint) :
    server.respond request = server.answer request endpoint := by
  rw [respond, hdestination]

/-- A value that is sent as the description of a grammar is answered with its sets. -/
theorem respond_sets {sent : Json} (hdestination : server.destination request = .endpoint .sets)
    (hsent : server.sent? request = some sent) : server.respond request = firstFollow sent := by
  rw [respond_eq_answer hdestination, answer, hsent, answerSent]

/-- A value that is sent as an expression is answered with its analysis. -/
theorem respond_analysis {sent : Json}
    (hdestination : server.destination request = .endpoint .analysis)
    (hsent : server.sent? request = some sent) :
    server.respond request = analyzeExpression server.limit server.settings sent := by
  rw [respond_eq_answer hdestination, answer, hsent, answerSent]

/-- A value that cannot be read makes a request for an analysis fail. -/
theorem respond_unread (hdestination : server.destination request = .endpoint .analysis)
    (hsent : server.sent? request = none) : server.respond request = failure := by
  rw [respond_eq_answer hdestination, answer, hsent, answerSent]

end Server

end GrammarWorkbench.Service
