import Mathlib.Data.List.Permutation
import GrammarWorkbench.Proofs.Service.Responses
import GrammarWorkbench.Service.Reception.Exchange

/-!
# Expressions sent to the service

The service reads a sent value as an object with an expression and perhaps with declarations
(`Carries`), and answers it with the analysis of the expression. Most other values are refused with
a message as bad requests (`Refused`); but a value that is neither empty nor an object is not looked
at any further, and ends in a bare failure (`IsForeign`).

Every value is of one of these kinds, which the answer tells apart (`analysis_or_report`). A list is
foreign (`failure_of_list`).
-/

set_option autoImplicit false

namespace GrammarWorkbench.Service

open GrammarWorkbench.Expression (NestingLimit)
open GrammarWorkbench.Typing (Settings analyzeSource)

/-! ## What is sent -/

/-- A sent object has a text under `input`, and nothing, an empty value or names with texts under
`declarations`. -/
inductive Carries : Json → String → List (String × String) → Prop
  | plain {members : List (String × Json)} {input : String}
      (hinput : members.lookup "input" = some (.text input))
      (h : ∀ value, members.lookup "declarations" = some value → value.isEmpty) :
      Carries (.object members) input []
  | declared {members : List (String × Json)} {input : String}
      {declarations : List (String × String)}
      (hinput : members.lookup "input" = some (.text input))
      (h : members.lookup "declarations" = some (labelledJson declarations)) :
      Carries (.object members) input declarations

/-- Why a sent value is refused, and with which message. -/
inductive Refused : Json → String → Prop
  | empty {sent : Json} (h : sent.isEmpty) : Refused sent "No input string provided"
  | missing {members : List (String × Json)}
      (h : members.lookup "input" = none ∨ members.lookup "input" = some .null) :
      Refused (.object members) "No input string provided"
  | input {members : List (String × Json)} {value : Json}
      (hvalue : members.lookup "input" = some value) (hnull : value ≠ .null)
      (h : ∀ input, value ≠ .text input) : Refused (.object members) "Input must be a string"
  | declarations {members : List (String × Json)} {input : String} {value : Json}
      (hinput : members.lookup "input" = some (.text input))
      (hvalue : members.lookup "declarations" = some value) (hempty : value.isEmpty = false)
      (h : ∀ declarations, value ≠ labelledJson declarations) :
      Refused (.object members) "Declarations must map names to type names"

/-- A sent value is neither empty nor an object. -/
def IsForeign (sent : Json) : Prop :=
  sent.isEmpty = false ∧ ∀ members, sent ≠ .object members

variable {sent : Json} {input message : String} {declarations : List (String × String)}
  {limit : NestingLimit} {settings : Settings}

/-! ## Declarations -/

theorem declarations?_labelledJson (declarations : List (String × String)) :
    declarations? (labelledJson declarations) = some declarations := by
  induction declarations with
  | nil => rfl
  | cons declaration rest ih =>
      rw [labelledJson, declarations?] at ih ⊢
      rw [List.map_cons, List.mapM_cons, ih]
      rfl

theorem declarations?_of_ne_object {value : Json} (h : ∀ members, value ≠ .object members) :
    declarations? value = if value.isEmpty then some [] else none := by
  cases value with
  | object members => exact absurd rfl (h members)
  | _ => rfl

theorem declarations?_of_isEmpty {value : Json} (h : value.isEmpty) :
    declarations? value = some [] := by
  cases value with
  | object members =>
      obtain rfl : members = [] := List.isEmpty_iff.1 h
      rfl
  | _ => rw [declarations?_of_ne_object (by simp), if_pos h]

/-- The members of an object are declarations only if they all hold texts. -/
theorem eq_of_declarations?_object {members : List (String × Json)}
    (h : declarations? (.object members) = some declarations) :
    .object members = labelledJson declarations := by
  rw [declarations?] at h
  induction members generalizing declarations with
  | nil =>
      cases h
      rfl
  | cons member rest ih =>
      obtain ⟨name, value⟩ := member
      rw [List.mapM_cons] at h
      obtain ⟨first, hfirst, hrest⟩ := Option.bind_eq_some_iff.1 h
      obtain ⟨later, hlater, heq⟩ := Option.bind_eq_some_iff.1 hrest
      cases heq
      cases value with
      | text type =>
          cases hfirst
          rw [Json.object.inj (ih hlater)]
          rfl
      | _ => cases hfirst

/-- A value that is not empty and maps no names to texts is not read as declarations. -/
theorem declarations?_eq_none {value : Json} (hempty : value.isEmpty = false)
    (h : ∀ declarations, value ≠ labelledJson declarations) : declarations? value = none := by
  cases value with
  | object members =>
      rw [Option.eq_none_iff_forall_ne_some]
      exact fun declarations hsome => h declarations (eq_of_declarations?_object hsome)
  | _ => rw [declarations?_of_ne_object (by simp), if_neg (by simp [hempty])]

/-! ## The answer to each kind -/

/-- An object counts as it is, also one without members. -/
theorem orObject_object (members : List (String × Json)) :
    (if (Json.object members).isEmpty then .object [] else .object members) =
      Json.object members := by
  cases members <;> rfl

theorem Carries.answer (h : Carries sent input declarations) :
    analyzeExpression limit settings sent =
      analysisResponse input (analyzeSource limit settings declarations input) := by
  cases h with
  | @plain members _ hinput h =>
      have hdeclarations :
          declarations? ((members.lookup "declarations").getD .null) = some [] := by
        cases hvalue : members.lookup "declarations" with
        | none => rfl
        | some value => exact declarations?_of_isEmpty (h value hvalue)
      simp only [analyzeExpression, orObject_object, hinput, hdeclarations]
  | declared hinput h =>
      simp only [analyzeExpression, orObject_object, hinput, h, Option.getD_some,
        declarations?_labelledJson]

theorem Carries.status (h : Carries sent input declarations) :
    (analyzeExpression limit settings sent).status = 200 := by
  rw [h.answer]
  rfl

theorem Refused.answer (h : Refused sent message) :
    analyzeExpression limit settings sent = badRequest message [] := by
  cases h with
  | empty h =>
      rw [analyzeExpression, if_pos h]
      rfl
  | missing h =>
      rcases h with h | h <;> simp only [analyzeExpression, orObject_object, h]
  | @input members value hvalue hnull h =>
      simp only [analyzeExpression, orObject_object, hvalue]
  | @declarations members input value hinput hvalue hempty h =>
      simp only [analyzeExpression, orObject_object, hinput, hvalue, Option.getD_some,
        declarations?_eq_none hempty h]

theorem Refused.status (h : Refused sent message) :
    (analyzeExpression limit settings sent).status = 400 := by
  rw [h.answer]
  rfl

theorem IsForeign.answer (h : IsForeign sent) :
    analyzeExpression limit settings sent = failure := by
  obtain ⟨hempty, hobject⟩ := h
  rw [analyzeExpression, if_neg (by rw [hempty]; exact Bool.false_ne_true)]
  cases sent with
  | object members => exact absurd rfl (hobject members)
  | _ => rfl

/-- An object with an expression carries it unless its declarations are refused. -/
theorem carries_or_refused_of_input {members : List (String × Json)}
    (hinput : members.lookup "input" = some (.text input)) :
    (∃ input declarations, Carries (.object members) input declarations) ∨
      ∃ message, Refused (.object members) message := by
  cases hvalue : members.lookup "declarations" with
  | none => exact .inl ⟨_, _, .plain hinput (by simp [hvalue])⟩
  | some value =>
      cases hempty : value.isEmpty with
      | true => exact .inl ⟨_, _, .plain hinput (by simp [hvalue, hempty])⟩
      | false =>
          by_cases hlabelled : ∃ declarations, value = labelledJson declarations
          · obtain ⟨declarations, rfl⟩ := hlabelled
            exact .inl ⟨_, _, .declared hinput hvalue⟩
          · exact .inr ⟨_, .declarations hinput hvalue hempty (not_exists.1 hlabelled)⟩

/-- Every value carries an expression, or is refused, or is foreign. -/
theorem carries_or_refused_or_isForeign (sent : Json) :
    (∃ input declarations, Carries sent input declarations) ∨ (∃ message, Refused sent message) ∨
      IsForeign sent := by
  cases hempty : sent.isEmpty with
  | true => exact .inr (.inl ⟨_, .empty hempty⟩)
  | false =>
      -- Only of an object that is not empty the answer depends on what is in it.
      cases sent with
      | object members =>
          cases hinput : members.lookup "input" with
          | none => exact .inr (.inl ⟨_, .missing (.inl hinput)⟩)
          | some value =>
              cases value with
              | null => exact .inr (.inl ⟨_, .missing (.inr hinput)⟩)
              | text input => exact (carries_or_refused_of_input hinput).imp_right .inl
              | _ => exact .inr (.inl ⟨_, .input hinput (by simp) (by simp)⟩)
      | _ => exact .inr (.inr ⟨hempty, by simp⟩)

/-- The kind of a value shows in the status of the answer. -/
theorem analyzeExpression_status_iff (limit : NestingLimit) (settings : Settings) (sent : Json) :
    ((analyzeExpression limit settings sent).status = 200 ↔
        ∃ input declarations, Carries sent input declarations) ∧
      ((analyzeExpression limit settings sent).status = 400 ↔ ∃ message, Refused sent message) ∧
      (analyzeExpression limit settings sent = failure ↔ IsForeign sent) := by
  have hcarries : ∀ input declarations, Carries sent input declarations →
      (analyzeExpression limit settings sent).status = 200 := fun _ _ => Carries.status
  have hrefused : ∀ message, Refused sent message →
      (analyzeExpression limit settings sent).status = 400 := fun _ => Refused.status
  have hforeign : IsForeign sent → analyzeExpression limit settings sent = failure :=
    IsForeign.answer
  have hfailure : failure.status = 500 := rfl
  have hkinds := carries_or_refused_or_isForeign sent
  -- Three kinds and three answers: each kind has its own answer, so an answer gives away the kind.
  grind

/-! ## Requests for an analysis -/

/-- Whatever server a value is sent to, it is answered with an analysis, with status 200, exactly if
it carries an expression, and with a message, with status 400, exactly if it is refused; each value
does one or the other, unless it is neither empty nor an object, and then it ends in a bare failure.
So does a value that cannot be read. -/
theorem analysis_or_report {Request : Type} (server : Server Request) (request : Request)
    (hdestination : server.destination request = .endpoint .analysis) :
    (∀ sent, server.sent? request = some sent →
      ((∃ input declarations, Carries sent input declarations) ∨ (∃ message, Refused sent message) ∨
        IsForeign sent) ∧
      (∀ input declarations, Carries sent input declarations →
        server.respond request = analysisResponse input
            (analyzeSource server.limit server.settings declarations input) ∧
          ShowsAnalysis (server.respond request) input
            (analyzeSource server.limit server.settings declarations input)) ∧
      (∀ message, Refused sent message →
        server.respond request = badRequest message [] ∧
          IsBadRequest (server.respond request) message) ∧
      ((server.respond request).status = 200 ↔
        ∃ input declarations, Carries sent input declarations) ∧
      ((server.respond request).status = 400 ↔ ∃ message, Refused sent message) ∧
      (server.respond request = failure ↔ IsForeign sent)) ∧
    (server.sent? request = none → server.respond request = failure) := by
  refine ⟨?_, Server.respond_unread hdestination⟩
  intro sent hsent
  rw [Server.respond_analysis hdestination hsent]
  refine ⟨carries_or_refused_or_isForeign sent, ?_, ?_, analyzeExpression_status_iff _ _ sent⟩
  · intro input declarations hcarries
    rw [hcarries.answer]
    exact ⟨rfl, showsAnalysis_analysisResponse _ _⟩
  · intro message hrefused
    rw [hrefused.answer]
    exact ⟨rfl, isBadRequest_badRequest _ _⟩

/-- A request for the analysis of a posted body. -/
def analysisOf (body : String) : Request where
  method := "POST"
  target := "/parser"
  body := body
  contentType := "application/json"

/-- A request for the analysis of a shift, with an empty list for its declarations. -/
def shiftRequest : Request :=
  analysisOf "\x7b\"input\":\"a<<b\",\"declarations\":[]\x7d"

theorem analysis_or_report_shift :
    (Server.standard .usual []).destination shiftRequest = .endpoint .analysis ∧
      (Server.standard .usual []).sent? shiftRequest =
        some (.object [("input", .text "a<<b"), ("declarations", .list [])]) ∧
      ((Server.standard .usual []).respond shiftRequest).status = 200 ∧
      ShowsAnalysis ((Server.standard .usual []).respond shiftRequest) "a<<b"
        (analyzeSource .usual (Server.standard .usual []).settings [] "a<<b") := by
  have hdestination :
      (Server.standard .usual []).destination shiftRequest = .endpoint .analysis := by
    decide +kernel
  have hsent : (Server.standard .usual []).sent? shiftRequest =
      some (.object [("input", .text "a<<b"), ("declarations", .list [])]) :=
    Request.json?_eq_some (by decide +kernel)
      (show shiftRequest.bodyText? = some shiftRequest.body by decide +kernel) (by cbv)
  have hcarries : Carries (.object [("input", .text "a<<b"), ("declarations", .list [])])
      "a<<b" [] :=
    .plain rfl fun value hvalue => by
      cases hvalue
      rfl
  obtain ⟨hanswers, -⟩ := analysis_or_report (Server.standard .usual []) shiftRequest hdestination
  obtain ⟨-, hanswer, -, hstatus, -⟩ := hanswers _ hsent
  exact ⟨hdestination, hsent, hstatus.2 ⟨_, _, hcarries⟩, (hanswer _ _ hcarries).2⟩

/-- A request with a list that is not empty. -/
def listRequest : Request :=
  analysisOf "[1]"

/-- A list that is not empty does not carry an expression, but the request with it is no bad request
with a message: it ends in a bare failure. -/
theorem failure_of_list :
    (Server.standard .usual []).destination listRequest = .endpoint .analysis ∧
      (Server.standard .usual []).sent? listRequest = some (.list [.integer 1]) ∧
      (∀ input declarations, ¬ Carries (.list [.integer 1]) input declarations) ∧
      ((Server.standard .usual []).respond listRequest).status = 500 ∧
      ∀ message, ¬ IsBadRequest ((Server.standard .usual []).respond listRequest) message := by
  have hdestination :
      (Server.standard .usual []).destination listRequest = .endpoint .analysis := by
    decide +kernel
  have hsent : (Server.standard .usual []).sent? listRequest = some (.list [.integer 1]) :=
    Request.json?_eq_some (by decide +kernel)
      (show listRequest.bodyText? = some listRequest.body by decide +kernel) (by cbv)
  have hcarries : ∀ input declarations, ¬ Carries (.list [.integer 1]) input declarations := by
    intro input declarations h
    cases h
  have hforeign : IsForeign (.list [.integer 1]) := ⟨rfl, by simp⟩
  have hanswer : (Server.standard .usual []).respond listRequest = failure :=
    (Server.respond_analysis hdestination hsent).trans hforeign.answer
  refine ⟨hdestination, hsent, hcarries, ?_, ?_⟩
  · rw [hanswer]
    rfl
  · rw [hanswer]
    exact not_isBadRequest_failure

end GrammarWorkbench.Service
