import Mathlib.Data.List.Permutation
import GrammarWorkbench.Proofs.Grammar.Descriptions
import GrammarWorkbench.Proofs.Service.Responses
import GrammarWorkbench.Service.Reception.Exchange

/-!
# Grammars sent to the service

The service reads a sent value as the description of a grammar. A value that describes none is
answered with a message as a bad request (`isBadRequest_of_report`), unless it holds something that
keeps the error from being reported; then it ends in a bare failure (`grammar_or_report`). It does
so where the right side of a production is given as `null` (`failure_of_null_rightSide`), while
`null` as a name is like any other (`grammar_or_report_nullName`).
-/

set_option autoImplicit false

namespace GrammarWorkbench.Service

open GrammarWorkbench.Grammar (DescriptionError)
open GrammarWorkbench.Grammar.Description (Disqualifies Unreportable disqualifies_of_error)

variable {description : Json} {error : DescriptionError} {message : String}

/-! ## The answer to each kind of value -/

/-- A value without content counts as no description. -/
theorem isBadRequest_of_isEmpty (h : description.isEmpty = true) :
    IsBadRequest (firstFollow description) "No grammar provided" := by
  rw [firstFollow, if_pos h]
  exact isBadRequest_badRequest _ _

/-- A reported error of a description is the message of a bad request without success. -/
theorem isBadRequest_of_report (hempty : description.isEmpty = false)
    (herror : Grammar.ofJson description = .error error) (hreport : error.report? = some message) :
    IsBadRequest (firstFollow description) message ∧
      (firstFollow description).member? "success" = some (.boolean false) := by
  have hanswer : firstFollow description = badRequest message [("success", .boolean false)] := by
    rw [firstFollow, if_neg (Bool.eq_false_iff.1 hempty)]
    simp only [herror, hreport]
  rw [hanswer]
  exact ⟨isBadRequest_badRequest _ _, rfl⟩

/-- An error without a report is answered without a message. -/
theorem failure_of_unreported (hempty : description.isEmpty = false)
    (herror : Grammar.ofJson description = .error error) (hreport : error.report? = none) :
    firstFollow description = failure := by
  rw [firstFollow, if_neg (Bool.eq_false_iff.1 hempty)]
  simp only [herror, hreport]

/-- A value without content describes no grammar, and that is reported. -/
theorem exists_report_of_isEmpty (hempty : description.isEmpty = true)
    (herror : Grammar.ofJson description = .error error) :
    ∃ message, error.report? = some message := by
  cases description with
  | object members =>
      obtain rfl : members = [] := List.isEmpty_iff.1 hempty
      obtain rfl : DescriptionError.memberMissing "non_terminals" = error :=
        Except.error.inj herror
      exact ⟨_, rfl⟩
  | _ =>
      obtain rfl : DescriptionError.notAnObject = error := Except.error.inj herror
      exact ⟨_, rfl⟩

/-! ## Every value -/

/-- Every value describes a grammar, or there is a reason in it for an error. The error is reported,
and the service answers it as a bad request, or the value holds something that keeps it from being
reported, and then it ends in a bare failure. However requests are received, that is the response to
the value at the endpoint for grammars. -/
theorem grammar_or_report (description : Json) :
    ((∃ grammar, Grammar.ofJson description = .ok grammar) ∨
      (∃ error message, Grammar.ofJson description = .error error ∧
        Disqualifies description error ∧ error.report? = some message ∧
        (description.isEmpty = true ∧
            IsBadRequest (firstFollow description) "No grammar provided" ∨
          description.isEmpty = false ∧ IsBadRequest (firstFollow description) message ∧
            (firstFollow description).member? "success" = some (.boolean false))) ∨
      ∃ members error, description = .object members ∧ Unreportable members ∧
        Grammar.ofJson description = .error error ∧ Disqualifies description error ∧
        error.report? = none ∧ firstFollow description = failure) ∧
    ∀ (Request : Type) (server : Server Request) (request : Request),
      server.destination request = .endpoint .sets → server.sent? request = some description →
        server.respond request = firstFollow description := by
  refine ⟨?_, fun _ _ _ => Server.respond_sets⟩
  cases hread : Grammar.ofJson description with
  | ok grammar => exact .inl ⟨grammar, rfl⟩
  | error error =>
      right
      have hreason := disqualifies_of_error hread
      cases hreport : error.report? with
      | some message =>
          refine .inl ⟨error, message, rfl, hreason, hreport, ?_⟩
          cases hempty : description.isEmpty with
          | true => exact .inl ⟨rfl, isBadRequest_of_isEmpty hempty⟩
          | false => exact .inr ⟨rfl, isBadRequest_of_report hempty hread hreport⟩
      | none =>
          obtain ⟨members, hobject, hunreportable⟩ :=
            hreason.exists_report.resolve_left (by simp [hreport])
          cases hempty : description.isEmpty with
          | true =>
              -- What has no content lacks a member at the least, and that is reported.
              obtain ⟨message, hmessage⟩ := exists_report_of_isEmpty hempty hread
              rw [hreport] at hmessage
              cases hmessage
          | false =>
              exact .inr ⟨members, error, hobject, hunreportable, rfl, hreason, hreport,
                failure_of_unreported hempty hread hreport⟩

/-- A description with `null` for the name of a non-terminal and of a terminal. -/
def nullName : Json :=
  .object [("non_terminals", .list [.null]), ("terminals", .list [.null]),
    ("productions", .list []), ("start", .null)]

/-- A request with that description. -/
def nullNameRequest : Request where
  method := "POST"
  target := "/first-follow"
  body := "\x7b\"non_terminals\":[null],\"terminals\":[null],\"productions\":[],\"start\":null\x7d"
  contentType := "application/json"

theorem grammar_or_report_nullName :
    Grammar.ofJson nullName = .error (.declaredTwice [.null]) ∧
      (Server.standard .usual []).destination nullNameRequest = .endpoint .sets ∧
      (Server.standard .usual []).sent? nullNameRequest = some nullName ∧
      IsBadRequest ((Server.standard .usual []).respond nullNameRequest)
        "Symbols declared as both terminal and non-terminal: [None]" := by
  have hdestination :
      (Server.standard .usual []).destination nullNameRequest = .endpoint .sets := by
    decide +kernel
  have hsent : (Server.standard .usual []).sent? nullNameRequest = some nullName :=
    Request.json?_eq_some (by decide +kernel)
      (show nullNameRequest.bodyText? = some nullNameRequest.body by decide +kernel) (by cbv)
  have hread : Grammar.ofJson nullName = .error (.declaredTwice [.null]) := rfl
  have hmessage : (DescriptionError.declaredTwice [.null]).report? =
      some "Symbols declared as both terminal and non-terminal: [None]" := by
    decide +kernel
  obtain ⟨hkinds, hanswer⟩ := grammar_or_report nullName
  refine ⟨hread, hdestination, hsent, ?_⟩
  rw [hanswer _ _ _ hdestination hsent]
  rw [hread] at hkinds
  -- The description gives no grammar, and its error has a report: only the second case is left.
  rcases hkinds with ⟨grammar, h⟩ | ⟨error, message, h, -, hreport, hcase⟩ |
    ⟨-, error, -, -, h, -, hreport, -⟩
  · cases h
  · cases h
    obtain rfl := Option.some.inj (hmessage.symm.trans hreport)
    rcases hcase with ⟨hempty, -⟩ | ⟨-, hbad, -⟩
    · cases hempty
    · exact hbad
  · cases h
    cases hmessage.symm.trans hreport

/-! ## A right side that is no sequence -/

/-- A grammar whose only production has `null` for its right side. -/
def nullRightSide : Json :=
  .object [("non_terminals", .list [.text "E"]), ("terminals", .list [.text "id"]),
    ("productions", .list [.object [("lhs", .text "E"), ("rhs", .null)]]), ("start", .text "E")]

/-- Where the right side of a production is `null`, the error has no report, and the service fails
without a message. -/
theorem failure_of_null_rightSide :
    (∀ grammar, Grammar.ofJson nullRightSide ≠ .ok grammar) ∧
      (∀ error, Grammar.ofJson nullRightSide = .error error → error.report? = none) ∧
      firstFollow nullRightSide = failure ∧
      ∀ message, ¬ IsBadRequest (firstFollow nullRightSide) message := by
  have hread : Grammar.ofJson nullRightSide = .error (.sequenceExpected .null) := rfl
  have hanswer : firstFollow nullRightSide = failure := failure_of_unreported rfl hread rfl
  refine ⟨?_, ?_, hanswer, ?_⟩
  · intro grammar h
    rw [hread] at h
    cases h
  · intro error h
    rw [hread] at h
    cases h
    rfl
  · rw [hanswer]
    exact not_isBadRequest_failure

end GrammarWorkbench.Service
