import Mathlib.Data.List.Permutation
import GrammarWorkbench.Proofs.Grammar.Reports
import GrammarWorkbench.Proofs.Service.Responses
import GrammarWorkbench.Service.Reception.Exchange

/-!
# Grammars that the service answers with their sets

A sent description of a grammar with texts for names is answered with the productions, the sets
and the table of the sets (`respond_of_described`). Nothing can fail on the way from the grammar to
the answer, since whatever the solver looks up is found and the report can be written
(`solved_and_reported`).
-/

set_option autoImplicit false

namespace GrammarWorkbench.Service

open GrammarWorkbench.Grammar (FirstLoop FollowLoop LooksUp Report solve)
open GrammarWorkbench.Grammar.Description (DeclaresTexts Outline Shows wellSorted_of_ofJson)

/-- The answer with the sets of a grammar. -/
def setsResponse (report : Report) : Response :=
  ok
    [("success", .boolean true),
      ("grammar", textsJson report.productions),
      ("firstSets", labelledJson report.firstSets),
      ("followSets", labelledJson report.followSets),
      ("setsTableHtml", reportTable report)]

variable {members : List (String × Json)} {grammar : Grammar}

/-- An object that describes a grammar is not empty. -/
theorem isEmpty_eq_false_of_ofJson (h : Grammar.ofJson (.object members) = .ok grammar) :
    (Json.object members).isEmpty = false := by
  cases members with
  | nil => cases h
  | cons member rest => rfl

/-- A grammar with a report is answered with its sets. -/
theorem firstFollow_of_report (h : Grammar.ofJson (.object members) = .ok grammar)
    {report : Report} {solution : Grammar.Solution}
    (hreport : Report.ofGrammar grammar [] [] = .ok (report, solution)) :
    firstFollow (.object members) = setsResponse report := by
  have hempty : ¬ (Json.object members).isEmpty = true := by
    rw [isEmpty_eq_false_of_ofJson h]
    exact Bool.false_ne_true
  rw [firstFollow, if_neg hempty]
  simp only [h, hreport]
  rfl

/-- A sent description with texts for names is answered with the sets of its grammar. -/
theorem respond_of_described {Request : Type} {server : Server Request} {request : Request}
    (htexts : DeclaresTexts members) (h : Grammar.ofJson (.object members) = .ok grammar)
    (hdestination : server.destination request = .endpoint .sets)
    (hsent : server.sent? request = some (.object members)) :
    ∃ report solution, Report.ofGrammar grammar [] [] = .ok (report, solution) ∧
      server.respond request = setsResponse report := by
  obtain ⟨report, solution, hreport⟩ :=
    Report.exists_ofGrammar (wellSorted_of_ofJson h) (htexts.hasTextNames h) [] []
  refine ⟨report, solution, hreport, ?_⟩
  calc server.respond request = firstFollow (.object members) :=
        Server.respond_sets hdestination hsent
    _ = setsResponse report := firstFollow_of_report h hreport

/-- On a well-sorted grammar whose names are texts nothing fails: whatever is looked up in any round
of the loops that lead to its solution is found, the sets of the solution are sets of terminals of
the grammar, and there is a report. Every grammar that is described with texts for names is such a
grammar, and whatever server a description of it is sent to, it is answered with the sets and their
table, with status 200. -/
theorem solved_and_reported :
    (∀ grammar : Grammar, grammar.WellSorted → grammar.HasTextNames →
      (∀ record, ∃ solution cache, solve grammar record = .ok solution ∧
        FirstLoop grammar ⟨⟨solution.first, cache, false⟩, []⟩ ∧
        FollowLoop grammar solution.first cache
          ⟨⟨solution.follow, solution.cache, false⟩, []⟩ ∧
        (∀ sets key, LooksUp grammar solution.first cache sets key →
          ∃ set, sets.members? key = some set) ∧
        ∀ entry ∈ solution.displayedFirst ++ solution.follow, entry.2 ⊆ grammar.terminals) ∧
      ∀ expectedFirst expectedFollow, ∃ report solution,
        Report.ofGrammar grammar expectedFirst expectedFollow = .ok (report, solution)) ∧
    ∀ members grammar, DeclaresTexts members → Grammar.ofJson (.object members) = .ok grammar →
      grammar.WellSorted ∧ grammar.HasTextNames ∧
      ∀ (Request : Type) (server : Server Request) (request : Request),
        server.destination request = .endpoint .sets →
          server.sent? request = some (.object members) →
            (server.respond request).status = 200 ∧
              ∃ report solution, Report.ofGrammar grammar [] [] = .ok (report, solution) ∧
                server.respond request = setsResponse report := by
  constructor
  · intro grammar hsorted hnames
    refine ⟨?_, Report.exists_ofGrammar hsorted hnames⟩
    intro record
    obtain ⟨hfirst, hagrees⟩ := Grammar.firstProgress_solved hsorted record
    refine ⟨_, _, Grammar.solve_eq hsorted record, Grammar.firstLoop_firstProgress hsorted record,
      Grammar.followLoop_followProgress hsorted hfirst hagrees record, ?_, ?_⟩
    · intro sets key h
      exact h.finds hsorted hfirst hagrees
    · intro entry hentry
      exact (Grammar.Solution.settled_settled hsorted record).mem_terminals hentry
  · intro members grammar htexts h
    refine ⟨wellSorted_of_ofJson h, htexts.hasTextNames h, ?_⟩
    intro Request server request hdestination hsent
    obtain ⟨report, solution, hreport, hanswer⟩ :=
      respond_of_described htexts h hdestination hsent
    exact ⟨by rw [hanswer]; rfl, report, solution, hreport, hanswer⟩

/-- The grammar of the words that consist of `a` alone, by its names. -/
def words : Outline where
  nonTerminals := ["S"]
  terminals := ["a"]
  rules := [⟨"S", ["a", "S"]⟩, ⟨"S", []⟩]
  start := "S"

/-- A description of that grammar. -/
def wordsDescription : List (String × Json) :=
  [("non_terminals", .list [.text "S"]), ("terminals", .list [.text "a"]), ("start", .text "S"),
    ("productions", .list [.object [("lhs", .text "S"), ("rhs", .list [.text "a", .text "S"])],
      .object [("lhs", .text "S")]])]

/-- A request for the sets of that grammar. -/
def wordsRequest : Request where
  method := "POST"
  target := "/first-follow"
  body := "\x7b\"non_terminals\":[\"S\"],\"terminals\":[\"a\"],\"start\":\"S\"," ++
    "\"productions\":[\x7b\"lhs\":\"S\",\"rhs\":[\"a\",\"S\"]\x7d,\x7b\"lhs\":\"S\"\x7d]\x7d"
  contentType := "application/json"

theorem shows_words : Shows wordsDescription words where
  nonTerminals_eq := rfl
  terminals_eq := rfl
  rules_eq := ⟨_, rfl, .cons (.given rfl rfl) (.cons (.absent rfl rfl) .nil)⟩
  start_eq := rfl

theorem solved_and_reported_words :
    (Server.standard .usual []).destination wordsRequest = .endpoint .sets ∧
      (Server.standard .usual []).sent? wordsRequest = some (.object wordsDescription) ∧
      DeclaresTexts wordsDescription ∧
      ∃ grammar, Grammar.ofJson (.object wordsDescription) = .ok grammar ∧
        grammar.WellSorted ∧ grammar.HasTextNames ∧
        (∃ solution, solve grammar true = .ok solution ∧
          ∀ entry ∈ solution.displayedFirst ++ solution.follow, entry.2 ⊆ grammar.terminals) ∧
        ((Server.standard .usual []).respond wordsRequest).status = 200 := by
  have hdestination : (Server.standard .usual []).destination wordsRequest = .endpoint .sets := by
    decide +kernel
  have hsent : (Server.standard .usual []).sent? wordsRequest = some (.object wordsDescription) :=
    Request.json?_eq_some (by decide +kernel)
      (show wordsRequest.bodyText? = some wordsRequest.body by decide +kernel) (by cbv)
  have hconsistent : words.Consistent := ⟨by decide, by decide, by decide, by decide⟩
  obtain ⟨grammar, hbuild⟩ := hconsistent.exists_build
  have hgrammar := shows_words.ofJson_eq_ok_iff.2 ⟨hconsistent, hbuild⟩
  obtain ⟨hsolved, hdescribed⟩ := solved_and_reported
  obtain ⟨hsorted, hnames, hanswer⟩ := hdescribed _ grammar shows_words.declaresTexts hgrammar
  obtain ⟨⟨solution, -, hsolution, -, -, -, hterminals⟩, -⟩ :=
    (hsolved grammar hsorted hnames).imp_left (· true)
  exact ⟨hdestination, hsent, shows_words.declaresTexts, grammar, hgrammar, hsorted, hnames,
    ⟨solution, hsolution, hterminals⟩, (hanswer _ _ _ hdestination hsent).1⟩

end GrammarWorkbench.Service
