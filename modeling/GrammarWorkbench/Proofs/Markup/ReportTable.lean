import GrammarWorkbench.Proofs.Grammar.Labels
import GrammarWorkbench.Proofs.Markup.SetTable

/-!
# The table of a grammar

The table of the sets in a report has one row for every non-terminal, in the order of the names,
with the FIRST set and the FOLLOW set of the solution (`setRows_of_report`). No name can make
another row, and none can lose its own one (`setTable_of_described`).
-/

set_option autoImplicit false

namespace GrammarWorkbench.Markup

open GrammarWorkbench.Grammar (HasTextNames Report Solution Symbol WellSorted keysInOrder
  keysInOrder_perm pairwise_keysInOrder membersText)
open GrammarWorkbench.Grammar.Description (DeclaresTexts Outline Shows wellSorted_of_ofJson)

variable {grammar : Grammar} {expectedFirst expectedFollow : List (String × String)}
  {report : Report} {solution : Solution}

/-- A row shows the name of a non-terminal and the two sets that a solution has for it. -/
structure SetRow.Shows (solution : Solution) (key : Symbol) (row : SetRow) : Prop where
  name_eq : key.name = .text row.name
  first_eq : membersText (solution.displayedFirst.members key) = .ok row.first
  follow_eq : membersText (solution.follow.members key) = .ok row.follow

/-- The rows of a report show the non-terminals in the order of their names. -/
theorem setRows_of_report (hsorted : grammar.WellSorted) (hnames : grammar.HasTextNames)
    (h : Report.ofGrammar grammar expectedFirst expectedFollow = .ok (report, solution)) :
    List.Forall₂ (SetRow.Shows solution) grammar.keysInOrder
      (setRows report.firstSets report.followSets) := by
  have hnodup := (pairwise_keysInOrder hsorted hnames).imp fun hlt => Std.ne_of_lt hlt
  obtain ⟨hfirst, hfollow⟩ :
      Labels (fun key : Symbol => key.name.mention) "FIRST"
        (fun key text => membersText (solution.displayedFirst.members key) = .ok text)
        grammar.keysInOrder report.firstSets ∧
      Labels (fun key : Symbol => key.name.mention) "FOLLOW"
        (fun key text => membersText (solution.follow.members key) = .ok text)
        grammar.keysInOrder report.followSets := Report.labels_of_ofGrammar hsorted h
  have hrows := forall₂_setRows hnodup hfirst hfollow
  have hkeys : ∀ key ∈ grammar.keysInOrder, key.name = .text key.name.mention := by
    intro key hkey
    exact (hnames key (.inl ((keysInOrder_perm grammar).subset hkey))).name_eq
  apply ((List.forall₂_and_left _ _).2 ⟨hkeys, hrows⟩).imp
  rintro key row ⟨hname, hrow, hfirst, hfollow⟩
  exact ⟨by rw [hrow, ← hname], hfirst, hfollow⟩

/-- The names in rows are those of the non-terminals. -/
theorem SetRow.map_name_eq {keys : List Symbol} {rows : List SetRow}
    (h : List.Forall₂ (SetRow.Shows solution) keys rows) :
    rows.map SetRow.name = keys.map fun key => key.name.mention := by
  induction h with
  | nil => rfl
  | cons hrow _ ih =>
      rw [List.map_cons, List.map_cons, ih, hrow.name_eq]
      rfl

/-- For every grammar that is described with texts for names, whatever these are, the table of its
report has one row for each non-terminal, with the name of the non-terminal, its FIRST set and its
FOLLOW set, in the order of the code points of the names. No two rows have the same name, and
nothing but the head of the table and its rows starts with a row tag, unless the class names have
one. -/
theorem setTable_of_described {members : List (String × Json)} (htexts : DeclaresTexts members)
    (h : Grammar.ofJson (.object members) = .ok grammar)
    (expectedFirst expectedFollow : List (String × String)) :
    ∃ report solution keys,
      Report.ofGrammar grammar expectedFirst expectedFollow = .ok (report, solution) ∧
      keys.Perm grammar.nonTerminals ∧
      List.Forall₂ (SetRow.Shows solution) keys (setRows report.firstSets report.followSets) ∧
      (setRows report.firstSets report.followSets).Pairwise
        (fun row later => row.name < later.name) ∧
      ∀ options : Options, ¬ rowTag <:+: options.tableClasses.toList →
        Text.occurrences rowTag (setTable options report.firstSets report.followSets).toList =
          1 + grammar.nonTerminals.length := by
  have hsorted := wellSorted_of_ofJson h
  have hnames := htexts.hasTextNames h
  have hperm := keysInOrder_perm grammar
  obtain ⟨report, solution, hreport⟩ :=
    Report.exists_ofGrammar hsorted hnames expectedFirst expectedFollow
  have hrows := setRows_of_report hsorted hnames hreport
  have hlength : (setRows report.firstSets report.followSets).length =
      grammar.nonTerminals.length := by
    rw [← hrows.length_eq, hperm.length_eq]
  refine ⟨report, solution, grammar.keysInOrder, hreport, hperm, hrows, ?_, ?_⟩
  · have hordered := pairwise_keysInOrder hsorted hnames
    rw [← SetRow.map_name_eq hrows, List.pairwise_map] at hordered
    exact hordered
  · intro options hclasses
    -- The start symbol has a row, so that the table is not left out.
    have hsome : setRows report.firstSets report.followSets ≠ [] := by
      apply List.ne_nil_of_length_pos
      rw [hlength]
      exact List.length_pos_of_mem grammar.start_mem
    rw [occurrences_setTable options hsome, Text.occurrences_eq_zero hclasses, hlength,
      Nat.zero_add]

/-- Non-terminals that are named by a part of a label, by a row tag and by nothing at all. -/
def markedNames : Outline where
  nonTerminals := [")(A", "<tr>", ""]
  terminals := ["a, b"]
  rules := [⟨")(A", ["<tr>", ""]⟩, ⟨"<tr>", ["a, b"]⟩, ⟨"", []⟩]
  start := ")(A"

/-- A description of their grammar. -/
def markedDescription : List (String × Json) :=
  [("non_terminals", .list [.text ")(A", .text "<tr>", .text ""]),
    ("terminals", .list [.text "a, b"]), ("start", .text ")(A"),
    ("productions", .list
      [.object [("lhs", .text ")(A"), ("rhs", .list [.text "<tr>", .text ""])],
        .object [("lhs", .text "<tr>"), ("rhs", .list [.text "a, b"])],
        .object [("lhs", .text "")]])]

theorem shows_markedNames : Shows markedDescription markedNames where
  nonTerminals_eq := rfl
  terminals_eq := rfl
  rules_eq :=
    ⟨_, rfl, .cons (.given rfl rfl) (.cons (.given rfl rfl) (.cons (.absent rfl rfl) .nil))⟩
  start_eq := rfl

theorem setTable_of_described_marked :
    DeclaresTexts markedDescription ∧ ¬ rowTag <:+: ({} : Options).tableClasses.toList ∧
      ∃ grammar report solution, Grammar.ofJson (.object markedDescription) = .ok grammar ∧
        Report.ofGrammar grammar [] [] = .ok (report, solution) ∧
        (setRows report.firstSets report.followSets).Pairwise
          (fun row later => row.name < later.name) ∧
        Text.occurrences rowTag (setTable {} report.firstSets report.followSets).toList = 4 := by
  have hclasses : ¬ rowTag <:+: ({} : Options).tableClasses.toList := by
    intro hmember
    exact absurd (hmember.subset List.mem_cons_self) (by decide)
  have hconsistent : markedNames.Consistent := ⟨by decide, by decide, by decide, by decide⟩
  obtain ⟨grammar, hbuild⟩ := hconsistent.exists_build
  have hgrammar := shows_markedNames.ofJson_eq_ok_iff.2 ⟨hconsistent, hbuild⟩
  have hlength : grammar.nonTerminals.length = 3 := by
    rw [(Grammar.build_eq_ok hbuild).1]
    rfl
  obtain ⟨report, solution, -, hreport, -, -, hordered, htags⟩ :=
    setTable_of_described shows_markedNames.declaresTexts hgrammar [] []
  refine ⟨shows_markedNames.declaresTexts, hclasses, grammar, report, solution, hgrammar, hreport,
    hordered, ?_⟩
  rw [htags {} hclasses, hlength]

end GrammarWorkbench.Markup
