import Mathlib.Data.List.Forall2
import Mathlib.Data.List.Nodup
import GrammarWorkbench.Proofs.Grammar.Reports

/-!
# The order of the sets in a report

Both kinds of sets come in the order of the names of the non-terminals (`keysInOrder`), one set for
each, under a label with its name (`labels_of_labelled`). Names that are texts are ordered by code
points, and no two non-terminals have the same one, so that this order is strict
(`pairwise_keysInOrder`).
-/

set_option autoImplicit false

namespace GrammarWorkbench.Grammar

variable {grammar : Grammar}

/-- The non-terminals in the order of their names. -/
def keysInOrder (grammar : Grammar) : List Symbol :=
  grammar.nonTerminals.mergeSort fun a b => Name.le a.name b.name

theorem keysInOrder_perm (grammar : Grammar) : grammar.keysInOrder.Perm grammar.nonTerminals :=
  List.mergeSort_perm _ _

/-! ## The sets under their labels -/

theorem mapError_eq_ok {ε ε' α : Type} {f : ε → ε'} {result : Except ε α} {value : α} :
    result.mapError f = .ok value ↔ result = .ok value := by
  cases result <;> simp [Except.mapError]

/-- The sorted entries of a map are its entries in order. -/
theorem SetMap.sorted_eq_ok {sets sorted : SetMap} (h : sets.sorted = .ok sorted) :
    sorted = List.mergeSort sets fun a b => Name.le a.1.name b.1.name := by
  rw [SetMap.sorted] at h
  split at h
  · cases h
  · cases h
    rfl

/-- The sets of a grammar are sorted like its non-terminals. -/
theorem SetMap.map_fst_sorted {sets sorted : SetMap} (hover : sets.IsOver grammar)
    (h : sets.sorted = .ok sorted) : sorted.map Prod.fst = grammar.keysInOrder := by
  rw [sorted_eq_ok h, keysInOrder, ← hover.keys]
  exact List.map_mergeSort fun _ _ _ _ => rfl

theorem SetMap.sorted_subset {sets sorted : SetMap} (h : sets.sorted = .ok sorted) :
    sorted ⊆ sets := by
  rw [sorted_eq_ok h]
  exact (List.mergeSort_perm _ _).subset

/-- Under the label of every non-terminal stands its set. -/
theorem SetMap.labels_of_labelled {sets : SetMap} {kind : String}
    {labelled : List (String × String)} (hover : sets.IsOver grammar)
    (h : sets.labelled kind = .ok labelled) :
    List.Forall₂ (fun key entry => entry.1 = setLabel kind key ∧
      membersText (sets.members key) = .ok entry.2) grammar.keysInOrder labelled := by
  obtain ⟨sorted, hsorted, hlabelled⟩ := bind_eq_ok.1 h
  rw [mapError_eq_ok] at hsorted
  rw [← map_fst_sorted hover hsorted, List.forall₂_map_left_iff]
  -- The keys of the map do not repeat, so that an entry has the set of its key.
  have hentries := (List.forall₂_and_left _ _).2
    ⟨fun _ hentry => sorted_subset hsorted hentry, mapM_eq_ok hlabelled⟩
  apply hentries.imp
  rintro ⟨key, set⟩ result ⟨hentry, hresult⟩
  obtain ⟨text, htext, heq⟩ := bind_eq_ok.1 hresult
  cases heq
  refine ⟨rfl, ?_⟩
  rw [members_of_mem hover.keys_nodup hentry]
  exact htext

/-- The FIRST and FOLLOW sets in a report are those of its solution. -/
theorem Report.labels_of_ofGrammar (hsorted : grammar.WellSorted)
    {expectedFirst expectedFollow : List (String × String)} {report : Report} {solution : Solution}
    (h : Report.ofGrammar grammar expectedFirst expectedFollow = .ok (report, solution)) :
    List.Forall₂ (fun key entry => entry.1 = setLabel "FIRST" key ∧
        membersText (solution.displayedFirst.members key) = .ok entry.2)
      grammar.keysInOrder report.firstSets ∧
    List.Forall₂ (fun key entry => entry.1 = setLabel "FOLLOW" key ∧
        membersText (solution.follow.members key) = .ok entry.2)
      grammar.keysInOrder report.followSets := by
  have hsettled := Solution.settled_settled hsorted false
  rw [Report.ofGrammar, solve_eq hsorted] at h
  dsimp only at h
  split at h
  next => cases h
  next hreport =>
    cases h
    obtain ⟨productions, -, hsets⟩ := bind_eq_ok.1 hreport
    obtain ⟨firstSets, hfirst, hsets⟩ := bind_eq_ok.1 hsets
    obtain ⟨followSets, hfollow, heq⟩ := bind_eq_ok.1 hsets
    cases heq
    exact ⟨SetMap.labels_of_labelled hsettled.first.isOver.dropEpsilon hfirst,
      SetMap.labels_of_labelled hsettled.follow.isOver hfollow⟩

/-! ## Names in order -/

theorem Symbol.HasTextName.name_eq {symbol : Symbol} (h : symbol.HasTextName) :
    symbol.name = .text symbol.name.mention := by
  obtain ⟨text, hname⟩ := h
  rw [hname]
  rfl

/-- Non-terminals whose names read the same are the same. -/
theorem HasTextNames.mention_inj (hsorted : grammar.WellSorted) (hnames : grammar.HasTextNames)
    {a b : Symbol} (ha : a ∈ grammar.nonTerminals) (hb : b ∈ grammar.nonTerminals)
    (h : a.name.mention = b.name.mention) : a = b := by
  have hname : a.name = b.name := by
    rw [(hnames a (.inl ha)).name_eq, (hnames b (.inl hb)).name_eq, h]
  have hkind := hsorted.isTerminal_eq_false ha
  have hkind' := hsorted.isTerminal_eq_false hb
  cases a with
  | terminal => cases hkind
  | nonTerminal =>
      cases b with
      | terminal => cases hkind'
      | nonTerminal => exact congrArg Symbol.nonTerminal hname

theorem HasTextNames.map_mention_keysInOrder (hnames : grammar.HasTextNames) :
    grammar.keysInOrder.map (fun key => key.name.mention) =
      (grammar.nonTerminals.map fun key => key.name.mention).mergeSort
        fun a b => decide (a ≤ b) := by
  apply List.map_mergeSort
  intro a ha b hb
  rw [(hnames a (.inl ha)).name_eq, (hnames b (.inl hb)).name_eq]
  rfl

/-- The names of the non-terminals in order are ordered by code points, and none comes twice. -/
theorem pairwise_keysInOrder (hsorted : grammar.WellSorted) (hnames : grammar.HasTextNames) :
    (grammar.keysInOrder.map fun key => key.name.mention).Pairwise (· < ·) := by
  have hle : (grammar.keysInOrder.map fun key => key.name.mention).Pairwise (· ≤ ·) := by
    rw [hnames.map_mention_keysInOrder]
    have hmerged : ((grammar.nonTerminals.map fun key => key.name.mention).mergeSort
        fun a b => decide (a ≤ b)).Pairwise fun a b => decide (a ≤ b) = true := by
      apply List.pairwise_mergeSort
      · intro a b c
        simpa only [decide_eq_true_eq] using String.le_trans
      · intro a b
        simpa only [Bool.or_eq_true, decide_eq_true_eq] using String.le_total a b
    simpa only [decide_eq_true_eq] using hmerged
  -- The non-terminals do not repeat, and so their names do not either.
  have hne : (grammar.keysInOrder.map fun key => key.name.mention).Nodup := by
    have hperm := keysInOrder_perm grammar
    apply List.Nodup.map_on
    · intro a ha b hb h
      exact hnames.mention_inj hsorted (hperm.subset ha) (hperm.subset hb) h
    · exact hperm.nodup_iff.2 grammar.nodup_nonTerminals
  exact (hle.and hne).imp fun h => Std.lt_of_le_of_ne h.1 h.2

end GrammarWorkbench.Grammar
