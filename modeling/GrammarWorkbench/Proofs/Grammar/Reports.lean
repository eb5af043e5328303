import GrammarWorkbench.Grammar.Report
import GrammarWorkbench.Proofs.Grammar.Consistency
import GrammarWorkbench.Proofs.Grammar.Exactness
import GrammarWorkbench.Proofs.Grammar.Loops

/-!
# Grammars that are solved and reported

A solver looks up sets by their keys (`LooksUp`): the sets of left sides in the FIRST passes, and
those of the start symbol, of the non-terminals on right sides and of left sides in the FOLLOW
passes. In a well-sorted grammar all of them are declared non-terminals, and every pass keeps these
as the keys of its sets, so that each of them is found (`LooksUp.finds`).

If moreover the names of a grammar are texts (`HasTextNames`), its productions and its sets can be
written and sorted, and there is a report on it (`Report.exists_ofGrammar`). Both hold of every
grammar that is described with texts for names (`Description.DeclaresTexts`).
-/

set_option autoImplicit false

namespace GrammarWorkbench.Grammar

variable {grammar : Grammar} {first : SetMap} {cache : SequenceCache}

/-! ## What a solver looks up -/

/-- In the course of solving a grammar, a key is looked up in some sets. The FIRST loop leaves its
sets and its cache to the FOLLOW loop. -/
inductive LooksUp (grammar : Grammar) (first : SetMap) (cache : SequenceCache) :
    SetMap → Symbol → Prop
  /-- A FIRST pass looks up the left side of the production that it comes to. -/
  | lhs {pass : Pass} {production : Production} {rest : List Production}
      (h : FirstLoop grammar ⟨pass, production :: rest⟩) :
      LooksUp grammar first cache pass.sets production.lhs
  /-- The start symbol is looked up before the FOLLOW passes. -/
  | start : LooksUp grammar first cache (.empty grammar.nonTerminals) grammar.start
  /-- A FOLLOW pass looks up the non-terminal that it comes to. -/
  | occurrence {pass : Pass} {lhs key : Symbol} {after : List Symbol}
      {rest : List (Symbol × Symbol × List Symbol)}
      (h : FollowLoop grammar first cache ⟨pass, (lhs, key, after) :: rest⟩) :
      LooksUp grammar first cache pass.sets key
  /-- If what comes after it can vanish, the left side is looked up, in the sets that have the
  starts of what comes after it already. -/
  | origin {pass : Pass} {lhs key : Symbol} {after set : List Symbol} {next : SequenceCache}
      {rest : List (Symbol × Symbol × List Symbol)}
      (h : FollowLoop grammar first cache ⟨pass, (lhs, key, after) :: rest⟩)
      (hset : pass.cache.request first after = (set, next)) (hvanishes : .epsilon ∈ set) :
      LooksUp grammar first cache (pass.sets.add key (withoutEpsilon set)) lhs

/-- Both non-terminals of an occurrence are declared: the left side and the one on the right. -/
theorem mem_nonTerminals_of_occurrence (hsorted : grammar.WellSorted) {lhs key : Symbol}
    {after : List Symbol} (h : (lhs, key, after) ∈ occurrences grammar) :
    lhs ∈ grammar.nonTerminals ∧ key ∈ grammar.nonTerminals := by
  obtain ⟨production, hproduction, hmem⟩ := List.mem_flatMap.1 h
  obtain ⟨place, hplace, heq⟩ := List.mem_map.1 hmem
  cases heq
  exact ⟨lhs_mem hproduction, mem_nonTerminals_of_mem_occurrences hsorted hproduction hplace⟩

/-- In every round of the FOLLOW loop the keys are the declared non-terminals, and so are both
non-terminals of every occurrence that is still to be visited. -/
theorem FollowLoop.declared (hsorted : grammar.WellSorted) (hfirst : FirstSolved grammar first)
    (hagrees : cache.Agrees first) {pass : Pass} {lhs key : Symbol} {after : List Symbol}
    {rest : List (Symbol × Symbol × List Symbol)}
    (h : FollowLoop grammar first cache ⟨pass, (lhs, key, after) :: rest⟩) :
    pass.sets.keys = grammar.nonTerminals ∧
      lhs ∈ grammar.nonTerminals ∧ key ∈ grammar.nonTerminals := by
  obtain ⟨hremaining, hinv⟩ := h.maintains (maintains_visitOccurrenceOf hsorted hfirst)
    (followStart_invariant hagrees)
  exact ⟨hinv.isOver.keys,
    mem_nonTerminals_of_occurrence hsorted (hremaining List.mem_cons_self)⟩

/-- Whatever is looked up in a well-sorted grammar is found. -/
theorem LooksUp.finds (hsorted : grammar.WellSorted) (hfirst : FirstSolved grammar first)
    (hagrees : cache.Agrees first) {sets : SetMap} {key : Symbol}
    (h : LooksUp grammar first cache sets key) : ∃ set, sets.members? key = some set := by
  -- In every round the keys are the declared non-terminals, and only those are looked up.
  have hkey : key ∈ sets.keys := by
    cases h with
    | lhs h =>
        obtain ⟨hremaining, hinv⟩ := h.maintains (maintains_visitFirst hsorted)
          (firstStart_invariant grammar)
        rw [hinv.isOver.keys]
        exact lhs_mem (hremaining List.mem_cons_self)
    | start =>
        rw [SetMap.keys_empty]
        exact grammar.start_mem
    | occurrence h =>
        obtain ⟨hkeys, -, hkey⟩ := h.declared hsorted hfirst hagrees
        rwa [hkeys]
    | origin h =>
        obtain ⟨hkeys, hlhs, -⟩ := h.declared hsorted hfirst hagrees
        rwa [SetMap.keys_add, hkeys]
  exact ⟨_, SetMap.members?_eq_some hkey⟩

/-! ## The sets of a solution -/

theorem SetMap.IsOver.dropEpsilon {sets : SetMap} (h : sets.IsOver grammar) :
    sets.dropEpsilon.IsOver grammar := by
  refine ⟨by rw [SetMap.keys_dropEpsilon, h.keys], ?_, ?_⟩
  all_goals
    intro entry hentry
    obtain ⟨old, hold, rfl⟩ := List.mem_map.1 hentry
  · exact (h.nodup old hold).filter _
  · intro symbol hsymbol
    exact h.subset old hold (mem_withoutEpsilon.1 hsymbol).1

/-- The displayed FIRST sets and the FOLLOW sets of a solution are sets of terminals of its
grammar. -/
theorem Solution.Settled.mem_terminals {solution : Solution} (h : solution.Settled)
    {entry : Symbol × List Symbol} (hentry : entry ∈ solution.displayedFirst ++ solution.follow) :
    entry.2 ⊆ solution.grammar.terminals := by
  rcases List.mem_append.1 hentry with hfirst | hfollow
  · exact h.first.isOver.dropEpsilon.subset entry hfirst
  · exact h.follow.isOver.subset entry hfollow

/-! ## Names that are texts -/

/-- The name of a symbol is a text. -/
def Symbol.HasTextName (symbol : Symbol) : Prop :=
  ∃ text, symbol.name = .text text

/-- The names of the declared symbols are texts. -/
def HasTextNames (grammar : Grammar) : Prop :=
  ∀ symbol, symbol ∈ grammar.nonTerminals ∨ symbol ∈ grammar.terminals → symbol.HasTextName

theorem Symbol.HasTextName.exists_text {symbol : Symbol} (h : symbol.HasTextName) :
    ∃ text, symbol.text = .ok text := by
  obtain ⟨text, hname⟩ := h
  exact ⟨text, by rw [Symbol.text, hname]⟩

theorem Symbol.HasTextName.isText {symbol : Symbol} (h : symbol.HasTextName) :
    symbol.name.isText = true := by
  obtain ⟨text, hname⟩ := h
  rw [hname]
  rfl

/-- A list of computations, each of which gives a value, gives the list of the values. -/
theorem exists_mapM_eq_ok {ε α β : Type} {f : α → Except ε β} {list : List α}
    (h : ∀ a ∈ list, ∃ b, f a = .ok b) : ∃ results, list.mapM f = .ok results := by
  cases hresults : list.mapM f with
  | ok results => exact ⟨results, rfl⟩
  | error error =>
      obtain ⟨a, ha, herror⟩ := mapM_eq_error hresults
      obtain ⟨b, hb⟩ := h a ha
      cases herror.symm.trans hb

/-- Names that are texts can be sorted. -/
theorem Name.sort_texts {names : List Name} (h : ∀ name ∈ names, name.isText = true) :
    Name.sort names = .ok (names.mergeSort Name.le) := by
  rw [Name.sort, Name.clash?_texts h]

namespace HasTextNames

/-- A declared production can be written. -/
theorem exists_text (hnames : grammar.HasTextNames) {production : Production}
    (hproduction : production ∈ grammar.productions) : ∃ text, production.text = .ok text := by
  cases htext : production.text with
  | ok text => exact ⟨text, rfl⟩
  | error name =>
      obtain ⟨symbol, hsymbol, hother⟩ := Description.exists_ne_text_of_text htext
      obtain ⟨hlhs, hrhs⟩ := grammar.declared production hproduction
      have hdeclared : symbol ∈ grammar.nonTerminals ∨ symbol ∈ grammar.terminals := by
        rcases List.mem_cons.1 hsymbol with rfl | hmem
        · exact .inl hlhs
        · exact (hrhs symbol hmem).2.2.symm
      obtain ⟨text, hname⟩ := hnames symbol hdeclared
      exact absurd hname (hother text)

theorem exists_productionTexts (hnames : grammar.HasTextNames) :
    ∃ texts, grammar.productionTexts = .ok texts :=
  exists_mapM_eq_ok fun _ hproduction => hnames.exists_text hproduction

/-- A set of terminals can be written. -/
theorem exists_membersText (hnames : grammar.HasTextNames) {set : List Symbol}
    (hset : set ⊆ grammar.terminals) : ∃ text, membersText set = .ok text := by
  have htexts : ∀ name ∈ set.map Symbol.name, ∃ text, name = .text text := by
    intro name hname
    obtain ⟨symbol, hsymbol, rfl⟩ := List.mem_map.1 hname
    exact hnames symbol (.inr (hset hsymbol))
  have hsort := Name.sort_texts fun name hname => by
    obtain ⟨text, rfl⟩ := htexts name hname
    rfl
  obtain ⟨items, hitems⟩ :
      ∃ items, ((set.map Symbol.name).mergeSort Name.le).mapM itemText = .ok items := by
    apply exists_mapM_eq_ok
    intro name hname
    obtain ⟨text, rfl⟩ := htexts name (List.mem_mergeSort.1 hname)
    exact ⟨text, rfl⟩
  rw [membersText, hsort]
  simp only [Except.mapError, bind, Except.bind, hitems]
  split
  · exact ⟨_, rfl⟩
  · exact ⟨_, rfl⟩

/-- The sets of a grammar can be sorted by their keys and written under labels. -/
theorem exists_labelled (hnames : grammar.HasTextNames) {sets : SetMap}
    (hover : sets.IsOver grammar) (kind : String) :
    ∃ labelled, sets.labelled kind = .ok labelled := by
  have hclash : Name.clash? (sets.keys.map Symbol.name) = none := by
    apply Name.clash?_texts
    intro name hname
    rw [hover.keys] at hname
    obtain ⟨key, hkey, rfl⟩ := List.mem_map.1 hname
    exact (hnames key (.inl hkey)).isText
  rw [SetMap.labelled, SetMap.sorted, hclash]
  apply exists_mapM_eq_ok
  intro entry hentry
  obtain ⟨text, htext⟩ :=
    hnames.exists_membersText (hover.subset entry (List.mem_mergeSort.1 hentry))
  exact ⟨(setLabel kind entry.1, text), by rw [htext]; rfl⟩

end HasTextNames

/-- There is a report on every well-sorted grammar whose names are texts, whatever is expected of
it. -/
theorem Report.exists_ofGrammar (hsorted : grammar.WellSorted) (hnames : grammar.HasTextNames)
    (expectedFirst expectedFollow : List (String × String)) :
    ∃ report solution,
      Report.ofGrammar grammar expectedFirst expectedFollow = .ok (report, solution) := by
  have hsettled := Solution.settled_settled hsorted false
  obtain ⟨productions, hproductions⟩ := hnames.exists_productionTexts
  obtain ⟨firstSets, hfirstSets⟩ := hnames.exists_labelled hsettled.first.isOver.dropEpsilon "FIRST"
  obtain ⟨followSets, hfollowSets⟩ := hnames.exists_labelled hsettled.follow.isOver "FOLLOW"
  have hreport : Report.ofSolution (settled grammar false) expectedFirst expectedFollow =
      .ok { productions, firstSets, followSets, expectedFirst, expectedFollow } := by
    have hdisplayed : (settled grammar false).displayedFirst.labelled "FIRST" = .ok firstSets :=
      hfirstSets
    have hgrammar : (settled grammar false).grammar.productionTexts = .ok productions :=
      hproductions
    rw [Report.ofSolution, hgrammar, hdisplayed, hfollowSets]
    rfl
  exact ⟨_, _, by simp only [Report.ofGrammar, solve_eq hsorted, hreport]; rfl⟩

/-! ## Descriptions with texts for names -/

namespace Description

/-- The declared names in a description are texts. -/
def DeclaresTexts (members : List (String × Json)) : Prop :=
  ∀ key ∈ ["non_terminals", "terminals"], ∀ value ∈ itemsAt members key,
    ∃ text, value = .text text

variable {members : List (String × Json)}

theorem Shows.declaresTexts {outline : Outline} (h : Shows members outline) :
    DeclaresTexts members :=
  fun _ hkey _ hvalue => h.declared_text hkey hvalue

theorem DeclaresTexts.exists_text (h : DeclaresTexts members) {list : String} {name : Name}
    (hlist : list ∈ ["non_terminals", "terminals"]) (hname : name.value ∈ itemsAt members list) :
    ∃ text, name = .text text := by
  obtain ⟨text, htext⟩ := h list hlist name.value hname
  exact ⟨text, Name.value_inj (htext.trans rfl)⟩

/-- The symbols of a described grammar are named in its lists, but for the two reserved ones. -/
theorem exists_name_of_ofJson (h : ofJson (.object members) = .ok grammar) {symbol : Symbol} :
    (symbol ∈ grammar.nonTerminals →
        ∃ name : Name, name.value ∈ itemsAt members "non_terminals" ∧ symbol = .nonTerminal name) ∧
      (symbol ∈ grammar.terminals →
        (∃ name : Name, name.value ∈ itemsAt members "terminals" ∧ symbol = .terminal name) ∨
          symbol = .epsilon ∨ symbol = .endMark) := by
  obtain ⟨parts, hreads, hbuild⟩ := ofJson_eq_ok_iff.1 h
  obtain ⟨hnonTerminals, hterminals, -⟩ := build_eq_ok hbuild
  obtain ⟨items, names, hitems, hnames, htable⟩ := hreads.nonTerminals_eq
  obtain ⟨items', names', hitems', hnames', htable'⟩ := hreads.terminals_eq
  obtain rfl := sequence_eq_ok hitems
  obtain rfl := sequence_eq_ok hitems'
  rw [hnonTerminals, hterminals, htable, htable', mem_firstOccurrences, mem_firstOccurrences,
    List.mem_append, List.mem_pair]
  constructor
  · intro hsymbol
    obtain ⟨name, hname, rfl⟩ := List.mem_map.1 hsymbol
    exact ⟨name, (mem_names_iff hnames).1 (Name.mem_of_mem_lastForms hname), rfl⟩
  · apply Or.imp_left
    intro hsymbol
    obtain ⟨name, hname, rfl⟩ := List.mem_map.1 hsymbol
    exact ⟨name, (mem_names_iff hnames').1 (Name.mem_of_mem_lastForms hname), rfl⟩

/-- A described grammar is well-sorted. -/
theorem wellSorted_of_ofJson (h : ofJson (.object members) = .ok grammar) :
    grammar.WellSorted := by
  constructor
  · intro symbol hsymbol
    obtain ⟨name, -, rfl⟩ := (exists_name_of_ofJson h).1 hsymbol
    rfl
  · intro symbol hsymbol
    rcases (exists_name_of_ofJson h).2 hsymbol with ⟨name, -, rfl⟩ | rfl | rfl
    · rfl
    · rfl
    · rfl

/-- The names of a grammar that is described with texts for names are texts. -/
theorem DeclaresTexts.hasTextNames (htexts : DeclaresTexts members)
    (h : ofJson (.object members) = .ok grammar) : grammar.HasTextNames := by
  intro symbol hsymbol
  rcases hsymbol with hnonTerminal | hterminal
  · obtain ⟨name, hname, rfl⟩ := (exists_name_of_ofJson h).1 hnonTerminal
    exact htexts.exists_text (by decide) hname
  · rcases (exists_name_of_ofJson h).2 hterminal with ⟨name, hname, rfl⟩ | rfl | rfl
    · exact htexts.exists_text (by decide) hname
    · exact ⟨_, rfl⟩
    · exact ⟨_, rfl⟩

end Description

end GrammarWorkbench.Grammar
