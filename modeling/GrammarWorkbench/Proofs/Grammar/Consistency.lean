import GrammarWorkbench.Proofs.Grammar.Descriptions

/-!
# Consistent descriptions

A description in which every name is a text consists of the names it declares, the rules it lists
and the name of its start symbol (`Outline`, `Shows`). It is read as a grammar exactly if these are
consistent (`Outline.Consistent`), and the grammar has the declared symbols and the rules with every
name in its declared kind (`Outline.IsBuiltAs`).
-/

set_option autoImplicit false

namespace GrammarWorkbench

/-- A list of computations, each of which succeeds exactly if something is good, and then with a
certain value. -/
theorem mapM_eq_ok_iff_of_forall₂ {ε α β γ : Type} {f : α → Except ε β} {related : α → γ → Prop}
    {good : γ → Prop} {value : γ → β} {list : List α} {others : List γ} {results : List β}
    (hf : ∀ a c, related a c → ∀ b, f a = .ok b ↔ good c ∧ b = value c)
    (h : List.Forall₂ related list others) :
    list.mapM f = .ok results ↔ (∀ c ∈ others, good c) ∧ results = others.map value := by
  induction h generalizing results with
  | nil =>
      rw [List.mapM_nil]
      simp [pure, Except.pure, eq_comm]
  | @cons a c list others hfirst _ ih =>
      rw [List.mapM_cons, bind_eq_ok]
      constructor
      · rintro ⟨first, hvalue, hlater⟩
        obtain ⟨hgood, rfl⟩ := (hf a c hfirst first).1 hvalue
        obtain ⟨later, hrest, heq⟩ := bind_eq_ok.1 hlater
        cases heq
        obtain ⟨hall, rfl⟩ := ih.1 hrest
        exact ⟨List.forall_mem_cons.2 ⟨hgood, hall⟩, rfl⟩
      · rintro ⟨hall, rfl⟩
        obtain ⟨hgood, hrest⟩ := List.forall_mem_cons.1 hall
        exact ⟨value c, (hf a c hfirst _).2 ⟨hgood, rfl⟩,
          bind_eq_ok.2 ⟨others.map value, ih.2 ⟨hrest, rfl⟩, rfl⟩⟩

end GrammarWorkbench

namespace GrammarWorkbench.Grammar

/-! ## Building a grammar -/

section Build

variable {nonTerminals terminals : List Symbol} {productions : List Production} {start : Symbol}
  {grammar : Grammar}

/-- What a grammar that can be built is made of. -/
theorem build_eq_ok (h : build nonTerminals terminals productions (some start) = .ok grammar) :
    grammar.nonTerminals = firstOccurrences nonTerminals ∧
      grammar.terminals = firstOccurrences (terminals ++ [.epsilon, .endMark]) ∧
      grammar.productions = productions ∧ grammar.start = start := by
  rw [build] at h
  split at h
  next =>
    split at h
    next => cases h
    next =>
      cases h
      exact ⟨rfl, rfl, rfl, rfl⟩
  next => cases h

/-- A grammar can be built if its start symbol and its productions are declared. -/
theorem exists_build (hstart : start ∈ nonTerminals)
    (hproductions : ∀ production ∈ productions, production.Declared (firstOccurrences nonTerminals)
      (firstOccurrences (terminals ++ [.epsilon, .endMark]))) :
    ∃ grammar, build nonTerminals terminals productions (some start) = .ok grammar := by
  have hnone : productions.findSome? (Production.fault? (firstOccurrences nonTerminals)
      (firstOccurrences (terminals ++ [.epsilon, .endMark]))) = none := by
    rw [List.findSome?_eq_none_iff]
    intro production hproduction
    exact Production.fault?_eq_none_iff.2 (hproductions production hproduction)
  rw [build]
  simp only [dif_pos (mem_firstOccurrences.2 hstart)]
  split
  next error herror => cases hnone.symm.trans herror
  next => exact ⟨_, rfl⟩

end Build

namespace Description

/-! ## Reading a description -/

/-- The parts of a description: the tables of the declared names, and the productions and the start
symbol with every name read as a symbol of its kind. -/
structure Parts where
  nonTerminals : List Name
  terminals : List Name
  productions : List Production
  start : Symbol

/-- The grammar that is built of some parts. -/
def Parts.build (parts : Parts) : Except GrammarError Grammar :=
  Grammar.build (parts.nonTerminals.map .nonTerminal) (parts.terminals.map .terminal)
    parts.productions (some parts.start)

/-- A description is read as these parts. -/
structure Reads (members : List (String × Json)) (parts : Parts) : Prop where
  nonTerminals_eq : ∃ items names, sequence members "non_terminals" = .ok items ∧
    items.mapM nameOf = .ok names ∧ parts.nonTerminals = Name.lastForms names
  terminals_eq : ∃ items names, sequence members "terminals" = .ok items ∧
    items.mapM nameOf = .ok names ∧ parts.terminals = Name.lastForms names
  disjoint : ∀ name ∈ parts.nonTerminals, ∀ other ∈ parts.terminals, name.key ≠ other.key
  productions_eq : ∃ entries, sequence members "productions" = .ok entries ∧
    entries.mapM (production parts.nonTerminals parts.terminals) = .ok parts.productions
  start_eq : ∃ value, members.lookup "start" = some value ∧
    namedNonTerminal? parts.nonTerminals value = .ok (some parts.start)

variable {members : List (String × Json)} {grammar : Grammar}

theorem checked_eq_ok {α : Type} {result : Except GrammarError α} {value : α} :
    checked result = .ok value ↔ result = .ok value := by
  cases result <;> simp [checked]

/-- A description gives a grammar exactly if it is read as parts of which one can be built. -/
theorem ofJson_eq_ok_iff : ofJson (.object members) = .ok grammar ↔
    ∃ parts, Reads members parts ∧ parts.build = .ok grammar := by
  constructor
  · intro h
    -- The parts are peeled off in the order in which they are looked at.
    rw [ofJson, bind_eq_ok] at h
    obtain ⟨nonTerminalItems, hnonTerminalItems, h⟩ := h
    obtain ⟨terminalItems, hterminalItems, h⟩ := bind_eq_ok.1 h
    obtain ⟨entries, hentries, h⟩ := bind_eq_ok.1 h
    split at h
    next => cases h
    next value hvalue =>
      obtain ⟨nonTerminalNames, hnonTerminals, h⟩ := bind_eq_ok.1 h
      obtain ⟨terminalNames, hterminals, h⟩ := bind_eq_ok.1 h
      split at h
      next => cases h
      next hshared =>
        obtain ⟨productions, hproductions, h⟩ := bind_eq_ok.1 h
        obtain ⟨found, hfound, h⟩ := bind_eq_ok.1 h
        cases found with
        | none => cases h
        | some start =>
            refine ⟨⟨_, _, productions, start⟩,
              ⟨⟨_, _, hnonTerminalItems, hnonTerminals, rfl⟩,
                ⟨_, _, hterminalItems, hterminals, rfl⟩,
                Name.shared_eq_nil_iff.1 hshared, ⟨_, hentries, hproductions⟩,
                _, hvalue, hfound⟩, ?_⟩
            exact checked_eq_ok.1 h
  · rintro ⟨⟨nonTerminals, terminals, productions, start⟩, hreads, hbuild⟩
    obtain ⟨⟨nonTerminalItems, nonTerminalNames, hnonTerminalItems, hnonTerminals, heq⟩,
      ⟨terminalItems, terminalNames, hterminalItems, hterminals, heq'⟩, hdisjoint,
      ⟨entries, hentries, hproductions⟩, value, hvalue, hstart⟩ := hreads
    dsimp only at heq heq'
    subst heq heq'
    rw [ofJson, bind_eq_ok]
    refine ⟨nonTerminalItems, hnonTerminalItems, bind_eq_ok.2 ⟨terminalItems, hterminalItems,
      bind_eq_ok.2 ⟨entries, hentries, ?_⟩⟩⟩
    rw [hvalue]
    refine bind_eq_ok.2 ⟨_, hnonTerminals, bind_eq_ok.2 ⟨_, hterminals, ?_⟩⟩
    rw [Name.shared_eq_nil_iff.2 hdisjoint]
    exact bind_eq_ok.2 ⟨_, hproductions, bind_eq_ok.2 ⟨_, hstart, checked_eq_ok.2 hbuild⟩⟩

/-! ## Outlines -/

/-- A rule by names: that of its left side and those of its right side. -/
structure Rule where
  lhs : String
  rhs : List String

/-- The names in a description: the declared ones, the rules and the start symbol. -/
structure Outline where
  nonTerminals : List String
  terminals : List String
  rules : List Rule
  start : String

/-- An entry gives a rule by texts; a right side that is empty need not be given. -/
inductive ShowsRule : Json → Rule → Prop
  | given {entry : List (String × Json)} {lhs : String} {rhs : List String}
      (hlhs : entry.lookup "lhs" = some (.text lhs))
      (hrhs : entry.lookup "rhs" = some (.list (rhs.map .text))) :
      ShowsRule (.object entry) ⟨lhs, rhs⟩
  | absent {entry : List (String × Json)} {lhs : String}
      (hlhs : entry.lookup "lhs" = some (.text lhs)) (hrhs : entry.lookup "rhs" = none) :
      ShowsRule (.object entry) ⟨lhs, []⟩

/-- A description gives the names of an outline by texts. -/
structure Shows (members : List (String × Json)) (outline : Outline) : Prop where
  nonTerminals_eq :
    members.lookup "non_terminals" = some (.list (outline.nonTerminals.map .text))
  terminals_eq : members.lookup "terminals" = some (.list (outline.terminals.map .text))
  rules_eq : ∃ entries, members.lookup "productions" = some (.list entries) ∧
    List.Forall₂ ShowsRule entries outline.rules
  start_eq : members.lookup "start" = some (.text outline.start)

namespace Outline

/-- The names are consistent: none is declared as both kinds, the start symbol and every left side
are declared non-terminals, and a right side has declared non-terminals and declared terminals other
than the two reserved ones. -/
structure Consistent (outline : Outline) : Prop where
  disjoint : ∀ name ∈ outline.nonTerminals, name ∉ outline.terminals
  start_mem : outline.start ∈ outline.nonTerminals
  lhs_mem : ∀ rule ∈ outline.rules, rule.lhs ∈ outline.nonTerminals
  rhs_mem : ∀ rule ∈ outline.rules, ∀ name ∈ rule.rhs,
    name ∈ outline.nonTerminals ∨ name ∈ outline.terminals ∧ name ≠ "ε" ∧ name ≠ "$"

/-- The symbol of a name, in its declared kind. -/
def symbol (outline : Outline) (name : String) : Symbol :=
  if name ∈ outline.nonTerminals then .nonTerminal (.text name) else .terminal (.text name)

/-- The production of a rule. -/
def production (outline : Outline) (rule : Rule) : Production :=
  ⟨outline.symbol rule.lhs, rule.rhs.map outline.symbol⟩

/-- A grammar has the declared symbols, together with the two reserved terminals, the start symbol
and the rules, in their order, with every name in its declared kind. -/
structure IsBuiltAs (outline : Outline) (grammar : Grammar) : Prop where
  nonTerminals_iff : ∀ symbol, symbol ∈ grammar.nonTerminals ↔
    ∃ name ∈ outline.nonTerminals, symbol = .nonTerminal (.text name)
  terminals_iff : ∀ symbol, symbol ∈ grammar.terminals ↔
    (∃ name ∈ outline.terminals, symbol = .terminal (.text name)) ∨
      symbol = .epsilon ∨ symbol = .endMark
  start_eq : grammar.start = .nonTerminal (.text outline.start)
  productions_eq : grammar.productions = outline.rules.map outline.production

/-- The parts that a description of an outline is read as. -/
def parts (outline : Outline) : Parts where
  nonTerminals := Name.lastForms (outline.nonTerminals.map .text)
  terminals := Name.lastForms (outline.terminals.map .text)
  productions := outline.rules.map outline.production
  start := .nonTerminal (.text outline.start)

/-- Every name in a rule is declared, and that on its left side as a non-terminal. -/
def Resolves (outline : Outline) (rule : Rule) : Prop :=
  rule.lhs ∈ outline.nonTerminals ∧
    ∀ name ∈ rule.rhs, name ∈ outline.nonTerminals ∨ name ∈ outline.terminals

end Outline

/-! ## Reading the names of an outline -/

section Names

variable {outline : Outline} {name : String}

theorem forall₂_texts (names : List String) :
    List.Forall₂ (fun value name => value = Json.text name) (names.map .text) names := by
  induction names with
  | nil => exact .nil
  | cons name names ih => exact .cons rfl ih

theorem mapM_nameOf_texts {names : List String} {results : List Name} :
    (names.map Json.text).mapM nameOf = .ok results ↔ results = names.map .text := by
  have hname : ∀ value name, value = Json.text name → ∀ result,
      nameOf value = .ok result ↔ True ∧ result = .text name := by
    rintro _ name rfl result
    simp [nameOf, eq_comm]
  rw [mapM_eq_ok_iff_of_forall₂ hname (forall₂_texts names)]
  simp

theorem symbol_text_eq_ok_iff {found : Symbol} :
    Description.symbol outline.parts.nonTerminals outline.parts.terminals (.text name) =
        .ok found ↔
      (name ∈ outline.nonTerminals ∨ name ∈ outline.terminals) ∧ found = outline.symbol name := by
  have hnonTerminal := Name.find?_lastForms_texts outline.nonTerminals name
  have hterminal := Name.find?_lastForms_texts outline.terminals name
  rw [Description.symbol, bind_eq_ok]
  simp only [nameOf, Except.ok.injEq, exists_eq_left', Name.key, Outline.parts, hnonTerminal,
    hterminal, Outline.symbol]
  by_cases hmem : name ∈ outline.nonTerminals
  · simp [hmem, eq_comm]
  · by_cases hmem' : name ∈ outline.terminals
    · simp [hmem, hmem', eq_comm]
    · simp [hmem, hmem']

theorem namedNonTerminal?_text (outline : Outline) (name : String) :
    namedNonTerminal? outline.parts.nonTerminals (.text name) =
      .ok (if name ∈ outline.nonTerminals then some (.nonTerminal (.text name)) else none) := by
  have hnamed : namedNonTerminal? outline.parts.nonTerminals (.text name) =
      .ok ((Name.find? outline.parts.nonTerminals (.text name)).map .nonTerminal) := rfl
  rw [hnamed, Outline.parts, Name.find?_lastForms_texts]
  split <;> rfl

/-- What an entry that gives a rule holds. -/
theorem ShowsRule.exists_members {entry : Json} {rule : Rule} (h : ShowsRule entry rule) :
    ∃ members, entry = .object members ∧ members.lookup "lhs" = some (.text rule.lhs) ∧
      rightSide members = .ok (rule.rhs.map .text) := by
  cases h with
  | given hlhs hrhs => exact ⟨_, rfl, hlhs, by rw [rightSide, hrhs]; rfl⟩
  | absent hlhs hrhs => exact ⟨_, rfl, hlhs, by rw [rightSide, hrhs]; rfl⟩

/-- A rule is read as its production exactly if its names are declared. -/
theorem production_eq_ok_iff {entry : Json} {rule : Rule} (h : ShowsRule entry rule)
    (result : Production) :
    production outline.parts.nonTerminals outline.parts.terminals entry = .ok result ↔
      outline.Resolves rule ∧ result = outline.production rule := by
  obtain ⟨members, rfl, hlhs, hright⟩ := h.exists_members
  have hsymbols : ∀ symbols : List Symbol,
      (rule.rhs.map Json.text).mapM
          (Description.symbol outline.parts.nonTerminals outline.parts.terminals) = .ok symbols ↔
        (∀ name ∈ rule.rhs, name ∈ outline.nonTerminals ∨ name ∈ outline.terminals) ∧
          symbols = rule.rhs.map outline.symbol := by
    intro symbols
    apply mapM_eq_ok_iff_of_forall₂ _ (forall₂_texts rule.rhs)
    rintro _ name rfl found
    exact symbol_text_eq_ok_iff
  rw [production, hlhs]
  simp only [namedNonTerminal?_text, bind_eq_ok, Except.ok.injEq, exists_eq_left']
  by_cases hmem : rule.lhs ∈ outline.nonTerminals
  · have hsymbol : outline.symbol rule.lhs = .nonTerminal (.text rule.lhs) := if_pos hmem
    simp only [if_pos hmem, bind_eq_ok, hright, Except.ok.injEq, exists_eq_left', hsymbols]
    rw [Outline.Resolves, Outline.production, hsymbol]
    constructor
    · rintro ⟨_, ⟨hnames, rfl⟩, rfl⟩
      exact ⟨⟨hmem, hnames⟩, rfl⟩
    · rintro ⟨⟨-, hnames⟩, rfl⟩
      exact ⟨_, ⟨hnames, rfl⟩, rfl⟩
  · simp [hmem, Outline.Resolves]

end Names

/-! ## Descriptions of outlines -/

section Shows

variable {members : List (String × Json)} {outline : Outline} {grammar : Grammar}

theorem sequence_of_list {key : String} {items : List Json}
    (h : members.lookup key = some (.list items)) : sequence members key = .ok items := by
  rw [sequence, h]
  rfl

/-- A description of an outline is read as its parts exactly if the names in its rules and that of
its start symbol are declared, and no name is declared as both kinds. -/
theorem Shows.reads_iff (h : Shows members outline) {parts : Parts} :
    Reads members parts ↔
      ((∀ name ∈ outline.nonTerminals, name ∉ outline.terminals) ∧
        (∀ rule ∈ outline.rules, outline.Resolves rule) ∧
        outline.start ∈ outline.nonTerminals) ∧ parts = outline.parts := by
  obtain ⟨entries, hentries, hrules⟩ := h.rules_eq
  have hnonTerminals := sequence_of_list h.nonTerminals_eq
  have hterminals := sequence_of_list h.terminals_eq
  have hproductions := sequence_of_list hentries
  have hread : ∀ productions : List Production,
      entries.mapM (production outline.parts.nonTerminals outline.parts.terminals) =
          .ok productions ↔
        (∀ rule ∈ outline.rules, outline.Resolves rule) ∧
          productions = outline.rules.map outline.production := by
    intro productions
    exact mapM_eq_ok_iff_of_forall₂ (fun _ _ => production_eq_ok_iff) hrules
  have hdisjoint :
      (∀ name ∈ outline.parts.nonTerminals, ∀ other ∈ outline.parts.terminals,
        name.key ≠ other.key) ↔ ∀ name ∈ outline.nonTerminals, name ∉ outline.terminals := by
    simp only [Outline.parts, Name.mem_lastForms_texts, forall_exists_index, and_imp]
    grind [Name.key]
  constructor
  · intro hreads
    obtain ⟨nonTerminals, terminals, productions, start⟩ := parts
    obtain ⟨⟨_, names, hitems, hnames, heq⟩, ⟨_, names', hitems', hnames', heq'⟩, hnone,
      ⟨_, hitems'', hresults⟩, value, hvalue, hstart⟩ := hreads
    -- What is read under each key is what the description gives there.
    cases hnonTerminals.symm.trans hitems
    cases hterminals.symm.trans hitems'
    cases hproductions.symm.trans hitems''
    cases h.start_eq.symm.trans hvalue
    obtain rfl := mapM_nameOf_texts.1 hnames
    obtain rfl := mapM_nameOf_texts.1 hnames'
    obtain rfl : nonTerminals = outline.parts.nonTerminals := heq
    obtain rfl : terminals = outline.parts.terminals := heq'
    obtain ⟨hresolves, rfl⟩ := (hread productions).1 hresults
    rw [namedNonTerminal?_text] at hstart
    by_cases hmem : outline.start ∈ outline.nonTerminals
    · rw [if_pos hmem] at hstart
      cases hstart
      exact ⟨⟨hdisjoint.1 hnone, hresolves, hmem⟩, rfl⟩
    · rw [if_neg hmem] at hstart
      cases hstart
  · rintro ⟨⟨hnone, hresolves, hmem⟩, rfl⟩
    refine ⟨⟨_, _, hnonTerminals, mapM_nameOf_texts.2 rfl, rfl⟩,
      ⟨_, _, hterminals, mapM_nameOf_texts.2 rfl, rfl⟩, hdisjoint.2 hnone,
      ⟨_, hproductions, (hread _).2 ⟨hresolves, rfl⟩⟩, _, h.start_eq, ?_⟩
    rw [namedNonTerminal?_text, if_pos hmem]
    rfl

/-- A symbol of an outline is a terminal exactly if its name is not declared as a non-terminal. -/
theorem Outline.symbol_eq_terminal_iff {name text : String} :
    outline.symbol name = .terminal (.text text) ↔ name ∉ outline.nonTerminals ∧ name = text := by
  rw [Outline.symbol]
  split <;> simp [*]

/-- The symbol of a declared name is declared. -/
theorem Outline.symbol_mem {name : String}
    (h : name ∈ outline.nonTerminals ∨ name ∈ outline.terminals) :
    outline.symbol name ∈ outline.parts.terminals.map .terminal ∨
      outline.symbol name ∈ outline.parts.nonTerminals.map .nonTerminal := by
  rw [Outline.parts, Name.mem_map_lastForms_texts, Name.mem_map_lastForms_texts, Outline.symbol]
  split
  next hnonTerminal => exact .inr ⟨name, hnonTerminal, rfl⟩
  next hnonTerminal => exact .inl ⟨name, h.resolve_left hnonTerminal, rfl⟩

/-- The productions of a consistent outline use declared symbols only, and neither reserved
terminal. -/
theorem Outline.Consistent.declared (h : outline.Consistent) {rule : Rule}
    (hrule : rule ∈ outline.rules) :
    (outline.production rule).Declared
      (firstOccurrences (outline.parts.nonTerminals.map .nonTerminal))
      (firstOccurrences (outline.parts.terminals.map .terminal ++ [.epsilon, .endMark])) := by
  have hlhs := h.lhs_mem rule hrule
  constructor
  · rw [mem_firstOccurrences, Outline.production, Outline.symbol, if_pos hlhs]
    exact Name.mem_map_lastForms_texts.2 ⟨rule.lhs, hlhs, rfl⟩
  · intro symbol hsymbol
    obtain ⟨name, hname, rfl⟩ := List.mem_map.1 hsymbol
    have hname := h.rhs_mem rule hrule name hname
    -- Only a declared terminal could be a reserved one.
    have hreserved : ∀ text, text = "ε" ∨ text = "$" →
        outline.symbol name ≠ .terminal (.text text) := by
      intro text htext heq
      obtain ⟨hnot, rfl⟩ := Outline.symbol_eq_terminal_iff.1 heq
      obtain ⟨-, hepsilon, hendMark⟩ := hname.resolve_left hnot
      exact htext.elim hepsilon hendMark
    refine ⟨hreserved _ (.inl rfl), hreserved _ (.inr rfl), ?_⟩
    rw [mem_firstOccurrences, mem_firstOccurrences, List.mem_append]
    exact (Outline.symbol_mem (hname.imp_right And.left)).imp_left .inl

/-- A grammar can be built of the parts of a consistent outline. -/
theorem Outline.Consistent.exists_build (h : outline.Consistent) :
    ∃ grammar, outline.parts.build = .ok grammar := by
  apply Grammar.exists_build (Name.mem_map_lastForms_texts.2 ⟨outline.start, h.start_mem, rfl⟩)
  intro production hproduction
  obtain ⟨rule, hrule, rfl⟩ := List.mem_map.1 hproduction
  exact h.declared hrule

/-- The grammar that is built of the parts of an outline. -/
theorem Outline.isBuiltAs_of_build (h : outline.parts.build = .ok grammar) :
    outline.IsBuiltAs grammar := by
  obtain ⟨hnonTerminals, hterminals, hproductions, hstart⟩ := build_eq_ok h
  refine ⟨?_, ?_, hstart, hproductions⟩
  · intro symbol
    rw [hnonTerminals, mem_firstOccurrences]
    exact Name.mem_map_lastForms_texts
  · intro symbol
    rw [hterminals, mem_firstOccurrences, List.mem_append, List.mem_pair]
    exact or_congr_left Name.mem_map_lastForms_texts

/-- An outline of which a grammar was built is consistent. -/
theorem Outline.consistent_of_build (hbuild : outline.parts.build = .ok grammar)
    (hdisjoint : ∀ name ∈ outline.nonTerminals, name ∉ outline.terminals)
    (hresolves : ∀ rule ∈ outline.rules, outline.Resolves rule)
    (hstart : outline.start ∈ outline.nonTerminals) : outline.Consistent := by
  refine ⟨hdisjoint, hstart, fun rule hrule => (hresolves rule hrule).1, ?_⟩
  intro rule hrule name hname
  rcases (hresolves rule hrule).2 name hname with hnonTerminal | hterminal
  · exact .inl hnonTerminal
  · by_cases hnonTerminal : name ∈ outline.nonTerminals
    · exact .inl hnonTerminal
    · -- The grammar has the production, so that its symbols are not reserved.
      have hproduction : outline.production rule ∈ grammar.productions := by
        rw [(build_eq_ok hbuild).2.2.1]
        exact List.mem_map_of_mem hrule
      obtain ⟨hepsilon, hendMark, -⟩ :=
        (grammar.declared _ hproduction).2 _ (List.mem_map_of_mem hname)
      refine .inr ⟨hterminal, ?_, ?_⟩
      · rintro rfl
        exact hepsilon (Outline.symbol_eq_terminal_iff.2 ⟨hnonTerminal, rfl⟩)
      · rintro rfl
        exact hendMark (Outline.symbol_eq_terminal_iff.2 ⟨hnonTerminal, rfl⟩)

/-- A description of an outline gives a grammar exactly if the outline is consistent and the grammar
is built of its parts. -/
theorem Shows.ofJson_eq_ok_iff (h : Shows members outline) :
    ofJson (.object members) = .ok grammar ↔
      outline.Consistent ∧ outline.parts.build = .ok grammar := by
  rw [Description.ofJson_eq_ok_iff]
  constructor
  · rintro ⟨parts, hreads, hbuild⟩
    obtain ⟨⟨hdisjoint, hresolves, hstart⟩, rfl⟩ := h.reads_iff.1 hreads
    exact ⟨Outline.consistent_of_build hbuild hdisjoint hresolves hstart, hbuild⟩
  · rintro ⟨hconsistent, hbuild⟩
    refine ⟨outline.parts, h.reads_iff.2 ⟨⟨hconsistent.disjoint, ?_, hconsistent.start_mem⟩, rfl⟩,
      hbuild⟩
    intro rule hrule
    refine ⟨hconsistent.lhs_mem rule hrule, ?_⟩
    intro name hname
    exact (hconsistent.rhs_mem rule hrule name hname).imp_right And.left

/-! ## Reports -/

/-- The items of a list of texts are texts. -/
theorem exists_text_of_mem_itemsAt {key : String} {names : List String} {value : Json}
    (h : members.lookup key = some (.list (names.map .text)))
    (hvalue : value ∈ itemsAt members key) : ∃ name, value = .text name := by
  rw [itemsAt_of_lookup h rfl] at hvalue
  obtain ⟨name, -, rfl⟩ := List.mem_map.1 hvalue
  exact ⟨name, rfl⟩

theorem ShowsRule.rhs_texts {entry : List (String × Json)} {rule : Rule} {value : Json}
    (h : ShowsRule (.object entry) rule) (hvalue : value ∈ itemsAt entry "rhs") :
    ∃ name, value = .text name := by
  cases h with
  | given _ hrhs => exact exists_text_of_mem_itemsAt hrhs hvalue
  | absent _ hrhs =>
      rw [itemsAt, hrhs] at hvalue
      cases hvalue

/-- The entries of a description of an outline give rules. -/
theorem Shows.exists_rule (h : Shows members outline) {entry : Json}
    (hentry : entry ∈ itemsAt members "productions") : ∃ rule, ShowsRule entry rule := by
  obtain ⟨entries, hentries, hrules⟩ := h.rules_eq
  rw [itemsAt_of_lookup hentries rfl] at hentry
  obtain ⟨rule, -, hrule⟩ := (exists_partners hrules).1 entry hentry
  exact ⟨rule, hrule⟩

/-- Where a description of an outline is due to name a symbol, it has a text. -/
theorem Shows.mentions_text (h : Shows members outline) {value : Json}
    (hvalue : Mentions members value) : ∃ name, value = .text name := by
  cases hvalue with
  | start hstart =>
      cases h.start_eq.symm.trans hstart
      exact ⟨outline.start, rfl⟩
  | lhs hentry hlhs =>
      obtain ⟨rule, hrule⟩ := h.exists_rule hentry
      obtain ⟨members, heq, hlookup, -⟩ := hrule.exists_members
      cases heq
      cases hlookup.symm.trans hlhs
      exact ⟨rule.lhs, rfl⟩
  | rhs hentry hmem =>
      obtain ⟨rule, hrule⟩ := h.exists_rule hentry
      exact hrule.rhs_texts hmem

/-- A name declared in a description of an outline is a text. -/
theorem Shows.declared_text (h : Shows members outline) {key : String} {value : Json}
    (hkey : key ∈ ["non_terminals", "terminals"]) (hvalue : value ∈ itemsAt members key) :
    ∃ name, value = .text name := by
  rcases List.mem_pair.1 hkey with rfl | rfl
  · exact exists_text_of_mem_itemsAt h.nonTerminals_eq hvalue
  · exact exists_text_of_mem_itemsAt h.terminals_eq hvalue

/-- The key of a declared name is that of a text. -/
theorem Shows.declares_text (h : Shows members outline) {list : String} {key : Name.Key}
    (hlist : list ∈ ["non_terminals", "terminals"]) (hdeclared : Declares members list key) :
    ∃ text, key = .text text := by
  obtain ⟨name, hname, rfl⟩ := hdeclared
  obtain ⟨text, htext⟩ := h.declared_text hlist hname
  exact ⟨text, Name.key_eq_text_iff.2 (Name.value_inj (htext.trans rfl))⟩

theorem not_isCollection_text (text : String) : ¬ IsCollection (.text text) := by
  rintro (⟨items, h⟩ | ⟨members, h⟩)
  · cases h
  · cases h

/-- Nothing in a description of an outline keeps an error from being reported. -/
theorem Shows.not_unreportable (h : Shows members outline) : ¬ Unreportable members := by
  intro hunreportable
  cases hunreportable with
  | declaration hlist hvalue hcollection =>
      obtain ⟨name, rfl⟩ := h.declared_text hlist hvalue
      exact not_isCollection_text name hcollection
  | mention hvalue hcollection =>
      obtain ⟨name, rfl⟩ := h.mentions_text hvalue
      exact not_isCollection_text name hcollection
  | rightSide hentry hvalue hnone =>
      obtain ⟨rule, hrule⟩ := h.exists_rule hentry
      obtain ⟨members, heq, -, hright⟩ := hrule.exists_members
      cases heq
      rw [rightSide, hvalue] at hright
      simp only [hnone] at hright
      cases hright
  | @mixedNames name other _ hincomparable hdeclared =>
      obtain ⟨⟨text, hname⟩, text', hother⟩ := (hdeclared "terminals" (by decide)).imp
        (h.declares_text (by decide)) (h.declares_text (by decide))
      rw [Name.key_eq_text_iff.1 hname, Name.key_eq_text_iff.1 hother] at hincomparable
      cases hincomparable
  | @mixedProduction entry reserved name hentry _ _ hname hother =>
      obtain ⟨text, htext⟩ := h.mentions_text (hname.elim (.lhs hentry) (.rhs hentry))
      exact hother text (Name.value_inj (htext.trans rfl))

/-- A description of names by texts gives a grammar exactly if the names are consistent; the grammar
has the declared symbols, the two reserved terminals and the rules in their order, and every other
description is refused with a report. -/
theorem ofJson_iff_consistent (members : List (String × Json)) (outline : Outline)
    (h : Shows members outline) :
    ((∃ grammar, ofJson (.object members) = .ok grammar) ↔ outline.Consistent) ∧
      (∀ grammar, ofJson (.object members) = .ok grammar → outline.IsBuiltAs grammar) ∧
      (¬ outline.Consistent → ∃ error message,
        ofJson (.object members) = .error error ∧ error.report? = some message) := by
  have hiff : (∃ grammar, ofJson (.object members) = .ok grammar) ↔ outline.Consistent := by
    constructor
    · rintro ⟨grammar, hgrammar⟩
      exact (h.ofJson_eq_ok_iff.1 hgrammar).1
    · intro hconsistent
      obtain ⟨grammar, hbuild⟩ := hconsistent.exists_build
      exact ⟨grammar, h.ofJson_eq_ok_iff.2 ⟨hconsistent, hbuild⟩⟩
  refine ⟨hiff, ?_, ?_⟩
  · intro grammar hgrammar
    exact Outline.isBuiltAs_of_build (h.ofJson_eq_ok_iff.1 hgrammar).2
  · intro hinconsistent
    cases hresult : ofJson (.object members) with
    | ok grammar => exact absurd (hiff.1 ⟨grammar, hresult⟩) hinconsistent
    | error error =>
        obtain ⟨message, hmessage⟩ :=
          (refuses_of_error hresult).exists_report.resolve_right h.not_unreportable
        exact ⟨error, message, rfl, hmessage⟩

end Shows

/-- An outline that declares `ε` as a non-terminal and `$` as a terminal, and the terminal `a`
twice; its first rule mentions some name beside `ε`. -/
def reservedNames (name : String) : Outline where
  nonTerminals := ["S", "ε"]
  terminals := ["a", "$", "a"]
  rules := [⟨"S", ["ε", name]⟩, ⟨"ε", []⟩]
  start := "S"

/-- A description of that outline, without the right side that is empty. -/
def reservedNamesDescription (name : String) : List (String × Json) :=
  [("start", .text "S"), ("terminals", .list [.text "a", .text "$", .text "a"]),
    ("productions", .list [.object [("rhs", .list [.text "ε", .text name]), ("lhs", .text "S")],
      .object [("lhs", .text "ε")]]),
    ("non_terminals", .list [.text "S", .text "ε"])]

theorem shows_reservedNames (name : String) :
    Shows (reservedNamesDescription name) (reservedNames name) where
  nonTerminals_eq := rfl
  terminals_eq := rfl
  rules_eq := ⟨_, rfl, .cons (.given rfl rfl) (.cons (.absent rfl rfl) .nil)⟩
  start_eq := rfl

/-- The names are consistent with `a` in the first rule, where `ε` is a non-terminal; `$` may not
stand there, although it is declared. -/
theorem ofJson_iff_consistent_reservedNames :
    (Shows (reservedNamesDescription "a") (reservedNames "a") ∧
      ∃ grammar, ofJson (.object (reservedNamesDescription "a")) = .ok grammar ∧
        (reservedNames "a").IsBuiltAs grammar) ∧
      Shows (reservedNamesDescription "$") (reservedNames "$") ∧
      ∃ error message, ofJson (.object (reservedNamesDescription "$")) = .error error ∧
        error.report? = some message := by
  obtain ⟨hiff, hbuilt, -⟩ := ofJson_iff_consistent _ _ (shows_reservedNames "a")
  obtain ⟨-, -, hrefused⟩ := ofJson_iff_consistent _ _ (shows_reservedNames "$")
  have hconsistent : (reservedNames "a").Consistent := ⟨by decide, by decide, by decide, by decide⟩
  have hinconsistent : ¬ (reservedNames "$").Consistent := by
    rintro ⟨-, -, -, hrhs⟩
    revert hrhs
    decide
  obtain ⟨grammar, hgrammar⟩ := hiff.2 hconsistent
  exact ⟨⟨shows_reservedNames "a", grammar, hgrammar, hbuilt grammar hgrammar⟩,
    shows_reservedNames "$", hrefused hinconsistent⟩

end Description

end GrammarWorkbench.Grammar
