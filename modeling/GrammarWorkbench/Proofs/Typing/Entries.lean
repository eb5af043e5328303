import Mathlib.Data.List.Nodup
import GrammarWorkbench.Proofs.Typing.Declarations
import GrammarWorkbench.Typing.Analysis

/-!
# What the table of an analysis holds

The names of a tree stand in it in the order of the source text (`Spells.leaves_eq`), and an
analysis meets them in this order (`Analyzer.table_analyze`). As long as no scope was entered, a
name that is met is declared exactly if the table has no entry of it (`SymbolTable.IsFlat.meet_eq`).
The names declared beforehand and the first occurrences of the others therefore determine the table
(`table_of_first_occurrences`).
-/

set_option autoImplicit false

namespace GrammarWorkbench.Expression

/-! ## The names in a tree -/

/-- The names in a tree with their tokens, from left to right. -/
def Expr.leaves : Expr → List (String × Option Token)
  | .ident name token _ => [(name, token)]
  | .binary left _ right _ => left.leaves ++ right.leaves
  | .paren inner _ => inner.leaves

/-- The tokens that are names. -/
def identifiers (tokens : List Token) : List Token :=
  tokens.filter fun token => token.kind = .identifier

/-- The names in a tree are those of the tokens that spell it. -/
theorem Spells.leaves_eq {tree : Expr} {tokens : List Token} (h : Spells tree tokens) :
    tree.leaves = (identifiers tokens).map fun token => (token.text, some token) := by
  induction h with
  | ident hkind => simp [Expr.leaves, identifiers, hkind]
  | @binary left right operator before after hoperator _ _ ihleft ihright =>
      have hname : operator.kind ≠ .identifier := by
        intro hkind
        rw [hkind] at hoperator
        cases hoperator
      simp [Expr.leaves, ihleft, ihright, identifiers, hname]
  | paren hopening hclosing _ ih =>
      simp [Expr.leaves, ih, identifiers, hopening, hclosing]

end GrammarWorkbench.Expression

namespace GrammarWorkbench.Typing

open GrammarWorkbench.Expression (Expr Token Binding SymbolKey NestingLimit Parser Spells tokenize
  identifiers)

/-! ## Meeting names -/

/-- The entry of a name that is declared where it is met. -/
def implicitEntry (settings : Settings) (scope : String) (leaf : String × Option Token) :
    SymbolEntry :=
  ⟨leaf.1, settings.defaultType, scope, (leaf.2.map Token.line).getD 0,
    (leaf.2.map Token.column).getD 0⟩

@[simp] theorem name_implicitEntry (settings : Settings) (scope : String)
    (leaf : String × Option Token) : (implicitEntry settings scope leaf).name = leaf.1 :=
  rfl

/-- The table after a name is met: a name that is not visible is declared. -/
def SymbolTable.meet (settings : Settings) (table : SymbolTable) (leaf : String × Option Token) :
    SymbolTable :=
  if (table.lookup leaf.1 none).isSome then table
  else table.add (implicitEntry settings table.currentScope leaf)

namespace Analyzer

theorem bind_eq (analyzer : Analyzer) (name : String) (token : Option Token) :
    (analyzer.bind name token).2 =
      { analyzer with table := analyzer.table.meet analyzer.settings (name, token) } := by
  rw [bind, SymbolTable.meet]
  cases analyzer.table.lookup name none <;> rfl

/-- An analysis meets the names of a tree from left to right. -/
theorem table_analyze (analyzer : Analyzer) (tree : Expr) :
    (analyzer.analyze tree).2.settings = analyzer.settings ∧
      (analyzer.analyze tree).2.table =
        tree.leaves.foldl (SymbolTable.meet analyzer.settings) analyzer.table := by
  -- An operator changes neither table nor settings; only names do.
  induction tree generalizing analyzer with
  | ident name token binding =>
      rw [analyze]
      simp only [bind_eq]
      exact ⟨trivial, rfl⟩
  | binary left operator right type ihleft ihright =>
      obtain ⟨hleft, hleftTable⟩ := ihleft analyzer
      obtain ⟨hright, hrightTable⟩ := ihright (analyzer.analyze left).2
      rw [analyze]
      simp only [typeOperator_eq]
      rw [Expr.leaves, List.foldl_append, ← hleftTable, ← hleft]
      exact ⟨hright, hrightTable⟩
  | paren inner type ih => exact ih analyzer

end Analyzer

/-! ## Tables with a single scope -/

namespace SymbolTable

variable {table : SymbolTable} {scope name : String} {settings : Settings}
  {leaf : String × Option Token}

/-- All entries of the table are in one scope, and no other scope was entered. -/
structure IsFlat (scope : String) (table : SymbolTable) : Prop where
  globalScope_eq : table.globalScope = scope
  scopes_eq : table.scopes = [scope]
  scope_eq : ∀ entry ∈ table.declared, entry.scope = scope

/-- The first entry of a name is the one that is visible. -/
theorem IsFlat.lookup_eq (h : table.IsFlat scope) (name : String) :
    table.lookup name none = (table.entries name).head? := by
  have hfind : table.findIn name scope = (table.entries name).head? := by
    rw [findIn]
    cases hentries : table.entries name with
    | nil => rfl
    | cons entry later =>
        have hmem : entry ∈ table.entries name := by
          rw [hentries]
          exact List.mem_cons_self
        have hscope := h.scope_eq entry (List.mem_of_mem_filter hmem)
        rw [List.find?_cons_of_pos (by simpa using hscope), List.head?_cons]
  rw [lookup, h.globalScope_eq, h.scopes_eq, Option.toList_none, List.nil_append,
    List.singleton_append, List.findSome?_cons, List.findSome?_singleton, hfind]
  cases (table.entries name).head? <;> rfl

theorem entries_eq_nil_iff :
    table.entries name = [] ↔ name ∉ table.declared.map SymbolEntry.name := by
  simp [entries, List.filter_eq_nil_iff]

/-- A name is declared where it is met exactly if the table has no entry of it. -/
theorem IsFlat.meet_eq (h : table.IsFlat scope) (settings : Settings)
    (leaf : String × Option Token) :
    table.meet settings leaf =
      if table.entries leaf.1 = [] then table.add (implicitEntry settings scope leaf)
      else table := by
  have hscope : table.currentScope = scope := by rw [currentScope, h.scopes_eq, List.headD_cons]
  rw [meet, h.lookup_eq, hscope]
  cases table.entries leaf.1 <;> rfl

theorem IsFlat.after_meet (h : table.IsFlat scope) (settings : Settings)
    (leaf : String × Option Token) : (table.meet settings leaf).IsFlat scope := by
  rw [h.meet_eq]
  split
  next =>
    refine ⟨h.globalScope_eq, h.scopes_eq, ?_⟩
    intro entry hmem
    rcases List.mem_append.1 hmem with hold | hnew
    · exact h.scope_eq entry hold
    · rw [List.mem_singleton.1 hnew]
      rfl
  next => exact h

theorem entries_add (table : SymbolTable) (entry : SymbolEntry) (name : String) :
    (table.add entry).entries name =
      table.entries name ++ if entry.name = name then [entry] else [] := by
  rw [entries, add, List.filter_append, List.filter_singleton]
  simp [entries]

/-- Meeting names declares each that has no entry, where it is met first. -/
theorem IsFlat.entries_foldl (h : table.IsFlat scope) (settings : Settings)
    (leaves : List (String × Option Token)) (name : String) :
    (leaves.foldl (meet settings) table).entries name =
      if table.entries name = [] then
        ((leaves.find? fun leaf => leaf.1 = name).map (implicitEntry settings scope)).toList
      else table.entries name := by
  -- Induction on the names still to be met; the table changes with each.
  induction leaves generalizing table with
  | nil => simp
  | cons leaf later ih =>
      rw [List.foldl_cons, ih (h.after_meet settings leaf), h.meet_eq]
      by_cases hleaf : leaf.1 = name
      · subst hleaf
        rw [List.find?_cons_of_pos (by simp)]
        by_cases hnone : table.entries leaf.1 = []
        · rw [if_pos hnone, if_pos hnone, entries_add, hnone]
          simp
        · rw [if_neg hnone, if_neg hnone, if_neg hnone]
      · rw [List.find?_cons_of_neg (by simpa using hleaf)]
        have hsame : (table.add (implicitEntry settings scope leaf)).entries name =
            table.entries name := by
          rw [entries_add, name_implicitEntry, if_neg hleaf, List.append_nil]
        split
        next => rw [hsame]
        next => rfl

theorem IsFlat.names_foldl (h : table.IsFlat scope) (settings : Settings)
    (leaves : List (String × Option Token)) :
    (leaves.foldl (meet settings) table).declared.map SymbolEntry.name =
      table.declared.map SymbolEntry.name ++
        firstOccurrencesAfter (table.declared.map SymbolEntry.name) (leaves.map Prod.fst) := by
  induction leaves generalizing table with
  | nil => simp [firstOccurrencesAfter]
  | cons leaf later ih =>
      rw [List.foldl_cons, ih (h.after_meet settings leaf), h.meet_eq, List.map_cons,
        firstOccurrencesAfter]
      by_cases hnone : table.entries leaf.1 = []
      · -- The new name stands behind the others in the table, and before them among those seen.
        rw [if_pos hnone, if_neg (entries_eq_nil_iff.1 hnone), add, List.map_append]
        have hseen : ∀ name, name ∈ table.declared.map SymbolEntry.name ++
              [implicitEntry settings scope leaf].map SymbolEntry.name ↔
            name ∈ leaf.1 :: table.declared.map SymbolEntry.name := by
          intro name
          rw [List.mem_append, List.mem_cons, or_comm]
          simp
        rw [firstOccurrencesAfter_congr hseen, List.append_assoc]
        rfl
      · rw [if_neg hnone, if_pos (not_not.1 fun hnot => hnone (entries_eq_nil_iff.2 hnot))]

/-- The names with an entry, none of them twice, and then the others as they are met first. -/
theorem IsFlat.names_eq (h : table.IsFlat scope)
    (hnodup : (table.declared.map SymbolEntry.name).Nodup) (settings : Settings)
    (leaves : List (String × Option Token)) :
    (leaves.foldl (meet settings) table).names =
      table.declared.map SymbolEntry.name ++
        firstOccurrences ((leaves.map Prod.fst).filter
          fun name => name ∉ table.declared.map SymbolEntry.name) := by
  have hleft : ∀ name, name ∈ table.declared.map SymbolEntry.name ↔
      name ∈ ([] : List String) ∨ name ∈ table.declared.map SymbolEntry.name := by simp
  have hall : (leaves.foldl (meet settings) table).declared.map SymbolEntry.name =
      table.declared.map SymbolEntry.name ++
        firstOccurrences ((leaves.map Prod.fst).filter
          fun name => name ∉ table.declared.map SymbolEntry.name) := by
    rw [h.names_foldl, firstOccurrencesAfter_filter hleft, firstOccurrences]
  rw [names, hall, firstOccurrences, firstOccurrencesAfter_eq_self ?_ (by simp)]
  refine List.nodup_append.2 ⟨hnodup, nodup_firstOccurrences _, ?_⟩
  rintro name hold _ hnew rfl
  have hmem := (List.mem_filter.1 (mem_firstOccurrences.1 hnew)).2
  exact of_decide_eq_true hmem hold

end SymbolTable

/-! ## The bindings of names -/

/-- Every name in an annotated tree has the binding of the environment. -/
theorem binding_of_mem_postorder_annotate (bindings : String → Binding) (tree : Expr) :
    ∀ node ∈ (annotate bindings tree).postorder, ∀ name token binding,
      node = .ident name token binding → binding = some (bindings name) := by
  induction tree with
  | ident name token binding =>
      intro node hnode other otherToken otherBinding heq
      rw [annotate, Expr.postorder_ident, List.mem_singleton, heq] at hnode
      cases hnode
      rfl
  | binary left operator right type ihleft ihright =>
      intro node hnode
      rw [annotate, Expr.postorder_binary, List.mem_append, List.mem_append,
        List.mem_singleton] at hnode
      rcases hnode with (hleft | hright) | rfl
      · exact ihleft node hleft
      · exact ihright node hright
      · intro name token binding heq
        cases heq
  | paren inner type ih =>
      intro node hnode
      rw [annotate, Expr.postorder_paren, List.mem_append, List.mem_singleton] at hnode
      rcases hnode with hinner | rfl
      · exact ih node hinner
      · intro name token binding heq
        cases heq

namespace Analyzer

/-- In a table with a single scope every name is bound to itself in this scope. -/
theorem key_binding {analyzer : Analyzer} {scope : String}
    (h : analyzer.table.IsFlat scope) (name : String) :
    (analyzer.binding name).key = ⟨name, scope⟩ := by
  rw [binding, h.lookup_eq]
  cases hentries : analyzer.table.entries name with
  | nil =>
      rw [List.head?_nil]
      dsimp only
      rw [SymbolTable.currentScope, h.scopes_eq, List.headD_cons]
  | cons entry later =>
      have hmem : entry ∈ analyzer.table.entries name := by
        rw [hentries]
        exact List.mem_cons_self
      obtain ⟨hdeclared, hname⟩ := List.mem_filter.1 hmem
      rw [List.head?_cons]
      simp only [SymbolEntry.binding, SymbolEntry.key, h.scope_eq entry hdeclared,
        of_decide_eq_true hname]

section Declared

variable (settings : Settings) (declarations : List (String × String))

theorem isFlat_ofDeclarations :
    (ofDeclarations settings declarations).table.IsFlat settings.globalScope := by
  rw [ofDeclarations_eq]
  refine ⟨rfl, rfl, ?_⟩
  intro entry hmem
  obtain ⟨declaration, -, rfl⟩ := List.mem_map.1 hmem
  rfl

theorem names_ofDeclarations :
    (ofDeclarations settings declarations).table.declared.map SymbolEntry.name =
      declarations.map Prod.fst := by
  rw [ofDeclarations_eq]
  simp [declaredEntry, Function.comp_def]

/-- A name that is declared once has one entry. -/
theorem entries_ofDeclarations (settings : Settings) {declarations : List (String × String)}
    (hnames : (declarations.map Prod.fst).Nodup) {name type : String}
    (hmem : (name, type) ∈ declarations) :
    (ofDeclarations settings declarations).table.entries name =
      [declaredEntry settings.globalScope (name, type)] := by
  rw [ofDeclarations_eq, SymbolTable.entries]
  dsimp only
  induction declarations with
  | nil => cases hmem
  | cons declaration later ih =>
      rw [List.map_cons, List.nodup_cons] at hnames
      obtain ⟨hfresh, hlater⟩ := hnames
      rcases List.mem_cons.1 hmem with rfl | hmem
      · have hnone : (later.map (declaredEntry settings.globalScope)).filter
            (fun entry => entry.name = name) = [] := by
          rw [List.filter_eq_nil_iff]
          intro entry hentry
          obtain ⟨other, hother, rfl⟩ := List.mem_map.1 hentry
          have hne : other.1 ≠ name := by
            intro heq
            exact hfresh (List.mem_map.2 ⟨other, hother, heq⟩)
          simp [declaredEntry, hne]
        rw [List.map_cons, List.filter_cons_of_pos (by simp [declaredEntry]), hnone]
      · have hne : declaration.1 ≠ name := by
          intro heq
          exact hfresh (List.mem_map.2 ⟨(name, type), hmem, heq.symm⟩)
        rw [List.map_cons, List.filter_cons_of_neg (by simp [declaredEntry, hne])]
        exact ih hlater hmem

end Declared

end Analyzer

/-! ## The analysis of a source text -/

/-- The names in the tree of a source text are those of its tokens, in the order of the text. -/
theorem leaves_of_parse {limit : NestingLimit} {source : String} {tree : Expr}
    (hparse : ((Parser.ofSource source).parse limit).1 = some tree) :
    tree.leaves = (identifiers (tokenize source)).map fun token => (token.text, some token) := by
  obtain ⟨hspells, -, -⟩ := Expression.sentence_eq_ok_iff.1 (Parser.sentence_of_parse hparse)
  -- The end token is no name, so the tokens of the tree have all the names of the text.
  have hend : (Parser.ofSource source).stop.kind ≠ .identifier := nofun
  rw [hspells.leaves_eq, Expression.tokenize_eq, identifiers, identifiers, List.filter_append,
    List.filter_singleton]
  simp [hend]

/-- A name that occurs has a first occurrence. -/
theorem exists_find?_of_mem {tokens : List Token} {name : String}
    (h : name ∈ tokens.map Token.text) :
    ∃ token, tokens.find? (fun token => token.text = name) = some token ∧ token.text = name := by
  obtain ⟨occurrence, hmem, htext⟩ := List.mem_map.1 h
  have hsome : (tokens.find? fun token => token.text = name).isSome = true :=
    List.find?_isSome.2 ⟨occurrence, hmem, by simpa using htext⟩
  obtain ⟨token, hfirst⟩ := Option.isSome_iff_exists.1 hsome
  exact ⟨token, hfirst, by simpa using List.find?_some hfirst⟩

/-- The table of the analysis of a text that parses holds the names declared beforehand in their
order, and then the other names of the text in the order in which they occur first. Every name has
exactly one entry in the global scope: with its declared type at no particular place, or with the
default type at the place where it occurs first. Every name in the tree is bound to itself in the
global scope. -/
theorem table_of_first_occurrences (limit : NestingLimit) (settings : Settings)
    (declarations : List (String × String))
    (hnames : (declarations.map Prod.fst).Nodup) (source : String) (tree : Expr)
    (hparse : ((Parser.ofSource source).parse limit).1 = some tree) :
    ∃ typed table, (analyzeSource limit settings declarations source).tree = some typed ∧
      (analyzeSource limit settings declarations source).table = some table ∧
      table.names = declarations.map Prod.fst ++
        firstOccurrences (((identifiers (tokenize source)).map Token.text).filter
          fun name => name ∉ declarations.map Prod.fst) ∧
      table.names.Nodup ∧
      (∀ name type, (name, type) ∈ declarations →
        table.entries name = [⟨name, type, settings.globalScope, 0, 0⟩]) ∧
      (∀ name ∈ table.names, name ∉ declarations.map Prod.fst →
        ∃ token, (identifiers (tokenize source)).find? (fun token => token.text = name) =
            some token ∧
          table.entries name =
            [⟨name, settings.defaultType, settings.globalScope, token.line, token.column⟩]) ∧
      ∀ node ∈ typed.postorder, ∀ name token binding, node = .ident name token binding →
        binding.map Binding.key = some ⟨name, settings.globalScope⟩ := by
  have hpair : (Parser.ofSource source).parse limit =
      (some tree, ((Parser.ofSource source).parse limit).2) := Prod.ext hparse rfl
  have hflat := Analyzer.isFlat_ofDeclarations settings declarations
  have hdeclared := Analyzer.names_ofDeclarations settings declarations
  have hleaves := leaves_of_parse hparse
  obtain ⟨-, htable⟩ := (Analyzer.ofDeclarations settings declarations).table_analyze tree
  have htyped := ((Analyzer.ofDeclarations settings declarations).analyzes_analyze tree).tree_eq
  have hsettings : (Analyzer.ofDeclarations settings declarations).settings = settings := by
    rw [Analyzer.ofDeclarations_eq]
  rw [hsettings] at htable
  have hnamesEq := hflat.names_eq (hdeclared ▸ hnames) settings tree.leaves
  have hentries := hflat.entries_foldl settings tree.leaves
  rw [← htable] at hnamesEq hentries
  rw [analyzeSource, hpair]
  refine ⟨_, _, rfl, rfl, ?_, nodup_firstOccurrences _, ?_, ?_, ?_⟩
  · rw [hnamesEq, hdeclared, hleaves, List.map_map]
    rfl
  · intro name type hmem
    have hentry := Analyzer.entries_ofDeclarations settings hnames hmem
    rw [hentries, hentry, if_neg (List.cons_ne_nil _ _)]
    rfl
  · intro name hname hother
    have hmem : name ∈ (identifiers (tokenize source)).map Token.text := by
      rw [hnamesEq, hdeclared, hleaves, List.map_map] at hname
      have hnew := (List.mem_append.1 hname).resolve_left hother
      exact List.mem_of_mem_filter (mem_firstOccurrences.1 hnew)
    obtain ⟨token, hfirst, htext⟩ := exists_find?_of_mem hmem
    have hnone : (Analyzer.ofDeclarations settings declarations).table.entries name = [] := by
      rwa [SymbolTable.entries_eq_nil_iff, hdeclared]
    have hleaf : tree.leaves.find? (fun leaf => leaf.1 = name) =
        some (token.text, some token) := by
      rw [hleaves, List.find?_map]
      exact congrArg _ hfirst
    refine ⟨token, hfirst, ?_⟩
    rw [hentries, if_pos hnone, hleaf, ← htext]
    rfl
  · intro node hnode name token binding heq
    rw [htyped] at hnode
    rw [binding_of_mem_postorder_annotate _ _ node hnode name token binding heq, Option.map_some,
      Analyzer.key_binding hflat]

/-- The name on the second line occurs there for the second time, and keeps its first place. -/
theorem table_of_first_occurrences_repeated :
    ([("a", "float")].map Prod.fst).Nodup ∧
      (∃ tree, ((Parser.ofSource "b + (a -\n b)").parse .usual).1 = some tree) ∧
      ∃ table, (analyzeSource .usual {} [("a", "float")] "b + (a -\n b)").table = some table ∧
        table.names = ["a", "b"] ∧
        table.entries "a" = [⟨"a", "float", "global", 0, 0⟩] ∧
        table.entries "b" = [⟨"b", "int", "global", 1, 1⟩] := by
  have hnodup : ([("a", "float")].map Prod.fst).Nodup := by decide
  have hsome : ((Parser.ofSource "b + (a -\n b)").parse .usual).1.isSome = true := by decide +kernel
  obtain ⟨tree, hparse⟩ := Option.isSome_iff_exists.1 hsome
  obtain ⟨-, table, -, htable, hnames, -, hdeclared, hothers, -⟩ :=
    table_of_first_occurrences .usual {} [("a", "float")] hnodup _ tree hparse
  have hall : table.names = ["a", "b"] := hnames.trans (by decide +kernel)
  obtain ⟨token, hfirst, hentry⟩ := hothers "b" (by rw [hall]; decide) (by decide)
  have htoken : (identifiers (tokenize "b + (a -\n b)")).find? (fun token => token.text = "b") =
      some ⟨.identifier, "b", 1, 1⟩ := by decide +kernel
  obtain rfl := Option.some.inj (hfirst.symm.trans htoken)
  exact ⟨hnodup, ⟨tree, hparse⟩, table, htable, hall,
    hdeclared "a" "float" List.mem_cons_self, hentry⟩

end GrammarWorkbench.Typing
