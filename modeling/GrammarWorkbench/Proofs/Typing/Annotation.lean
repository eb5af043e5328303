import Mathlib.Data.List.Basic
import GrammarWorkbench.Proofs.Expression.Printing
import GrammarWorkbench.Proofs.Expression.Walks
import GrammarWorkbench.Proofs.Typing.Rules

/-!
# An analysis works in a fixed environment

The declarations visible to an analyzer bind every name to a type and a key; a name without a
declaration is bound to the one that would be made for it (`Analyzer.binding`). Declaring a name
where it is met for the first time makes exactly the declaration it is bound to already, so that no
name is bound differently at a later place of the walk (`Analyzer.binding_bind`). An analysis
therefore annotates a tree in the environment it started from, and reports what the typing rules
report, node after node in post-order (`Analyzer.analyzes_analyze`). It can be done in a walk that
visits the nodes one by one (`Analyzer.foldl_visit`).
-/

set_option autoImplicit false

namespace GrammarWorkbench.Typing

open GrammarWorkbench.Expression (Expr Token Binding SymbolKey)

/-! ## Symbol tables with one more declaration -/

namespace SymbolTable

variable {table : SymbolTable} {entry : SymbolEntry} {name : String}

/-- A new declaration is found where there was none for its name in its scope. -/
theorem findIn_add (table : SymbolTable) (entry : SymbolEntry) (name scope : String) :
    (table.add entry).findIn name scope =
      (table.findIn name scope).or
        (if entry.name = name ∧ entry.scope = scope then some entry else none) := by
  simp only [findIn, entries, add, List.filter_append, List.find?_append]
  by_cases hname : entry.name = name
  · by_cases hscope : entry.scope = scope
    · simp [hname, hscope]
    · simp [hname, hscope]
  · simp [hname]

/-- A declaration of another name changes nothing for a name. -/
theorem lookup_add_of_ne (h : entry.name ≠ name) :
    (table.add entry).lookup name none = table.lookup name none := by
  have hsame : (table.add entry).findIn name = table.findIn name := by
    funext scope
    rw [findIn_add, if_neg fun hboth => h hboth.1, Option.or_none]
  rw [lookup, lookup, hsame]
  rfl

/-- A lookup begins in the innermost scope. -/
theorem exists_outer (table : SymbolTable) :
    ∃ outer, table.scopes ++ [table.globalScope] = table.currentScope :: outer := by
  unfold currentScope
  cases table.scopes with
  | nil => exact ⟨[], rfl⟩
  | cons scope outer => exact ⟨outer ++ [table.globalScope], rfl⟩

/-- The first declaration of a name that was not visible, made in the innermost scope, is the one
that is visible then. -/
theorem lookup_add_of_none (hnone : table.lookup name none = none) (hname : entry.name = name)
    (hscope : entry.scope = table.currentScope) :
    (table.add entry).lookup name none = some entry := by
  obtain ⟨outer, houter⟩ := table.exists_outer
  have hinnermost : table.findIn name table.currentScope = none := by
    rw [lookup, List.findSome?_eq_none_iff] at hnone
    exact hnone _ (by simp [houter])
  have hfound : (table.add entry).findIn name table.currentScope = some entry := by
    rw [findIn_add, hinnermost, if_pos ⟨hname, hscope⟩, Option.none_or]
  have hscopes : (none : Option String).toList ++ (table.add entry).scopes ++
      [(table.add entry).globalScope] = table.currentScope :: outer := houter
  rw [lookup, hscopes, List.findSome?_cons, hfound]

end SymbolTable

/-! ## The environment of an analyzer -/

/-- An entry as a name is bound to it. -/
def SymbolEntry.binding (entry : SymbolEntry) : Binding :=
  ⟨entry.type, entry.key⟩

namespace Analyzer

/-- The binding of a name: the visible declaration, or the one that would be made where the name is
met. -/
def binding (analyzer : Analyzer) (name : String) : Binding :=
  match analyzer.table.lookup name none with
  | some entry => entry.binding
  | none => ⟨analyzer.settings.defaultType, name, analyzer.table.currentScope⟩

/-- The type of a name: that of the visible declaration, or else the default type. -/
def visibleType (analyzer : Analyzer) (name : String) : String :=
  ((analyzer.table.lookup name none).map SymbolEntry.type).getD analyzer.settings.defaultType

theorem type_binding (analyzer : Analyzer) (name : String) :
    (analyzer.binding name).type = analyzer.visibleType name := by
  rw [binding, visibleType]
  cases analyzer.table.lookup name none <;> rfl

theorem visibleType_eq (analyzer : Analyzer) :
    analyzer.visibleType = fun name => (analyzer.binding name).type := by
  funext name
  exact (analyzer.type_binding name).symm

/-- A name that is met is bound as the environment says. -/
theorem binding_bind_fst (analyzer : Analyzer) (name : String) (token : Option Token) :
    (analyzer.bind name token).1.binding = analyzer.binding name := by
  rw [bind, binding]
  cases analyzer.table.lookup name none <;> rfl

/-- Meeting a name does not change the environment. -/
theorem binding_bind (analyzer : Analyzer) (name : String) (token : Option Token) :
    (analyzer.bind name token).2.binding = analyzer.binding := by
  rw [bind]
  split
  next => rfl
  next hnone =>
    -- The new declaration is the binding the name had already; other names do not see it.
    funext other
    rw [declare]
    by_cases hname : name = other
    · subst hname
      rw [binding, binding, hnone, SymbolTable.lookup_add_of_none hnone rfl rfl]
      rfl
    · rw [binding, binding, SymbolTable.lookup_add_of_ne hname]
      rfl

theorem diagnostics_bind (analyzer : Analyzer) (name : String) (token : Option Token) :
    (analyzer.bind name token).2.diagnostics = analyzer.diagnostics := by
  rw [bind]
  split <;> rfl

/-- An operator gets the type of the verdict, and its fault is added to the diagnostics. -/
theorem typeOperator_eq (analyzer : Analyzer) (operator : Token) (left right : String) :
    analyzer.typeOperator operator left right =
      ((verdict operator.text left right).1,
        { analyzer with
          diagnostics := analyzer.diagnostics ++
            ((verdict operator.text left right).2.map (Diagnostic.mk · operator)).toList }) := by
  rw [typeOperator, verdict]
  cases operatorType operator.text left right with
  | ok type => simp
  | error fault => simp

end Analyzer

/-! ## Annotated trees -/

/-- The tree with the type of every node and the binding of every name. -/
def annotate (bindings : String → Binding) : Expr → Expr
  | .ident name token _ => .ident name token (some (bindings name))
  | .binary left operator right _ =>
    .binary (annotate bindings left) operator (annotate bindings right)
      (some (typeOf (fun name => (bindings name).type) (.binary left operator right none)))
  | .paren inner _ =>
    .paren (annotate bindings inner) (some (typeOf (fun name => (bindings name).type) inner))

section Annotate

variable (bindings : String → Binding) (env : String → String) (tree : Expr)

@[simp] theorem typeOf_annotate : typeOf env (annotate bindings tree) = typeOf env tree := by
  induction tree with
  | ident => rfl
  | binary _ _ _ _ ihleft ihright => rw [annotate, typeOf, typeOf, ihleft, ihright]
  | paren _ _ ih => exact ih

@[simp] theorem report_annotate : report env (annotate bindings tree) = report env tree := by
  cases tree with
  | ident => rfl
  | binary => simp only [annotate, report, typeOf_annotate]
  | paren => rfl

/-- What is reported in a tree, in post-order. -/
def reports : List Diagnostic :=
  tree.postorder.filterMap (report env)

@[simp] theorem reports_ident (name : String) (token : Option Token) (binding : Option Binding) :
    reports env (.ident name token binding) = [] := by
  rw [reports, Expr.postorder_ident]
  rfl

@[simp] theorem reports_paren (inner : Expr) (type : Option String) :
    reports env (.paren inner type) = reports env inner := by
  rw [reports, Expr.postorder_paren, List.filterMap_append]
  exact List.append_nil _

/-- The operands are reported from left to right, and then the operator. -/
@[simp] theorem reports_binary (left : Expr) (operator : Token) (right : Expr)
    (type : Option String) :
    reports env (.binary left operator right type) =
      reports env left ++ reports env right ++
        (report env (.binary left operator right type)).toList := by
  rw [reports, Expr.postorder_binary, List.filterMap_append, List.filterMap_append]
  cases hroot : report env (.binary left operator right type) with
  | none => rw [List.filterMap_cons_none hroot]; rfl
  | some diagnostic => rw [List.filterMap_cons_some hroot]; rfl

theorem reports_annotate : reports env (annotate bindings tree) = reports env tree := by
  induction tree with
  | ident => rw [annotate, reports_ident, reports_ident]
  | binary left operator right type ihleft ihright =>
      have hroot := report_annotate bindings env (.binary left operator right type)
      rw [annotate] at hroot
      rw [annotate, reports_binary, reports_binary, ihleft, ihright, hroot]
  | paren _ _ ih => rw [annotate, reports_paren, reports_paren, ih]

theorem bare_annotate : (annotate bindings tree).bare = tree.bare := by
  induction tree with
  | ident => rfl
  | binary _ _ _ _ ihleft ihright => rw [annotate, Expr.bare, Expr.bare, ihleft, ihright]
  | paren _ _ ih => rw [annotate, Expr.bare, Expr.bare, ih]

/-- An annotated tree has the type of the typing rules at its root. -/
theorem type?_annotate :
    (annotate bindings tree).type? = some (typeOf (fun name => (bindings name).type) tree) := by
  cases tree <;> rfl

/-- Every node of an annotated tree has the type of the typing rules. -/
theorem type?_of_mem_postorder_annotate :
    ∀ node ∈ (annotate bindings tree).postorder,
      node.type? = some (typeOf (fun name => (bindings name).type) node) := by
  induction tree with
  | ident name token binding =>
      intro node hnode
      obtain rfl : node = _ := List.mem_singleton.1 (by simpa [annotate] using hnode)
      rfl
  | binary left operator right type ihleft ihright =>
      intro node hnode
      have hroot := type?_annotate bindings (.binary left operator right type)
      rw [← typeOf_annotate bindings] at hroot
      rw [annotate] at hnode hroot
      rw [Expr.postorder_binary, List.mem_append, List.mem_append, List.mem_singleton] at hnode
      rcases hnode with (hleft | hright) | rfl
      · exact ihleft node hleft
      · exact ihright node hright
      · exact hroot
  | paren inner type ih =>
      intro node hnode
      have hroot := type?_annotate bindings (.paren inner type)
      rw [← typeOf_annotate bindings] at hroot
      rw [annotate] at hnode hroot
      rw [Expr.postorder_paren, List.mem_append, List.mem_singleton] at hnode
      rcases hnode with hinner | rfl
      · exact ih node hinner
      · exact hroot

end Annotate

/-! ## Analyzing a tree -/

namespace Analyzer

/-- Visits a node, given the trees that are finished, the last one first: the node takes up its
operands and is finished with them. -/
def visit : List Expr × Analyzer → Expr → List Expr × Analyzer
  | (finished, analyzer), .ident name token _ =>
    let (entry, analyzer) := analyzer.bind name token
    (.ident name token (some entry.binding) :: finished, analyzer)
  | (right :: left :: finished, analyzer), .binary _ operator _ _ =>
    let (type, analyzer) :=
      analyzer.typeOperator operator (typeOfAnalyzed left) (typeOfAnalyzed right)
    (.binary left operator right (some type) :: finished, analyzer)
  | (inner :: finished, analyzer), .paren _ _ => (.paren inner inner.type? :: finished, analyzer)
  | state, _ => state

/-- Visiting the nodes of a tree in post-order finishes the analyzed tree. -/
theorem foldl_visit (tree : Expr) (finished : List Expr) (analyzer : Analyzer) :
    tree.postorder.foldl visit (finished, analyzer) =
      ((analyzer.analyze tree).1 :: finished, (analyzer.analyze tree).2) := by
  induction tree generalizing finished analyzer with
  | ident name token binding =>
      rw [Expr.postorder_ident]
      rfl
  | binary left operator right type ihleft ihright =>
      rw [Expr.postorder_binary, List.foldl_append, List.foldl_append, ihleft, ihright]
      rfl
  | paren inner type ih =>
      rw [Expr.postorder_paren, List.foldl_append, ih]
      rfl

/-- What an analysis makes of a tree: it annotates the tree in the environment of the analyzer, does
not change the environment, and adds what the typing rules report. -/
structure Analyzes (analyzer : Analyzer) (tree : Expr) (result : Expr × Analyzer) : Prop where
  tree_eq : result.1 = annotate analyzer.binding tree
  binding_eq : result.2.binding = analyzer.binding
  diagnostics_eq : result.2.diagnostics =
    analyzer.diagnostics ++ reports analyzer.visibleType tree

/-- The type that an operator is judged by is the one of the typing rules. -/
theorem Analyzes.typeOfAnalyzed_eq {analyzer : Analyzer} {tree : Expr}
    {result : Expr × Analyzer} (h : analyzer.Analyzes tree result) :
    typeOfAnalyzed result.1 = typeOf analyzer.visibleType tree := by
  rw [typeOfAnalyzed, h.tree_eq, type?_annotate, visibleType_eq, Option.getD_some]

theorem Analyzes.visibleType_eq {analyzer : Analyzer} {tree : Expr}
    {result : Expr × Analyzer} (h : analyzer.Analyzes tree result) :
    result.2.visibleType = analyzer.visibleType := by
  rw [Analyzer.visibleType_eq, Analyzer.visibleType_eq, h.binding_eq]

theorem analyzes_analyze (analyzer : Analyzer) (tree : Expr) :
    analyzer.Analyzes tree (analyzer.analyze tree) := by
  -- Induction on the tree; the analyzer is arbitrary, since each operand is analyzed by the
  -- analyzer that the walk has left so far.
  induction tree generalizing analyzer with
  | ident name token binding =>
      refine ⟨?_, analyzer.binding_bind name token, ?_⟩
      · have hbinding := analyzer.binding_bind_fst name token
        rw [SymbolEntry.binding] at hbinding
        rw [analyze, annotate, ← hbinding]
      · rw [analyze, reports_ident, List.append_nil]
        exact analyzer.diagnostics_bind name token
  | binary left operator right type ihleft ihright =>
      have hleft := ihleft analyzer
      have hright := ihright (analyzer.analyze left).2
      have htypes : typeOfAnalyzed ((analyzer.analyze left).2.analyze right).1 =
          typeOf analyzer.visibleType right := by
        rw [hright.typeOfAnalyzed_eq, hleft.visibleType_eq]
      simp only [analyze, typeOperator_eq, hleft.typeOfAnalyzed_eq, htypes]
      refine ⟨?_, ?_, ?_⟩
      · rw [hleft.tree_eq, hright.tree_eq, hleft.binding_eq, annotate, visibleType_eq]
        rfl
      · exact hright.binding_eq.trans hleft.binding_eq
      · rw [hright.diagnostics_eq, hleft.diagnostics_eq, hleft.visibleType_eq, reports_binary]
        simp only [report, List.append_assoc]
  | paren inner type ih =>
      have hinner := ih analyzer
      refine ⟨?_, hinner.binding_eq, ?_⟩
      · rw [analyze, annotate]
        simp only [hinner.tree_eq, type?_annotate]
      · rw [reports_paren]
        exact hinner.diagnostics_eq

/-- An analysis visits the nodes of a tree one by one in post-order. Whatever was declared, entered,
left or analyzed before, it gives every node the type that the typing rules give it in the
environment of the analyzer, and adds the diagnostics that the rules report of the nodes, in
post-order. The tree stays the same apart from its annotations, and the environment stays the
same. -/
theorem analyze_hasType (analyzer : Analyzer) (tree : Expr) :
    tree.postorder.foldl visit ([], analyzer) =
        ([(analyzer.analyze tree).1], (analyzer.analyze tree).2) ∧
      (analyzer.analyze tree).1.bare = tree.bare ∧
      (∀ node ∈ (analyzer.analyze tree).1.postorder, ∃ type, node.type? = some type ∧
        ∀ other reported, HasType analyzer.visibleType node other reported ↔
          other = type ∧ reported = report analyzer.visibleType node) ∧
      (analyzer.analyze tree).2.diagnostics = analyzer.diagnostics ++
        (analyzer.analyze tree).1.postorder.filterMap (report analyzer.visibleType) ∧
      (analyzer.analyze tree).2.visibleType = analyzer.visibleType := by
  have h := analyzer.analyzes_analyze tree
  refine ⟨foldl_visit tree [] analyzer, ?_, ?_, ?_, h.visibleType_eq⟩
  · rw [h.tree_eq, bare_annotate]
  · intro node hnode
    rw [h.tree_eq] at hnode
    refine ⟨_, type?_of_mem_postorder_annotate _ _ node hnode, ?_⟩
    intro other reported
    rw [hasType_iff, visibleType_eq, eq_comm, eq_comm (a := reported)]
  · have hsame : reports analyzer.visibleType (analyzer.analyze tree).1 =
        reports analyzer.visibleType tree := by
      rw [h.tree_eq, reports_annotate]
    rw [h.diagnostics_eq, ← hsame, reports]

end Analyzer

end GrammarWorkbench.Typing
