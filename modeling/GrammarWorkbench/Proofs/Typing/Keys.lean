import Mathlib.Logic.Relation
import GrammarWorkbench.Proofs.Typing.Annotation

/-!
# Keys of declarations

A name in a tree is bound to a declaration by its key, which is searched for again whenever the
declaration is asked for. The key of a name that is visited finds the very declaration that the name
got its type from (`Analyzer.resolve_bind`). Declarations are only added, and behind those that are
there already, so that a key finds what it found before at every later moment
(`Moment.Reaches.resolve`).
-/

set_option autoImplicit false

namespace GrammarWorkbench.Typing

open GrammarWorkbench.Expression (Expr Token Binding SymbolKey)

/-! ## What a key finds -/

namespace SymbolTable

variable {table : SymbolTable} {entry : SymbolEntry} {key : SymbolKey}

/-- A key that finds a declaration finds the same one after another is added. -/
theorem resolve_add (h : table.resolve key = some entry) (other : SymbolEntry) :
    (table.add other).resolve key = some entry := by
  rw [resolve] at h ⊢
  rw [findIn_add, h, Option.some_or]

theorem resolve_exitScope (h : table.resolve key = some entry) :
    table.exitScope.2.resolve key = some entry := by
  rw [exitScope]
  split <;> exact h

/-- What is found in a scope under a name is in the scope and has the name. -/
theorem key_of_findIn {name scope : String} (h : table.findIn name scope = some entry) :
    entry.key = ⟨name, scope⟩ := by
  have hname := (List.mem_filter.1 (List.mem_of_find?_eq_some h)).2
  have hscope := List.find?_some h
  rw [SymbolEntry.key, of_decide_eq_true hname, of_decide_eq_true hscope]

/-- The visible declaration of a name is found by its key. -/
theorem resolve_of_lookup {name : String} {scope : Option String}
    (h : table.lookup name scope = some entry) :
    entry.name = name ∧ table.resolve entry.key = some entry := by
  obtain ⟨place, -, hplace⟩ := List.exists_of_findSome?_eq_some h
  have hkey := key_of_findIn hplace
  refine ⟨congrArg SymbolKey.name hkey, ?_⟩
  rw [hkey]
  exact hplace

end SymbolTable

namespace Analyzer

variable {analyzer next : Analyzer} {name : String} {token : Option Token} {entry : SymbolEntry}

/-- A name is bound to the visible declaration, or to a new one if there is none. -/
theorem bind_cases (h : analyzer.bind name token = (entry, next)) :
    analyzer.table.lookup name none = some entry ∧ next = analyzer ∨
      analyzer.table.lookup name none = none ∧
        (entry.name = name ∧ entry.scope = analyzer.table.currentScope ∧
          entry.type = analyzer.settings.defaultType) ∧
        next = { analyzer with table := analyzer.table.add entry } := by
  rw [bind] at h
  split at h
  next found hfound =>
    cases h
    exact .inl ⟨hfound, rfl⟩
  next hnone =>
    cases h
    exact .inr ⟨hnone, ⟨rfl, rfl, rfl⟩, rfl⟩

/-- The declaration that a name is bound to is found by its key. -/
theorem resolve_bind (h : analyzer.bind name token = (entry, next)) :
    entry.name = name ∧ next.table.resolve entry.key = some entry := by
  rcases bind_cases h with ⟨hfound, rfl⟩ | ⟨hnone, ⟨hname, hscope, -⟩, rfl⟩
  · exact SymbolTable.resolve_of_lookup hfound
  · -- The new declaration is the visible one from now on.
    exact SymbolTable.resolve_of_lookup (SymbolTable.lookup_add_of_none hnone hname hscope)

/-- A visited name gets the type and the key of the declaration that it is bound to. -/
theorem visit_ident (h : analyzer.bind name token = (entry, next)) (finished : List Expr)
    (noted : Option Binding) :
    visit (finished, analyzer) (.ident name token noted) =
      (.ident name token (some ⟨entry.type, entry.key⟩) :: finished, next) := by
  rw [visit, h]
  rfl

/-- A visit to a node makes at most one new declaration. -/
theorem resolve_visit {key : SymbolKey} (h : analyzer.table.resolve key = some entry)
    (finished : List Expr) (node : Expr) :
    (visit (finished, analyzer) node).2.table.resolve key = some entry := by
  cases node with
  | ident name token noted =>
      obtain ⟨⟨declared, next⟩, hbind⟩ : ∃ result, analyzer.bind name token = result := ⟨_, rfl⟩
      rw [visit_ident hbind]
      rcases bind_cases hbind with ⟨-, rfl⟩ | ⟨-, -, rfl⟩
      · exact h
      · exact SymbolTable.resolve_add h declared
  | binary left operator right noted =>
      match finished with
      | [] => exact h
      | [_] => exact h
      | after :: before :: rest =>
          rw [visit, typeOperator_eq]
          exact h
  | paren inner noted =>
      cases finished <;> exact h

end Analyzer

/-! ## Moments of a session -/

/-- A moment of a session with an analyzer: the analyzer, the trees that are finished in the
analysis at hand, and the nodes that it has still to visit. -/
structure Moment where
  analyzer : Analyzer
  finished : List Expr
  pending : List Expr

namespace Moment

/-- What comes next in a session. Between analyses names are declared and scopes are entered and
left; an analysis visits the nodes of its tree one by one in post-order. -/
inductive Step : Moment → Moment → Prop
  | declare (analyzer : Analyzer) (finished : List Expr) (name type : String)
      (line column : Int) :
      Step ⟨analyzer, finished, []⟩ ⟨(analyzer.declare name type line column).2, finished, []⟩
  | enter (analyzer : Analyzer) (finished : List Expr) (scope : String) :
      Step ⟨analyzer, finished, []⟩ ⟨analyzer.enterScope scope, finished, []⟩
  | exit (analyzer : Analyzer) (finished : List Expr) :
      Step ⟨analyzer, finished, []⟩ ⟨analyzer.exitScope.2, finished, []⟩
  | analyze (analyzer : Analyzer) (finished : List Expr) (tree : Expr) :
      Step ⟨analyzer, finished, []⟩ ⟨analyzer, [], tree.postorder⟩
  | visit (analyzer : Analyzer) (finished : List Expr) (node : Expr) (pending : List Expr) :
      Step ⟨analyzer, finished, node :: pending⟩
        ⟨(Analyzer.visit (finished, analyzer) node).2,
          (Analyzer.visit (finished, analyzer) node).1, pending⟩

/-- A session comes from one moment to another. -/
abbrev Reaches : Moment → Moment → Prop :=
  Relation.ReflTransGen Step

variable {moment later : Moment} {key : SymbolKey} {entry : SymbolEntry}

theorem Step.resolve (hstep : Step moment later)
    (h : moment.analyzer.table.resolve key = some entry) :
    later.analyzer.table.resolve key = some entry := by
  cases hstep with
  | declare analyzer finished name type line column => exact SymbolTable.resolve_add h _
  | enter analyzer finished scope => exact h
  | exit analyzer finished => exact SymbolTable.resolve_exitScope h
  | analyze analyzer finished tree => exact h
  | visit analyzer finished node pending => exact Analyzer.resolve_visit h finished node

/-- A key that finds a declaration finds the same one at every later moment. -/
theorem Reaches.resolve (hlater : Reaches moment later)
    (h : moment.analyzer.table.resolve key = some entry) :
    later.analyzer.table.resolve key = some entry := by
  induction hlater with
  | refl => exact h
  | tail _ hstep ih => exact hstep.resolve ih

theorem reaches_foldl_visit (analyzer : Analyzer) (finished pending : List Expr) :
    Reaches ⟨analyzer, finished, pending⟩
      ⟨(pending.foldl Analyzer.visit (finished, analyzer)).2,
        (pending.foldl Analyzer.visit (finished, analyzer)).1, []⟩ := by
  induction pending generalizing analyzer finished with
  | nil => exact .refl
  | cons node pending ih => exact .head (.visit analyzer finished node pending) (ih _ _)

/-- An analysis comes to its end with the analyzed tree. -/
theorem reaches_analyze (analyzer : Analyzer) (finished : List Expr) (tree : Expr) :
    Reaches ⟨analyzer, finished, []⟩
      ⟨(analyzer.analyze tree).2, [(analyzer.analyze tree).1], []⟩ := by
  have hvisits := reaches_foldl_visit analyzer [] tree.postorder
  rw [Analyzer.foldl_visit] at hvisits
  exact .head (.analyze analyzer finished tree) hvisits

/-! ## The keys in an analyzed tree -/

/-- Every name in a tree has the type and the key of a declaration of it that the key finds. -/
def Bound (table : SymbolTable) (tree : Expr) : Prop :=
  ∀ name token noted, .ident name token noted ∈ tree.postorder →
    ∃ entry : SymbolEntry, noted = some ⟨entry.type, entry.key⟩ ∧ entry.name = name ∧
      table.resolve entry.key = some entry

theorem Reaches.bound {tree : Expr} (hlater : Reaches moment later)
    (h : Bound moment.analyzer.table tree) : Bound later.analyzer.table tree := by
  intro name token noted hmem
  obtain ⟨entry, hnoted, hname, hresolve⟩ := h name token noted hmem
  exact ⟨entry, hnoted, hname, hlater.resolve hresolve⟩

theorem bound_analyze (analyzer : Analyzer) (tree : Expr) :
    Bound (analyzer.analyze tree).2.table (analyzer.analyze tree).1 := by
  induction tree generalizing analyzer with
  | ident name token noted =>
      obtain ⟨⟨entry, next⟩, hbind⟩ : ∃ result, analyzer.bind name token = result := ⟨_, rfl⟩
      intro other otherToken otherNoted hmem
      rw [Analyzer.analyze, hbind] at hmem ⊢
      rw [Expr.postorder_ident, List.mem_singleton] at hmem
      cases hmem
      exact ⟨entry, rfl, Analyzer.resolve_bind hbind⟩
  | binary left operator right noted ihleft ihright =>
      -- The names on the left keep their keys while the right operand is analyzed.
      have hleft : Bound ((analyzer.analyze left).2.analyze right).2.table
          (analyzer.analyze left).1 :=
        (reaches_analyze (analyzer.analyze left).2 [] right).bound (ihleft analyzer)
      have hright := ihright (analyzer.analyze left).2
      intro name token binding hmem
      rw [Analyzer.analyze] at hmem ⊢
      simp only [Analyzer.typeOperator_eq] at hmem ⊢
      rw [Expr.postorder_binary, List.mem_append, List.mem_append, List.mem_singleton] at hmem
      rcases hmem with (hmem | hmem) | hmem
      · exact hleft name token binding hmem
      · exact hright name token binding hmem
      · cases hmem
  | paren inner noted ih =>
      intro name token binding hmem
      rw [Analyzer.analyze] at hmem ⊢
      rw [Expr.postorder_paren, List.mem_append, List.mem_singleton] at hmem
      rcases hmem with hmem | hmem
      · exact ih analyzer name token binding hmem
      · cases hmem

/-- Keys neither dangle nor drift. Analyses are made of visits to nodes. Whenever a name is visited,
at whatever moment of a session, it gets the type and the key of one declaration of this name: the
visible one, or a new one if none is visible. The key finds this declaration right after the visit
and at every later moment, whatever is declared, entered, left or analyzed until then. So do the
keys of all names in an analyzed tree. -/
theorem visited_key_resolves (analyzer : Analyzer) (finished : List Expr) :
    (∀ tree, Reaches ⟨analyzer, finished, []⟩
      ⟨(analyzer.analyze tree).2, [(analyzer.analyze tree).1], []⟩) ∧
    (∀ name token noted pending, ∃ entry next,
      Analyzer.visit (finished, analyzer) (.ident name token noted) =
        (.ident name token (some ⟨entry.type, entry.key⟩) :: finished, next) ∧
      (analyzer.table.lookup name none = some entry ∧ next = analyzer ∨
        analyzer.table.lookup name none = none ∧
          entry.type = analyzer.settings.defaultType ∧
          next.table.declared = analyzer.table.declared ++ [entry]) ∧
      entry.name = name ∧ next.table.resolve entry.key = some entry ∧
      ∀ later, Reaches
          ⟨next, .ident name token (some ⟨entry.type, entry.key⟩) :: finished, pending⟩ later →
        later.analyzer.table.resolve entry.key = some entry) ∧
    ∀ tree later, Reaches ⟨(analyzer.analyze tree).2, [(analyzer.analyze tree).1], []⟩ later →
      Bound later.analyzer.table (analyzer.analyze tree).1 := by
  refine ⟨reaches_analyze analyzer finished, ?_, ?_⟩
  · intro name token noted pending
    obtain ⟨⟨entry, next⟩, hbind⟩ : ∃ result, analyzer.bind name token = result := ⟨_, rfl⟩
    obtain ⟨hname, hresolve⟩ := Analyzer.resolve_bind hbind
    refine ⟨entry, next, Analyzer.visit_ident hbind finished noted, ?_, hname, hresolve, ?_⟩
    · rcases Analyzer.bind_cases hbind with hvisible | ⟨hnone, ⟨-, -, htype⟩, rfl⟩
      · exact .inl hvisible
      · exact .inr ⟨hnone, htype, rfl⟩
    · intro later hlater
      exact hlater.resolve hresolve
  · intro tree later hlater
    exact hlater.bound (bound_analyze analyzer tree)

/-- An analyzer inside a scope, with a name declared twice outside of it. -/
def redeclared : Analyzer :=
  ((Analyzer.ofDeclarations {} [("x", "float")]).declare "x" "int" 1 1).2.enterScope "body"

/-- The key of the first declaration is handed out, and still finds it after the name is declared
once more inside, and after the scope is left. -/
theorem visited_key_resolves_redeclared :
    ∃ next later,
      Analyzer.visit ([], redeclared) (.ident "x" none none) =
        ([.ident "x" none (some ⟨"float", "x", "global"⟩)], next) ∧
      later = (next.declare "x" "unknown" 2 1).2.exitScope.2 ∧
      later.table.resolve ⟨"x", "global"⟩ = some ⟨"x", "float", "global", 0, 0⟩ := by
  obtain ⟨-, hvisit, -⟩ := visited_key_resolves redeclared []
  obtain ⟨entry, next, hnext, hbound, -, -, hlater⟩ := hvisit "x" none none []
  have hlookup : redeclared.table.lookup "x" none = some ⟨"x", "float", "global", 0, 0⟩ := by
    decide
  rcases hbound with ⟨hfound, -⟩ | ⟨hnone, -⟩
  · obtain rfl := Option.some.inj (hfound.symm.trans hlookup)
    exact ⟨next, _, hnext, rfl,
      hlater _ (.tail (.single (.declare next _ "x" "unknown" 2 1)) (.exit _ _))⟩
  · cases hnone.symm.trans hlookup

end Moment

end GrammarWorkbench.Typing
