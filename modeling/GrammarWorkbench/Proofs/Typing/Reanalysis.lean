import GrammarWorkbench.Proofs.Typing.Success

/-!
# Analyzing a tree again

An analysis declares the names that it meets and that are not visible. From then on they are
visible, in whatever scopes the analysis takes place, and further declarations do not change that
(`SymbolTable.isSome_lookup_meet`). Meeting the same names once more therefore declares nothing
(`SymbolTable.foldl_meet_again`). As the environment did not change either, a second analysis makes
the same tree again and reports the same (`Analyzer.analyze_again`).
-/

set_option autoImplicit false

namespace GrammarWorkbench.Typing

open GrammarWorkbench.Expression (Expr Token Binding)

/-! ## Names that were met -/

namespace SymbolTable

variable {table : SymbolTable} {name : String} (settings : Settings)

theorem isSome_lookup_add (h : (table.lookup name none).isSome = true) (entry : SymbolEntry) :
    ((table.add entry).lookup name none).isSome = true := by
  rw [lookup, List.isSome_findSome?, List.any_eq_true] at h ⊢
  obtain ⟨scope, hscope, hfound⟩ := h
  refine ⟨scope, hscope, ?_⟩
  rw [findIn_add, Option.isSome_or, hfound, Bool.true_or]

/-- A name that is visible stays visible while others are met. -/
theorem isSome_lookup_meet (h : (table.lookup name none).isSome = true)
    (leaf : String × Option Token) :
    ((table.meet settings leaf).lookup name none).isSome = true := by
  rw [meet]
  split
  · exact h
  · exact isSome_lookup_add h _

/-- A name is visible as soon as it is met. -/
theorem isSome_lookup_meet_self (table : SymbolTable) (leaf : String × Option Token) :
    ((table.meet settings leaf).lookup leaf.1 none).isSome = true := by
  rw [meet]
  split
  next hvisible => exact hvisible
  next hhidden =>
    have hnone : table.lookup leaf.1 none = none := Option.not_isSome_iff_eq_none.1 hhidden
    rw [lookup_add_of_none hnone rfl rfl, Option.isSome_some]

theorem isSome_lookup_foldl_meet (h : (table.lookup name none).isSome = true)
    (leaves : List (String × Option Token)) :
    ((leaves.foldl (meet settings) table).lookup name none).isSome = true := by
  induction leaves generalizing table with
  | nil => exact h
  | cons leaf later ih => exact ih (isSome_lookup_meet settings h leaf)

/-- All names that were met are visible. -/
theorem forall_isSome_lookup_foldl_meet (table : SymbolTable)
    (leaves : List (String × Option Token)) :
    ∀ leaf ∈ leaves, ((leaves.foldl (meet settings) table).lookup leaf.1 none).isSome = true := by
  induction leaves generalizing table with
  | nil => exact nofun
  | cons first later ih =>
      intro leaf hmem
      rcases List.mem_cons.1 hmem with rfl | hlater
      · exact isSome_lookup_foldl_meet settings (isSome_lookup_meet_self settings table leaf) later
      · exact ih (table.meet settings first) leaf hlater

/-- Meeting names that are visible declares nothing. -/
theorem foldl_meet_of_visible (leaves : List (String × Option Token))
    (h : ∀ leaf ∈ leaves, (table.lookup leaf.1 none).isSome = true) :
    leaves.foldl (meet settings) table = table := by
  induction leaves with
  | nil => rfl
  | cons leaf later ih =>
      have hmeet : table.meet settings leaf = table := if_pos (h leaf List.mem_cons_self)
      rw [List.foldl_cons, hmeet]
      exact ih fun other hother => h other (List.mem_cons_of_mem leaf hother)

/-- Meeting the same names again declares nothing more. -/
theorem foldl_meet_again (table : SymbolTable) (leaves : List (String × Option Token)) :
    leaves.foldl (meet settings) (leaves.foldl (meet settings) table) =
      leaves.foldl (meet settings) table :=
  foldl_meet_of_visible settings leaves (forall_isSome_lookup_foldl_meet settings table leaves)

end SymbolTable

/-! ## The second analysis -/

/-- Annotating a tree again in the same environment changes nothing. -/
theorem annotate_annotate (bindings : String → Binding) (tree : Expr) :
    annotate bindings (annotate bindings tree) = annotate bindings tree := by
  induction tree with
  | ident => rfl
  | binary left operator right type ihleft ihright =>
      simp only [annotate, ihleft, ihright, typeOf, typeOf_annotate]
  | paren inner type ih => simp only [annotate, ih, typeOf_annotate]

namespace Analyzer

/-- A second analysis of a tree right after the first changes neither the type of a node nor the
binding of a name, and neither an entry of the symbol table nor the order of the entries nor the
scopes. It adds the diagnostics of the first analysis once more, in the same order. -/
theorem analyze_again (analyzer : Analyzer) (tree : Expr) :
    ∃ typed next added, analyzer.analyze tree = (typed, next) ∧
      next.diagnostics = analyzer.diagnostics ++ added ∧
      next.analyze typed = (typed, { next with diagnostics := next.diagnostics ++ added }) := by
  obtain ⟨⟨typed, next⟩, hresult⟩ : ∃ result, analyzer.analyze tree = result := ⟨_, rfl⟩
  have hfirst := analyzer.analyzes_analyze tree
  have hmet := analyzer.table_analyze tree
  rw [hresult] at hfirst hmet
  obtain ⟨hsettings, htable⟩ := hmet
  have htyped : typed = annotate analyzer.binding tree := hfirst.tree_eq
  refine ⟨typed, next, reports analyzer.visibleType tree, hresult, hfirst.diagnostics_eq, ?_⟩
  have hsecond := next.analyzes_analyze typed
  have htree : (next.analyze typed).1 = typed := by
    rw [hsecond.tree_eq, hfirst.binding_eq, htyped, annotate_annotate]
  have hsame : (next.analyze typed).2.table = next.table := by
    -- The names in the analyzed tree are those that the first analysis met.
    have hleaves : typed.leaves = tree.leaves := by rw [htyped, leaves_annotate]
    rw [(next.table_analyze typed).2, hleaves, hsettings, htable, SymbolTable.foldl_meet_again]
  have hdiagnostics : (next.analyze typed).2.diagnostics =
      next.diagnostics ++ reports analyzer.visibleType tree := by
    rw [hsecond.diagnostics_eq, hfirst.visibleType_eq, htyped, reports_annotate]
  calc next.analyze typed
      = ((next.analyze typed).1, ⟨(next.analyze typed).2.settings,
          (next.analyze typed).2.table, (next.analyze typed).2.diagnostics⟩) := rfl
    _ = (typed, ⟨next.settings, next.table,
          next.diagnostics ++ reports analyzer.visibleType tree⟩) := by
        rw [htree, (next.table_analyze typed).1, hsame, hdiagnostics]

end Analyzer

end GrammarWorkbench.Typing
