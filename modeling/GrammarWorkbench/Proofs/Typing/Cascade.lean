import Mathlib.Logic.Relation
import GrammarWorkbench.Proofs.Expression.Positions
import GrammarWorkbench.Proofs.Typing.Declarations
import GrammarWorkbench.Typing.Analysis

/-!
# Diagnostics do not cascade

An operator that is reported is in error, and so is every node above it, but a node with an operand
in error is not reported. The reported operators of a tree are therefore never one below the other
(`report_eq_none_of_below`), and a tree is in error exactly if something in it is at fault: a
reported operator, or a name whose type is the error type (`typeOf_eq_errorType_iff`).

Post-order visits an operator after its right operand. As nothing in the operands of a reported
operator is reported, the diagnostics still come in the order in which the operators stand in the
source text (`map_operator_reports_sublist`).
-/

set_option autoImplicit false

namespace GrammarWorkbench.Typing

open GrammarWorkbench.Expression (Expr Token Binding NestingLimit Parser Spells tokenize)

/-! ## Errors are passed on upwards -/

/-- The faults of an operator are those of its operands and its own. -/
theorem verdict_eq_errorType_iff {operator left right : String} :
    (verdict operator left right).1 = errorType ↔
      left = errorType ∨ right = errorType ∨ (verdict operator left right).2.isSome = true := by
  have hrule := operatorRule_verdict operator left right
  generalize (verdict operator left right).1 = type at hrule ⊢
  generalize (verdict operator left right).2 = fault at hrule ⊢
  cases hrule with
  | passedOn h => simpa using h
  | shift _ hleft hright => subst hleft hright; decide
  | sum _ hleft hright => subst hleft hright; decide
  | widened _ hleft hright =>
      rcases hleft with rfl | rfl <;> rcases hright with rfl | rfl <;> decide
  | unknown => simp
  | shiftMismatch => simp
  | sumMismatch => simp
  | unsupported => simp

/-- An operator with an operand in error is not reported. -/
theorem verdict_of_error {operator left right : String} (h : left = errorType ∨ right = errorType) :
    verdict operator left right = (errorType, none) :=
  (OperatorRule.passedOn h).verdict_eq

section Environment

variable {env : String → String} {tree lower upper : Expr}

/-- A reported operator is in error. -/
theorem typeOf_of_report (h : (report env tree).isSome = true) : typeOf env tree = errorType := by
  cases tree with
  | ident => cases h
  | paren => cases h
  | binary left operator right type =>
      rw [report, Option.isSome_map] at h
      rw [typeOf, verdict_eq_errorType_iff]
      exact .inr (.inr h)

/-- A node above one in error is in error as well, and not reported. -/
theorem passes_on (hchild : lower ∈ upper.children) (herror : typeOf env lower = errorType) :
    typeOf env upper = errorType ∧ report env upper = none := by
  cases upper with
  | ident => cases hchild
  | paren inner type =>
      obtain rfl := List.mem_singleton.1 hchild
      exact ⟨herror, rfl⟩
  | binary left operator right type =>
      have hoperand : typeOf env left = errorType ∨ typeOf env right = errorType := by
        rcases List.mem_cons.1 hchild with rfl | hright
        · exact .inl herror
        · exact .inr (List.mem_singleton.1 hright ▸ herror)
      rw [typeOf, report, verdict_of_error hoperand]
      exact ⟨rfl, rfl⟩

/-- One node is properly below another one. -/
def Below (lower upper : Expr) : Prop :=
  Relation.TransGen (fun child parent => child ∈ parent.children) lower upper

/-- No operator above a reported one is reported. -/
theorem report_eq_none_of_below (hbelow : Below lower upper)
    (hlower : (report env lower).isSome = true) : report env upper = none := by
  have hpassed : typeOf env upper = errorType ∧ report env upper = none := by
    induction hbelow with
    | single hchild => exact passes_on hchild (typeOf_of_report hlower)
    | tail _ hchild ih => exact passes_on hchild ih.1
  exact hpassed.2

/-- A node is at fault: it is an operator that is reported, or a name of the error type. -/
def IsAtFault (env : String → String) (node : Expr) : Prop :=
  (report env node).isSome = true ∨
    ∃ name token binding, node = .ident name token binding ∧ env name = errorType

/-- A tree is in error exactly if some node in it is at fault. -/
theorem typeOf_eq_errorType_iff :
    typeOf env tree = errorType ↔ ∃ node ∈ tree.postorder, IsAtFault env node := by
  induction tree with
  | ident name token binding =>
      constructor
      · intro herror
        exact ⟨_, Expr.mem_postorder_self _, .inr ⟨name, token, binding, rfl, herror⟩⟩
      · rintro ⟨node, hnode, hfault⟩
        rw [Expr.postorder_ident, List.mem_singleton] at hnode
        subst hnode
        rcases hfault with hreport | ⟨_, _, _, heq, herror⟩
        · cases hreport
        · cases heq
          exact herror
  | paren inner type ih =>
      have hroot : ¬ IsAtFault env (.paren inner type) := by
        rintro (hreport | ⟨_, _, _, heq, -⟩)
        · cases hreport
        · cases heq
      simp only [typeOf, ih, Expr.postorder_paren, List.mem_append, List.mem_singleton,
        or_and_right, exists_or, exists_eq_left, hroot, or_false]
  | binary left operator right type ihleft ihright =>
      have hroot : IsAtFault env (.binary left operator right type) ↔
          (verdict operator.text (typeOf env left) (typeOf env right)).2.isSome = true := by
        rw [IsAtFault, report, Option.isSome_map]
        exact or_iff_left (by rintro ⟨_, _, _, heq, -⟩; cases heq)
      simp only [typeOf, verdict_eq_errorType_iff, ihleft, ihright, Expr.postorder_binary,
        List.mem_append, List.mem_singleton, or_and_right, exists_or, exists_eq_left, hroot,
        or_assoc]

/-! ## The order of the diagnostics -/

/-- Nothing is reported in a tree that is not in error. -/
theorem reports_eq_nil (h : typeOf env tree ≠ errorType) : reports env tree = [] := by
  rw [reports, List.filterMap_eq_nil_iff]
  intro node hnode
  by_contra hreport
  exact h (typeOf_eq_errorType_iff.2 ⟨node, hnode, .inl (Option.isSome_iff_ne_none.2 hreport)⟩)

/-- The operators that are reported come in the order in which the tree keeps its tokens. -/
theorem map_operator_reports_sublist (env : String → String) (tree : Expr) :
    ((reports env tree).map fun diagnostic => some diagnostic.operator).Sublist tree.carried := by
  induction tree with
  | ident => simp
  | paren inner type ih =>
      rw [reports_paren]
      exact ih
  | binary left operator right type ihleft ihright =>
      rw [reports_binary, Expr.carried]
      cases hroot : report env (.binary left operator right type) with
      | none =>
          rw [Option.toList_none, List.append_nil, List.map_append]
          exact ihleft.append (ihright.cons _)
      | some diagnostic =>
          -- The operands of a reported operator are not in error, so nothing is reported in them.
          have hreported : (report env (.binary left operator right type)).isSome = true := by
            rw [hroot]
            rfl
          have hleft : typeOf env left ≠ errorType := by
            intro herror
            rw [(passes_on List.mem_cons_self herror).2] at hreported
            cases hreported
          have hright : typeOf env right ≠ errorType := by
            intro herror
            rw [(passes_on (List.mem_cons_of_mem _ List.mem_cons_self) herror).2] at hreported
            cases hreported
          rw [report, Option.map_eq_some_iff] at hroot
          obtain ⟨fault, -, rfl⟩ := hroot
          rw [reports_eq_nil hleft, reports_eq_nil hright]
          simp

end Environment

section Limit

variable {limit : NestingLimit}

/-- What is reported in the tree of a source text comes in the order of the text. -/
theorem pairwise_precedes_reports {source : String} {tree : Expr}
    (hparse : ((Parser.ofSource source).parse limit).1 = some tree) (env : String → String) :
    (reports env tree).Pairwise fun diagnostic later =>
      diagnostic.operator.Precedes later.operator := by
  obtain ⟨-, -, hcarried⟩ := Expression.flatten_of_parse hparse
  have hsublist : ((reports env tree).map Diagnostic.operator).Sublist
      (tokenize source).dropLast := by
    have hkept := (map_operator_reports_sublist env tree).filterMap id
    rw [hcarried, List.filterMap_map, List.filterMap_map] at hkept
    simp only [Function.comp_def, id_eq, List.filterMap_eq_map', List.filterMap_some] at hkept
    exact hkept.trans List.filter_sublist
  rw [Expression.dropLast_tokenize] at hsublist
  exact List.pairwise_map.1 ((Expression.Cursor.scan_inOrder _).2.sublist hsublist)

/-! ## The analysis of a source text -/

/-- The analysis of a text that parses is that of its tree by an analyzer with the declarations. -/
theorem analyzeSource_eq (settings : Settings) (declarations : List (String × String))
    {source : String} {tree : Expr}
    (hparse : ((Parser.ofSource source).parse limit).1 = some tree) :
    ∃ typed, (analyzeSource limit settings declarations source).tree = some typed ∧
      typed = annotate (Analyzer.ofDeclarations settings declarations).binding tree ∧
      (analyzeSource limit settings declarations source).semanticErrors =
        (reports (declaredType settings declarations) tree).map Diagnostic.message := by
  have hpair : (Parser.ofSource source).parse limit =
      (some tree, ((Parser.ofSource source).parse limit).2) := Prod.ext hparse rfl
  have hanalysis := (Analyzer.ofDeclarations settings declarations).analyzes_analyze tree
  have hdiagnostics := hanalysis.diagnostics_eq
  rw [Analyzer.visibleType_ofDeclarations] at hdiagnostics
  rw [analyzeSource, hpair]
  refine ⟨_, rfl, hanalysis.tree_eq, congrArg (List.map Diagnostic.message) ?_⟩
  rw [hdiagnostics, Analyzer.ofDeclarations_eq, List.nil_append]

end Limit

/-- In the analysis of a text that parses, no reported operator is below another one, the
diagnostics come in the order in which their operators stand in the text, and a node is in error
exactly if it has an operator that is reported or a name of the error type in it. -/
theorem reported_in_source_order (limit : NestingLimit) (settings : Settings)
    (declarations : List (String × String)) (source : String) (tree : Expr)
    (hparse : ((Parser.ofSource source).parse limit).1 = some tree) :
    ∃ typed, (analyzeSource limit settings declarations source).tree = some typed ∧
      typed.bare = tree.bare ∧
      (analyzeSource limit settings declarations source).semanticErrors =
        (typed.postorder.filterMap (report (declaredType settings declarations))).map
          Diagnostic.message ∧
      (∀ upper ∈ typed.postorder, ∀ lower, Below lower upper →
        ¬ ((report (declaredType settings declarations) upper).isSome = true ∧
          (report (declaredType settings declarations) lower).isSome = true)) ∧
      (typed.postorder.filterMap (report (declaredType settings declarations))).Pairwise
        (fun diagnostic later => diagnostic.operator.Precedes later.operator) ∧
      ∀ node ∈ typed.postorder, node.type? = some errorType ↔
        ∃ part ∈ node.postorder, IsAtFault (declaredType settings declarations) part := by
  obtain ⟨typed, htree, htyped, herrors⟩ := analyzeSource_eq settings declarations hparse
  have hreports : typed.postorder.filterMap (report (declaredType settings declarations)) =
      reports (declaredType settings declarations) tree := by
    rw [htyped]
    exact reports_annotate _ _ _
  refine ⟨typed, htree, by rw [htyped, bare_annotate], by rw [hreports, herrors], ?_, ?_, ?_⟩
  · rintro upper - lower hbelow ⟨hupper, hlower⟩
    rw [report_eq_none_of_below hbelow hlower] at hupper
    cases hupper
  · rw [hreports]
    exact pairwise_precedes_reports hparse _
  · intro node hnode
    rw [htyped] at hnode
    rw [type?_of_mem_postorder_annotate _ _ node hnode, Option.some.injEq,
      ← Analyzer.visibleType_eq, Analyzer.visibleType_ofDeclarations, typeOf_eq_errorType_iff]

/-- Both shifts of this text have an operand that is no whole number; their sum is in error as well,
but it is not reported. -/
theorem reported_in_source_order_shifts :
    (∃ tree, ((Parser.ofSource "(a << b) +\n (c >> a)").parse .usual).1 = some tree) ∧
      ∃ typed,
        (analyzeSource .usual {} [("a", "float")] "(a << b) +\n (c >> a)").tree = some typed ∧
        typed.type? = some errorType ∧
        (analyzeSource .usual {} [("a", "float")] "(a << b) +\n (c >> a)").semanticErrors =
          ["Semantic Error (line 1, col 4): Type mismatch for operator '<<'. " ++
              "Expected two integers, but got float and int.",
            "Semantic Error (line 2, col 5): Type mismatch for operator '>>'. " ++
              "Expected two integers, but got int and float."] ∧
        (typed.postorder.filterMap (report (declaredType {} [("a", "float")]))).Pairwise
          (fun diagnostic later => diagnostic.operator.Precedes later.operator) ∧
        ∃ part ∈ typed.postorder, IsAtFault (declaredType {} [("a", "float")]) part := by
  have hsome : ((Parser.ofSource "(a << b) +\n (c >> a)").parse .usual).1.isSome = true := by
    decide +kernel
  obtain ⟨tree, hparse⟩ := Option.isSome_iff_exists.1 hsome
  obtain ⟨typed, htyped, -, -, -, horder, herror⟩ :=
    reported_in_source_order .usual {} [("a", "float")] _ tree hparse
  have htype : (analyzeSource .usual {} [("a", "float")] "(a << b) +\n (c >> a)").tree.bind
      Expr.type? = some errorType := by
    decide +kernel
  rw [htyped, Option.bind_some] at htype
  exact ⟨⟨tree, hparse⟩, typed, htyped, htype, by decide +kernel, horder,
    (herror typed typed.mem_postorder_self).1 htype⟩

end GrammarWorkbench.Typing
