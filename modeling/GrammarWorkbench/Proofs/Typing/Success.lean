import GrammarWorkbench.Proofs.Typing.Cascade
import GrammarWorkbench.Proofs.Typing.Entries

/-!
# What the success of an analysis says about types

An analysis succeeds if nothing is reported, while a node is in error by its type. Both agree as
long as every error has a report at its origin. The one origin without a report is a name whose type
is the error type itself, by its declaration or as the default type: nothing is reported in a tree
exactly if every node in error has such a name in it (`reports_eq_nil_iff`). Success therefore is
the absence of errors for all texts without such names (`wellTyped_iff_success`).
-/

set_option autoImplicit false

namespace GrammarWorkbench.Typing

open GrammarWorkbench.Expression (Expr Token NestingLimit Parser tokenize identifiers)

/-! ## Names of the error type -/

/-- Some name in a tree has the error type. -/
def NamesError (env : String → String) (tree : Expr) : Prop :=
  ∃ leaf ∈ tree.leaves, env leaf.1 = errorType

section Environment

variable {env : String → String} {tree node : Expr}

/-- The names of a tree are the names among its nodes. -/
theorem namesError_iff :
    NamesError env tree ↔
      ∃ name token binding, .ident name token binding ∈ tree.postorder ∧ env name = errorType := by
  induction tree with
  | ident name token binding =>
      simp only [NamesError, Expr.leaves, Expr.postorder_ident, List.mem_singleton]
      constructor
      · rintro ⟨leaf, rfl, herror⟩
        exact ⟨name, token, binding, rfl, herror⟩
      · rintro ⟨_, _, _, heq, herror⟩
        cases heq
        exact ⟨_, rfl, herror⟩
  | binary left operator right type ihleft ihright =>
      simp only [NamesError, Expr.leaves, List.mem_append, or_and_right, exists_or]
        at ihleft ihright ⊢
      rw [ihleft, ihright]
      simp [or_and_right, exists_or]
  | paren inner type ih =>
      simp only [NamesError, Expr.leaves] at ih ⊢
      rw [ih]
      simp

/-- A tree has the names of all trees in it. -/
theorem NamesError.above (h : NamesError env node) (hnode : node ∈ tree.postorder) :
    NamesError env tree := by
  obtain ⟨name, token, binding, hmem, herror⟩ := namesError_iff.1 h
  exact namesError_iff.2 ⟨name, token, binding, Expr.mem_postorder_trans hmem hnode, herror⟩

/-- A name of the error type puts every tree around it in error. -/
theorem typeOf_of_namesError (h : NamesError env tree) : typeOf env tree = errorType := by
  obtain ⟨name, token, binding, hmem, herror⟩ := namesError_iff.1 h
  exact typeOf_eq_errorType_iff.2 ⟨_, hmem, .inr ⟨name, token, binding, rfl, herror⟩⟩

/-- There is no name of the error type in the operands of a reported operator. -/
theorem not_namesError_of_report (h : (report env tree).isSome = true) : ¬ NamesError env tree := by
  cases tree with
  | ident => cases h
  | paren => cases h
  | binary left operator right type =>
      rintro ⟨leaf, hmem, herror⟩
      have hoperand : ∃ operand ∈ [left, right], NamesError env operand := by
        rcases List.mem_append.1 hmem with hleft | hright
        · exact ⟨left, List.mem_cons_self, leaf, hleft, herror⟩
        · exact ⟨right, List.mem_cons_of_mem _ List.mem_cons_self, leaf, hright, herror⟩
      obtain ⟨operand, hchild, hnames⟩ := hoperand
      rw [(passes_on hchild (typeOf_of_namesError hnames)).2] at h
      cases h

/-- Nothing is reported in a tree exactly if every node in error has a name of the error type in
it. -/
theorem reports_eq_nil_iff :
    reports env tree = [] ↔
      ∀ node ∈ tree.postorder, typeOf env node = errorType → NamesError env node := by
  rw [reports, List.filterMap_eq_nil_iff]
  constructor
  · intro hnone node hnode herror
    obtain ⟨part, hpart, hfault⟩ := typeOf_eq_errorType_iff.1 herror
    have hreport := hnone part (Expr.mem_postorder_trans hpart hnode)
    rcases hfault with hreported | ⟨name, token, binding, rfl, hname⟩
    · rw [hreport] at hreported
      cases hreported
    · exact namesError_iff.2 ⟨name, token, binding, hpart, hname⟩
  · intro hnamed node hnode
    by_contra hreport
    have hreported := Option.isSome_iff_ne_none.2 hreport
    exact not_namesError_of_report hreported (hnamed node hnode (typeOf_of_report hreported))

end Environment

/-- An analysis keeps the names of a tree. -/
theorem leaves_annotate (bindings : String → Expression.Binding) (tree : Expr) :
    (annotate bindings tree).leaves = tree.leaves := by
  induction tree with
  | ident => rfl
  | binary _ _ _ _ ihleft ihright => rw [annotate, Expr.leaves, Expr.leaves, ihleft, ihright]
  | paren _ _ ih => rw [annotate, Expr.leaves, Expr.leaves, ih]

/-! ## The analysis of a source text -/

section Limit

variable {limit : NestingLimit}

/-- A text that parses has no syntax error. -/
theorem errors_of_parse {source : String} {tree : Expr}
    (hparse : ((Parser.ofSource source).parse limit).1 = some tree) :
    ((Parser.ofSource source).parse limit).2.errors = [] := by
  rw [Parser.parse_of_ok (Parser.sentence_of_parse hparse)]
  rfl

/-- An analysis succeeds exactly if the text parses and nothing is reported in its tree. -/
theorem success_iff (limit : NestingLimit) (settings : Settings)
    (declarations : List (String × String)) (source : String) :
    (analyzeSource limit settings declarations source).success = true ↔
      ∃ tree, ((Parser.ofSource source).parse limit).1 = some tree ∧
        reports (declaredType settings declarations) tree = [] := by
  cases hparse : ((Parser.ofSource source).parse limit).1 with
  | none =>
      have hpair : (Parser.ofSource source).parse limit =
          (none, ((Parser.ofSource source).parse limit).2) := Prod.ext hparse rfl
      rw [analyzeSource, hpair]
      simp [Analysis.success]
  | some tree =>
      have hpair : (Parser.ofSource source).parse limit =
          (some tree, ((Parser.ofSource source).parse limit).2) := Prod.ext hparse rfl
      have hsyntax : (analyzeSource limit settings declarations source).syntaxErrors = [] := by
        rw [analyzeSource, hpair]
        simp [errors_of_parse hparse]
      obtain ⟨typed, htree, -, hsemantic⟩ := analyzeSource_eq settings declarations hparse
      simp [Analysis.success, htree, hsyntax, hsemantic]

/-- The typed tree of a text that parses: it has the names of the tree and as much to report, and
its nodes have the types of the typing rules. -/
theorem typed_of_parse (settings : Settings) (declarations : List (String × String))
    {source : String} {tree : Expr}
    (hparse : ((Parser.ofSource source).parse limit).1 = some tree) :
    ∃ typed, (analyzeSource limit settings declarations source).tree = some typed ∧
      typed.leaves = tree.leaves ∧
      reports (declaredType settings declarations) typed =
        reports (declaredType settings declarations) tree ∧
      ∀ node ∈ typed.postorder,
        node.type? = some (typeOf (declaredType settings declarations) node) := by
  obtain ⟨typed, htree, rfl, -⟩ := analyzeSource_eq settings declarations hparse
  refine ⟨_, htree, leaves_annotate _ _, reports_annotate _ _ _, ?_⟩
  intro node hnode
  rw [type?_of_mem_postorder_annotate _ _ node hnode, ← Analyzer.visibleType_eq,
    Analyzer.visibleType_ofDeclarations]

end Limit

/-- A text parses, and no node of its typed tree is in error. -/
def IsWellTyped (limit : NestingLimit) (settings : Settings)
    (declarations : List (String × String)) (source : String) : Prop :=
  ∃ tree typed, ((Parser.ofSource source).parse limit).1 = some tree ∧
    (analyzeSource limit settings declarations source).tree = some typed ∧
    ∀ node ∈ typed.postorder, node.type? ≠ some errorType

/-- An analysis succeeds exactly if the text parses and every node in error has a name of the error
type in it. A text is well typed exactly if its analysis succeeds and no name in it has the error
type. -/
theorem wellTyped_iff_success (limit : NestingLimit) (settings : Settings)
    (declarations : List (String × String)) (source : String) :
    ((analyzeSource limit settings declarations source).success = true ↔
      ∃ tree typed, ((Parser.ofSource source).parse limit).1 = some tree ∧
        (analyzeSource limit settings declarations source).tree = some typed ∧
        ∀ node ∈ typed.postorder, node.type? = some errorType →
          ∃ leaf ∈ node.leaves, declaredType settings declarations leaf.1 = errorType) ∧
    (IsWellTyped limit settings declarations source ↔
      (analyzeSource limit settings declarations source).success = true ∧
        ∀ token ∈ identifiers (tokenize source),
          declaredType settings declarations token.text ≠ errorType) := by
  cases hparse : ((Parser.ofSource source).parse limit).1 with
  | none =>
      have hfails : ¬ (analyzeSource limit settings declarations source).success = true := by
        rw [success_iff, hparse]
        simp
      simp [IsWellTyped, hparse, hfails]
  | some tree =>
      obtain ⟨typed, htree, hleaves, hreports, htypes⟩ :=
        typed_of_parse settings declarations hparse
      have hsuccess : (analyzeSource limit settings declarations source).success = true ↔
          ∀ node ∈ typed.postorder, node.type? = some errorType →
            NamesError (declaredType settings declarations) node := by
        have hreported : (analyzeSource limit settings declarations source).success = true ↔
            reports (declaredType settings declarations) typed = [] := by
          simp [success_iff, hparse, hreports]
        rw [hreported, reports_eq_nil_iff]
        refine forall₂_congr fun node hnode => ?_
        rw [htypes node hnode, Option.some.injEq]
      -- The names in the typed tree are those of the text.
      have hnames : NamesError (declaredType settings declarations) typed ↔
          ∃ token ∈ identifiers (tokenize source),
            declaredType settings declarations token.text = errorType := by
        rw [NamesError, hleaves, leaves_of_parse hparse]
        simp
      refine ⟨?_, ?_⟩
      · rw [hsuccess]
        simp [htree, NamesError]
      · constructor
        · rintro ⟨_, _, -, htree', hclean⟩
          obtain rfl := Option.some.inj (htree.symm.trans htree')
          refine ⟨hsuccess.2 fun node hnode herror => absurd herror (hclean node hnode), ?_⟩
          intro token htoken herror
          have hroot := typeOf_of_namesError (hnames.2 ⟨token, htoken, herror⟩)
          have hself := typed.mem_postorder_self
          exact hclean typed hself (by rw [htypes typed hself, hroot])
        · rintro ⟨hok, hnone⟩
          refine ⟨tree, typed, hparse, htree, ?_⟩
          intro node hnode herror
          have habove := (hsuccess.1 hok node hnode herror).above hnode
          obtain ⟨token, htoken, herror⟩ := hnames.1 habove
          exact hnone token htoken herror

/-- The sum has an operand that is declared to be of the error type. It is in error for that, but
nothing is reported, so that the analysis succeeds. -/
theorem success_despite_declared_error :
    (analyzeSource .usual {} [("a", "error_type")] "a + b").success = true ∧
      ¬ IsWellTyped .usual {} [("a", "error_type")] "a + b" := by
  refine ⟨by decide +kernel, ?_⟩
  rintro ⟨tree, typed, -, htyped, hclean⟩
  have hroot : (analyzeSource .usual {} [("a", "error_type")] "a + b").tree.bind Expr.type? =
      some errorType := by
    decide +kernel
  rw [htyped, Option.bind_some] at hroot
  exact hclean typed typed.mem_postorder_self hroot

end GrammarWorkbench.Typing
