import GrammarWorkbench.Proofs.Typing.Annotation

/-!
# Names declared beforehand

An analyzer made of some declarations holds them in its global scope, in their order
(`Analyzer.ofDeclarations_eq`). A name therefore has the type it was declared with first, and the
default type if it was not declared (`Analyzer.visibleType_ofDeclarations`).
-/

set_option autoImplicit false

namespace GrammarWorkbench.Typing

/-- The type of a name under some declarations. -/
def declaredType (settings : Settings) (declarations : List (String × String)) (name : String) :
    String :=
  (declarations.lookup name).getD settings.defaultType

namespace Analyzer

/-- The entry of a name that is declared beforehand; it stands at no particular place. -/
def declaredEntry (scope : String) (declaration : String × String) : SymbolEntry :=
  ⟨declaration.1, declaration.2, scope, 0, 0⟩

theorem foldl_declare (analyzer : Analyzer) (declarations : List (String × String)) :
    declarations.foldl (fun analyzer pair => (analyzer.declare pair.1 pair.2 0 0).2) analyzer =
      { analyzer with table := { analyzer.table with
          declared := analyzer.table.declared ++
            declarations.map (declaredEntry analyzer.table.currentScope) } } := by
  induction declarations generalizing analyzer with
  | nil => simp
  | cons declaration declarations ih =>
      rw [List.foldl_cons, ih]
      simp [declare, SymbolTable.add, declaredEntry, SymbolTable.currentScope]

theorem ofDeclarations_eq (settings : Settings) (declarations : List (String × String)) :
    ofDeclarations settings declarations =
      { settings
        table := ⟨settings.globalScope, [settings.globalScope],
          declarations.map (declaredEntry settings.globalScope)⟩ } := by
  rw [ofDeclarations, foldl_declare]
  rfl

/-- Among entries of one scope, the first declaration of a name is found. -/
theorem findIn_declared (globalScope : String) (scopes : List String)
    (declarations : List (String × String)) (name scope : String) :
    SymbolTable.findIn ⟨globalScope, scopes, declarations.map (declaredEntry scope)⟩ name scope =
      (declarations.lookup name).map fun type => declaredEntry scope (name, type) := by
  rw [SymbolTable.findIn, SymbolTable.entries]
  induction declarations with
  | nil => rfl
  | cons declaration declarations ih =>
      obtain ⟨declared, type⟩ := declaration
      by_cases hname : declared = name
      · subst hname
        simp [declaredEntry]
      · have hne : (name == declared) = false := beq_eq_false_iff_ne.2 (Ne.symm hname)
        have hother : ¬ (declaredEntry scope (declared, type)).name = name := hname
        rw [List.lookup_cons, hne, ← ih, List.map_cons,
          List.filter_cons_of_neg (by simpa using hother)]

theorem visibleType_ofDeclarations (settings : Settings)
    (declarations : List (String × String)) :
    (ofDeclarations settings declarations).visibleType = declaredType settings declarations := by
  funext name
  rw [visibleType, ofDeclarations_eq, declaredType]
  simp only [SymbolTable.lookup, Option.toList_none, List.nil_append, List.singleton_append,
    List.findSome?_cons, findIn_declared]
  cases declarations.lookup name <;> rfl

end Analyzer

end GrammarWorkbench.Typing
