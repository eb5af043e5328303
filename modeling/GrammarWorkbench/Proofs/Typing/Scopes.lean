import Mathlib.Data.List.Infix
import GrammarWorkbench.Proofs.Typing.Annotation

/-!
# Scopes

A symbol table is changed by entering a scope, leaving one and adding an entry. Whatever is done to
it, the global scope stays at the bottom of its stack of scopes (`SymbolTable.Grounded`), and its
entries stand in the order in which they were added (`SymbolTable.declared_performAll`).

The visible entry of a name is the earliest one in the innermost scope that has an entry of the name
(`SymbolTable.IsVisible`). Entries are never removed; leaving a scope therefore restores what was
visible outside of it as long as nothing was added to the scopes there
(`SymbolTable.Grounded.lookup_leave`).
-/

set_option autoImplicit false

namespace GrammarWorkbench.Typing

/-- What can be done to a symbol table. -/
inductive TableAction where
  | enter (scope : String)
  | exit
  | add (entry : SymbolEntry)

/-- The entries that some actions add, in their order. -/
def TableAction.added : List TableAction → List SymbolEntry
  | [] => []
  | .add entry :: actions => entry :: added actions
  | .enter _ :: actions => added actions
  | .exit :: actions => added actions

namespace SymbolTable

/-- The table after an action. -/
def perform (table : SymbolTable) : TableAction → SymbolTable
  | .enter scope => table.enterScope scope
  | .exit => table.exitScope.2
  | .add entry => table.add entry

/-- The table after some actions. -/
def performAll (table : SymbolTable) (actions : List TableAction) : SymbolTable :=
  actions.foldl perform table

/-- The table after leaving a number of scopes. -/
def leave (table : SymbolTable) (count : Nat) : SymbolTable :=
  table.performAll (List.replicate count .exit)

variable {table later : SymbolTable} {globalScope name scope : String} {entry : SymbolEntry}

/-! ## Entries in a scope -/

/-- An entry is one of a name in a scope. -/
def IsEntryOf (name scope : String) (entry : SymbolEntry) : Prop :=
  entry.name = name ∧ entry.scope = scope

instance (name scope : String) : DecidablePred (IsEntryOf name scope) :=
  fun _ => inferInstanceAs (Decidable (_ ∧ _))

/-- A scope has an entry of a name. -/
def Declares (table : SymbolTable) (name scope : String) : Prop :=
  ∃ entry ∈ table.declared, IsEntryOf name scope entry

/-- Of the entries of a name in a scope, the one that was added before all others. -/
def IsEarliest (table : SymbolTable) (name scope : String) (entry : SymbolEntry) : Prop :=
  ∃ before after, table.declared = before ++ entry :: after ∧ IsEntryOf name scope entry ∧
    ∀ other ∈ before, ¬ IsEntryOf name scope other

theorem findIn_eq_find? (table : SymbolTable) (name scope : String) :
    table.findIn name scope = table.declared.find? fun entry => IsEntryOf name scope entry := by
  rw [findIn, entries, List.find?_filter]
  congr 1
  funext entry
  by_cases hname : entry.name = name <;> simp [IsEntryOf, hname]

theorem findIn_eq_some_iff :
    table.findIn name scope = some entry ↔ table.IsEarliest name scope entry := by
  rw [findIn_eq_find?, List.find?_eq_some_iff_append]
  simp only [decide_eq_true_eq, Bool.not_eq_true', decide_eq_false_iff_not]
  constructor
  · rintro ⟨hentry, before, after, hdeclared, hbefore⟩
    exact ⟨before, after, hdeclared, hentry, hbefore⟩
  · rintro ⟨before, after, hdeclared, hentry, hbefore⟩
    exact ⟨hentry, before, after, hdeclared, hbefore⟩

theorem findIn_eq_none_iff : table.findIn name scope = none ↔ ¬ table.Declares name scope := by
  rw [findIn_eq_find?, List.find?_eq_none]
  simp [Declares]

theorem IsEarliest.declares (h : table.IsEarliest name scope entry) :
    table.Declares name scope := by
  obtain ⟨before, after, hdeclared, hentry, -⟩ := h
  exact ⟨entry, by simp [hdeclared], hentry⟩

/-- More entries change nothing for a scope that they are not in. -/
theorem findIn_of_declared_eq {more : List SymbolEntry}
    (hdeclared : later.declared = table.declared ++ more)
    (h : ∀ entry ∈ more, entry.scope ≠ scope) :
    later.findIn name scope = table.findIn name scope := by
  have hnone : more.find? (fun entry => IsEntryOf name scope entry) = none := by
    rw [List.find?_eq_none]
    intro entry hentry
    simp [IsEntryOf, h entry hentry]
  rw [findIn_eq_find?, findIn_eq_find?, hdeclared, List.find?_append, hnone, Option.or_none]

/-! ## What actions do -/

/-- Entries are added behind those that are there already, and nothing else happens to them. -/
theorem declared_performAll (table : SymbolTable) (actions : List TableAction) :
    (table.performAll actions).declared = table.declared ++ TableAction.added actions := by
  induction actions generalizing table with
  | nil => exact (List.append_nil _).symm
  | cons action actions ih =>
      rw [performAll, List.foldl_cons, ← performAll, ih]
      cases action with
      | enter scope => rfl
      | exit =>
          rw [perform, exitScope]
          split <;> rfl
      | add entry => simp [perform, add, TableAction.added]

/-- The global scope is at the bottom of the stack of scopes. -/
structure Grounded (globalScope : String) (table : SymbolTable) : Prop where
  globalScope_eq : table.globalScope = globalScope
  bottom_eq : table.scopes.getLast? = some globalScope

theorem grounded_empty (globalScope : String) : (empty globalScope).Grounded globalScope :=
  ⟨rfl, rfl⟩

namespace Grounded

theorem scopes_ne_nil (h : table.Grounded globalScope) : table.scopes ≠ [] := by
  intro hnil
  have hbottom := h.bottom_eq
  rw [hnil] at hbottom
  cases hbottom

theorem perform (h : table.Grounded globalScope) (action : TableAction) :
    (table.perform action).Grounded globalScope := by
  cases action with
  | enter scope =>
      refine ⟨h.globalScope_eq, ?_⟩
      rw [SymbolTable.perform, enterScope, List.getLast?_cons, h.bottom_eq, Option.getD_some]
  | exit =>
      rw [SymbolTable.perform, exitScope]
      split
      next scope outer rest hscopes =>
        -- Below the scope that is left there is another one, so the bottom stays.
        have hbottom := h.bottom_eq
        rw [hscopes, List.getLast?_cons_cons] at hbottom
        exact ⟨h.globalScope_eq, hbottom⟩
      next => exact h
  | add entry => exact ⟨h.globalScope_eq, h.bottom_eq⟩

theorem performAll (h : table.Grounded globalScope) (actions : List TableAction) :
    (table.performAll actions).Grounded globalScope := by
  induction actions generalizing table with
  | nil => exact h
  | cons action actions ih => exact ih (h.perform action)

/-- The global scope is searched with the other scopes on the stack, so that searching it once more
finds nothing else. -/
theorem lookup_eq (h : table.Grounded globalScope) (name : String) :
    table.lookup name none = table.scopes.findSome? (table.findIn name) := by
  have hglobal : table.globalScope ∈ table.scopes := by
    rw [h.globalScope_eq]
    exact List.mem_of_getLast? h.bottom_eq
  rw [lookup, Option.toList_none, List.nil_append, List.findSome?_append,
    List.findSome?_singleton]
  cases hfound : table.scopes.findSome? (table.findIn name) with
  | some entry => rfl
  | none => rw [Option.none_or, List.findSome?_eq_none_iff.1 hfound _ hglobal]

end Grounded

/-! ## What is visible -/

/-- The visible entry of a name: in the innermost scope that has an entry of the name, the earliest
one. -/
def IsVisible (table : SymbolTable) (name : String) (entry : SymbolEntry) : Prop :=
  ∃ inner scope outer, table.scopes = inner ++ scope :: outer ∧
    (∀ other ∈ inner, ¬ table.Declares name other) ∧ table.IsEarliest name scope entry

namespace Grounded

theorem lookup_eq_some_iff (h : table.Grounded globalScope) :
    table.lookup name none = some entry ↔ table.IsVisible name entry := by
  rw [h.lookup_eq, List.findSome?_eq_some_iff]
  simp only [findIn_eq_some_iff, findIn_eq_none_iff]
  constructor
  · rintro ⟨inner, scope, outer, hscopes, hentry, hinner⟩
    exact ⟨inner, scope, outer, hscopes, hinner, hentry⟩
  · rintro ⟨inner, scope, outer, hscopes, hinner, hentry⟩
    exact ⟨inner, scope, outer, hscopes, hentry, hinner⟩

theorem lookup_eq_none_iff (h : table.Grounded globalScope) :
    table.lookup name none = none ↔ ∀ scope ∈ table.scopes, ¬ table.Declares name scope := by
  rw [h.lookup_eq, List.findSome?_eq_none_iff]
  simp only [findIn_eq_none_iff]

/-- A name is declared in the innermost scope exactly if its visible entry is there. -/
theorem isDeclaredHere_iff (h : table.Grounded globalScope) (name : String) :
    table.isDeclaredHere name = true ↔
      ∃ entry, table.lookup name none = some entry ∧ entry.scope = table.currentScope := by
  have hhere : table.isDeclaredHere name = true ↔ table.Declares name table.currentScope := by
    simp [isDeclaredHere, entries, Declares, IsEntryOf]
  rw [hhere]
  constructor
  · intro hdeclares
    cases hfound : table.findIn name table.currentScope with
    | none => exact absurd hdeclares (findIn_eq_none_iff.1 hfound)
    | some entry =>
        obtain ⟨-, -, -, ⟨-, hscope⟩, -⟩ := findIn_eq_some_iff.1 hfound
        refine ⟨entry, ?_, hscope⟩
        obtain ⟨outer, houter⟩ := table.exists_outer
        rw [lookup, Option.toList_none, List.nil_append, houter, List.findSome?_cons, hfound]
  · rintro ⟨entry, hlookup, hscope⟩
    obtain ⟨-, scope, -, -, -, hearliest⟩ := h.lookup_eq_some_iff.1 hlookup
    obtain ⟨-, -, -, ⟨-, hsame⟩, -⟩ := id hearliest
    rw [← hscope, hsame]
    exact hearliest.declares

end Grounded

/-- A lookup from a given scope begins there, and goes on like any other. -/
theorem lookup_some (table : SymbolTable) (name scope : String) :
    table.lookup name (some scope) = (table.findIn name scope).or (table.lookup name none) := by
  rw [lookup, lookup, Option.toList_some, Option.toList_none, List.append_assoc,
    List.singleton_append, List.nil_append, List.findSome?_cons]
  cases table.findIn name scope <;> rfl

/-! ## Leaving a scope -/

/-- Leaving as many scopes as there are above some others, which are not none. -/
theorem leave_length {upper outer : List String} (hscopes : table.scopes = upper ++ outer)
    (houter : outer ≠ []) : table.leave upper.length = { table with scopes := outer } := by
  induction upper generalizing table with
  | nil =>
      rw [List.nil_append] at hscopes
      rw [← hscopes]
      rfl
  | cons scope upper ih =>
      have hexit : table.perform .exit = { table with scopes := upper ++ outer } := by
        obtain ⟨next, rest, hrest⟩ := List.exists_cons_of_ne_nil
          (List.append_ne_nil_of_right_ne_nil upper houter)
        rw [perform, exitScope, hscopes, List.cons_append, hrest]
      rw [leave, List.length_cons, List.replicate_succ, performAll, List.foldl_cons, hexit]
      exact ih rfl

/-- Leaving a scope, and all scopes that were entered since, restores what was visible before, if
nothing was added to the scopes around it. -/
theorem Grounded.lookup_leave (h : table.Grounded globalScope) {inside : List TableAction}
    (hlater : (table.enterScope scope).performAll inside = later)
    (hkept : scope :: table.scopes <:+ later.scopes)
    (hadded : ∀ entry ∈ TableAction.added inside, entry.scope ∉ table.scopes) :
    (later.leave (later.scopes.length - table.scopes.length)).scopes = table.scopes ∧
      ∀ name, (later.leave (later.scopes.length - table.scopes.length)).lookup name none =
        table.lookup name none := by
  obtain ⟨upper, hupper⟩ := hkept
  have hscopes : later.scopes = (upper ++ [scope]) ++ table.scopes := by
    rw [← hupper, List.append_assoc, List.singleton_append]
  have hcount : later.scopes.length - table.scopes.length = (upper ++ [scope]).length := by
    rw [hscopes, List.length_append, Nat.add_sub_cancel]
  rw [hcount, leave_length hscopes h.scopes_ne_nil]
  refine ⟨rfl, ?_⟩
  intro name
  have hgrounded : later.Grounded globalScope := by
    have hentered : (table.enterScope scope).Grounded globalScope := h.perform (.enter scope)
    rw [← hlater]
    exact hentered.performAll inside
  have hleft : Grounded globalScope { later with scopes := table.scopes } :=
    ⟨hgrounded.globalScope_eq, h.bottom_eq⟩
  have hdeclared : later.declared = table.declared ++ TableAction.added inside := by
    rw [← hlater, declared_performAll]
    rfl
  have hsame : ∀ other ∈ table.scopes,
      findIn { later with scopes := table.scopes } name other = table.findIn name other := by
    intro other hother
    apply findIn_of_declared_eq hdeclared
    rintro entry hentry rfl
    exact hadded entry hentry hother
  rw [hleft.lookup_eq, h.lookup_eq, ← List.head?_filterMap, List.filterMap_congr hsame,
    List.head?_filterMap]

/-! ## Tables after any actions -/

/-- Names are looked up by lexical scoping, and the first declaration wins. After any actions the
table has the entries that were added, in their order, and the global scope is at the bottom of its
stack. A lookup finds the visible entry of a name, and none exactly if no scope on the stack has an
entry of the name; searching the global scope once more never makes a difference. A lookup from a
given scope finds the earliest entry there, and goes on like any other if there is none. A name is
declared in the innermost scope exactly if its visible entry is there. Leaving a scope that was
entered restores what was visible before, whatever was done inside, if the entries added there are
in none of the scopes around it. -/
theorem lookup_lexical (globalScope : String) (actions : List TableAction) (table : SymbolTable)
    (htable : (empty globalScope).performAll actions = table) :
    table.declared = TableAction.added actions ∧
      table.scopes ≠ [] ∧ table.scopes.getLast? = some globalScope ∧
      (∀ name entry, table.lookup name none = some entry ↔ table.IsVisible name entry) ∧
      (∀ name, table.lookup name none = none ↔
        ∀ scope ∈ table.scopes, ¬ table.Declares name scope) ∧
      (∀ name, table.lookup name none = table.scopes.findSome? (table.findIn name)) ∧
      (∀ name scope entry, table.IsEarliest name scope entry →
        table.lookup name (some scope) = some entry) ∧
      (∀ name scope, ¬ table.Declares name scope →
        table.lookup name (some scope) = table.lookup name none) ∧
      (∀ name, table.isDeclaredHere name = true ↔
        ∃ entry, table.lookup name none = some entry ∧ entry.scope = table.currentScope) ∧
      ∀ scope inside later, (table.enterScope scope).performAll inside = later →
        scope :: table.scopes <:+ later.scopes →
        (∀ entry ∈ TableAction.added inside, entry.scope ∉ table.scopes) →
        (later.leave (later.scopes.length - table.scopes.length)).scopes = table.scopes ∧
          ∀ name, (later.leave (later.scopes.length - table.scopes.length)).lookup name none =
            table.lookup name none := by
  have hgrounded : table.Grounded globalScope := by
    rw [← htable]
    exact (grounded_empty globalScope).performAll actions
  refine ⟨?_, hgrounded.scopes_ne_nil, hgrounded.bottom_eq, fun _ _ => hgrounded.lookup_eq_some_iff,
    fun _ => hgrounded.lookup_eq_none_iff, hgrounded.lookup_eq, ?_, ?_,
    hgrounded.isDeclaredHere_iff, ?_⟩
  · rw [← htable]
    exact declared_performAll (empty globalScope) actions
  · intro name scope entry hearliest
    rw [lookup_some, findIn_eq_some_iff.2 hearliest, Option.some_or]
  · intro name scope hnone
    rw [lookup_some, findIn_eq_none_iff.2 hnone, Option.none_or]
  · intro scope inside later hlater hkept hadded
    exact hgrounded.lookup_leave hlater hkept hadded

/-- A table with a name in the global scope, and with the same name inside. -/
def shadowing : SymbolTable :=
  (empty "global").performAll
    [.add ⟨"x", "int", "global", 1, 1⟩, .enter "body", .add ⟨"x", "float", "body", 2, 1⟩]

/-- The inner entry is visible, and so it is again after a block with a third one, in which a scope
of the name of the block was entered. -/
theorem lookup_lexical_shadowing :
    shadowing.IsVisible "x" ⟨"x", "float", "body", 2, 1⟩ ∧
      shadowing.lookup "x" (some "global") = some ⟨"x", "int", "global", 1, 1⟩ ∧
      shadowing.isDeclaredHere "x" = true ∧
      ∃ later, (shadowing.enterScope "block").performAll
          [.enter "block", .add ⟨"x", "unknown", "block", 3, 1⟩] = later ∧
        later.lookup "x" none ≠ shadowing.lookup "x" none ∧
        (later.leave 2).scopes = shadowing.scopes ∧
        ∀ name, (later.leave 2).lookup name none = shadowing.lookup name none := by
  obtain ⟨-, -, -, hvisible, -, -, hgiven, -, hhere, hleave⟩ :=
    lookup_lexical "global" _ shadowing rfl
  have hfound : shadowing.lookup "x" none = some ⟨"x", "float", "body", 2, 1⟩ := by decide
  have hglobal : shadowing.IsEarliest "x" "global" ⟨"x", "int", "global", 1, 1⟩ :=
    ⟨[], _, rfl, by decide, by simp⟩
  refine ⟨(hvisible _ _).1 hfound, hgiven _ _ _ hglobal, (hhere "x").2 ⟨_, hfound, rfl⟩,
    _, rfl, by decide, ?_⟩
  exact hleave "block" _ _ rfl (by decide) (by decide)

end SymbolTable

end GrammarWorkbench.Typing
