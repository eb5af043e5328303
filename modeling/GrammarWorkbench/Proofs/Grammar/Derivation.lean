import Mathlib.Logic.Relation
import GrammarWorkbench.Grammar.Basic

/-!
# Derivations

A step replaces one occurrence of the left side of a production in a sentential form by its right
side; a form derives whatever some number of steps leads to. Productions use neither `ε` nor `$`,
so that no derivation brings either of them in (`Derives.notMem`).

Properties of sentential forms travel along derivations in one of two ways: forwards, when every
step keeps the property, and backwards, when it can be taken back through every step
(`Derives.backward`).
-/

set_option autoImplicit false

namespace GrammarWorkbench.Grammar

variable {grammar : Grammar}

/-- One occurrence of the left side of a production is replaced by its right side. -/
def Step (grammar : Grammar) (form next : List Symbol) : Prop :=
  ∃ production ∈ grammar.productions, ∃ before after,
    form = before ++ production.lhs :: after ∧ next = before ++ production.rhs ++ after

/-- Zero or more steps lead from one sentential form to another. -/
abbrev Derives (grammar : Grammar) (form next : List Symbol) : Prop :=
  Relation.ReflTransGen grammar.Step form next

/-- A step can be made inside a larger form. -/
theorem Step.context {form next : List Symbol} (h : grammar.Step form next)
    (before after : List Symbol) :
    grammar.Step (before ++ form ++ after) (before ++ next ++ after) := by
  obtain ⟨production, hproduction, left, right, rfl, rfl⟩ := h
  exact ⟨production, hproduction, before ++ left, right ++ after, by simp, by simp⟩

/-- The left side of a production becomes its right side in one step. -/
theorem Step.of_mem {production : Production} (h : production ∈ grammar.productions) :
    grammar.Step [production.lhs] production.rhs :=
  ⟨production, h, [], [], rfl, by simp⟩

namespace Derives

/-- A derivation can be made inside a larger form. -/
theorem context {form next : List Symbol} (h : grammar.Derives form next)
    (before after : List Symbol) :
    grammar.Derives (before ++ form ++ after) (before ++ next ++ after) :=
  h.lift (fun inner => before ++ inner ++ after) fun _ _ hstep => hstep.context before after

/-- Two forms side by side derive what each of them derives, side by side. -/
theorem append {left left' right right' : List Symbol} (hleft : grammar.Derives left left')
    (hright : grammar.Derives right right') :
    grammar.Derives (left ++ right) (left' ++ right') := by
  have hfirst : grammar.Derives (left ++ right) (left' ++ right) := by
    simpa using hleft.context [] right
  have hsecond : grammar.Derives (left' ++ right) (left' ++ right') := by
    simpa using hright.context left' []
  exact hfirst.trans hsecond

/-- What the right side of a production derives, its left side derives. -/
theorem of_production {production : Production} (hproduction : production ∈ grammar.productions)
    {form : List Symbol} (h : grammar.Derives production.rhs form) :
    grammar.Derives [production.lhs] form :=
  .head (.of_mem hproduction) h

/-- A property of forms that holds at the end of a derivation holds at its start, if it can be
taken back through every step. -/
theorem backward {property : List Symbol → Prop}
    (hstep : ∀ form next, grammar.Step form next → property next → property form)
    {form next : List Symbol} (h : grammar.Derives form next) (hnext : property next) :
    property form := by
  induction h using Relation.ReflTransGen.head_induction_on with
  | refl => exact hnext
  | head hhead _ ih => exact hstep _ _ hhead ih

/-- A symbol that no production uses on its right does not come in. -/
theorem notMem {symbol : Symbol} (hunused : ∀ production ∈ grammar.productions,
    symbol ∉ production.rhs) {form next : List Symbol} (h : grammar.Derives form next)
    (hform : symbol ∉ form) : symbol ∉ next := by
  induction h with
  | refl => exact hform
  | tail _ hstep ih =>
      obtain ⟨production, hproduction, before, after, rfl, rfl⟩ := hstep
      have hrhs := hunused production hproduction
      simp only [List.mem_append, List.mem_cons, not_or] at ih ⊢
      exact ⟨⟨ih.1, hrhs⟩, ih.2.2⟩

end Derives

/-! ## What productions are made of -/

theorem epsilon_notMem_rhs {production : Production} (h : production ∈ grammar.productions) :
    .epsilon ∉ production.rhs :=
  fun hmem => ((grammar.declared production h).2 _ hmem).1 rfl

theorem endMark_notMem_rhs {production : Production} (h : production ∈ grammar.productions) :
    .endMark ∉ production.rhs :=
  fun hmem => ((grammar.declared production h).2 _ hmem).2.1 rfl

theorem lhs_mem {production : Production} (h : production ∈ grammar.productions) :
    production.lhs ∈ grammar.nonTerminals :=
  (grammar.declared production h).1

namespace WellSorted

theorem isTerminal_eq_false (hsorted : grammar.WellSorted) {symbol : Symbol}
    (h : symbol ∈ grammar.nonTerminals) : symbol.isTerminal = false := by
  simpa [Symbol.isNonTerminal] using hsorted.1 symbol h

/-- In a well-sorted grammar the kind of a declared symbol tells where it is declared. -/
theorem mem_terminals (hsorted : grammar.WellSorted) {symbol : Symbol}
    (h : symbol ∈ grammar.terminals ∨ symbol ∈ grammar.nonTerminals)
    (hkind : symbol.isTerminal = true) : symbol ∈ grammar.terminals := by
  rcases h with hmem | hmem
  · exact hmem
  · rw [hsorted.isTerminal_eq_false hmem] at hkind
    exact absurd hkind (by simp)

theorem mem_nonTerminals (hsorted : grammar.WellSorted) {symbol : Symbol}
    (h : symbol ∈ grammar.terminals ∨ symbol ∈ grammar.nonTerminals)
    (hkind : symbol.isTerminal = false) : symbol ∈ grammar.nonTerminals := by
  rcases h with hmem | hmem
  · rw [hsorted.2 symbol hmem] at hkind
    exact absurd hkind (by simp)
  · exact hmem

/-- No non-terminal is `ε`. -/
theorem ne_epsilon (hsorted : grammar.WellSorted) {symbol : Symbol}
    (h : symbol ∈ grammar.nonTerminals) : symbol ≠ .epsilon := by
  rintro rfl
  exact absurd (hsorted.isTerminal_eq_false h) (by decide)

/-- No non-terminal is `$`. -/
theorem ne_endMark (hsorted : grammar.WellSorted) {symbol : Symbol}
    (h : symbol ∈ grammar.nonTerminals) : symbol ≠ .endMark := by
  rintro rfl
  exact absurd (hsorted.isTerminal_eq_false h) (by decide)

end WellSorted

end GrammarWorkbench.Grammar
