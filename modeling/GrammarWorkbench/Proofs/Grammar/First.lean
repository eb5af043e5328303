import GrammarWorkbench.Grammar.Query
import GrammarWorkbench.Proofs.Grammar.Derivation
import GrammarWorkbench.Proofs.Grammar.Passes
import GrammarWorkbench.Proofs.Grammar.Sequence

/-!
# FIRST sets and derivations

The FIRST set of a sequence holds the terminals that the words derived from it can start with, and
`ε` when it derives the empty word (`FirstSolved.isFirst`).

Every member has a derivation: that is kept by every visit of a FIRST pass. Everything derivable is
a member: in the last pass no visit added anything, so that the FIRST set of a right side lies in
the set of its left side, and membership can be taken back through every step of a derivation.
-/

set_option autoImplicit false

namespace GrammarWorkbench.Grammar

variable {grammar : Grammar}

/-- A word derives some form that starts with the symbol; for `ε` it derives the empty word. -/
def CanStart (grammar : Grammar) (word : List Symbol) (symbol : Symbol) : Prop :=
  if symbol = .epsilon then grammar.Derives word []
  else ∃ rest, grammar.Derives word (symbol :: rest)

/-- A set holds exactly the terminals that a word can start with. -/
def IsFirst (grammar : Grammar) (word set : List Symbol) : Prop :=
  ∀ symbol, symbol ∈ set ↔ symbol.isTerminal = true ∧ grammar.CanStart word symbol

namespace CanStart

theorem epsilon_iff {word : List Symbol} :
    grammar.CanStart word .epsilon ↔ grammar.Derives word [] := by
  rw [CanStart, if_pos rfl]

theorem iff_of_ne {word : List Symbol} {symbol : Symbol} (hne : symbol ≠ .epsilon) :
    grammar.CanStart word symbol ↔ ∃ rest, grammar.Derives word (symbol :: rest) := by
  rw [CanStart, if_neg hne]

/-- What a word can start with, every word can that derives it. -/
theorem of_derives {word next : List Symbol} {symbol : Symbol} (h : grammar.Derives word next)
    (hstart : grammar.CanStart next symbol) : grammar.CanStart word symbol := by
  by_cases heq : symbol = .epsilon
  · subst heq
    rw [epsilon_iff] at hstart ⊢
    exact h.trans hstart
  · rw [iff_of_ne heq] at hstart ⊢
    obtain ⟨rest, hrest⟩ := hstart
    exact ⟨rest, h.trans hrest⟩

/-- What the front of a word can start with, the whole word can, the empty word apart. -/
theorem append {word : List Symbol} {symbol : Symbol} (hstart : grammar.CanStart word symbol)
    (hne : symbol ≠ .epsilon) (after : List Symbol) :
    grammar.CanStart (word ++ after) symbol := by
  rw [iff_of_ne hne] at hstart ⊢
  obtain ⟨rest, hrest⟩ := hstart
  exact ⟨rest ++ after, hrest.context [] after⟩

end CanStart

/-! ## What the passes keep -/

/-- Every member of a set is a start of its key. -/
def FirstSound (grammar : Grammar) (first : SetMap) : Prop :=
  ∀ key symbol, symbol ∈ first.members key → grammar.CanStart [key] symbol

/-- From sound sets, a FIRST set of a sequence is sound. -/
theorem FirstSound.canStart {first : SetMap} (hsound : FirstSound grammar first)
    {word : List Symbol} (hword : .epsilon ∉ word) {symbol : Symbol}
    (h : symbol ∈ firstOfSequence first word) : grammar.CanStart word symbol := by
  induction word with
  | nil =>
      rw [mem_firstOfSequence_nil.1 h, CanStart.epsilon_iff]
  | cons head rest ih =>
      simp only [List.mem_cons, not_or] at hword
      have hhead : ∀ other, other ∈ firstOfSymbol first head → grammar.CanStart [head] other := by
        intro other hother
        cases hkind : head.isTerminal with
        | false =>
            rw [firstOfSymbol_of_isTerminal_eq_false hkind] at hother
            exact hsound head other hother
        | true =>
            rw [firstOfSymbol_of_isTerminal hkind, List.mem_singleton] at hother
            rw [hother, CanStart.iff_of_ne (Ne.symm hword.1)]
            exact ⟨[], .refl⟩
      rcases mem_firstOfSequence_cons.1 h with ⟨hmem, hne⟩ | ⟨hvanishes, hmem⟩
      · exact (hhead symbol hmem).append hne rest
      · have hempty := CanStart.epsilon_iff.1 (hhead _ hvanishes)
        exact .of_derives (hempty.context [] rest) (ih hword.2 hmem)

/-- The FIRST set of a sequence of symbols of a grammar holds terminals of the grammar. -/
theorem firstOfSequence_subset {first : SetMap} (hover : first.IsOver grammar)
    {word : List Symbol} (hword : ∀ symbol ∈ word, symbol.isTerminal = true →
      symbol ∈ grammar.terminals) : firstOfSequence first word ⊆ grammar.terminals := by
  intro symbol h
  induction word with
  | nil => exact mem_firstOfSequence_nil.1 h ▸ grammar.epsilon_mem
  | cons head rest ih =>
      rcases mem_firstOfSequence_cons.1 h with ⟨hmem, -⟩ | ⟨-, hmem⟩
      · cases hkind : head.isTerminal with
        | false =>
            rw [firstOfSymbol_of_isTerminal_eq_false hkind] at hmem
            exact hover.mem_terminals hmem
        | true =>
            rw [firstOfSymbol_of_isTerminal hkind, List.mem_singleton] at hmem
            exact hmem ▸ hword head List.mem_cons_self hkind
      · exact ih (fun other hother => hword other (List.mem_cons_of_mem _ hother)) hmem

/-- What every visit of a FIRST pass keeps. -/
structure FirstInvariant (grammar : Grammar) (sets : SetMap) (cache : SequenceCache) : Prop where
  isOver : sets.IsOver grammar
  agrees : cache.Agrees sets
  sound : FirstSound grammar sets

/-- A visit adds the FIRST set of the right side to the set of the left side. -/
theorem visitFirst_sets {pass : Pass} (hagrees : pass.cache.Agrees pass.sets)
    (production : Production) :
    (pass.visitFirst production).sets =
      pass.sets.add production.lhs (firstOfSequence pass.sets production.rhs) := by
  rw [← hagrees.request_fst, Pass.visitFirst, Pass.visitFirstBy]
  dsimp only
  split <;> rfl

/-- After a visit the cache agrees with the sets as they are then: it was cleared if they grew. -/
theorem visitFirst_agrees {pass : Pass} (hnodup : pass.sets.keys.Nodup)
    (hagrees : pass.cache.Agrees pass.sets) (production : Production) :
    (pass.visitFirst production).cache.Agrees (pass.visitFirst production).sets := by
  rw [Pass.visitFirst, Pass.visitFirstBy]
  dsimp only
  split
  · exact SequenceCache.agrees_clear _
  · rename_i hlt
    rw [SetMap.add_eq_self hnodup (Nat.not_lt.1 hlt)]
    exact hagrees.request_snd production.rhs

theorem visitFirst_extends {pass : Pass} (hnodup : pass.sets.keys.Nodup)
    (hagrees : pass.cache.Agrees pass.sets) (production : Production) :
    pass.Extends (pass.visitFirst production) := by
  apply Pass.Extends.of_add hnodup (visitFirst_sets hagrees production)
  rw [Pass.visitFirst, Pass.visitFirstBy]
  dsimp only
  split
  · rename_i hlt
    simp [hlt]
  · rename_i hlt
    simp [hlt]

theorem rhs_mem_terminals (hsorted : grammar.WellSorted) {production : Production}
    (hproduction : production ∈ grammar.productions) {symbol : Symbol}
    (hsymbol : symbol ∈ production.rhs) (hkind : symbol.isTerminal = true) :
    symbol ∈ grammar.terminals :=
  hsorted.mem_terminals ((grammar.declared production hproduction).2 symbol hsymbol).2.2 hkind

theorem maintains_visitFirst (hsorted : grammar.WellSorted) :
    Pass.Maintains (FirstInvariant grammar) Pass.visitFirst grammar.productions := by
  intro production hproduction pass hinv
  have hnodup := hinv.isOver.keys_nodup
  refine ⟨⟨?_, visitFirst_agrees hnodup hinv.agrees production, ?_⟩,
    visitFirst_extends hnodup hinv.agrees production⟩
  · rw [visitFirst_sets hinv.agrees]
    apply hinv.isOver.add
    apply firstOfSequence_subset hinv.isOver
    intro symbol hsymbol hkind
    exact rhs_mem_terminals hsorted hproduction hsymbol hkind
  · rw [visitFirst_sets hinv.agrees]
    intro key symbol hsymbol
    rcases SetMap.mem_members_add.1 hsymbol with hold | ⟨rfl, -, hnew⟩
    · exact hinv.sound key symbol hold
    · have hstart := hinv.sound.canStart (epsilon_notMem_rhs hproduction) hnew
      exact .of_derives (.single (.of_mem hproduction)) hstart

/-! ## The sets that the passes end with -/

/-- FIRST sets that are sound and closed: whatever a right side can start with is in the set of
its left side. -/
structure FirstSolved (grammar : Grammar) (first : SetMap) : Prop where
  isOver : first.IsOver grammar
  sound : FirstSound grammar first
  closed : ∀ production ∈ grammar.productions, ∀ symbol,
    symbol ∈ firstOfSequence first production.rhs → symbol ∈ first.members production.lhs

theorem firstStart_invariant (grammar : Grammar) :
    FirstInvariant grammar (.empty grammar.nonTerminals) {} where
  isOver := .empty grammar
  agrees := SequenceCache.agrees_of_entries_eq_nil rfl
  sound := fun key symbol hsymbol => by simp at hsymbol

/-- The FIRST passes are repeated visits that go through the cache. -/
theorem firstProgress_eq_settle (grammar : Grammar) (record : Bool) :
    firstProgress grammar record =
      Progress.settle Pass.visitFirst grammar.productions record (passBound grammar)
        { sets := .empty grammar.nonTerminals, cache := {} } :=
  rfl

/-- The FIRST passes end with solved sets and a cache that agrees with them. -/
theorem firstProgress_solved (hsorted : grammar.WellSorted) (record : Bool) :
    FirstSolved grammar (firstProgress grammar record).sets ∧
      (firstProgress grammar record).cache.Agrees (firstProgress grammar record).sets := by
  obtain ⟨hinv, hclosed⟩ := Progress.settle_spec (maintains_visitFirst hsorted)
    (fun sets cache hinv => hinv.isOver.size_le) record (passBound grammar)
    { sets := .empty grammar.nonTerminals, cache := {} } (firstStart_invariant grammar)
    (Nat.lt_add_left _ (lt_passBound grammar))
  refine ⟨⟨hinv.isOver, hinv.sound, ?_⟩, hinv.agrees⟩
  intro production hproduction symbol hsymbol
  -- The last visit to the production saw these sets and added nothing to them.
  obtain ⟨before, hbefore, hinv', hsame⟩ := hclosed production hproduction
  rw [visitFirst_sets hinv'.agrees, hbefore] at hsame
  rw [firstProgress_eq_settle, ← hsame]
  refine SetMap.mem_members_add.2 (Or.inr ⟨rfl, ?_, hsymbol⟩)
  rw [hinv.isOver.keys]
  exact lhs_mem hproduction

namespace FirstSolved

variable {first : SetMap}

/-- Membership in a FIRST set of a sequence can be taken back through a step. -/
theorem mem_of_step (hsorted : grammar.WellSorted) (hfirst : FirstSolved grammar first)
    {symbol : Symbol} {form next : List Symbol} (hstep : grammar.Step form next)
    (hnext : symbol ∈ firstOfSequence first next) : symbol ∈ firstOfSequence first form := by
  obtain ⟨production, hproduction, before, after, rfl, rfl⟩ := hstep
  have hkind := hsorted.isTerminal_eq_false (lhs_mem hproduction)
  have hlhs : ∀ other, other ∈ firstOfSequence first production.rhs →
      other ∈ firstOfSymbol first production.lhs := by
    intro other hother
    rw [firstOfSymbol_of_isTerminal_eq_false hkind]
    exact hfirst.closed production hproduction other hother
  rw [List.append_assoc, mem_firstOfSequence_append] at hnext
  rw [mem_firstOfSequence_append]
  -- Only what comes after the front differs: there the left side stands for the right side.
  rcases hnext with hfront | ⟨hvanishes, hrest⟩
  · exact Or.inl hfront
  · right
    refine ⟨hvanishes, ?_⟩
    rw [mem_firstOfSequence_append] at hrest
    rw [mem_firstOfSequence_cons]
    exact hrest.imp (And.imp_left (hlhs symbol)) (And.imp_left (hlhs .epsilon))

/-- Solved FIRST sets hold exactly what the derivations say. -/
theorem isFirst (hsorted : grammar.WellSorted) (hfirst : FirstSolved grammar first)
    {word : List Symbol} (hword : ∀ symbol ∈ word, symbol ∈ grammar.symbols) :
    IsFirst grammar (withoutEpsilon word) (firstOfSequence first word) := by
  intro symbol
  rw [← mem_firstOfSequence_withoutEpsilon]
  constructor
  · intro hmem
    refine ⟨?_, hfirst.sound.canStart (by simp) hmem⟩
    apply hsorted.2 symbol
    refine firstOfSequence_subset hfirst.isOver ?_ hmem
    intro other hother
    have hdeclared := mem_symbols.1 (hword other (mem_withoutEpsilon.1 hother).1)
    exact hsorted.mem_terminals hdeclared.symm
  · rintro ⟨hkind, hstart⟩
    by_cases heq : symbol = .epsilon
    · subst heq
      exact (CanStart.epsilon_iff.1 hstart).backward
        (fun _ _ => hfirst.mem_of_step hsorted) (mem_firstOfSequence_nil.2 rfl)
    · obtain ⟨rest, hrest⟩ := (CanStart.iff_of_ne heq).1 hstart
      apply hrest.backward fun _ _ => hfirst.mem_of_step hsorted
      rw [mem_firstOfSequence_cons, firstOfSymbol_of_isTerminal hkind]
      exact Or.inl ⟨List.mem_singleton_self symbol, heq⟩

end FirstSolved

end GrammarWorkbench.Grammar
