import GrammarWorkbench.Grammar.ShiftExpression
import GrammarWorkbench.Proofs.Grammar.Follow

/-!
# Solved grammars say what their derivations say

Every well-sorted grammar is solved (`solve_eq`). The FIRST sets of its solution, those of its
symbols and those of the sequences asked for at any later time, hold what the derivations can start
with, and its FOLLOW sets what can stand after a non-terminal. If every non-terminal is reachable
from the start symbol, that is what can stand after it in a form derived from the start symbol and
ended by `$` (`canFollow_iff_followsInSentence`).
-/

set_option autoImplicit false

namespace GrammarWorkbench.Grammar

variable {grammar : Grammar}

instance (grammar : Grammar) : Decidable grammar.WellSorted :=
  inferInstanceAs (Decidable (_ ∧ _))

/-- In a well-sorted grammar every non-terminal on a right side has a FOLLOW set. -/
theorem stray?_eq_none (hsorted : grammar.WellSorted) : stray? grammar = none := by
  rw [stray?, List.find?_eq_none]
  intro symbol hsymbol
  obtain ⟨⟨key, after⟩, hoccurrence, rfl⟩ := List.mem_map.1 hsymbol
  obtain ⟨production, hproduction, hmem⟩ := List.mem_flatMap.1 hoccurrence
  simpa using mem_nonTerminals_of_mem_occurrences hsorted hproduction hmem

theorem solveBy_eq (request : Request) (hsorted : grammar.WellSorted) (record : Bool) :
    solveBy request grammar record = .ok (settledBy request grammar record) := by
  rw [solveBy, stray?_eq_none hsorted]

theorem solve_eq (hsorted : grammar.WellSorted) (record : Bool) :
    solve grammar record = .ok (settled grammar record) :=
  solveBy_eq .cached hsorted record

namespace Solution

/-- A solution with solved sets and a cache that agrees with its FIRST sets. -/
structure Settled (solution : Solution) : Prop where
  first : FirstSolved solution.grammar solution.first
  follow : FollowSolved solution.grammar solution.first solution.follow
  agrees : solution.cache.Agrees solution.first

theorem settled_settled (hsorted : grammar.WellSorted) (record : Bool) :
    (settled grammar record).Settled := by
  obtain ⟨hfirst, hagrees⟩ := firstProgress_solved hsorted record
  obtain ⟨hfollow, hagrees'⟩ := followProgress_solved hsorted hfirst hagrees record
  exact ⟨hfirst, hfollow, hagrees'⟩

/-- Asking for the FIRST set of a sequence has led from one solution to another. -/
def Asked (solution next : Solution) : Prop :=
  ∃ references set, solution.firstOfSequence references = .ok (set, next)

/-- An answered question goes to the cache with the resolved symbols. -/
theorem firstOfSequence_eq {solution : Solution} {references : List SymbolRef}
    {symbols : List Symbol} (h : references.mapM solution.resolve = .ok symbols) :
    solution.firstOfSequence references =
      .ok ((solution.cache.request solution.first symbols).1,
        { solution with cache := (solution.cache.request solution.first symbols).2 }) := by
  rw [firstOfSequence, firstOfSequenceBy, h]
  rfl

theorem Asked.settled {solution next : Solution} (h : solution.Asked next)
    (hsettled : solution.Settled) : next.Settled ∧ next.grammar = solution.grammar := by
  obtain ⟨references, set, hanswer⟩ := h
  cases hsymbols : references.mapM solution.resolve with
  | error failure =>
      rw [firstOfSequence, firstOfSequenceBy, hsymbols] at hanswer
      cases hanswer
  | ok symbols =>
      rw [firstOfSequence_eq hsymbols] at hanswer
      cases hanswer
      exact ⟨⟨hsettled.first, hsettled.follow, hsettled.agrees.request_snd symbols⟩, rfl⟩

/-- Questions leave a settled solution of the same grammar. -/
theorem settled_of_asked {solution later : Solution}
    (h : Relation.ReflTransGen Asked solution later) (hsettled : solution.Settled) :
    later.Settled ∧ later.grammar = solution.grammar := by
  induction h with
  | refl => exact ⟨hsettled, rfl⟩
  | tail _ hasked ih =>
      obtain ⟨hmiddle, hgrammar⟩ := ih
      obtain ⟨hnext, hsame⟩ := hasked.settled hmiddle
      exact ⟨hnext, hsame.trans hgrammar⟩

/-- Symbols of the grammar resolve to themselves. -/
theorem mapM_resolve {solution : Solution} {word : List Symbol}
    (h : ∀ symbol ∈ word, symbol ∈ solution.grammar.symbols) :
    (word.map SymbolRef.symbol).mapM solution.resolve = .ok word := by
  induction word with
  | nil => rfl
  | cons head rest ih =>
      have hhead : solution.resolve (.symbol head) = .ok head :=
        if_pos (h head List.mem_cons_self)
      rw [List.map_cons, List.mapM_cons, hhead,
        ih fun symbol hsymbol => h symbol (List.mem_cons_of_mem _ hsymbol)]
      rfl

/-- A settled solution answers for every sequence of symbols of its grammar. -/
theorem Settled.firstOfSequence {solution : Solution} (hsettled : solution.Settled)
    (hsorted : solution.grammar.WellSorted) {word : List Symbol}
    (hword : ∀ symbol ∈ word, symbol ∈ solution.grammar.symbols) :
    ∃ set next, solution.firstOfSequence (word.map .symbol) = .ok (set, next) ∧
      IsFirst solution.grammar (withoutEpsilon word) set := by
  refine ⟨_, _, firstOfSequence_eq (mapM_resolve hword), ?_⟩
  rw [hsettled.agrees.request_fst]
  exact hsettled.first.isFirst hsorted hword

end Solution

/-! ## FIRST -/

/-- FIRST is exact: whatever was asked before, the set of a sequence of symbols holds `ε` exactly
when the sequence derives the empty word, and any other terminal exactly when the sequence derives
a form that starts with it; an `ε` in the sequence stands for nothing. The set of a non-terminal
is that of the sequence of the non-terminal alone, and it is displayed without `ε`. -/
theorem first_exact (grammar : Grammar) (hsorted : grammar.WellSorted) (record : Bool) :
    ∃ solution, solve grammar record = .ok solution ∧
      (∀ later, Relation.ReflTransGen Solution.Asked solution later →
        ∀ word, (∀ symbol ∈ word, symbol ∈ grammar.symbols) →
          ∃ set next, later.firstOfSequence (word.map .symbol) = .ok (set, next) ∧
            IsFirst grammar (withoutEpsilon word) set) ∧
      ∀ key ∈ grammar.nonTerminals, ∃ set, solution.first.members? key = some set ∧
        IsFirst grammar [key] set ∧
          solution.displayedFirst.members? key = some (withoutEpsilon set) := by
  have hsettled := Solution.settled_settled hsorted record
  refine ⟨_, solve_eq hsorted record, ?_, ?_⟩
  · intro later hlater word hword
    obtain ⟨hlast, hgrammar⟩ := Solution.settled_of_asked hlater hsettled
    have hsame : later.grammar = grammar := hgrammar
    rw [← hsame] at hsorted hword ⊢
    exact hlast.firstOfSequence hsorted hword
  · intro key hkey
    have hkeys : key ∈ (settled grammar record).first.keys := by
      rw [hsettled.first.isOver.keys]
      exact hkey
    have hkeys' : key ∈ (settled grammar record).displayedFirst.keys := by
      rw [Solution.displayedFirst, SetMap.keys_dropEpsilon]
      exact hkeys
    refine ⟨_, SetMap.members?_eq_some hkeys, ?_, ?_⟩
    · have hword : ∀ symbol ∈ [key], symbol ∈ grammar.symbols := by
        simp [mem_symbols, hkey]
      have hself : withoutEpsilon [key] = [key] := by
        simp [withoutEpsilon, hsorted.ne_epsilon hkey]
      intro symbol
      rw [← hself, ← hsettled.first.isFirst hsorted hword symbol, mem_firstOfSequence_singleton,
        firstOfSymbol_of_isTerminal_eq_false (hsorted.isTerminal_eq_false hkey)]
    · rw [SetMap.members?_eq_some hkeys', Solution.displayedFirst, SetMap.members_dropEpsilon]

theorem first_exact_shiftExpression :
    shiftExpression.WellSorted ∧
      ∃ solution, solve shiftExpression true = .ok solution ∧
        (∃ set next, solution.firstOfSequence
            ([.epsilon, ShiftExpression.T, ShiftExpression.token "+"].map .symbol)
              = .ok (set, next) ∧
          IsFirst shiftExpression [ShiftExpression.T, ShiftExpression.token "+"] set) ∧
        ∃ set, solution.first.members? ShiftExpression.E = some set ∧
          IsFirst shiftExpression [ShiftExpression.E] set := by
  have hsorted : shiftExpression.WellSorted := by decide
  obtain ⟨solution, hsolve, hsequence, hsets⟩ := first_exact shiftExpression hsorted true
  obtain ⟨set, hset, hfirst, -⟩ := hsets ShiftExpression.E (by decide)
  exact ⟨hsorted, solution, hsolve,
    hsequence solution .refl [.epsilon, ShiftExpression.T, ShiftExpression.token "+"] (by decide),
    set, hset, hfirst⟩

/-! ## FOLLOW -/

/-- Every declared non-terminal occurs in some form that the start symbol derives. -/
def AllReachable (grammar : Grammar) : Prop :=
  ∀ key ∈ grammar.nonTerminals, ∃ before after,
    grammar.Derives [grammar.start] (before ++ key :: after)

/-- The symbol stands directly after the key in a form derived from the start symbol and ended
by `$`. -/
def FollowsInSentence (grammar : Grammar) (key symbol : Symbol) : Prop :=
  ∃ form before after, grammar.Derives [grammar.start] form ∧
    form ++ [.endMark] = before ++ key :: symbol :: after

/-- No form derived from a non-terminal holds `ε` or `$`. -/
theorem notMem_of_derives (hsorted : grammar.WellSorted) {key : Symbol}
    (hkey : key ∈ grammar.nonTerminals) {form : List Symbol} (h : grammar.Derives [key] form) :
    .epsilon ∉ form ∧ .endMark ∉ form := by
  constructor
  · exact h.notMem (fun _ => epsilon_notMem_rhs) (by simpa using (hsorted.ne_epsilon hkey).symm)
  · exact h.notMem (fun _ => endMark_notMem_rhs) (by simpa using (hsorted.ne_endMark hkey).symm)

theorem not_canFollow_epsilon (hsorted : grammar.WellSorted) (key : Symbol) :
    ¬ grammar.CanFollow key .epsilon := by
  intro hcan
  obtain ⟨origin, horigin, before, after, h⟩ := (CanFollow.iff_of_ne (by decide)).1 hcan
  exact (notMem_of_derives hsorted horigin h).1 (by simp)

/-- If all non-terminals are reachable, what can follow a symbol follows it in some form derived
from the start symbol. -/
theorem canFollow_iff_followsInSentence (hsorted : grammar.WellSorted)
    (hreachable : grammar.AllReachable) {key symbol : Symbol} :
    grammar.CanFollow key symbol ↔ grammar.FollowsInSentence key symbol := by
  constructor
  · intro hcan
    by_cases heq : symbol = .endMark
    · subst heq
      obtain ⟨before, h⟩ := CanFollow.endMark_iff.1 hcan
      exact ⟨_, before, [], h, by simp⟩
    · obtain ⟨origin, horigin, before, after, h⟩ := (CanFollow.iff_of_ne heq).1 hcan
      obtain ⟨left, right, hstart⟩ := hreachable origin horigin
      have hinner : grammar.Derives (left ++ origin :: right)
          (left ++ (before ++ key :: symbol :: after) ++ right) := by
        simpa using h.context left right
      exact ⟨_, left ++ before, after ++ right ++ [.endMark], hstart.trans hinner, by simp⟩
  · rintro ⟨form, before, after, h, hform⟩
    have hmark := (notMem_of_derives hsorted grammar.start_mem h).2
    have hsplit : form ++ [.endMark] = (before ++ [key]) ++ symbol :: after := by simp [hform]
    rcases append_eq_append_cons hsplit with ⟨inner, hleft, -⟩ | ⟨inner, hleft, hright⟩
    · -- The symbol stands in the form itself, so that it is not `$`.
      have hne : symbol ≠ .endMark := by
        rintro rfl
        exact hmark (by simp [hleft])
      refine (CanFollow.iff_of_ne hne).2 ⟨grammar.start, grammar.start_mem, before, inner, ?_⟩
      simpa [hleft] using h
    · -- The symbol is the `$` at the end, and the form ends in the key.
      rcases List.append_eq_singleton_iff.1 hright.symm with ⟨rfl, hsymbol⟩ | ⟨-, hnil⟩
      · rw [List.cons.injEq] at hsymbol
        rw [hsymbol.1, CanFollow.endMark_iff]
        rw [List.append_nil] at hleft
        exact ⟨before, hleft ▸ h⟩
      · exact absurd hnil (List.cons_ne_nil symbol after)

/-- FOLLOW is exact: the set of a non-terminal holds `$` exactly when the start symbol derives a
form that ends in the non-terminal, any other terminal exactly when some non-terminal derives a
form in which it stands directly after the non-terminal, and never `ε`. If all non-terminals are
reachable, the set holds what stands after the non-terminal in the forms derived from the start
symbol and ended by `$`. -/
theorem follow_exact (grammar : Grammar) (hsorted : grammar.WellSorted) (record : Bool) :
    ∃ solution, solve grammar record = .ok solution ∧
      ∀ key ∈ grammar.nonTerminals, ∃ set, solution.follow.members? key = some set ∧
        (∀ symbol ∈ set, symbol.isTerminal = true) ∧
        (.endMark ∈ set ↔ ∃ before, grammar.Derives [grammar.start] (before ++ [key])) ∧
        (∀ symbol, symbol.isTerminal = true → symbol ≠ .endMark →
          (symbol ∈ set ↔ ∃ origin ∈ grammar.nonTerminals, ∃ before after,
            grammar.Derives [origin] (before ++ key :: symbol :: after))) ∧
        .epsilon ∉ set ∧
        (grammar.AllReachable → ∀ symbol,
          symbol ∈ set ↔ symbol.isTerminal = true ∧ grammar.FollowsInSentence key symbol) := by
  have hsettled := Solution.settled_settled hsorted record
  refine ⟨_, solve_eq hsorted record, ?_⟩
  intro key hkey
  have hkeys : key ∈ (settled grammar record).follow.keys := by
    rw [hsettled.follow.isOver.keys]
    exact hkey
  have hmem : ∀ symbol, symbol ∈ (settled grammar record).follow.members key ↔
      symbol.isTerminal = true ∧ grammar.CanFollow key symbol := by
    intro symbol
    exact hsettled.follow.mem_members_iff hsorted hsettled.first hkey
  refine ⟨_, SetMap.members?_eq_some hkeys, ?_, ?_, ?_, ?_, ?_⟩
  · intro symbol hsymbol
    exact ((hmem symbol).1 hsymbol).1
  · rw [hmem, CanFollow.endMark_iff]
    exact and_iff_right rfl
  · intro symbol hterminal hne
    rw [hmem, CanFollow.iff_of_ne hne]
    exact and_iff_right hterminal
  · intro hepsilon
    exact not_canFollow_epsilon hsorted key ((hmem _).1 hepsilon).2
  · intro hreachable symbol
    rw [hmem, canFollow_iff_followsInSentence hsorted hreachable]

/-- From the start symbol every layer of shift expressions is reached by the unit productions. -/
theorem shiftExpression_allReachable : shiftExpression.AllReachable := by
  have hE : ⟨ShiftExpression.E, [ShiftExpression.T]⟩ ∈ shiftExpression.productions := by decide
  have hT : ⟨ShiftExpression.T, [ShiftExpression.F]⟩ ∈ shiftExpression.productions := by decide
  have hterm : shiftExpression.Derives [ShiftExpression.E] [ShiftExpression.T] :=
    .single (.of_mem hE)
  have hfactor : shiftExpression.Derives [ShiftExpression.T] [ShiftExpression.F] :=
    .single (.of_mem hT)
  intro key hkey
  simp only [shiftExpression, List.mem_cons, List.not_mem_nil, or_false] at hkey
  rcases hkey with rfl | rfl | rfl
  · exact ⟨[], [], .refl⟩
  · exact ⟨[], [], hterm⟩
  · exact ⟨[], [], hterm.trans hfactor⟩

theorem follow_exact_shiftExpression :
    shiftExpression.WellSorted ∧ shiftExpression.AllReachable ∧
      ∃ solution, solve shiftExpression false = .ok solution ∧
        ∃ set, solution.follow.members? ShiftExpression.F = some set ∧
          (ShiftExpression.token "+" ∈ set ↔
            ∃ origin ∈ shiftExpression.nonTerminals, ∃ before after,
              shiftExpression.Derives [origin]
                (before ++ ShiftExpression.F :: ShiftExpression.token "+" :: after)) ∧
          ∀ symbol, symbol ∈ set ↔ symbol.isTerminal = true ∧
            shiftExpression.FollowsInSentence ShiftExpression.F symbol := by
  have hsorted : shiftExpression.WellSorted := by decide
  obtain ⟨solution, hsolve, hsets⟩ := follow_exact shiftExpression hsorted false
  obtain ⟨set, hset, -, -, hothers, -, hsentences⟩ := hsets ShiftExpression.F (by decide)
  exact ⟨hsorted, shiftExpression_allReachable, solution, hsolve, set, hset,
    hothers (ShiftExpression.token "+") (by decide) (by decide),
    hsentences shiftExpression_allReachable⟩

end GrammarWorkbench.Grammar
