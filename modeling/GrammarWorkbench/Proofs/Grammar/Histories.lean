import Mathlib.Data.List.Chain
import GrammarWorkbench.Proofs.Grammar.Exactness
import GrammarWorkbench.Proofs.Grammar.Loops

/-!
# The history of the passes

The sets are recorded after every pass. In every pass but the last the sets grow: none of them loses
a member, and one of them gains one; the last pass leaves the sets as they were (`SettlesBy`).
So there is at most one pass more than members that were added (`Progress.settle_history`), and
`passes_grow_sets` states all this of the FIRST and of the FOLLOW passes of a grammar.
-/

set_option autoImplicit false

namespace GrammarWorkbench.Grammar

/-! ## Growing sets -/

/-- The sets have grown: with the keys as they were, no set has lost a member, and some set has a
new one. -/
structure SetMap.Grows (sets next : SetMap) : Prop where
  keys : next.keys = sets.keys
  members : ∀ {key symbol : Symbol}, symbol ∈ sets.members key → symbol ∈ next.members key
  larger : ∃ key symbol, symbol ∈ next.members key ∧ symbol ∉ sets.members key

/-- Sets of a grammar that lost no member and are larger together have grown. -/
theorem SetMap.IsOver.grows {grammar : Grammar} {sets next : SetMap} (h : sets.IsOver grammar)
    (h' : next.IsOver grammar)
    (hmembers : ∀ {key symbol : Symbol}, symbol ∈ sets.members key → symbol ∈ next.members key)
    (hlt : sets.size < next.size) : sets.Grows next := by
  have hkeys : next.keys = sets.keys := h'.keys.trans h.keys.symm
  refine ⟨hkeys, hmembers, ?_⟩
  -- With nothing new in any set the sets could not be larger together.
  by_contra hnone
  push Not at hnone
  have hle : next.size ≤ sets.size :=
    size_le_of_members hkeys h.keys_nodup h'.members_nodup fun key symbol => hnone key symbol
  omega

/-- The sets after each of some passes, which lead from the sets that the first pass finds to the
final ones: every pass but the last makes the sets grow, and the last one changes nothing. -/
def SettlesBy (start : SetMap) (history : List SetMap) (final : SetMap) : Prop :=
  ∃ growing, history = growing ++ [final] ∧
    (start :: growing).IsChain SetMap.Grows ∧
    (start :: growing).getLast (List.cons_ne_nil start growing) = final

/-! ## Repeated passes -/

namespace Progress

open Pass

/-- Passes from some sets on that have all made the sets grow: there is a record for each of them,
and at least one member more. -/
structure Grown (start : SetMap) (progress : Progress) : Prop where
  passes : progress.history.length = progress.passes
  chain : (start :: progress.history).IsChain SetMap.Grows
  last : (start :: progress.history).getLast (List.cons_ne_nil start progress.history) =
    progress.sets
  size : start.size + progress.passes ≤ progress.sets.size

variable {grammar : Grammar} {holds : SetMap → SequenceCache → Prop}
  {visit : Pass → Production → Pass} {productions : List Production}

/-- One more pass that makes the sets grow. -/
theorem Grown.advance {start : SetMap} {progress next : Progress} (h : progress.Grown start)
    (hgrows : progress.sets.Grows next.sets) (hlt : progress.sets.size < next.sets.size)
    (hpasses : next.passes = progress.passes + 1)
    (hhistory : next.history = progress.history ++ [next.sets]) : next.Grown start := by
  have hsize := h.size
  refine ⟨?_, ?_, ?_, by omega⟩
  · rw [hhistory, List.length_append, List.length_singleton, h.passes, hpasses]
  · rw [hhistory, ← List.cons_append, List.isChain_append]
    refine ⟨h.chain, List.isChain_singleton _, ?_⟩
    intro before hbefore after hafter
    rw [List.getLast?_eq_some_getLast (List.cons_ne_nil _ _), h.last] at hbefore
    cases hbefore
    cases hafter
    exact hgrows
  · simp [hhistory]

/-- Recorded passes from some sets up to the first one in which no set grows. -/
theorem settle_history (hmaintains : Maintains holds visit productions)
    (hover : ∀ sets cache, holds sets cache → sets.IsOver grammar) {start : SetMap}
    {cache : SequenceCache} (hholds : holds start cache) {final : Progress}
    (hfinal : settle visit productions true (passBound grammar) { sets := start, cache } = final) :
    SettlesBy start final.history final.sets ∧ final.history.length = final.passes ∧
      start.size + final.passes ≤ final.sets.size + 1 := by
  have hkeeps : ∀ progress next : Progress, holds progress.sets progress.cache →
      progress.Grown start → progress.advance visit productions true = (next, true) →
      next.Grown start := by
    intro progress next hprogress hgrown hadvance
    obtain ⟨-, hpasses, hhistory⟩ := advance_eq hadvance
    obtain ⟨hnext, hmembers, hlarger, -⟩ := advance_spec hmaintains hprogress hadvance
    have hlt := hlarger rfl
    exact hgrown.advance ((hover _ _ hprogress).grows (hover _ _ hnext) hmembers hlt) hlt hpasses
      hhistory
  obtain ⟨last, hlast, hgrown, hadvance⟩ := settle_last hmaintains
    (fun sets cache h => (hover sets cache h).size_le) (Grown start) hkeeps (passBound grammar)
    { sets := start, cache } hholds ⟨rfl, List.isChain_singleton start, rfl, Nat.le_refl _⟩
    (Nat.lt_add_left _ (lt_passBound grammar))
  rw [hfinal] at hadvance
  obtain ⟨-, hpasses, hhistory⟩ := advance_eq hadvance
  obtain ⟨-, -, -, hsame⟩ := advance_spec hmaintains hlast hadvance
  obtain ⟨hsets, -⟩ := hsame rfl
  have hsize := hgrown.size
  refine ⟨⟨last.history, hhistory, hgrown.chain, hgrown.last.trans hsets.symm⟩, ?_, ?_⟩
  · rw [hhistory, hpasses, if_pos rfl, List.length_append, List.length_singleton, hgrown.passes]
  · rw [hpasses, hsets]
    omega

end Progress

/-! ## The passes of a grammar -/

variable {grammar : Grammar}

/-- The FIRST passes start from empty sets. -/
theorem members?_empty {key : Symbol} (hkey : key ∈ grammar.nonTerminals) :
    (SetMap.empty grammar.nonTerminals).members? key = some [] := by
  rw [SetMap.members?_eq_some (by rwa [SetMap.keys_empty]), SetMap.members_empty]

/-- The FOLLOW passes start from sets that are empty except for the start symbol, which has `$`. -/
theorem members?_followStart {key : Symbol} (hkey : key ∈ grammar.nonTerminals) :
    (followStart grammar).members? key =
      some (if key = grammar.start then [.endMark] else []) := by
  have hkeys : key ∈ (followStart grammar).keys := by
    rwa [followStart, SetMap.keys_add, SetMap.keys_empty]
  rw [SetMap.members?_eq_some hkeys, followStart]
  split
  · rename_i hstart
    subst hstart
    rw [SetMap.members_add_self (by rwa [SetMap.keys_empty]), SetMap.members_empty]
    rfl
  · rename_i hne
    rw [SetMap.members_add_of_ne hne, SetMap.members_empty]

theorem firstProgress_history (hsorted : grammar.WellSorted) {final : Progress}
    (hfinal : firstProgress grammar true = final) :
    SettlesBy (.empty grammar.nonTerminals) final.history final.sets ∧
      final.history.length = final.passes ∧ final.passes ≤ 1 + final.sets.size := by
  obtain ⟨hsettles, hlength, hsize⟩ := Progress.settle_history (maintains_visitFirst hsorted)
    (fun _ _ hinv => hinv.isOver) (firstStart_invariant grammar) hfinal
  exact ⟨hsettles, hlength, by omega⟩

theorem followProgress_history (hsorted : grammar.WellSorted) {first : SetMap}
    {cache : SequenceCache} (hfirst : FirstSolved grammar first) (hagrees : cache.Agrees first)
    {final : Progress} (hfinal : followProgress grammar true first cache = final) :
    SettlesBy (followStart grammar) final.history final.sets ∧
      final.history.length = final.passes ∧ final.passes ≤ final.sets.size := by
  have hinv : FollowInvariant grammar first (followStart grammar) cache :=
    followStart_invariant hagrees
  obtain ⟨hsettles, hlength, hsize⟩ := Progress.settle_history
    (maintains_visitFollow hsorted hfirst) (fun _ _ hinv => hinv.isOver) hinv hfinal
  -- The `$` behind the start symbol is a member that no pass had to bring in.
  have hmember := List.length_pos_of_mem hinv.endMark
  have hstart := (followStart grammar).length_members_le_size grammar.start
  exact ⟨hsettles, hlength, by omega⟩

/-- The FIRST and the FOLLOW passes of a grammar end, and a record is made of every one of them.
From the empty sets, and from `$` alone behind the start symbol, every pass but the last makes the
sets grow, and the last one finds the final sets and changes nothing. So there is at most one FIRST
pass more than the FIRST sets have members together, and there are at most as many FOLLOW passes as
the FOLLOW sets have members. -/
theorem passes_grow_sets (grammar : Grammar) (hsorted : grammar.WellSorted) :
    ∃ solution, solve grammar true = .ok solution ∧
      solution.firstHistory.length = solution.firstPasses ∧
      solution.followHistory.length = solution.followPasses ∧
      (∀ key ∈ grammar.nonTerminals,
        (SetMap.empty grammar.nonTerminals).members? key = some [] ∧
          (followStart grammar).members? key =
            some (if key = grammar.start then [.endMark] else [])) ∧
      SettlesBy (.empty grammar.nonTerminals) solution.firstHistory solution.first ∧
      SettlesBy (followStart grammar) solution.followHistory solution.follow ∧
      (∃ cache, FirstLoop grammar ⟨⟨solution.first, cache, false⟩, []⟩ ∧
        FollowLoop grammar solution.first cache ⟨⟨solution.follow, solution.cache, false⟩, []⟩) ∧
      solution.firstPasses ≤ 1 + solution.first.size ∧
      solution.followPasses ≤ solution.follow.size := by
  obtain ⟨hsolved, hagrees⟩ := firstProgress_solved hsorted true
  obtain ⟨hfirst, hfirstLength, hfirstPasses⟩ := firstProgress_history hsorted rfl
  obtain ⟨hfollow, hfollowLength, hfollowPasses⟩ :=
    followProgress_history hsorted hsolved hagrees rfl
  exact ⟨settled grammar true, solve_eq hsorted true, hfirstLength, hfollowLength,
    fun key hkey => ⟨members?_empty hkey, members?_followStart hkey⟩, hfirst, hfollow,
    ⟨_, firstLoop_firstProgress hsorted true,
      followLoop_followProgress hsorted hsolved hagrees true⟩, hfirstPasses, hfollowPasses⟩

theorem passes_grow_sets_shiftExpression :
    shiftExpression.WellSorted ∧
      ∃ solution, solve shiftExpression true = .ok solution ∧
        solution.firstHistory.length = solution.firstPasses ∧
        solution.followHistory.length = solution.followPasses ∧
        (followStart shiftExpression).members? ShiftExpression.E = some [.endMark] ∧
        SettlesBy (.empty shiftExpression.nonTerminals) solution.firstHistory solution.first ∧
        SettlesBy (followStart shiftExpression) solution.followHistory solution.follow ∧
        solution.firstPasses ≤ 1 + solution.first.size ∧
        solution.followPasses ≤ solution.follow.size := by
  have hsorted : shiftExpression.WellSorted := by decide
  obtain ⟨solution, hsolve, hfirst, hfollow, hstart, hgrows, hgrows', -, hpasses, hpasses'⟩ :=
    passes_grow_sets shiftExpression hsorted
  exact ⟨hsorted, solution, hsolve, hfirst, hfollow,
    (hstart ShiftExpression.E (by decide)).2, hgrows, hgrows', hpasses, hpasses'⟩

end GrammarWorkbench.Grammar
