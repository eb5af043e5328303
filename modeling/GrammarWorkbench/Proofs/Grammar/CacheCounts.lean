import Mathlib.Data.Set.Card
import GrammarWorkbench.Proofs.Grammar.Exactness

/-!
# What the passes ask of the cache

Every FIRST visit requests the right side of its production, and every FOLLOW visit what stands
behind a non-terminal, so that the requests of repeated passes are counted by the visits. A FIRST
visit may clear the cache, but only if a set has grown: in the last pass none has, and all that was
requested in it is still there (`Pass.Asks`, `Progress.settle_cache`).

In the end the cache has counted every request, and holds the set of every sequence that can be
requested at all, each of them once (`requests_accounted`).
-/

set_option autoImplicit false

namespace GrammarWorkbench.Grammar

/-! ## The requests of a pass -/

namespace Pass

/-- From a pass to a later state of it some sequences were requested, and nothing else. Where visits
clear the cache, they do so only after a set has grown; if none has, the cache holds what it held
before and what was requested. -/
structure Asks (clears : Prop) (asked : List (List Symbol)) (pass next : Pass) : Prop where
  requests : next.cache.requests = pass.cache.requests + asked.length
  nodup : pass.cache.sequences.Nodup → next.cache.sequences.Nodup
  within : ∀ sequence ∈ next.cache.sequences, sequence ∈ pass.cache.sequences ∨ sequence ∈ asked
  unmarked : next.grew = false → pass.grew = false
  complete : (clears → next.grew = false) → ∀ sequence,
    sequence ∈ pass.cache.sequences ∨ sequence ∈ asked → sequence ∈ next.cache.sequences

namespace Asks

variable {clears : Prop}

theorem refl (pass : Pass) : pass.Asks clears [] pass where
  requests := rfl
  nodup := id
  within := fun _ hmem => Or.inl hmem
  unmarked := id
  complete := fun _ _ hmem => hmem.resolve_right List.not_mem_nil

theorem trans {left right : List (List Symbol)} {pass middle next : Pass}
    (h : pass.Asks clears left middle) (h' : middle.Asks clears right next) :
    pass.Asks clears (left ++ right) next where
  requests := by rw [h'.requests, h.requests, List.length_append, Nat.add_assoc]
  nodup := fun hnodup => h'.nodup (h.nodup hnodup)
  within := by
    intro sequence hmem
    rw [List.mem_append, ← or_assoc]
    exact (h'.within sequence hmem).imp_left (h.within sequence)
  unmarked := fun hgrew => h.unmarked (h'.unmarked hgrew)
  complete := by
    intro hgrew sequence hmem
    rw [List.mem_append, ← or_assoc] at hmem
    exact h'.complete hgrew sequence
      (hmem.imp_left (h.complete (fun hclears => h'.unmarked (hgrew hclears)) sequence))

/-- What single visits ask for, a run of visits asks for one after another. -/
theorem foldl {Item : Type} {visit : Pass → Item → Pass} {asked : Item → List (List Symbol)}
    (h : ∀ pass item, Asks clears (asked item) pass (visit pass item)) (items : List Item)
    (pass : Pass) : pass.Asks clears (items.flatMap asked) (items.foldl visit pass) := by
  induction items generalizing pass with
  | nil => exact .refl pass
  | cons item items ih =>
      rw [List.flatMap_cons]
      exact (h pass item).trans (ih (visit pass item))

/-- A single request, after which the cache is left as it is. -/
theorem of_request {pass next : Pass} {first : SetMap} {sequence : List Symbol}
    (hcache : next.cache = (pass.cache.request first sequence).2)
    (hgrew : next.grew = false → pass.grew = false) : pass.Asks clears [sequence] next where
  requests := by rw [hcache, SequenceCache.requests_request, List.length_singleton]
  nodup := by
    rw [hcache]
    exact fun hnodup => SequenceCache.nodup_sequences_request hnodup sequence
  within := by simp [hcache]
  unmarked := hgrew
  complete := by simp [hcache]

/-- A single request, after which the cache is cleared as a set has grown. -/
theorem of_clear {pass next : Pass} {first : SetMap} {sequence : List Symbol}
    (hcache : next.cache = (pass.cache.request first sequence).2.clear)
    (hgrew : next.grew = true) : pass.Asks True [sequence] next where
  requests := by
    rw [hcache, SequenceCache.requests_clear, SequenceCache.requests_request,
      List.length_singleton]
  nodup := by simp [hcache]
  within := by simp [hcache]
  unmarked := by simp [hgrew]
  complete := by simp [hgrew]

end Asks

/-- A FIRST visit requests the right side of its production. -/
theorem asks_visitFirst (pass : Pass) (production : Production) :
    pass.Asks True [production.rhs] (pass.visitFirst production) := by
  rw [visitFirst, visitFirstBy]
  dsimp only
  split
  · exact .of_clear rfl rfl
  · exact .of_request rfl id

/-- A FOLLOW visit to a non-terminal requests what stands behind it. -/
theorem asks_visitOccurrence (first : SetMap) (lhs : Symbol) (pass : Pass)
    (occurrence : Symbol × List Symbol) :
    pass.Asks False [occurrence.2] (pass.visitOccurrence first lhs occurrence) := by
  apply Asks.of_request rfl
  intro hgrew
  rw [visitOccurrence, visitOccurrenceBy, Bool.or_eq_false_iff] at hgrew
  exact hgrew.1

/-- A FOLLOW visit to a production requests what stands behind each of its non-terminals. -/
theorem asks_visitFollow (first : SetMap) (pass : Pass) (production : Production) :
    pass.Asks False (production.occurrences.map Prod.snd) (pass.visitFollow first production) := by
  rw [List.map_eq_flatMap]
  exact .foldl (asks_visitOccurrence first production.lhs) production.occurrences pass

end Pass

/-! ## The requests of repeated passes -/

namespace Progress

open Pass

variable {holds : SetMap → SequenceCache → Prop} {visit : Pass → Production → Pass}
  {productions : List Production}

/-- The cache after some passes that each ask for the same sequences. -/
structure Counted (clears : Prop) (asked : List (List Symbol)) (cache : SequenceCache)
    (progress : Progress) : Prop where
  requests : progress.cache.requests = cache.requests + progress.passes * asked.length
  nodup : progress.cache.sequences.Nodup
  within : ∀ sequence ∈ progress.cache.sequences,
    sequence ∈ cache.sequences ∨ sequence ∈ asked
  kept : ¬ clears → cache.sequences ⊆ progress.cache.sequences

/-- One more pass that asks for these sequences. -/
theorem Counted.advance {clears : Prop} {asked : List (List Symbol)} {cache : SequenceCache}
    {progress next : Progress} {grew : Bool} (h : progress.Counted clears asked cache)
    (hasks : Asks clears asked ⟨progress.sets, progress.cache, false⟩
      ⟨next.sets, next.cache, grew⟩)
    (hpasses : next.passes = progress.passes + 1) : next.Counted clears asked cache where
  requests := by
    have hrequests : next.cache.requests = progress.cache.requests + asked.length :=
      hasks.requests
    rw [hrequests, h.requests, hpasses, Nat.add_mul, Nat.one_mul, Nat.add_assoc]
  nodup := hasks.nodup h.nodup
  within := by
    intro sequence hmem
    rcases hasks.within sequence hmem with hold | hnew
    · exact h.within sequence hold
    · exact Or.inr hnew
  kept := by
    intro hkept sequence hmem
    exact hasks.complete (fun hclears => absurd hclears hkept) sequence
      (Or.inl (h.kept hkept hmem))

/-- The cache after repeated passes, up to the first one in which no set grows, from a cache that is
empty if visits may clear it. -/
theorem settle_cache (hmaintains : Maintains holds visit productions) {limit : Nat}
    (hlimit : ∀ sets cache, holds sets cache → sets.size ≤ limit) {clears : Prop}
    {asked : Production → List (List Symbol)}
    (hasks : ∀ pass production, Asks clears (asked production) pass (visit pass production))
    {record : Bool} {bound : Nat} {start : SetMap} {cache : SequenceCache}
    (hholds : holds start cache) (hroom : limit < start.size + bound)
    (hnodup : cache.sequences.Nodup) (hclears : clears → cache.sequences = [])
    {final : Progress}
    (hfinal : settle visit productions record bound { sets := start, cache } = final) :
    final.cache.requests =
        cache.requests + final.passes * (productions.flatMap asked).length ∧
      final.cache.sequences.Nodup ∧
      ∀ sequence, sequence ∈ final.cache.sequences ↔
        sequence ∈ cache.sequences ∨ sequence ∈ productions.flatMap asked := by
  have hpass : ∀ (progress next : Progress) (grew : Bool),
      progress.Counted clears (productions.flatMap asked) cache →
      progress.advance visit productions record = (next, grew) →
      Asks clears (productions.flatMap asked) ⟨progress.sets, progress.cache, false⟩
        ⟨next.sets, next.cache, grew⟩ ∧
        next.Counted clears (productions.flatMap asked) cache := by
    intro progress next grew hcounted hadvance
    obtain ⟨hfoldl, hpasses, -⟩ := advance_eq hadvance
    have hrun := Asks.foldl hasks productions ⟨progress.sets, progress.cache, false⟩
    rw [hfoldl] at hrun
    exact ⟨hrun, hcounted.advance hrun hpasses⟩
  obtain ⟨last, -, hcounted, hadvance⟩ := settle_last hmaintains hlimit
    (Counted clears (productions.flatMap asked) cache)
    (fun progress next _ hcounted hadvance => (hpass progress next true hcounted hadvance).2)
    bound { sets := start, cache } hholds
    ⟨by simp, hnodup, fun _ hmem => Or.inl hmem, fun _ => List.Subset.refl _⟩ hroom
  rw [hfinal] at hadvance
  obtain ⟨hlast, hfinally⟩ := hpass last final false hcounted hadvance
  refine ⟨hfinally.requests, hfinally.nodup, fun sequence => ⟨hfinally.within sequence, ?_⟩⟩
  rintro (hold | hnew)
  · by_cases h : clears
    · simp [hclears h] at hold
    · exact hfinally.kept h hold
  · exact hlast.complete (fun _ => rfl) sequence (Or.inr hnew)

end Progress

/-! ## The requests of a grammar -/

/-- A sequence that the passes over a grammar request: a right side, or what stands behind a
non-terminal on a right side. -/
def IsRequested (grammar : Grammar) (sequence : List Symbol) : Prop :=
  ∃ production ∈ grammar.productions, sequence = production.rhs ∨
    ∃ before key, key.isNonTerminal = true ∧ production.rhs = before ++ key :: sequence

/-- The number of the non-terminals on all right sides, each counted as often as it occurs. -/
def occurrenceCount (grammar : Grammar) : Nat :=
  (grammar.productions.flatMap Production.rhs).countP Symbol.isNonTerminal

variable {grammar : Grammar}

theorem Production.length_occurrencesIn (symbols : List Symbol) :
    (occurrencesIn symbols).length = symbols.countP Symbol.isNonTerminal := by
  induction symbols with
  | nil => rfl
  | cons head rest ih =>
      rw [occurrencesIn, List.countP_cons]
      split
      · rw [List.length_cons, ih]
      · exact ih

theorem length_flatMap_occurrences (grammar : Grammar) :
    (grammar.productions.flatMap fun production => production.occurrences.map Prod.snd).length =
      grammar.occurrenceCount := by
  rw [occurrenceCount, List.length_flatMap, List.countP_flatMap]
  simp only [List.length_map, Production.occurrences, Production.length_occurrencesIn]
  rfl

/-- The FIRST passes request the right sides, and the FOLLOW passes what stands behind
non-terminals. -/
theorem isRequested_iff {sequence : List Symbol} :
    grammar.IsRequested sequence ↔
      sequence ∈ grammar.productions.flatMap (fun production => [production.rhs]) ∨
        sequence ∈ grammar.productions.flatMap fun production =>
          production.occurrences.map Prod.snd := by
  have hoccurrences : ∀ production : Production,
      sequence ∈ production.occurrences.map Prod.snd ↔
        ∃ before key, key.isNonTerminal = true ∧ production.rhs = before ++ key :: sequence := by
    intro production
    simp only [List.mem_map, Prod.exists, exists_eq_right, Production.occurrences,
      Production.mem_occurrencesIn, Symbol.isNonTerminal, Bool.not_eq_true', ← exists_and_left]
    exact exists_comm
  simp only [IsRequested, List.mem_flatMap, List.mem_singleton, hoccurrences, and_or_left,
    exists_or]

/-- The cache after the FIRST passes. -/
theorem firstProgress_cache (hsorted : grammar.WellSorted) (record : Bool) {final : Progress}
    (hfinal : firstProgress grammar record = final) :
    final.cache.requests = final.passes * grammar.productions.length ∧
      final.cache.sequences.Nodup ∧
      ∀ sequence, sequence ∈ final.cache.sequences ↔
        sequence ∈ grammar.productions.flatMap fun production => [production.rhs] := by
  obtain ⟨hrequests, hnodup, hmem⟩ := Progress.settle_cache (maintains_visitFirst hsorted)
    (fun _ _ hinv => hinv.isOver.size_le) Pass.asks_visitFirst (firstStart_invariant grammar)
    (Nat.lt_add_left _ (lt_passBound grammar)) List.nodup_nil (fun _ => rfl) hfinal
  have hlength : (grammar.productions.flatMap fun production => [production.rhs]).length =
      grammar.productions.length := by simp
  have hempty : ({} : SequenceCache).requests = 0 := rfl
  rw [hlength, hempty, Nat.zero_add] at hrequests
  refine ⟨hrequests, hnodup, fun sequence => (hmem sequence).trans ?_⟩
  exact or_iff_right (List.not_mem_nil (a := sequence))

/-- The cache after the FOLLOW passes. -/
theorem followProgress_cache (hsorted : grammar.WellSorted) {first : SetMap}
    {cache : SequenceCache} (hfirst : FirstSolved grammar first) (hagrees : cache.Agrees first)
    (hnodup : cache.sequences.Nodup) (record : Bool) {final : Progress}
    (hfinal : followProgress grammar record first cache = final) :
    final.cache.requests = cache.requests + final.passes * grammar.occurrenceCount ∧
      final.cache.sequences.Nodup ∧
      ∀ sequence, sequence ∈ final.cache.sequences ↔
        sequence ∈ cache.sequences ∨
          sequence ∈ grammar.productions.flatMap fun production =>
            production.occurrences.map Prod.snd := by
  rw [← length_flatMap_occurrences]
  exact Progress.settle_cache (maintains_visitFollow hsorted hfirst)
    (fun _ _ hinv => hinv.isOver.size_le) (Pass.asks_visitFollow first)
    (followStart_invariant hagrees) (Nat.lt_add_left _ (lt_passBound grammar)) hnodup False.elim
    hfinal

/-- The cache of a solved grammar. -/
theorem settled_cache (hsorted : grammar.WellSorted) {record : Bool} {solution : Solution}
    (hsolution : settled grammar record = solution) :
    solution.cache.requests = solution.firstPasses * grammar.productions.length +
        solution.followPasses * grammar.occurrenceCount ∧
      solution.cache.sequences.Nodup ∧
      ∀ sequence, sequence ∈ solution.cache.sequences ↔ grammar.IsRequested sequence := by
  subst hsolution
  obtain ⟨hsolved, hagrees⟩ := firstProgress_solved hsorted record
  obtain ⟨hfirst, hfirstNodup, hfirstMem⟩ := firstProgress_cache hsorted record rfl
  obtain ⟨hfollow, hnodup, hmem⟩ :=
    followProgress_cache hsorted hsolved hagrees hfirstNodup record rfl
  rw [hfirst] at hfollow
  refine ⟨hfollow, hnodup, fun sequence => ?_⟩
  rw [isRequested_iff, ← hfirstMem]
  exact hmem sequence

/-- Every request of the passes is counted, as many for each FIRST pass as there are productions and
as many for each FOLLOW pass as there are non-terminals on their right sides; and in the end the
cache holds every sequence that was ever requested, each of them once. -/
theorem requests_accounted (grammar : Grammar) (hsorted : grammar.WellSorted) (record : Bool) :
    ∃ solution, solve grammar record = .ok solution ∧
      solution.cache.hits + solution.cache.misses =
        solution.firstPasses * grammar.productions.length +
          solution.followPasses * grammar.occurrenceCount ∧
      (∀ sequence, sequence ∈ solution.cache.sequences ↔ grammar.IsRequested sequence) ∧
      solution.cache.entries.length = {sequence | grammar.IsRequested sequence}.ncard := by
  obtain ⟨solution, hsolution⟩ : ∃ solution, settled grammar record = solution := ⟨_, rfl⟩
  obtain ⟨hrequests, hnodup, hmem⟩ := settled_cache hsorted hsolution
  refine ⟨solution, hsolution ▸ solve_eq hsorted record, hrequests, hmem, ?_⟩
  -- The kept sequences are all different, so that counting them is counting their set.
  have hset : {sequence | grammar.IsRequested sequence} = ↑solution.cache.sequences.toFinset := by
    ext sequence
    simp [hmem]
  rw [hset, Set.ncard_coe_finset, List.toFinset_card_of_nodup hnodup, SequenceCache.sequences,
    List.length_map]

theorem requests_accounted_shiftExpression :
    shiftExpression.WellSorted ∧
      ∃ solution, solve shiftExpression false = .ok solution ∧
        solution.cache.hits + solution.cache.misses =
          solution.firstPasses * 8 + solution.followPasses * 11 ∧
        [ShiftExpression.token "<<", ShiftExpression.T] ∈ solution.cache.sequences ∧
        solution.cache.entries.length =
          {sequence | shiftExpression.IsRequested sequence}.ncard := by
  have hsorted : shiftExpression.WellSorted := by decide
  obtain ⟨solution, hsolve, hrequests, hsequences, hcard⟩ :=
    requests_accounted shiftExpression hsorted false
  -- What stands behind the first `E` of the first production.
  have hrequested : shiftExpression.IsRequested [ShiftExpression.token "<<", ShiftExpression.T] :=
    ⟨⟨ShiftExpression.E, [ShiftExpression.E, ShiftExpression.token "<<", ShiftExpression.T]⟩,
      by decide, .inr ⟨[], ShiftExpression.E, rfl, rfl⟩⟩
  exact ⟨hsorted, solution, hsolve, hrequests, (hsequences _).2 hrequested, hcard⟩

end GrammarWorkbench.Grammar
