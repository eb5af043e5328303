import GrammarWorkbench.Proofs.Grammar.Follow

/-!
# The loops of a solver, visit by visit

The sets are found by two loops. A `Round` is the state of such a loop between two visits: the pass
so far, and the items that it has still to visit. When none is left, a loop in which a set has grown
starts over, and any other loop has ended.

What every visit keeps holds in every round (`Reaches.maintains`), and the repeated passes of
`Progress.settle` are the loop followed to its end (`Progress.settle_reached`). The FIRST loop goes
over the productions, and the FOLLOW loop over the non-terminals on their right sides.
-/

set_option autoImplicit false

namespace GrammarWorkbench.Grammar

open Pass

/-- A pass with the items that it has still to visit. -/
structure Round (Item : Type) where
  pass : Pass
  remaining : List Item

namespace Round

variable {Item : Type} {visit : Pass → Item → Pass} {items : List Item}

/-- A step of a loop over some items: the next item is visited, or the items are gone through again
as a set has grown. -/
inductive Step (visit : Pass → Item → Pass) (items : List Item) : Round Item → Round Item → Prop
  | visit (pass : Pass) (item : Item) (rest : List Item) :
      Step visit items ⟨pass, item :: rest⟩ ⟨visit pass item, rest⟩
  | again (pass : Pass) (hgrew : pass.grew = true) :
      Step visit items ⟨pass, []⟩ ⟨{ pass with grew := false }, items⟩

/-- A loop over some items comes from one round to another. -/
abbrev Reaches (visit : Pass → Item → Pass) (items : List Item) : Round Item → Round Item → Prop :=
  Relation.ReflTransGen (Step visit items)

variable {holds : SetMap → SequenceCache → Prop} {round next later : Round Item}

theorem Step.maintains (hmaintains : Maintains holds visit items)
    (hstep : Step visit items round next) (hitems : round.remaining ⊆ items)
    (hholds : holds round.pass.sets round.pass.cache) :
    next.remaining ⊆ items ∧ holds next.pass.sets next.pass.cache := by
  cases hstep with
  | visit pass item rest =>
      obtain ⟨hitem, hrest⟩ := List.cons_subset.1 hitems
      exact ⟨hrest, (hmaintains item hitem pass hholds).1⟩
  | again pass hgrew => exact ⟨fun _ hmem => hmem, hholds⟩

/-- What every visit keeps holds in every round that a loop comes to. -/
theorem Reaches.maintains (hmaintains : Maintains holds visit items) {start : Pass}
    (h : Reaches visit items ⟨start, items⟩ later) (hholds : holds start.sets start.cache) :
    later.remaining ⊆ items ∧ holds later.pass.sets later.pass.cache := by
  induction h with
  | refl => exact ⟨fun _ hmem => hmem, hholds⟩
  | tail _ hstep ih => exact hstep.maintains hmaintains ih.1 ih.2

/-- A loop comes to the end of the pass that it is in. -/
theorem reaches_foldl (pass : Pass) (remaining : List Item) :
    Reaches visit items ⟨pass, remaining⟩ ⟨remaining.foldl visit pass, []⟩ := by
  induction remaining generalizing pass with
  | nil => exact .refl
  | cons item rest ih => exact .head (.visit pass item rest) (ih (visit pass item))

end Round

/-- Repeated passes are the loop followed to its end: the round that they lead to has no item left
and no set has grown in it. The loop may go over finer items, if they make up the same passes. -/
theorem Progress.settle_reached {Item : Type} {holds : SetMap → SequenceCache → Prop}
    {visit : Pass → Production → Pass} {productions : List Production}
    {visitItem : Pass → Item → Pass} {items : List Item}
    (hitems : ∀ pass, productions.foldl visit pass = items.foldl visitItem pass)
    (hmaintains : Maintains holds visit productions) {limit : Nat}
    (hlimit : ∀ sets cache, holds sets cache → sets.size ≤ limit) (record : Bool) (bound : Nat)
    (progress : Progress) (hholds : holds progress.sets progress.cache)
    (hroom : limit < progress.sets.size + bound) :
    Round.Reaches visitItem items ⟨⟨progress.sets, progress.cache, false⟩, items⟩
      ⟨⟨(settle visit productions record bound progress).sets,
        (settle visit productions record bound progress).cache, false⟩, []⟩ := by
  -- Wherever the passes go on, the loop has come to the beginning of the next one.
  have hpass : ∀ (middle next : Progress) (grew : Bool),
      middle.advance visit productions record = (next, grew) →
        Round.Reaches visitItem items ⟨⟨middle.sets, middle.cache, false⟩, items⟩
          ⟨⟨next.sets, next.cache, grew⟩, []⟩ := by
    intro middle next grew hadvance
    rw [← (advance_eq hadvance).1, hitems]
    exact Round.reaches_foldl _ items
  obtain ⟨last, -, hreached, hadvance⟩ := settle_last hmaintains hlimit
    (fun reached => Round.Reaches visitItem items
      ⟨⟨progress.sets, progress.cache, false⟩, items⟩ ⟨⟨reached.sets, reached.cache, false⟩, items⟩)
    (fun _ _ _ hreached hadvance => (hreached.trans (hpass _ _ _ hadvance)).tail (.again _ rfl))
    bound progress hholds .refl hroom
  exact hreached.trans (hpass _ _ _ hadvance)

/-! ## The loops of a grammar -/

variable {grammar : Grammar}

/-- The rounds of the FIRST loop of a grammar. -/
def FirstLoop (grammar : Grammar) : Round Production → Prop :=
  Round.Reaches Pass.visitFirst grammar.productions
    ⟨⟨.empty grammar.nonTerminals, {}, false⟩, grammar.productions⟩

/-- The non-terminals on the right sides of a grammar, each with the left side before it and with
what follows it. -/
def occurrences (grammar : Grammar) : List (Symbol × Symbol × List Symbol) :=
  grammar.productions.flatMap fun production =>
    production.occurrences.map fun occurrence => (production.lhs, occurrence)

/-- Looks at a non-terminal on a right side in a FOLLOW pass. -/
def Pass.visitOccurrenceOf (first : SetMap) (pass : Pass)
    (occurrence : Symbol × Symbol × List Symbol) : Pass :=
  pass.visitOccurrence first occurrence.1 occurrence.2

/-- The rounds of the FOLLOW loop of a grammar, with the FIRST sets and the cache that it is entered
with. -/
def FollowLoop (grammar : Grammar) (first : SetMap) (cache : SequenceCache) :
    Round (Symbol × Symbol × List Symbol) → Prop :=
  Round.Reaches (Pass.visitOccurrenceOf first) (occurrences grammar)
    ⟨⟨followStart grammar, cache, false⟩, occurrences grammar⟩

/-- Going over the productions is going over the non-terminals on their right sides. -/
theorem foldl_visitFollow (grammar : Grammar) (first : SetMap) (pass : Pass) :
    grammar.productions.foldl (Pass.visitFollow first) pass =
      (occurrences grammar).foldl (Pass.visitOccurrenceOf first) pass := by
  rw [occurrences, List.foldl_flatMap]
  simp only [List.foldl_map]
  rfl

theorem maintains_visitOccurrenceOf {first : SetMap} (hsorted : grammar.WellSorted)
    (hfirst : FirstSolved grammar first) :
    Maintains (FollowInvariant grammar first) (Pass.visitOccurrenceOf first)
      (occurrences grammar) := by
  intro occurrence hoccurrence
  obtain ⟨production, hproduction, hmem⟩ := List.mem_flatMap.1 hoccurrence
  obtain ⟨place, hplace, rfl⟩ := List.mem_map.1 hmem
  exact maintains_visitOccurrence hsorted hfirst hproduction place hplace

/-- In every round of the FIRST loop the cache agrees with the FIRST sets as they are then. -/
theorem FirstLoop.agrees (hsorted : grammar.WellSorted) {round : Round Production}
    (h : FirstLoop grammar round) : round.pass.cache.Agrees round.pass.sets :=
  (h.maintains (maintains_visitFirst hsorted) (firstStart_invariant grammar)).2.agrees

/-- In every round of the FOLLOW loop the cache agrees with the FIRST sets. -/
theorem FollowLoop.agrees (hsorted : grammar.WellSorted) {first : SetMap} {cache : SequenceCache}
    (hfirst : FirstSolved grammar first) (hagrees : cache.Agrees first)
    {round : Round (Symbol × Symbol × List Symbol)} (h : FollowLoop grammar first cache round) :
    round.pass.cache.Agrees first :=
  (h.maintains (maintains_visitOccurrenceOf hsorted hfirst)
    (followStart_invariant hagrees)).2.agrees

/-- The FIRST loop ends with the sets and the cache of the FIRST passes. -/
theorem firstLoop_firstProgress (hsorted : grammar.WellSorted) (record : Bool) :
    FirstLoop grammar
      ⟨⟨(firstProgress grammar record).sets, (firstProgress grammar record).cache, false⟩, []⟩ :=
  Progress.settle_reached (fun _ => rfl) (maintains_visitFirst hsorted)
    (fun _ _ hinv => hinv.isOver.size_le) record (passBound grammar)
    { sets := .empty grammar.nonTerminals, cache := {} } (firstStart_invariant grammar)
    (Nat.lt_add_left _ (lt_passBound grammar))

/-- The FOLLOW loop ends with the sets and the cache of the FOLLOW passes. -/
theorem followLoop_followProgress (hsorted : grammar.WellSorted) {first : SetMap}
    {cache : SequenceCache} (hfirst : FirstSolved grammar first) (hagrees : cache.Agrees first)
    (record : Bool) :
    FollowLoop grammar first cache
      ⟨⟨(followProgress grammar record first cache).sets,
        (followProgress grammar record first cache).cache, false⟩, []⟩ :=
  Progress.settle_reached (foldl_visitFollow grammar first) (maintains_visitFollow hsorted hfirst)
    (fun _ _ hinv => hinv.isOver.size_le) record (passBound grammar)
    { sets := followStart grammar, cache } (followStart_invariant hagrees)
    (Nat.lt_add_left _ (lt_passBound grammar))

end GrammarWorkbench.Grammar
