import GrammarWorkbench.Proofs.Grammar.Exactness
import GrammarWorkbench.Proofs.Grammar.Loops

/-!
# The cache changes nothing

The solver and the questions to its solutions are stated for any way to get the FIRST set of a
sequence. With `Request.cached` they are those that run, and with `Request.uncached` there is no
cache.

Whenever a request is made, every entry of the cache is what would be worked out from the FIRST sets
as they are then (`Requested.agrees`). So each visit of a pass does the same with the cache and
without it, and from visits this goes over to passes, to the solutions and to the answers to any
questions (`cache_transparent`).
-/

set_option autoImplicit false

namespace GrammarWorkbench.Grammar

open Pass

/-! ## Questions one after another -/

/-- A question to a solved grammar. -/
inductive Question where
  | first (reference : SymbolRef)
  | follow (reference : SymbolRef)
  | sequence (references : List SymbolRef)

namespace Solution

/-- The answer to a question, and the solution after it. -/
def answerBy (request : Request) (solution : Solution) :
    Question → Except QueryError (List Symbol) × Solution
  | .first reference => (solution.firstOf reference, solution)
  | .follow reference => (solution.followOf reference, solution)
  | .sequence references =>
    match solution.firstOfSequenceBy request references with
    | .ok (set, next) => (.ok set, next)
    | .error failure => (.error failure, solution)

theorem answerBy_of_resolved (request : Request) {solution : Solution}
    {references : List SymbolRef} {symbols : List Symbol}
    (h : references.mapM solution.resolve = .ok symbols) :
    solution.answerBy request (.sequence references) =
      (.ok (request solution.cache solution.first symbols).1,
        { solution with cache := (request solution.cache solution.first symbols).2 }) := by
  rw [answerBy, firstOfSequenceBy, h]
  rfl

theorem answerBy_of_unresolved (request : Request) {solution : Solution}
    {references : List SymbolRef} {failure : QueryError}
    (h : references.mapM solution.resolve = .error failure) :
    solution.answerBy request (.sequence references) = (.error failure, solution) := by
  rw [answerBy, firstOfSequenceBy, h]
  rfl

/-- The answers to questions that are asked one after another, and the solution after them. -/
def answersBy (request : Request) (solution : Solution) :
    List Question → List (Except QueryError (List Symbol)) × Solution
  | [] => ([], solution)
  | question :: questions =>
    let (answer, next) := solution.answerBy request question
    let (answers, last) := next.answersBy request questions
    (answer :: answers, last)

end Solution

/-! ## Passes with the cache and without it -/

/-- The passes have the same sets and the same mark. -/
structure Pass.Matches (pass plain : Pass) : Prop where
  sets : pass.sets = plain.sets
  grew : pass.grew = plain.grew

/-- If the cache agrees with the sets, a FIRST visit does the same without it. -/
theorem visitFirst_matches {pass plain : Pass} (hagrees : pass.cache.Agrees pass.sets)
    (h : pass.Matches plain) (production : Production) :
    (pass.visitFirst production).Matches (plain.visitFirstBy .uncached production) := by
  obtain ⟨hsets, hgrew⟩ := h
  simp only [Pass.visitFirst, Pass.visitFirstBy, Request.uncached, hagrees.request_fst,
    ← hsets]
  split
  · exact ⟨rfl, rfl⟩
  · exact ⟨rfl, hgrew⟩

/-- If the cache agrees with the FIRST sets, a FOLLOW visit does the same without it. -/
theorem visitOccurrence_matches {first : SetMap} {pass plain : Pass}
    (hagrees : pass.cache.Agrees first) (h : pass.Matches plain) (lhs : Symbol)
    (occurrence : Symbol × List Symbol) :
    (pass.visitOccurrence first lhs occurrence).Matches
      (plain.visitOccurrenceBy .uncached first lhs occurrence) := by
  obtain ⟨hsets, hgrew⟩ := h
  simp only [Pass.visitOccurrence, Pass.visitOccurrenceBy, Request.uncached,
    hagrees.request_fst, ← hsets, ← hgrew]
  exact ⟨rfl, rfl⟩

section Runs

variable {holds : SetMap → SequenceCache → Prop}

/-- A visit to an item does the same as another kind of visit. -/
def Pass.Simulates {Item : Type} (holds : SetMap → SequenceCache → Prop)
    (visit plainVisit : Pass → Item → Pass) (items : List Item) : Prop :=
  ∀ item ∈ items, ∀ pass plain : Pass, holds pass.sets pass.cache → pass.Matches plain →
    (visit pass item).Matches (plainVisit plain item)

/-- What visits do alike, a pass over the items does alike. -/
theorem Pass.Simulates.foldl {Item : Type} {visit plainVisit : Pass → Item → Pass}
    {items : List Item} (h : Simulates holds visit plainVisit items)
    (hmaintains : Maintains holds visit items) {pass plain : Pass}
    (hholds : holds pass.sets pass.cache) (hmatches : pass.Matches plain) :
    (items.foldl visit pass).Matches (items.foldl plainVisit plain) := by
  induction items generalizing pass plain with
  | nil => exact hmatches
  | cons item items ih =>
      obtain ⟨hnext, -⟩ := hmaintains item List.mem_cons_self pass hholds
      have hvisit := h item List.mem_cons_self pass plain hholds hmatches
      exact ih (fun other hother => h other (List.mem_cons_of_mem _ hother))
        (fun other hother => hmaintains other (List.mem_cons_of_mem _ hother)) hnext hvisit

/-- Repeated passes have led to the same sets, after as many passes and by way of the same sets. -/
structure Progress.Matches (progress plain : Progress) : Prop where
  sets : progress.sets = plain.sets
  passes : progress.passes = plain.passes
  history : progress.history = plain.history

variable {visit plainVisit : Pass → Production → Pass} {productions : List Production}

theorem Progress.advance_matches (h : Simulates holds visit plainVisit productions)
    (hmaintains : Maintains holds visit productions) (record : Bool) {progress plain : Progress}
    (hholds : holds progress.sets progress.cache) (hmatches : progress.Matches plain) :
    (progress.advance visit productions record).1.Matches
        (plain.advance plainVisit productions record).1 ∧
      (progress.advance visit productions record).2 =
        (plain.advance plainVisit productions record).2 := by
  obtain ⟨hsets, hpasses, hhistory⟩ := hmatches
  have hstart : Pass.Matches ⟨progress.sets, progress.cache, false⟩
      ⟨plain.sets, plain.cache, false⟩ := ⟨hsets, rfl⟩
  obtain ⟨hlast, hgrew⟩ := h.foldl hmaintains hholds hstart
  refine ⟨⟨hlast, ?_, ?_⟩, hgrew⟩
  · simp only [advance, hpasses]
  · simp only [advance, hhistory, hlast]

/-- Passes that go alike are repeated alike. -/
theorem Progress.settle_matches (h : Simulates holds visit plainVisit productions)
    (hmaintains : Maintains holds visit productions) (record : Bool) (bound : Nat)
    {progress plain : Progress} (hholds : holds progress.sets progress.cache)
    (hmatches : progress.Matches plain) :
    (settle visit productions record bound progress).Matches
      (settle plainVisit productions record bound plain) := by
  induction bound generalizing progress plain with
  | zero => exact hmatches
  | succ bound ih =>
      obtain ⟨⟨next, grew⟩, hadvance⟩ : ∃ result,
          progress.advance visit productions record = result := ⟨_, rfl⟩
      obtain ⟨⟨plainNext, plainGrew⟩, hplain⟩ : ∃ result,
          plain.advance plainVisit productions record = result := ⟨_, rfl⟩
      have hboth := advance_matches h hmaintains record hholds hmatches
      rw [hadvance, hplain] at hboth
      obtain ⟨hnext, rfl⟩ : next.Matches plainNext ∧ grew = plainGrew := hboth
      -- Both have the same mark, so that they go on together or stop together.
      rw [settle, settle, hadvance, hplain]
      cases grew with
      | true => exact ih (advance_spec hmaintains hholds hadvance).1 hnext
      | false => exact hnext

end Runs

/-! ## Solutions with the cache and without it -/

variable {grammar : Grammar}

theorem simulates_visitFirst (grammar : Grammar) :
    Simulates (FirstInvariant grammar) visitFirst (visitFirstBy .uncached)
      grammar.productions := by
  intro production _ pass plain hinv hmatches
  exact visitFirst_matches hinv.agrees hmatches production

theorem simulates_visitFollow {first : SetMap} (hsorted : grammar.WellSorted)
    (hfirst : FirstSolved grammar first) :
    Simulates (FollowInvariant grammar first) (visitFollow first) (visitFollowBy .uncached first)
      grammar.productions := by
  intro production hproduction pass plain hinv hmatches
  -- A visit to a production is a pass over its non-terminals, so that this is a run itself.
  have hoccurrences : Simulates (FollowInvariant grammar first)
      (visitOccurrence first production.lhs)
      (visitOccurrenceBy .uncached first production.lhs) production.occurrences := by
    intro occurrence _ pass plain hinv hmatches
    exact visitOccurrence_matches hinv.agrees hmatches production.lhs occurrence
  exact hoccurrences.foldl (maintains_visitOccurrence hsorted hfirst hproduction) hinv hmatches

theorem firstProgress_matches (hsorted : grammar.WellSorted) (record : Bool) :
    (firstProgress grammar record).Matches (firstProgressBy .uncached grammar record) :=
  Progress.settle_matches (simulates_visitFirst grammar) (maintains_visitFirst hsorted) record
    (passBound grammar) (firstStart_invariant grammar) ⟨rfl, rfl, rfl⟩

theorem followProgress_matches {first plainFirst : SetMap} {cache : SequenceCache}
    (hsorted : grammar.WellSorted) (hfirst : FirstSolved grammar first)
    (hagrees : cache.Agrees first) (hsame : first = plainFirst) (record : Bool)
    (plainCache : SequenceCache) :
    (followProgress grammar record first cache).Matches
      (followProgressBy .uncached grammar record plainFirst plainCache) := by
  subst hsame
  exact Progress.settle_matches (simulates_visitFollow hsorted hfirst)
    (maintains_visitFollow hsorted hfirst) record (passBound grammar)
    (followStart_invariant hagrees) ⟨rfl, rfl, rfl⟩

namespace Solution

/-- Solutions with the same sets of the same grammar, found in as many passes and by way of the same
sets. Their caches may differ. -/
structure Matches (solution plain : Solution) : Prop where
  grammar : solution.grammar = plain.grammar
  first : solution.first = plain.first
  follow : solution.follow = plain.follow
  firstPasses : solution.firstPasses = plain.firstPasses
  followPasses : solution.followPasses = plain.followPasses
  firstHistory : solution.firstHistory = plain.firstHistory
  followHistory : solution.followHistory = plain.followHistory

theorem settled_matches (hsorted : grammar.WellSorted) (record : Bool) :
    (settled grammar record).Matches (settledBy .uncached grammar record) := by
  obtain ⟨hsolved, hagrees⟩ := firstProgress_solved hsorted record
  have hfirst := firstProgress_matches hsorted record
  have hfollow := followProgress_matches hsorted hsolved hagrees hfirst.sets record
    (firstProgressBy .uncached grammar record).cache
  exact ⟨rfl, hfirst.sets, hfollow.sets, hfirst.passes, hfollow.passes, hfirst.history,
    hfollow.history⟩

/-! ## Answers with the cache and without it -/

variable {solution plain : Solution}

theorem Matches.resolve (h : solution.Matches plain) (reference : SymbolRef) :
    solution.resolve reference = plain.resolve reference := by
  cases reference <;> simp only [Solution.resolve, h.grammar]

/-- If the cache agrees with the FIRST sets, a question has the same answer without it; the
solutions after the question match again, and the cache still agrees. -/
theorem Matches.answer (h : solution.Matches plain)
    (hagrees : solution.cache.Agrees solution.first) (question : Question) :
    (solution.answerBy .cached question).1 = (plain.answerBy .uncached question).1 ∧
      (solution.answerBy .cached question).2.Matches (plain.answerBy .uncached question).2 ∧
      (solution.answerBy .cached question).2.cache.Agrees
        (solution.answerBy .cached question).2.first := by
  cases question with
  | first reference =>
      refine ⟨?_, h, hagrees⟩
      simp only [answerBy, firstOf, h.first, h.resolve]
  | follow reference =>
      refine ⟨?_, h, hagrees⟩
      simp only [answerBy, followOf, h.follow, h.resolve]
  | sequence references =>
      -- Names are resolved in the grammar alone; only the resolved symbols get to the cache.
      have hresolve : solution.resolve = plain.resolve := funext h.resolve
      cases hsymbols : references.mapM solution.resolve with
      | error failure =>
          rw [answerBy_of_unresolved _ hsymbols, answerBy_of_unresolved _ (hresolve ▸ hsymbols)]
          exact ⟨rfl, h, hagrees⟩
      | ok symbols =>
          rw [answerBy_of_resolved _ hsymbols, answerBy_of_resolved _ (hresolve ▸ hsymbols)]
          refine ⟨?_, ⟨h.grammar, h.first, h.follow, h.firstPasses, h.followPasses,
            h.firstHistory, h.followHistory⟩, hagrees.request_snd symbols⟩
          have hset : (solution.cache.request solution.first symbols).1 =
              (Request.uncached plain.cache plain.first symbols).1 := by
            rw [hagrees.request_fst, h.first]
            rfl
          exact congrArg Except.ok hset

/-- Questions one after another have the same answers with the cache and without it, and in the end
the cache agrees with the FIRST sets. -/
theorem Matches.answers (h : solution.Matches plain)
    (hagrees : solution.cache.Agrees solution.first) (questions : List Question) :
    (solution.answersBy .cached questions).1 = (plain.answersBy .uncached questions).1 ∧
      (solution.answersBy .cached questions).2.cache.Agrees
        (solution.answersBy .cached questions).2.first := by
  induction questions generalizing solution plain with
  | nil => exact ⟨rfl, hagrees⟩
  | cons question questions ih =>
      obtain ⟨hanswer, hnext, hagrees'⟩ := h.answer hagrees question
      obtain ⟨hanswers, hlast⟩ := ih hnext hagrees'
      simp only [answersBy]
      exact ⟨by rw [hanswer, hanswers], hlast⟩

end Solution

/-! ## Every request -/

/-- A request for the FIRST set of a sequence is made with these FIRST sets and this cache: by a
visit of the FIRST loop, by a visit of the FOLLOW loop, or by a question after other questions. -/
inductive Requested (grammar : Grammar) (record : Bool) :
    SetMap → SequenceCache → List Symbol → Prop
  | first {pass : Pass} {production : Production} {rest : List Production}
      (hround : FirstLoop grammar ⟨pass, production :: rest⟩) :
      Requested grammar record pass.sets pass.cache production.rhs
  | follow {pass : Pass} {lhs key : Symbol} {after : List Symbol}
      {rest : List (Symbol × Symbol × List Symbol)}
      (hround : FollowLoop grammar (firstProgress grammar record).sets
        (firstProgress grammar record).cache ⟨pass, (lhs, key, after) :: rest⟩) :
      Requested grammar record (firstProgress grammar record).sets pass.cache after
  | question {solution later : Solution} {answers : List (Except QueryError (List Symbol))}
      {questions : List Question} {references : List SymbolRef} {symbols : List Symbol}
      (hsolution : solve grammar record = .ok solution)
      (hlater : solution.answersBy .cached questions = (answers, later))
      (hsymbols : references.mapM later.resolve = .ok symbols) :
      Requested grammar record later.first later.cache symbols

/-- Whenever a request is made, the cache agrees with the FIRST sets as they are then. -/
theorem Requested.agrees (hsorted : grammar.WellSorted) {record : Bool} {first : SetMap}
    {cache : SequenceCache} {sequence : List Symbol}
    (h : Requested grammar record first cache sequence) : cache.Agrees first := by
  obtain ⟨hsolved, hagrees⟩ := firstProgress_solved hsorted record
  cases h with
  | first hround => exact hround.agrees hsorted
  | follow hround => exact hround.agrees hsorted hsolved hagrees
  | question hsolution hlater hsymbols =>
      rename_i solution answers questions references
      rw [solve_eq hsorted, Except.ok.injEq] at hsolution
      subst hsolution
      have hlast := ((Solution.settled_matches hsorted record).answers
        (Solution.settled_settled hsorted record).agrees questions).2
      rw [hlater] at hlast
      exact hlast

/-- The cache is transparent. The two loops lead from the empty sets to the solution, and whenever
a request is made in them or by a question, every entry of the cache is what would be worked out
from the FIRST sets as they are then. So the solver without a cache finds the same sets, in as many
passes and by way of the same sets after each, and answers all questions alike. -/
theorem cache_transparent (grammar : Grammar) (hsorted : grammar.WellSorted) (record : Bool) :
    (∀ first cache sequence, Requested grammar record first cache sequence →
      ∀ entry ∈ cache.entries, entry.2 = firstOfSequence first entry.1) ∧
    ∃ solution plain, solve grammar record = .ok solution ∧
      solveBy .uncached grammar record = .ok plain ∧
      FirstLoop grammar ⟨⟨solution.first, (firstProgress grammar record).cache, false⟩, []⟩ ∧
      FollowLoop grammar solution.first (firstProgress grammar record).cache
        ⟨⟨solution.follow, solution.cache, false⟩, []⟩ ∧
      solution.first = plain.first ∧ solution.follow = plain.follow ∧
      solution.firstHistory = plain.firstHistory ∧ solution.followHistory = plain.followHistory ∧
      solution.firstPasses = plain.firstPasses ∧ solution.followPasses = plain.followPasses ∧
      ∀ questions, (solution.answersBy .cached questions).1 =
        (plain.answersBy .uncached questions).1 := by
  have hmatches := Solution.settled_matches hsorted record
  have hagrees := (Solution.settled_settled hsorted record).agrees
  obtain ⟨hsolved, hagrees'⟩ := firstProgress_solved hsorted record
  exact ⟨fun _ _ _ hrequested => hrequested.agrees hsorted, settled grammar record,
    settledBy .uncached grammar record, solve_eq hsorted record,
    solveBy_eq .uncached hsorted record, firstLoop_firstProgress hsorted record,
    followLoop_followProgress hsorted hsolved hagrees' record,
    hmatches.first, hmatches.follow, hmatches.firstHistory, hmatches.followHistory,
    hmatches.firstPasses, hmatches.followPasses,
    fun questions => (hmatches.answers hagrees questions).1⟩

theorem cache_transparent_shiftExpression :
    shiftExpression.WellSorted ∧
      (∃ first cache sequence, Requested shiftExpression true first cache sequence ∧
        cache.entries ≠ [] ∧ ∀ entry ∈ cache.entries, entry.2 = firstOfSequence first entry.1) ∧
      ∃ solution plain, solve shiftExpression true = .ok solution ∧
        solveBy .uncached shiftExpression true = .ok plain ∧
        solution.firstHistory = plain.firstHistory ∧ solution.followPasses = plain.followPasses ∧
        (solution.answersBy .cached
            [.sequence [.named (.text "E")], .follow (.named (.text "T")),
              .sequence [.named (.text "E")]]).1 =
          (plain.answersBy .uncached
            [.sequence [.named (.text "E")], .follow (.named (.text "T")),
              .sequence [.named (.text "E")]]).1 := by
  have hsorted : shiftExpression.WellSorted := by decide
  -- The first visit finds nothing and keeps that in the cache; the second one looks into it.
  have hround : FirstLoop shiftExpression
      ⟨visitFirst ⟨.empty shiftExpression.nonTerminals, {}, false⟩
          ⟨ShiftExpression.E,
            [ShiftExpression.E, ShiftExpression.token "<<", ShiftExpression.T]⟩,
        ShiftExpression.productions.tail⟩ :=
    .single (.visit _ _ _)
  have hrequested : Requested shiftExpression true _ _ _ := .first hround
  obtain ⟨hagrees, solution, plain, hsolve, hplain, -, -, -, -, hhistory, -, -, hpasses,
      hanswers⟩ := cache_transparent shiftExpression hsorted true
  exact ⟨hsorted, ⟨_, _, _, hrequested, by decide, hagrees _ _ _ hrequested⟩, solution, plain,
    hsolve, hplain, hhistory, hpasses, hanswers _⟩

end GrammarWorkbench.Grammar
