import GrammarWorkbench.Grammar.Basic
import GrammarWorkbench.Grammar.SequenceCache

/-!
# FIRST and FOLLOW sets

Both kinds of sets are found by passes over the productions that add members to the sets in place,
until a pass adds nothing. FIRST passes look at every production, FOLLOW passes at every
non-terminal on the right of a production. The passes are stated for any way to get the set of a
sequence. The solver gets it from a cache, which is cleared whenever a FIRST set grows.

A pass that is not the last adds a member to some set, so the number of passes is bounded by the
number of members that the sets can have together.
-/

set_option autoImplicit false

namespace GrammarWorkbench.Grammar

/-! ## Passes -/

/-- The state inside a pass: the sets, the cache, and whether a set has grown in the pass. -/
structure Pass where
  sets : SetMap
  cache : SequenceCache
  grew : Bool

namespace Pass

/-- Looks at a production in a FIRST pass: its left side gets the FIRST set of its right side. -/
def visitFirstBy (request : Request) (pass : Pass) (production : Production) : Pass :=
  let (set, cache) := request pass.cache pass.sets production.rhs
  let sets := pass.sets.add production.lhs set
  if (pass.sets.members production.lhs).length < (sets.members production.lhs).length then
    ⟨sets, cache.clear, true⟩
  else ⟨sets, cache, pass.grew⟩

/-- Looks at a non-terminal on the right of a production in a FOLLOW pass: it gets what the
sequence after it can start with, and if that can vanish, what follows the left side. -/
def visitOccurrenceBy (request : Request) (first : SetMap) (lhs : Symbol) (pass : Pass)
    (occurrence : Symbol × List Symbol) : Pass :=
  let (set, cache) := request pass.cache first occurrence.2
  let started := pass.sets.add occurrence.1 (withoutEpsilon set)
  let sets :=
    if .epsilon ∈ set then started.add occurrence.1 (started.members lhs) else started
  let grew :=
    decide ((pass.sets.members occurrence.1).length < (sets.members occurrence.1).length)
  ⟨sets, cache, pass.grew || grew⟩

/-- Looks at a production in a FOLLOW pass. -/
def visitFollowBy (request : Request) (first : SetMap) (pass : Pass) (production : Production) :
    Pass :=
  production.occurrences.foldl (visitOccurrenceBy request first production.lhs) pass

/-- A visit of a FIRST pass that goes through the cache. -/
def visitFirst (pass : Pass) (production : Production) : Pass :=
  pass.visitFirstBy .cached production

/-- A visit to an occurrence that goes through the cache. -/
def visitOccurrence (first : SetMap) (lhs : Symbol) (pass : Pass)
    (occurrence : Symbol × List Symbol) : Pass :=
  pass.visitOccurrenceBy .cached first lhs occurrence

/-- A visit of a FOLLOW pass that goes through the cache. -/
def visitFollow (first : SetMap) (pass : Pass) (production : Production) : Pass :=
  pass.visitFollowBy .cached first production

end Pass

/-! ## Repeated passes -/

/-- Where repeated passes have led: the sets and the cache, the number of passes, and the sets
after each pass if they are recorded. -/
structure Progress where
  sets : SetMap
  cache : SequenceCache
  passes : Nat := 0
  history : List SetMap := []

namespace Progress

/-- One more pass over the productions, and whether a set grew in it. -/
def advance (visit : Pass → Production → Pass) (productions : List Production) (record : Bool)
    (progress : Progress) : Progress × Bool :=
  let pass := productions.foldl visit ⟨progress.sets, progress.cache, false⟩
  ({ sets := pass.sets
     cache := pass.cache
     passes := progress.passes + 1
     history := if record then progress.history ++ [pass.sets] else progress.history },
    pass.grew)

/-- Passes up to the first one in which no set grows, and no more than a bound. -/
def settle (visit : Pass → Production → Pass) (productions : List Production) (record : Bool) :
    (bound : Nat) → Progress → Progress
  | 0, progress => progress
  | bound + 1, progress =>
    match progress.advance visit productions record with
    | (next, true) => settle visit productions record bound next
    | (next, false) => next

end Progress

/-- One pass more than the sets of a grammar can have members together. -/
def passBound (grammar : Grammar) : Nat :=
  grammar.nonTerminals.length * (grammar.nonTerminals.length + grammar.terminals.length) + 1

/-! ## Solving a grammar -/

/-- The FIRST passes of a grammar, from empty sets. -/
def firstProgressBy (request : Request) (grammar : Grammar) (record : Bool) : Progress :=
  Progress.settle (Pass.visitFirstBy request) grammar.productions record (passBound grammar)
    { sets := .empty grammar.nonTerminals, cache := {} }

/-- The sets that the FOLLOW passes start from: `$` follows the start symbol. -/
def followStart (grammar : Grammar) : SetMap :=
  (SetMap.empty grammar.nonTerminals).add grammar.start [.endMark]

/-- The FOLLOW passes of a grammar, with the FIRST sets and the cache that the FIRST passes left. -/
def followProgressBy (request : Request) (grammar : Grammar) (record : Bool) (first : SetMap)
    (cache : SequenceCache) : Progress :=
  Progress.settle (Pass.visitFollowBy request first) grammar.productions record
    (passBound grammar) { sets := followStart grammar, cache }

/-- A grammar with its FIRST sets, `ε` included, its FOLLOW sets, and the record of how they were
found. -/
structure Solution where
  grammar : Grammar
  first : SetMap
  follow : SetMap
  cache : SequenceCache
  firstPasses : Nat
  followPasses : Nat
  firstHistory : List SetMap
  followHistory : List SetMap

namespace Solution

/-- The FIRST sets as they are displayed, without `ε`. -/
def displayedFirst (solution : Solution) : SetMap :=
  solution.first.dropEpsilon

end Solution

/-- The FIRST and FOLLOW sets of a grammar whose non-terminals are all declared as such. -/
def settledBy (request : Request) (grammar : Grammar) (record : Bool) : Solution :=
  let first := firstProgressBy request grammar record
  let follow := followProgressBy request grammar record first.sets first.cache
  { grammar
    first := first.sets
    follow := follow.sets
    cache := follow.cache
    firstPasses := first.passes
    followPasses := follow.passes
    firstHistory := first.history
    followHistory := follow.history }

/-- The first non-terminal on the right of a production that is declared, but not as a
non-terminal: there is no FOLLOW set for it. -/
def stray? (grammar : Grammar) : Option Symbol :=
  ((grammar.productions.flatMap Production.occurrences).map Prod.fst).find? fun symbol =>
    symbol ∉ grammar.nonTerminals

/-- The FIRST and FOLLOW sets of a grammar, or the non-terminal for which there is none. -/
def solveBy (request : Request) (grammar : Grammar) (record : Bool) : Except Symbol Solution :=
  match stray? grammar with
  | some symbol => .error symbol
  | none => .ok (settledBy request grammar record)

/-! ## The solver with its cache -/

/-- The FIRST passes that go through the cache. -/
def firstProgress (grammar : Grammar) (record : Bool) : Progress :=
  firstProgressBy .cached grammar record

/-- The FOLLOW passes that go through the cache. -/
def followProgress (grammar : Grammar) (record : Bool) (first : SetMap) (cache : SequenceCache) :
    Progress :=
  followProgressBy .cached grammar record first cache

/-- The sets that the passes through the cache end with. -/
def settled (grammar : Grammar) (record : Bool) : Solution :=
  settledBy .cached grammar record

/-- Solves a grammar with the cache. -/
def solve (grammar : Grammar) (record : Bool) : Except Symbol Solution :=
  solveBy .cached grammar record

end GrammarWorkbench.Grammar
