import GrammarWorkbench.Grammar.SetMap

/-!
# FIRST of a sequence

The FIRST set of a sequence of symbols, from given FIRST sets of the non-terminals, and a cache
that keeps the sets of the sequences asked for. The cache counts the requests it could answer and
those it could not; it has to be cleared when a FIRST set grows. The set of a sequence may also be
got without it (`Request`).
-/

set_option autoImplicit false

namespace GrammarWorkbench.Grammar

/-- The FIRST set of a symbol: a terminal by itself, a non-terminal by its set. -/
def firstOfSymbol (first : SetMap) (symbol : Symbol) : List Symbol :=
  if symbol.isTerminal then [symbol] else first.members symbol

/-- The FIRST set of a sequence: the members of its first symbol, and if that can vanish, those of
the rest. The empty sequence has `ε`. -/
def firstOfSequence (first : SetMap) : List Symbol → List Symbol
  | [] => [.epsilon]
  | symbol :: rest =>
    let set := firstOfSymbol first symbol
    if .epsilon ∈ set then union (withoutEpsilon set) (firstOfSequence first rest)
    else withoutEpsilon set

/-- The FIRST sets of sequences found so far, with the requests answered from them and the others
counted. -/
structure SequenceCache where
  entries : List (List Symbol × List Symbol) := []
  hits : Nat := 0
  misses : Nat := 0

namespace SequenceCache

/-- The set kept for a sequence. -/
def find? (cache : SequenceCache) (sequence : List Symbol) : Option (List Symbol) :=
  cache.entries.lookup sequence

/-- Asks for the FIRST set of a sequence: it comes from the cache, or is worked out and kept. -/
def request (cache : SequenceCache) (first : SetMap) (sequence : List Symbol) :
    List Symbol × SequenceCache :=
  match cache.find? sequence with
  | some set => (set, { cache with hits := cache.hits + 1 })
  | none =>
    let set := firstOfSequence first sequence
    (set, { cache with
      entries := cache.entries ++ [(sequence, set)], misses := cache.misses + 1 })

/-- The cache without its sets; the counts stay. -/
def clear (cache : SequenceCache) : SequenceCache :=
  { cache with entries := [] }

end SequenceCache

/-- A way to get the FIRST set of a sequence, and the cache after it. -/
abbrev Request := SequenceCache → SetMap → List Symbol → List Symbol × SequenceCache

/-- Looks into the cache first. -/
abbrev Request.cached : Request :=
  SequenceCache.request

/-- Works out the set every time: the cache is neither looked at nor filled. -/
def Request.uncached : Request := fun cache first sequence =>
  (firstOfSequence first sequence, cache)

end GrammarWorkbench.Grammar
