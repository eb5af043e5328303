import GrammarWorkbench.Grammar.Solution
import GrammarWorkbench.Number.Shortest

/-!
# Questions to a solved grammar

The FIRST set of a symbol or of a sequence and the FOLLOW set of a non-terminal. A symbol is given
by itself or by its name. Sequences go through the cache, so that asking for one changes the
solution; a question about an unknown symbol changes nothing.
-/

set_option autoImplicit false

namespace GrammarWorkbench.Grammar

/-- A symbol in a question: the symbol itself, or its name. -/
inductive SymbolRef where
  | symbol (target : Symbol)
  | named (name : Name)

/-- Why a question has no answer. -/
inductive QueryError where
  | unknown (reference : SymbolRef)
  | followOfTerminal (symbol : Symbol)
  | noSet (symbol : Symbol)

/-- The name by which a question mentions a symbol. -/
def SymbolRef.mention : SymbolRef → String
  | .symbol target => target.name.mention
  | .named name => name.mention

/-- The text of an error. -/
def QueryError.message : QueryError → String
  | unknown reference => "Unknown symbol '" ++ reference.mention ++ "'"
  | followOfTerminal symbol =>
    "FOLLOW is only defined for non-terminals, got terminal '" ++ symbol.name.mention ++ "'"
  | noSet symbol => symbol.display

namespace Solution

/-- The symbol that a question is about; of a name, the non-terminal before the terminal. -/
def resolve (solution : Solution) (reference : SymbolRef) : Except QueryError Symbol :=
  match reference with
  | .symbol symbol =>
    if symbol ∈ solution.grammar.symbols then .ok symbol else .error (.unknown reference)
  | .named name =>
    match (solution.grammar.nonTerminal? name).or (solution.grammar.terminal? name) with
    | some symbol => .ok symbol
    | none => .error (.unknown reference)

/-- The set of a symbol in a set map. -/
def setOf (sets : SetMap) (symbol : Symbol) : Except QueryError (List Symbol) :=
  match sets.members? symbol with
  | some set => .ok set
  | none => .error (.noSet symbol)

/-- The FIRST set of a symbol, `ε` included. -/
def firstOf (solution : Solution) (reference : SymbolRef) : Except QueryError (List Symbol) := do
  let symbol ← solution.resolve reference
  if symbol.isTerminal then .ok [symbol] else setOf solution.first symbol

/-- The FOLLOW set of a non-terminal. -/
def followOf (solution : Solution) (reference : SymbolRef) :
    Except QueryError (List Symbol) := do
  let symbol ← solution.resolve reference
  if symbol.isTerminal then .error (.followOfTerminal symbol) else setOf solution.follow symbol

/-- The FIRST set of a sequence of symbols, and the solution with its cache as it is then. -/
def firstOfSequenceBy (request : Request) (solution : Solution) (references : List SymbolRef) :
    Except QueryError (List Symbol × Solution) := do
  let symbols ← references.mapM solution.resolve
  let (set, cache) := request solution.cache solution.first symbols
  .ok (set, { solution with cache })

/-- The FIRST set of a sequence of symbols, through the cache. -/
def firstOfSequence (solution : Solution) (references : List SymbolRef) :
    Except QueryError (List Symbol × Solution) :=
  solution.firstOfSequenceBy .cached references

end Solution

/-- The share of the requests that the cache could answer, in percent: the quotient and then the
product are each rounded to the nearest binary number, and the product is shown with two places at
most. Without requests the share is shown as zero. -/
def SequenceCache.hitRate (cache : SequenceCache) : String :=
  let total := cache.hits + cache.misses
  if total = 0 then "0"
  else ((Number.Magnitude.ofRatio cache.hits total).scale 100).hundredthsText

end GrammarWorkbench.Grammar
