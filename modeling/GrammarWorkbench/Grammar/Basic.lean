import GrammarWorkbench.FirstOccurrence
import GrammarWorkbench.Grammar.Symbol

/-!
# Context-free grammars

A grammar declares its non-terminals and terminals, lists its productions in order and names a
start symbol. `Grammar.build` checks that the start symbol is a declared non-terminal and that
every production uses declared symbols only, and neither `ε` nor `$`; a grammar carries these facts
with it. The two kinds of symbols are told apart by the declarations: nothing here asks that a
declared non-terminal is of the kind `Symbol.nonTerminal`, which `Grammar.WellSorted` states.
-/

set_option autoImplicit false

namespace GrammarWorkbench.Grammar

/-- Why a grammar cannot be built. -/
inductive GrammarError where
  | startMissing
  | startUndeclared (start : Symbol)
  | lhsUndeclared (production : Production)
  | reservedSymbol (production : Production) (symbol : Symbol)
  | symbolUndeclared (production : Production) (symbol : Symbol)
  deriving DecidableEq

/-- The report of an error, or the first name in it that cannot be written. -/
def GrammarError.report : GrammarError → Except Name String
  | startMissing => .ok "Start symbol cannot be None"
  | startUndeclared start => do
    let start ← start.text
    .ok ("Start symbol '" ++ start ++ "' must be one of the non-terminals")
  | lhsUndeclared production => do
    let text ← production.text
    let lhs ← production.lhs.text
    .ok ("Production '" ++ text ++ "' has undeclared left-hand side '" ++ lhs ++ "'")
  | reservedSymbol production symbol => do
    let text ← production.text
    let symbol ← symbol.text
    .ok ("Production '" ++ text ++ "' may not use the reserved symbol '" ++ symbol ++ "'")
  | symbolUndeclared production symbol => do
    let text ← production.text
    let symbol ← symbol.text
    .ok ("Production '" ++ text ++ "' references undeclared symbol '" ++ symbol ++ "'")

namespace Production

/-- A production uses declared symbols only, and neither `ε` nor `$`. -/
def Declared (nonTerminals terminals : List Symbol) (production : Production) : Prop :=
  production.lhs ∈ nonTerminals ∧
    ∀ symbol ∈ production.rhs,
      symbol ≠ .epsilon ∧ symbol ≠ .endMark ∧ (symbol ∈ terminals ∨ symbol ∈ nonTerminals)

instance (nonTerminals terminals : List Symbol) (production : Production) :
    Decidable (production.Declared nonTerminals terminals) :=
  inferInstanceAs (Decidable (_ ∧ _))

/-- What is wrong with a symbol on the right of a production. -/
def symbolFault? (nonTerminals terminals : List Symbol) (production : Production)
    (symbol : Symbol) : Option GrammarError :=
  if symbol = .epsilon ∨ symbol = .endMark then some (.reservedSymbol production symbol)
  else if symbol ∈ terminals ∨ symbol ∈ nonTerminals then none
  else some (.symbolUndeclared production symbol)

/-- What is wrong with a production: its left side, or else the first faulty symbol on its
right. -/
def fault? (nonTerminals terminals : List Symbol) (production : Production) :
    Option GrammarError :=
  if production.lhs ∈ nonTerminals then
    production.rhs.findSome? (production.symbolFault? nonTerminals terminals)
  else some (.lhsUndeclared production)

/-- A production has no fault exactly when it is declared. -/
theorem fault?_eq_none_iff {nonTerminals terminals : List Symbol} {production : Production} :
    production.fault? nonTerminals terminals = none ↔
      production.Declared nonTerminals terminals := by
  simp only [fault?, Declared]
  split
  · rename_i hlhs
    simp only [hlhs, true_and, List.findSome?_eq_none_iff]
    refine forall_congr' fun symbol => imp_congr_right fun _ => ?_
    simp only [symbolFault?]
    split <;> rename_i hreserved
    · grind
    · split <;> grind
  · rename_i hlhs
    simp [hlhs]

end Production

end GrammarWorkbench.Grammar

namespace GrammarWorkbench

open GrammarWorkbench.Grammar

/-- A context-free grammar with its declarations in order. -/
structure Grammar where
  nonTerminals : List Symbol
  terminals : List Symbol
  productions : List Production
  start : Symbol
  nodup_nonTerminals : nonTerminals.Nodup
  nodup_terminals : terminals.Nodup
  epsilon_mem : Symbol.epsilon ∈ terminals
  endMark_mem : Symbol.endMark ∈ terminals
  start_mem : start ∈ nonTerminals
  declared : ∀ production ∈ productions, production.Declared nonTerminals terminals

namespace Grammar

/-- The grammar of some declarations, or the first thing wrong with them. A symbol declared twice
counts once, and `ε` and `$` are terminals of every grammar. -/
def build (nonTerminals terminals : List Symbol) (productions : List Production)
    (start : Option Symbol) : Except GrammarError Grammar :=
  let nonTerminals := firstOccurrences nonTerminals
  let terminals := firstOccurrences (terminals ++ [.epsilon, .endMark])
  match start with
  | none => .error .startMissing
  | some start =>
    if hstart : start ∈ nonTerminals then
      match hfault : productions.findSome? (Production.fault? nonTerminals terminals) with
      | some error => .error error
      | none =>
        .ok {
          nonTerminals, terminals, productions, start
          nodup_nonTerminals := nodup_firstOccurrences _
          nodup_terminals := nodup_firstOccurrences _
          epsilon_mem := by simp [terminals]
          endMark_mem := by simp [terminals]
          start_mem := hstart
          declared := fun production hproduction =>
            Production.fault?_eq_none_iff.1
              (List.findSome?_eq_none_iff.1 hfault production hproduction) }
    else .error (.startUndeclared start)

/-- The declared non-terminals are of the non-terminal kind, and the declared terminals of the
terminal kind. -/
def WellSorted (grammar : Grammar) : Prop :=
  (∀ symbol ∈ grammar.nonTerminals, symbol.isNonTerminal) ∧
    ∀ symbol ∈ grammar.terminals, symbol.isTerminal

/-- The productions of a non-terminal, in order. -/
def productionsFor (grammar : Grammar) (symbol : Symbol) : List Production :=
  grammar.productions.filter fun production => production.lhs = symbol

/-- The declared symbols. -/
def symbols (grammar : Grammar) : List Symbol :=
  firstOccurrences (grammar.nonTerminals ++ grammar.terminals)

theorem mem_symbols {grammar : Grammar} {symbol : Symbol} :
    symbol ∈ grammar.symbols ↔ symbol ∈ grammar.nonTerminals ∨ symbol ∈ grammar.terminals := by
  rw [symbols, mem_firstOccurrences, List.mem_append]

/-- The terminal with a name. -/
def terminal? (grammar : Grammar) (name : Name) : Option Symbol :=
  grammar.terminals.find? fun symbol => symbol.name.equals name

/-- The non-terminal with a name. -/
def nonTerminal? (grammar : Grammar) (name : Name) : Option Symbol :=
  grammar.nonTerminals.find? fun symbol => symbol.name.equals name

/-- The productions as texts, or the first name in them that cannot be written. -/
def productionTexts (grammar : Grammar) : Except Name (List String) :=
  grammar.productions.mapM Production.text

/-- The grammar as text, if its names can be written and sorted. -/
def text? (grammar : Grammar) : Option String := do
  let start ← grammar.start.text.toOption
  let terminals ← (Name.sort (grammar.terminals.map Symbol.name)).toOption
  let nonTerminals ← (Name.sort (grammar.nonTerminals.map Symbol.name)).toOption
  let productions ← grammar.productionTexts.toOption
  some (String.intercalate "\n" (
    ["Start Symbol: " ++ start,
      "Terminals: " ++ Name.displayList terminals,
      "Non-terminals: " ++ Name.displayList nonTerminals,
      "Productions:"] ++ productions.map fun production => "  " ++ production))

end Grammar

end GrammarWorkbench
