import GrammarWorkbench.Grammar.Name

/-!
# Grammar symbols and productions

A symbol is a terminal or a non-terminal with a name, and a production replaces a symbol by
a sequence of symbols. Two terminals belong to every grammar: `ε`, which stands for the empty word,
and `$`, which marks the end of the input. Symbols are told apart by their names as these are
written: where names come in several forms, a description settles on one of them.
-/

set_option autoImplicit false

namespace GrammarWorkbench.Grammar

/-- A grammar symbol. -/
inductive Symbol where
  | terminal (name : Name)
  | nonTerminal (name : Name)
  deriving DecidableEq

namespace Symbol

/-- The name of a symbol. -/
def name : Symbol → Name
  | terminal name => name
  | nonTerminal name => name

/-- Whether a symbol is a terminal. -/
def isTerminal : Symbol → Bool
  | terminal _ => true
  | nonTerminal _ => false

/-- Whether a symbol is a non-terminal. -/
def isNonTerminal (symbol : Symbol) : Bool :=
  !symbol.isTerminal

/-- The terminal that stands for the empty word. -/
def epsilon : Symbol := terminal (.text "ε")

/-- The terminal that marks the end of the input. -/
def endMark : Symbol := terminal (.text "$")

/-- The symbol as a part of a text; only a name that is a text can be written. -/
def text (symbol : Symbol) : Except Name String :=
  match symbol.name with
  | .text value => .ok value
  | name => .error name

/-- The symbol with its kind and its name. -/
def display : Symbol → String
  | terminal name => "Terminal(name=" ++ name.display ++ ")"
  | nonTerminal name => "NonTerminal(name=" ++ name.display ++ ")"

end Symbol

/-- A production: the symbol on its left may be replaced by the symbols on its right. -/
structure Production where
  lhs : Symbol
  rhs : List Symbol
  deriving DecidableEq

namespace Production

/-- Whether the right side of a production is the empty word. -/
def isEpsilon (production : Production) : Bool :=
  production.rhs.isEmpty

/-- The symbols shown on the right of a production; the empty word is shown as `ε`. -/
def shownRhs (production : Production) : List Symbol :=
  if production.isEpsilon then [.epsilon] else production.rhs

/-- The production as text, or the first name in it that cannot be written. -/
def text (production : Production) : Except Name String := do
  let lhs ← production.lhs.text
  let rhs ← production.shownRhs.mapM Symbol.text
  .ok (lhs ++ " → " ++ String.intercalate " " rhs)

/-- The symbols of a sequence that are non-terminals, each with what follows it. -/
def occurrencesIn : List Symbol → List (Symbol × List Symbol)
  | [] => []
  | symbol :: rest =>
    if symbol.isNonTerminal then (symbol, rest) :: occurrencesIn rest else occurrencesIn rest

/-- The non-terminals on the right of a production, each with what follows it. -/
def occurrences (production : Production) : List (Symbol × List Symbol) :=
  occurrencesIn production.rhs

end Production

end GrammarWorkbench.Grammar
