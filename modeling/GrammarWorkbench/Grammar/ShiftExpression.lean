import GrammarWorkbench.Grammar.Basic

/-!
# The grammar of shift expressions

    E → E << T | E >> T | T
    T → T + F | T - F | F
    F → ( E ) | id
-/

set_option autoImplicit false

namespace GrammarWorkbench.Grammar.ShiftExpression

/-- Expressions: terms joined by shifts. -/
def E : Symbol := .nonTerminal (.text "E")

/-- Terms: factors joined by additions and subtractions. -/
def T : Symbol := .nonTerminal (.text "T")

/-- Factors: names and parenthesized expressions. -/
def F : Symbol := .nonTerminal (.text "F")

/-- The terminal with a text. -/
def token (text : String) : Symbol := .terminal (.text text)

/-- The productions of shift expressions. -/
def productions : List Production :=
  [⟨E, [E, token "<<", T]⟩,
    ⟨E, [E, token ">>", T]⟩,
    ⟨E, [T]⟩,
    ⟨T, [T, token "+", F]⟩,
    ⟨T, [T, token "-", F]⟩,
    ⟨T, [F]⟩,
    ⟨F, [token "(", E, token ")"]⟩,
    ⟨F, [token "id"]⟩]

end GrammarWorkbench.Grammar.ShiftExpression

namespace GrammarWorkbench.Grammar

open GrammarWorkbench.Grammar.ShiftExpression in
/-- The grammar of shift expressions. -/
def shiftExpression : Grammar where
  nonTerminals := [E, T, F]
  terminals :=
    [token "+", token "-", token "<<", token ">>", token "(", token ")", token "id", .epsilon,
      .endMark]
  productions := ShiftExpression.productions
  start := E
  nodup_nonTerminals := by decide
  nodup_terminals := by decide
  epsilon_mem := by decide
  endMark_mem := by decide
  start_mem := by decide
  declared := by decide

end GrammarWorkbench.Grammar
