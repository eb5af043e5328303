import GrammarWorkbench.Expression.Tree

/-!
# Reading phrases off a list of tokens

The grammar has three layers, from the weakest operators to the operands:

    expression = term, then any number of (shift operator, term)
    term       = factor, then any number of (additive operator, factor)
    factor     = name | "(" expression ")"

A phrase reads a tree off the front of a list of tokens and hands back the rest. The first token
that cannot go on ends the reading; the failure says what was wrong and keeps the tokens from that
one on. Operators of a layer fold to the left. Parentheses may be nested up to an allowance, which
is also what the recursion runs on; the length of a chain of operators is not limited.
-/

set_option autoImplicit false

namespace GrammarWorkbench.Expression

/-- What can be wrong with a token. -/
inductive Fault where
  | invalidToken
  | operandExpected
  | closingExpected
  | endExpected
  | kindExpected (kind : TokenKind)
  | tooDeep
  deriving DecidableEq

/-- A reading that came to a halt: what was wrong, and the tokens from the offending one on; there
are none when the input was at its end. -/
structure Failure where
  fault : Fault
  unread : List Token

/-- A phrase takes a tree off the front of a list of tokens. -/
abbrev Phrase := List Token → Except Failure (Expr × List Token)

/-- Reads operators and operands as long as there are any, and folds them to the left. Each round
takes at least an operator, so as many rounds as there are tokens are enough. -/
def foldOperators (isOperator : TokenKind → Bool) (operand : Phrase) :
    (rounds : Nat) → Expr → Phrase
  | 0, left, tokens => .ok (left, tokens)
  | _ + 1, left, [] => .ok (left, [])
  | rounds + 1, left, token :: later =>
    if isOperator token.kind then
      match operand later with
      | .error failure => .error failure
      | .ok (right, rest) =>
        foldOperators isOperator operand rounds (.binary left token right none) rest
    else .ok (left, token :: later)

/-- An operand, then any number of operators with an operand after each. -/
def chain (isOperator : TokenKind → Bool) (operand : Phrase) : Phrase := fun tokens =>
  match operand tokens with
  | .error failure => .error failure
  | .ok (left, rest) => foldOperators isOperator operand rest.length left rest

/-- The layer of the additive operators over a phrase for factors. -/
def termOf (factor : Phrase) : Phrase :=
  chain TokenKind.isAdditive factor

/-- The layer of the shift operators over a phrase for factors. -/
def expressionOf (factor : Phrase) : Phrase :=
  chain TokenKind.isShift (termOf factor)

/-- The rest of a parenthesized phrase after its inner tree. -/
def closeParen (inner : Expr) : Phrase
  | [] => .error ⟨.closingExpected, []⟩
  | token :: later =>
    if token.kind = .closeParen then .ok (.paren inner none, later)
    else .error ⟨.closingExpected, token :: later⟩

/-- A name or a parenthesized expression, with at most `allowance` parentheses open at once. -/
def factor : (allowance : Nat) → Phrase
  | _, [] => .error ⟨.operandExpected, []⟩
  | allowance, token :: later =>
    match token.kind, allowance with
    | .identifier, _ => .ok (.ident token.text (some token) none, later)
    | .openParen, 0 => .error ⟨.tooDeep, token :: later⟩
    | .openParen, allowance + 1 =>
      match expressionOf (factor allowance) later with
      | .error failure => .error failure
      | .ok (inner, rest) => closeParen inner rest
    | .invalid, _ => .error ⟨.invalidToken, token :: later⟩
    | _, _ => .error ⟨.operandExpected, token :: later⟩

/-- Factors joined by additive operators. -/
def term (allowance : Nat) : Phrase :=
  termOf (factor allowance)

/-- Terms joined by shift operators. -/
def expression (allowance : Nat) : Phrase :=
  expressionOf (factor allowance)

/-- An expression with no token after it. -/
def sentence (allowance : Nat) (tokens : List Token) : Except Failure Expr :=
  match expression allowance tokens with
  | .error failure => .error failure
  | .ok (tree, []) => .ok tree
  | .ok (_, token :: later) => .error ⟨.endExpected, token :: later⟩

end GrammarWorkbench.Expression
