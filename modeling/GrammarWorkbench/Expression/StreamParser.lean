import GrammarWorkbench.Expression.Parser
import GrammarWorkbench.Expression.Scanner

/-!
# Parsers that take their tokens from a scanner

A stream parser does not hold the tokens of its text. It has a scanner and the token at hand, and
takes a token by moving the scanner on to the next one. A reading is a computation on such a parser:
it moves the parser and ends with a result or with an error, and keeps what it has moved either way.
-/

set_option autoImplicit false

namespace GrammarWorkbench.Expression

/-- A scanner, the token at hand, and the errors so far. -/
structure StreamParser where
  scanner : Scanner
  current : Token
  errors : List SyntaxError := []

namespace StreamParser

/-- A parser at the first token of a source text. -/
def ofSource (source : String) : StreamParser :=
  let scanner := Scanner.ofSource source
  { scanner, current := scanner.current }

/-- The parser with the next token of its scanner at hand. -/
def advance (parser : StreamParser) : StreamParser :=
  let scanner := parser.scanner.next
  { parser with scanner, current := scanner.current }

/-- A computation that moves a parser and ends with a result or with an error. -/
abbrev Reading := ExceptT SyntaxError (StateM StreamParser)

/-- Takes one token of a kind; the end token can be taken any number of times. -/
def consume (kind : TokenKind) : Reading Token := do
  let parser ← get
  if parser.current.kind = kind then
    set parser.advance
    return parser.current
  else throw ⟨.kindExpected kind, parser.current⟩

/-- Reads operators and operands as long as there are any, and folds them to the left. -/
def foldOperators (isOperator : TokenKind → Bool) (operand : Reading Expr) :
    (rounds : Nat) → Expr → Reading Expr
  | 0, left => return left
  | rounds + 1, left => do
    let token := (← get).current
    if isOperator token.kind then
      let operator ← consume token.kind
      let right ← operand
      foldOperators isOperator operand rounds (.binary left operator right none)
    else return left

/-- An operand, then any number of operators with an operand after each. There is at most one token
at hand and one for every character that is still to be scanned, so as many rounds are enough. -/
def chain (isOperator : TokenKind → Bool) (operand : Reading Expr) : Reading Expr := do
  let left ← operand
  let parser ← get
  foldOperators isOperator operand (parser.scanner.cursor.rest.length + 1) left

/-- The layer of the additive operators over a reading of factors. -/
def termOf (factor : Reading Expr) : Reading Expr :=
  chain TokenKind.isAdditive factor

/-- The layer of the shift operators over a reading of factors. -/
def expressionOf (factor : Reading Expr) : Reading Expr :=
  chain TokenKind.isShift (termOf factor)

/-- The rest of a parenthesized expression after its inner tree. -/
def closeParen (inner : Expr) : Reading Expr := do
  let token := (← get).current
  if token.kind = .closeParen then
    let _ ← consume .closeParen
    return .paren inner none
  else throw ⟨.closingExpected, token⟩

/-- A name, or a parenthesized expression with a given reading for what is between the parentheses;
without one, no further parenthesis may be opened. -/
def operandOf (inner? : Option (Reading Expr)) : Reading Expr := do
  let token := (← get).current
  match token.kind, inner? with
  | .identifier, _ => do
    let token ← consume .identifier
    return .ident token.text (some token) none
  | .openParen, none => throw ⟨.tooDeep, token⟩
  | .openParen, some reading => do
    let _ ← consume .openParen
    let inner ← reading
    closeParen inner
  | .invalid, _ => throw ⟨.invalidToken, token⟩
  | _, _ => throw ⟨.operandExpected, token⟩

/-- A name or a parenthesized expression, with at most `allowance` parentheses open at once. -/
def factor : (allowance : Nat) → Reading Expr
  | 0 => operandOf none
  | allowance + 1 => operandOf (some (expressionOf (factor allowance)))

/-- Reads a factor. -/
def readFactor (limit : NestingLimit) : Reading Expr :=
  factor limit.count

/-- Reads a term. -/
def readTerm (limit : NestingLimit) : Reading Expr :=
  termOf (readFactor limit)

/-- Reads an expression. -/
def readExpression (limit : NestingLimit) : Reading Expr :=
  expressionOf (readFactor limit)

/-- Reads an expression with no token after it. -/
def readSentence (limit : NestingLimit) : Reading Expr := do
  let tree ← readExpression limit
  let token := (← get).current
  if token.kind = .endOfInput then return tree
  else throw ⟨.endExpected, token⟩

/-- Reads everything up to the end as one expression; if that fails, the error is recorded. -/
def parse (parser : StreamParser) (limit : NestingLimit) : Option Expr × StreamParser :=
  match (readSentence limit).run.run parser with
  | (.ok tree, moved) => (some tree, moved)
  | (.error error, moved) => (none, { moved with errors := moved.errors ++ [error] })

end StreamParser

end GrammarWorkbench.Expression
