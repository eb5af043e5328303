import GrammarWorkbench.Expression.Cursor
import GrammarWorkbench.Expression.Phrase

/-!
# Parsers

A parser holds the tokens of a source text that are still unread, the token that marks the end of
the input, and the errors recorded so far. Reading a phrase moves it past the tokens of the phrase,
or up to the token that does not fit. Only `parse`, which reads a whole sentence, records errors.

How deep parentheses may be nested depends on where a parser runs, within bounds (`NestingLimit`).
-/

set_option autoImplicit false

namespace GrammarWorkbench.Expression

/-- A fault at a token. -/
structure SyntaxError where
  fault : Fault
  token : Token
  deriving DecidableEq

namespace SyntaxError

/-- What is wrong, without the place. -/
def reason (error : SyntaxError) : String :=
  match error.fault with
  | .invalidToken => "Invalid token: " ++ error.token.text
  | .operandExpected => "Expected '(' or identifier, found: " ++ error.token.describe
  | .closingExpected => "Expected ')', found: " ++ error.token.describe
  | .endExpected => "Expected end of input, but found: " ++ error.token.describe
  | .kindExpected kind =>
    "Expected '" ++ kind.wording ++ "', found '" ++ error.token.describe ++ "'"
  | .tooDeep => "Expression is nested too deeply"

/-- The place of an error and what is wrong there. -/
def message (error : SyntaxError) : String :=
  "Error at line " ++ toString error.token.line ++ ", column " ++ toString error.token.column ++
    ": " ++ error.reason

end SyntaxError

/-- How many parentheses may be open at once: at least a hundred, and fewer than three thousand. -/
structure NestingLimit where
  count : Nat
  hundred_le : 100 ≤ count
  lt_threeThousand : count < 3000

/-- A limit in between. -/
def NestingLimit.usual : NestingLimit :=
  ⟨300, by decide, by decide⟩

/-- The state of a reading: unread tokens, the end token, and the errors so far. -/
structure Parser where
  unread : List Token
  stop : Token
  errors : List SyntaxError := []

namespace Parser

/-- A parser at the start of a source text. -/
def ofSource (source : String) : Parser :=
  let (tokens, stop) := (Cursor.mk source.toList 0 1 1).scan
  { unread := tokens, stop := stop.endToken }

/-- The token that is read next: the first unread one, or the end token. -/
def current (parser : Parser) : Token :=
  parser.unread.headD parser.stop

/-- The parser with other unread tokens. -/
def moveTo (parser : Parser) (tokens : List Token) : Parser :=
  { parser with unread := tokens }

/-- A failure as an error at the token where the reading came to a halt. -/
def errorOf (parser : Parser) (failure : Failure) : SyntaxError :=
  ⟨failure.fault, (parser.moveTo failure.unread).current⟩

/-- Reads one phrase. The parser moves even if the phrase does not fit. -/
def read (parser : Parser) (phrase : Phrase) : Except SyntaxError Expr × Parser :=
  match phrase parser.unread with
  | .ok (tree, rest) => (.ok tree, parser.moveTo rest)
  | .error failure => (.error (parser.errorOf failure), parser.moveTo failure.unread)

/-- Reads an expression. -/
def readExpression (parser : Parser) (limit : NestingLimit) : Except SyntaxError Expr × Parser :=
  parser.read (expression limit.count)

/-- Reads a term. -/
def readTerm (parser : Parser) (limit : NestingLimit) : Except SyntaxError Expr × Parser :=
  parser.read (term limit.count)

/-- Reads a factor. -/
def readFactor (parser : Parser) (limit : NestingLimit) : Except SyntaxError Expr × Parser :=
  parser.read (factor limit.count)

/-- Takes one token of a kind; the end token can be taken any number of times. -/
def consume (parser : Parser) (kind : TokenKind) : Except SyntaxError Token × Parser :=
  if parser.current.kind = kind then (.ok parser.current, parser.moveTo parser.unread.tail)
  else (.error ⟨.kindExpected kind, parser.current⟩, parser)

/-- Reads everything up to the end as one expression; if that fails, the error is recorded. -/
def parse (parser : Parser) (limit : NestingLimit) : Option Expr × Parser :=
  match sentence limit.count parser.unread with
  | .ok tree => (some tree, parser.moveTo [])
  | .error failure =>
    let moved := parser.moveTo failure.unread
    (none, { moved with errors := parser.errors ++ [parser.errorOf failure] })

/-- The recorded errors, one a line. -/
def errorText (parser : Parser) : String :=
  String.join (parser.errors.map fun error => error.message ++ "\n")

end Parser

end GrammarWorkbench.Expression
