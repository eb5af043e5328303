import GrammarWorkbench.Expression.Cursor

/-!
# Scanners

A scanner holds a source text, a cursor into it and the token read last. It can be moved token by
token, read through as a whole, and walked by a traversal: a lazy reading of the text from its
start, which shares the scanner's cursor and rewinds it only when it takes its first step.
-/

set_option autoImplicit false

namespace GrammarWorkbench.Expression

/-- A cursor into a source text, with the token it read last. -/
structure Scanner where
  source : List Char
  cursor : Cursor
  current : Token

/-- How far a traversal has come: it has not taken a step, it is under way, or it has given out
the end token. -/
inductive Traversal where
  | fresh
  | underWay
  | finished
  deriving DecidableEq

namespace Scanner

/-- The cursor at the start of a source text. -/
def startOf (source : List Char) : Cursor :=
  ⟨source, 0, 1, 1⟩

/-- The scanner after reading one token from a place of its source text. -/
def readFrom (source : List Char) (cursor : Cursor) : Scanner :=
  let (token, after) := cursor.next
  ⟨source, after, token⟩

/-- A scanner that has read the first token of a text. -/
def ofSource (source : String) : Scanner :=
  readFrom source.toList (startOf source.toList)

/-- The scanner moved on by one token. -/
def next (scanner : Scanner) : Scanner :=
  readFrom scanner.source scanner.cursor

/-- The scanner back at the first token of its text. -/
def restart (scanner : Scanner) : Scanner :=
  readFrom scanner.source (startOf scanner.source)

/-- All tokens of the text, and the scanner left at the end token. -/
def readAll (scanner : Scanner) : List Token × Scanner :=
  let (tokens, stop) := (startOf scanner.source).scan
  (tokens ++ [stop.endToken], ⟨scanner.source, stop, stop.endToken⟩)

/-- The scanner after a step of a traversal. -/
def stepped (scanner : Scanner) : Option Token × Traversal × Scanner :=
  let status := if scanner.current.kind = .endOfInput then .finished else .underWay
  (some scanner.current, status, scanner)

/-- One step of a traversal: the token given out, if any, and where traversal and scanner are
then. -/
def traverse (scanner : Scanner) : Traversal → Option Token × Traversal × Scanner
  | .fresh => scanner.restart.stepped
  | .underWay => scanner.next.stepped
  | .finished => (none, .finished, scanner)

end Scanner

end GrammarWorkbench.Expression
