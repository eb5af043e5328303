/-!
# Tokens of shift expressions

A token has a kind, its text and the place of its first character. Lines and columns count from
one in a source text; a token made by hand may stand anywhere.
-/

set_option autoImplicit false

namespace GrammarWorkbench.Expression

/-- The kinds of token: names, the four operators, the parentheses, the end of the input, and a
character that starts no token. -/
inductive TokenKind where
  | identifier
  | plus
  | minus
  | shiftLeft
  | shiftRight
  | openParen
  | closeParen
  | endOfInput
  | invalid
  deriving DecidableEq

namespace TokenKind

/-- All kinds, each once. -/
def all : List TokenKind :=
  [identifier, plus, minus, shiftLeft, shiftRight, openParen, closeParen, endOfInput, invalid]

/-- The short name of a kind, as tokens are shown with it. -/
def tag : TokenKind → String
  | identifier => "ID"
  | plus => "PLUS"
  | minus => "MINUS"
  | shiftLeft => "LEFT_SHIFT"
  | shiftRight => "RIGHT_SHIFT"
  | openParen => "LPAREN"
  | closeParen => "RPAREN"
  | endOfInput => "EOF"
  | invalid => "ERROR"

/-- The kind with a short name. -/
def ofTag? (tag : String) : Option TokenKind :=
  all.find? fun kind => kind.tag = tag

/-- What a message calls a token of the kind that is missing. -/
def wording : TokenKind → String
  | identifier => "identifier"
  | plus => "+"
  | minus => "-"
  | shiftLeft => "<<"
  | shiftRight => ">>"
  | openParen => "("
  | closeParen => ")"
  | endOfInput => "end of input"
  | invalid => "error"

/-- The operators that bind weakest. -/
def isShift : TokenKind → Bool
  | shiftLeft | shiftRight => true
  | _ => false

/-- The operators that bind tighter than shifts. -/
def isAdditive : TokenKind → Bool
  | plus | minus => true
  | _ => false

end TokenKind

/-- A token with its text and the place where it starts. -/
structure Token where
  kind : TokenKind
  text : String
  line : Int := 1
  column : Int := 1
  deriving DecidableEq

namespace Token

/-- The token as messages mention it. -/
def describe (token : Token) : String :=
  if token.kind = .endOfInput then "end of input" else token.text

/-- The token with all its parts; the text is inserted as it is. -/
def display (token : Token) : String :=
  "Token(" ++ token.kind.tag ++ ", '" ++ token.text ++ "', line=" ++ toString token.line ++
    ", column=" ++ toString token.column ++ ")"

end Token

end GrammarWorkbench.Expression
