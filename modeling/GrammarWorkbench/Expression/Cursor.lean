import GrammarWorkbench.Expression.Token
import GrammarWorkbench.Text.Letter
import GrammarWorkbench.Text.Numeral

/-!
# Reading tokens off a source text

A cursor is a place in a source text: the characters still to be read, how many came before, and
the line and column reached. `Cursor.next` skips blanks and reads one token, the longest that
starts there; `tokenize` reads a whole text. No character is lost: whatever starts no token is a
token of its own, of kind `invalid`.

The statements below say that reading a token leaves fewer characters, which is what ends the
reading of a text.
-/

set_option autoImplicit false

namespace GrammarWorkbench.Expression

/-! ## Lexemes -/

/-- The kind of the tokens made of one given character. -/
def singleKind? (c : Char) : Option TokenKind :=
  if c = '(' then some .openParen
  else if c = ')' then some .closeParen
  else if c = '+' then some .plus
  else if c = '-' then some .minus
  else none

/-- The kind of the tokens made of one given character twice. -/
def doubleKind? (c : Char) : Option TokenKind :=
  if c = '<' then some .shiftLeft
  else if c = '>' then some .shiftRight
  else none

/-- The characters a name goes on with. -/
def isNameChar (c : Char) : Bool :=
  Text.isLetter c || Text.isNumeral c || c = '_'

/-- The characters between tokens. -/
def isGap (c : Char) : Bool :=
  c = ' ' || c = '\t' || c = '\n'

/-- The text of one token, and the characters after it. -/
structure Lexeme where
  kind : TokenKind
  text : List Char
  rest : List Char

/-- The longest lexeme at the front of a text; there is none only in the empty text. -/
def Lexeme.read? : List Char → Option Lexeme
  | [] => none
  | c :: rest =>
    match singleKind? c with
    | some kind => some ⟨kind, [c], rest⟩
    | none =>
      match doubleKind? c, rest with
      | some kind, d :: rest' =>
        if d = c then some ⟨kind, [c, c], rest'⟩ else some ⟨.invalid, [c], rest⟩
      | some _, [] => some ⟨.invalid, [c], rest⟩
      | none, _ =>
        if Text.isLetter c then
          some ⟨.identifier, c :: rest.takeWhile isNameChar, rest.dropWhile isNameChar⟩
        else some ⟨.invalid, [c], rest⟩

/-- A lexeme and what follows it make up the text it was read from. -/
theorem Lexeme.text_append_rest {cs : List Char} {lexeme : Lexeme}
    (h : Lexeme.read? cs = some lexeme) : lexeme.text ++ lexeme.rest = cs := by
  cases cs with
  | nil => simp [Lexeme.read?] at h
  | cons c rest =>
      simp only [Lexeme.read?] at h
      repeat' split at h
      all_goals
        cases h
        simp_all

/-- A lexeme has at least one character. -/
theorem Lexeme.text_ne_nil {cs : List Char} {lexeme : Lexeme}
    (h : Lexeme.read? cs = some lexeme) : lexeme.text ≠ [] := by
  cases cs with
  | nil => simp [Lexeme.read?] at h
  | cons c rest =>
      simp only [Lexeme.read?] at h
      repeat' split at h
      all_goals
        cases h
        simp

/-- Reading a lexeme leaves fewer characters. -/
theorem Lexeme.rest_length_lt {cs : List Char} {lexeme : Lexeme}
    (h : Lexeme.read? cs = some lexeme) : lexeme.rest.length < cs.length := by
  have hlength := congrArg List.length (Lexeme.text_append_rest h)
  have hpositive := List.length_pos_iff.2 (Lexeme.text_ne_nil h)
  rw [List.length_append] at hlength
  omega

/-! ## Cursors -/

/-- A place in a source text. -/
structure Cursor where
  rest : List Char
  offset : Nat := 0
  line : Nat := 1
  column : Nat := 1

namespace Cursor

/-- The place reached after skipping the gap at the front of a text. -/
def skipFrom : List Char → (offset line column : Nat) → Cursor
  | [], offset, line, column => ⟨[], offset, line, column⟩
  | c :: rest, offset, line, column =>
    if c = '\n' then skipFrom rest (offset + 1) (line + 1) 1
    else if isGap c then skipFrom rest (offset + 1) line (column + 1)
    else ⟨c :: rest, offset, line, column⟩

/-- The place of the next token. -/
def skipGap (cursor : Cursor) : Cursor :=
  skipFrom cursor.rest cursor.offset cursor.line cursor.column

/-- The token of a lexeme that starts here. -/
def token (cursor : Cursor) (lexeme : Lexeme) : Token :=
  ⟨lexeme.kind, String.ofList lexeme.text, cursor.line, cursor.column⟩

/-- The token that marks the end of the input here. -/
def endToken (cursor : Cursor) : Token :=
  ⟨.endOfInput, "", cursor.line, cursor.column⟩

/-- The place after a lexeme that starts here; a lexeme stays on its line. -/
def past (cursor : Cursor) (lexeme : Lexeme) : Cursor :=
  { rest := lexeme.rest
    offset := cursor.offset + lexeme.text.length
    line := cursor.line
    column := cursor.column + lexeme.text.length }

/-- The next token and the place after it. At the end of the input that is the end token, again
and again. -/
def next (cursor : Cursor) : Token × Cursor :=
  let start := cursor.skipGap
  match Lexeme.read? start.rest with
  | none => (start.endToken, start)
  | some lexeme => (start.token lexeme, start.past lexeme)

/-- Skipping a gap leaves no more characters than there were. -/
theorem skipFrom_rest_length_le (cs : List Char) (offset line column : Nat) :
    (skipFrom cs offset line column).rest.length ≤ cs.length := by
  induction cs generalizing offset line column with
  | nil => simp [skipFrom]
  | cons c rest ih =>
      simp only [skipFrom]
      split
      · exact Nat.le_succ_of_le (ih _ _ _)
      · split
        · exact Nat.le_succ_of_le (ih _ _ _)
        · simp

/-- All tokens from here to the end of the input, without the end token, and the place of the end
token. -/
def scan (cursor : Cursor) : List Token × Cursor :=
  match h : Lexeme.read? cursor.skipGap.rest with
  | none => ([], cursor.skipGap)
  | some lexeme =>
    have : lexeme.rest.length < cursor.rest.length :=
      Nat.lt_of_lt_of_le (Lexeme.rest_length_lt h) (skipFrom_rest_length_le _ _ _ _)
    let (tokens, stop) := (cursor.skipGap.past lexeme).scan
    (cursor.skipGap.token lexeme :: tokens, stop)
termination_by cursor.rest.length

end Cursor

/-- All tokens of a source text; the last one, and no other, is the end token. -/
def tokenize (source : String) : List Token :=
  let (tokens, stop) := (Cursor.mk source.toList 0 1 1).scan
  tokens ++ [stop.endToken]

end GrammarWorkbench.Expression
