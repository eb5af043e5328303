import GrammarWorkbench.Json.Basic
import GrammarWorkbench.Text.Hex
import GrammarWorkbench.Text.Utf16

/-!
# Reading JSON

A reader takes a value off the front of a text and hands back the rest. Besides the standard it
accepts the words `NaN`, `Infinity` and `-Infinity`; control characters inside a text are refused,
and so is an integer of more than 4300 digits. Of two members with one name the last value counts,
in the place of the first. Nesting beyond a given depth is an error of its own, found where the
nesting becomes too deep, whatever comes later in the text.
-/

set_option autoImplicit false

namespace GrammarWorkbench.Json

/-! ## Blanks, words and digits -/

/-- The characters between the parts of a JSON text. -/
def isGap (c : Char) : Bool :=
  c = ' ' || c = '\t' || c = '\n' || c = '\r'

/-- The text after the gap at its front. -/
def skipGap (cs : List Char) : List Char :=
  cs.dropWhile isGap

/-- The text after a word at its front. -/
def afterWord? (word : String) (cs : List Char) : Option (List Char) :=
  if word.toList.isPrefixOf cs then some (cs.drop word.length) else none

/-- A digit from zero to nine. -/
def isDigit (c : Char) : Bool :=
  decide ('0' ≤ c) && decide (c ≤ '9')

/-- The number written by digits. -/
def digitsValue (digits : List Char) : Nat :=
  digits.foldl (fun n c => 10 * n + (c.toNat - 48)) 0

/-- The value of four hexadecimal digits. -/
def unitValue? (a b c d : Char) : Option Nat := do
  let a ← Text.hexValue? a
  let b ← Text.hexValue? b
  let c ← Text.hexValue? c
  let d ← Text.hexValue? d
  some (((a * 16 + b) * 16 + c) * 16 + d)

/-! ## Texts -/

/-- The character of a one-letter escape. -/
def escaped? (c : Char) : Option Char :=
  if c = '"' || c = '\\' || c = '/' then some c
  else if c = 'b' then some (Char.ofNat 8)
  else if c = 'f' then some (Char.ofNat 12)
  else if c = 'n' then some '\n'
  else if c = 'r' then some '\r'
  else if c = 't' then some '\t'
  else none

/-- The rest of a text up to its closing quote; `done` holds the characters read so far, the last
one first. -/
def textFrom : List Char → (done : List Char) → Option (String × List Char)
  | [], _ => none
  | '"' :: rest, done => some (String.ofList done.reverse, rest)
  | '\\' :: 'u' :: a :: b :: c :: d :: '\\' :: 'u' :: e :: f :: g :: h :: rest, done =>
    match unitValue? a b c d with
    | none => none
    | some unit =>
      match (unitValue? e f g h).bind (Text.surrogatePair? unit) with
      | some character => textFrom rest (character :: done)
      | none => textFrom ('\\' :: 'u' :: e :: f :: g :: h :: rest) (Text.unitChar unit :: done)
  | '\\' :: 'u' :: a :: b :: c :: d :: rest, done =>
    match unitValue? a b c d with
    | none => none
    | some unit => textFrom rest (Text.unitChar unit :: done)
  | '\\' :: c :: rest, done =>
    match escaped? c with
    | none => none
    | some character => textFrom rest (character :: done)
  | c :: rest, done => if c.toNat < 0x20 then none else textFrom rest (c :: done)

/-! ## Numbers -/

/-- The greatest number of digits of an integer. -/
def maxDigits : Nat := 4300

/-- The digits after a point, if the text goes on with a point and a digit. -/
def fraction? : List Char → Option (List Char × List Char)
  | '.' :: c :: rest =>
    if isDigit c then some (c :: rest.takeWhile isDigit, rest.dropWhile isDigit) else none
  | _ => none

/-- An exponent, if the text goes on with a mark, perhaps a sign, and a digit. -/
def exponent? : List Char → Option (Int × List Char)
  | mark :: cs =>
    if mark = 'e' || mark = 'E' then
      let (negative, digits) : Bool × List Char :=
        match cs with
        | '-' :: rest => (true, rest)
        | '+' :: rest => (false, rest)
        | rest => (false, rest)
      if (digits.takeWhile isDigit).isEmpty then none
      else
        let value : Int := digitsValue (digits.takeWhile isDigit)
        some (if negative then -value else value, digits.dropWhile isDigit)
    else none
  | [] => none

/-- The digits before the point: a lone zero, or digits that start with another one. -/
def whole? : List Char → Option (List Char × List Char)
  | '0' :: rest => some (['0'], rest)
  | c :: rest =>
    if isDigit c then some (c :: rest.takeWhile isDigit, rest.dropWhile isDigit) else none
  | [] => none

/-- A number, after its sign. -/
def number? (negative : Bool) (cs : List Char) : Option (Json × List Char) := do
  let (whole, rest) ← whole? cs
  let (places, rest) := (fraction? rest).getD ([], rest)
  let hasFraction := !places.isEmpty
  let (exponent, rest, hasExponent) :=
    match exponent? rest with
    | some (exponent, rest) => (exponent, rest, true)
    | none => ((0 : Int), rest, false)
  if hasFraction || hasExponent then
    let digits := digitsValue (whole ++ places)
    some (.real (.number negative (.ofDecimal digits (exponent - places.length))), rest)
  else if maxDigits < whole.length then none
  else
    let value : Int := digitsValue whole
    some (.integer (if negative then -value else value), rest)

/-! ## Values -/

/-- Why a text holds no JSON value. -/
inductive ReadError where
  | malformed
  | tooDeep
  deriving DecidableEq

/-- What was read, if the text goes on as it has to. -/
def wellFormed {α : Type} : Option α → Except ReadError α
  | some result => .ok result
  | none => .error .malformed

mutual
/-- A value at the front of a text, with at most `depth` lists and objects around each other. The
first argument bounds the number of nested steps. -/
def value : Nat → (depth : Nat) → List Char → Except ReadError (Json × List Char)
  | 0, _, _ => .error .malformed
  | _, _, [] => .error .malformed
  | bound + 1, depth, c :: rest =>
    if c = '"' then
      wellFormed ((textFrom rest []).map fun (content, rest) => (.text content, rest))
    else if c = '[' then
      match depth, skipGap rest with
      | 0, _ => .error .tooDeep
      | _ + 1, ']' :: rest => .ok (.list [], rest)
      | depth + 1, rest => items bound depth rest []
    else if c = '\x7b' then
      match depth, skipGap rest with
      | 0, _ => .error .tooDeep
      | _ + 1, '\x7d' :: rest => .ok (.object [], rest)
      | depth + 1, rest => members bound depth rest []
    else if c = '-' then
      match afterWord? "Infinity" rest with
      | some rest => .ok (.real (.number true .infinite), rest)
      | none => wellFormed (number? true rest)
    else if c = 'n' then wellFormed ((afterWord? "null" (c :: rest)).map (.null, ·))
    else if c = 't' then wellFormed ((afterWord? "true" (c :: rest)).map (.boolean true, ·))
    else if c = 'f' then wellFormed ((afterWord? "false" (c :: rest)).map (.boolean false, ·))
    else if c = 'N' then wellFormed ((afterWord? "NaN" (c :: rest)).map (.real .notANumber, ·))
    else if c = 'I' then
      wellFormed ((afterWord? "Infinity" (c :: rest)).map (.real (.number false .infinite), ·))
    else wellFormed (number? false (c :: rest))
/-- The items of a list from the next one on; `done` holds those before it, the last one first. -/
def items : Nat → (depth : Nat) → List Char → (done : List Json) →
    Except ReadError (Json × List Char)
  | 0, _, _, _ => .error .malformed
  | bound + 1, depth, cs, done =>
    match value bound depth cs with
    | .error error => .error error
    | .ok (item, rest) =>
      match skipGap rest with
      | ',' :: rest => items bound depth (skipGap rest) (item :: done)
      | ']' :: rest => .ok (.list (item :: done).reverse, rest)
      | _ => .error .malformed
/-- The members of an object from the next one on; `done` holds those before it, the last one
first. -/
def members : Nat → (depth : Nat) → List Char → (done : List (String × Json)) →
    Except ReadError (Json × List Char)
  | 0, _, _, _ => .error .malformed
  | bound + 1, depth, '"' :: cs, done =>
    match textFrom cs [] with
    | none => .error .malformed
    | some (name, rest) =>
      match skipGap rest with
      | ':' :: rest =>
        match value bound depth (skipGap rest) with
        | .error error => .error error
        | .ok (item, rest) =>
          match skipGap rest with
          | ',' :: rest => members bound depth (skipGap rest) ((name, item) :: done)
          | '\x7d' :: rest => .ok (.object (collect ((name, item) :: done).reverse), rest)
          | _ => .error .malformed
      | _ => .error .malformed
  | _ + 1, _, _, _ => .error .malformed
end

/-- The JSON value that a text holds, with nothing but gaps around it and with at most `depth` lists
and objects around each other. A nested step takes a character for itself or for the step it is made
for, so twice the length bounds them. -/
def read (depth : Nat) (source : String) : Except ReadError Json :=
  let cs := source.toList
  match value (2 * cs.length + 2) depth (skipGap cs) with
  | .error error => .error error
  | .ok (value, rest) => if (skipGap rest).isEmpty then .ok value else .error .malformed

end GrammarWorkbench.Json
