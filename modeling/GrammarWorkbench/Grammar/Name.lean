import GrammarWorkbench.FirstOccurrence
import GrammarWorkbench.Json.Display

/-!
# Names of symbols

A symbol is named by a text. In a description it may also be named by a number, by a truth value or
by `null`. A name is kept as it was written, since messages show it so; but names with the same key
name the same symbol, as `1`, `1.0` and `true` do.

Texts are ordered by code points, and numbers by size; truth values count as numbers. A text cannot
be compared with a number, and `null` cannot be compared at all.
-/

set_option autoImplicit false

namespace GrammarWorkbench.Grammar

/-- The name of a symbol. -/
inductive Name where
  | text (value : String)
  | integer (value : Int)
  | boolean (value : Bool)
  | real (value : Number.Binary64)
  | null
  deriving DecidableEq

namespace Name

/-- The value that the name is written as. -/
def value : Name → Json
  | text value => .text value
  | integer value => .integer value
  | boolean value => .boolean value
  | real value => .real value
  | null => .null

/-- The text that the name is, if it is one. -/
def text? : Name → Option String
  | text value => some value
  | _ => none

/-- Whether the name is a text. -/
def isText (name : Name) : Bool :=
  name.text?.isSome

/-- Whether the name is a number or counts as one. -/
def isNumber : Name → Bool
  | integer _ | boolean _ | real _ => true
  | text _ | null => false

/-- The name as a part of a label. -/
def mention (name : Name) : String :=
  name.value.mention

/-- The name as a list of names shows it. -/
def display (name : Name) : String :=
  name.value.display

/-- The kind of the name as messages call it. -/
def kindName (name : Name) : String :=
  name.value.kindName

/-- A list of names as text. -/
def displayList (names : List Name) : String :=
  "[" ++ String.intercalate ", " (names.map display) ++ "]"

/-! ## Keys -/

/-- What a name counts as. The value that is no number is a key of its own. -/
inductive Key where
  | null
  | text (value : String)
  | number (value : Rat)
  | infinite (negative : Bool)
  | notANumber
  deriving DecidableEq

/-- The key of a number with a fraction or an exponent: its exact value, if it is finite. -/
def Key.ofReal : Number.Binary64 → Key
  | .notANumber => .notANumber
  | .number negative .infinite => .infinite negative
  | .number negative (.finite mantissa exponent) =>
    let (num, den) := Number.Magnitude.ratio mantissa exponent
    .number (mkRat (if negative then -(num : Int) else num) den)

/-- The key of a name. -/
def key : Name → Key
  | text value => .text value
  | integer value => .number value
  | boolean value => .number (if value then 1 else 0)
  | real value => .ofReal value
  | null => .null

/-- The first name with a key. -/
def find? (names : List Name) (key : Key) : Option Name :=
  names.find? fun name => name.key = key

/-- The keys of some names, each at the place of the first name that has it. -/
def keys (names : List Name) : List Key :=
  firstOccurrences (names.map key)

/-- The names in a set: of several names with the same key, the first one. -/
def firstForms (names : List Name) : List Name :=
  (keys names).filterMap (find? names)

/-- The names in a table: of several names with the same key, the last one at the place of the
first. -/
def lastForms (names : List Name) : List Name :=
  (keys names).filterMap (find? names.reverse)

/-- The names of two sets that have their keys in both, as the smaller set has them, or the second
if neither is smaller. -/
def shared (names others : List Name) : List Name :=
  if (keys names).length < (keys others).length then
    (firstForms names).filter fun name => name.key ∈ keys others
  else (firstForms others).filter fun name => name.key ∈ keys names

/-- Whether names are equal. The value that is no number is not equal to itself. -/
def equals (a b : Name) : Bool :=
  a.key = b.key && a.key ≠ .notANumber

/-! ## Order -/

/-- The order of keys that can be compared. What is no number has no place in it. -/
def Key.le : Key → Key → Bool
  | .text a, .text b => decide (a ≤ b)
  | .number a, .number b => decide (a ≤ b)
  | .infinite true, _ => true
  | _, .infinite false => true
  | _, _ => false

/-- The order of names that can be compared. -/
def le (a b : Name) : Bool :=
  a.key.le b.key

/-- Whether two names can be compared. -/
def comparable (a b : Name) : Bool :=
  (a.isText && b.isText) || (a.isNumber && b.isNumber)

/-- A comparison of two names that cannot be compared. -/
structure Clash where
  left : Name
  right : Name
  deriving DecidableEq

/-- The text of the error that the comparison ends in. -/
def Clash.message (clash : Clash) : String :=
  "'<' not supported between instances of '" ++ clash.left.kindName ++ "' and '" ++
    clash.right.kindName ++ "'"

/-- The first neighbours in a list that cannot be compared. -/
def clash? : List Name → Option Clash
  | first :: second :: rest =>
    if first.comparable second then clash? (second :: rest) else some ⟨second, first⟩
  | _ => none

/-- Names in order, if they can be compared. -/
def sort (names : List Name) : Except Clash (List Name) :=
  match clash? names with
  | some clash => .error clash
  | none => .ok (names.mergeSort le)

end Name

end GrammarWorkbench.Grammar
