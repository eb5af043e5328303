import GrammarWorkbench.Number.Binary64

/-!
# JSON values

The members of an object keep the order in which they were written, since some answers show it.
Integers are unbounded, and are told apart from numbers with a fraction or an exponent.
-/

set_option autoImplicit false

namespace GrammarWorkbench

/-- A JSON value. -/
inductive Json where
  | null
  | boolean (value : Bool)
  | integer (value : Int)
  | real (value : Number.Binary64)
  | text (value : String)
  | list (items : List Json)
  | object (members : List (String × Json))

namespace Json

/-- The value of the first member with a name. -/
def member? : Json → String → Option Json
  | .object members, name => members.lookup name
  | _, _ => none

/-- Members with one more: a name that is present keeps its place and takes the new value. -/
def put {α : Type} (members : List (String × α)) (name : String) (value : α) :
    List (String × α) :=
  if members.any (·.1 = name) then
    members.map fun member => if member.1 = name then (name, value) else member
  else members ++ [(name, value)]

/-- A list of pairs as members: a repeated name keeps its first place and its last value. -/
def collect {α : Type} (pairs : List (String × α)) : List (String × α) :=
  pairs.foldl (fun members pair => put members pair.1 pair.2) []

/-- The empty values: nothing, false, zero, and texts, lists and objects without content. -/
def isEmpty : Json → Bool
  | .null => true
  | .boolean value => !value
  | .integer value => value = 0
  | .real value => value.toInt? = some 0
  | .text value => value = ""
  | .list items => items.isEmpty
  | .object members => members.isEmpty

end Json

end GrammarWorkbench
