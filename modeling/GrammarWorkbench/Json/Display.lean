import GrammarWorkbench.Json.Basic
import GrammarWorkbench.Number.Shortest
import GrammarWorkbench.Text.Quoted

/-!
# Values in messages

How a message shows a JSON value: texts in quotes, a word each for nothing, true and false, lists
in brackets and objects in braces. A text that is a name of something is shown without its quotes.
-/

set_option autoImplicit false

namespace GrammarWorkbench.Json

mutual
/-- A value as a message quotes it. -/
def display : Json → String
  | .null => "None"
  | .boolean value => if value then "True" else "False"
  | .integer value => toString value
  | .real value => value.text
  | .text value => Text.quoted value
  | .list items => "[" ++ String.intercalate ", " (displayItems items) ++ "]"
  | .object members => "\x7b" ++ String.intercalate ", " (displayMembers members) ++ "\x7d"
/-- The items of a list, each as a message quotes it. -/
def displayItems : List Json → List String
  | [] => []
  | item :: rest => display item :: displayItems rest
/-- The members of an object, each with its name in quotes. -/
def displayMembers : List (String × Json) → List String
  | [] => []
  | (name, value) :: rest => (Text.quoted name ++ ": " ++ display value) :: displayMembers rest
end

/-- A value as a message mentions it: a text as it is, everything else as it is quoted. -/
def mention : Json → String
  | .text value => value
  | value => value.display

/-- The kind of a value as messages name it. -/
def kindName : Json → String
  | .null => "NoneType"
  | .boolean _ => "bool"
  | .integer _ => "int"
  | .real _ => "float"
  | .text _ => "str"
  | .list _ => "list"
  | .object _ => "dict"

end GrammarWorkbench.Json
