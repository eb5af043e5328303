import GrammarWorkbench.Json.Basic
import GrammarWorkbench.Number.Shortest
import GrammarWorkbench.Text.Hex
import GrammarWorkbench.Text.Utf16

/-!
# Writing JSON

The JSON text of a value, without gaps and in ASCII only: a character beyond is written by its
UTF-16 units.
-/

set_option autoImplicit false

namespace GrammarWorkbench.Json

/-- The escape of a UTF-16 unit. -/
def unitEscape (unit : Nat) : String :=
  "\\u" ++ String.ofList (Text.hexDigits 4 unit)

/-- A character as it stands in a JSON text. -/
def writtenChar (c : Char) : String :=
  if c = '"' then "\\\""
  else if c = '\\' then "\\\\"
  else if 0x20 ≤ c.toNat ∧ c.toNat < 0x7F then String.singleton c
  else String.join ((Text.unitsOfChar c).map unitEscape)

/-- A text in quotes, written after what is there. -/
def writeText (done : String) (text : String) : String :=
  (text.toList.foldl (fun done c => done ++ writtenChar c) (done.push '"')).push '"'

mutual
/-- A value, written after what is there. -/
def write (done : String) : Json → String
  | .null => done ++ "null"
  | .boolean value => done ++ (if value then "true" else "false")
  | .integer value => done ++ toString value
  | .real value => done ++ value.text
  | .text value => writeText done value
  | .list items => (writeItems (done.push '[') true items).push ']'
  | .object members => (writeMembers (done.push '\x7b') true members).push '\x7d'
/-- The items of a list, written after what is there; `first` tells whether none came before. -/
def writeItems (done : String) (first : Bool) : List Json → String
  | [] => done
  | item :: rest =>
    writeItems (write (if first then done else done.push ',') item) false rest
/-- The members of an object, written after what is there. -/
def writeMembers (done : String) (first : Bool) : List (String × Json) → String
  | [] => done
  | (name, value) :: rest =>
    writeMembers
      (write ((writeText (if first then done else done.push ',') name).push ':') value) false rest
end

/-- The JSON text of a value. -/
def render (value : Json) : String :=
  write "" value

end GrammarWorkbench.Json
