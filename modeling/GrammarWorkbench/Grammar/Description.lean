import GrammarWorkbench.Grammar.Basic

/-!
# Grammars described by JSON

A description is an object with the members `non_terminals`, `terminals`, `productions` and
`start`. A list in it may also be given as a text, which stands for its characters, or as an
object, which stands for its names. A production is an object with a member `lhs` and perhaps a
member `rhs`. Every value but a list or an object is a name; a name that is declared in several
forms has the last one.

The parts are looked at in a fixed order, so that of several errors always the same one is found:
the four members, names declared twice over, the productions one by one with the left side first,
the start symbol, and last what `Grammar.build` checks. Some errors have no report: a list or an
object where a name is due, a right side that is no sequence, and names that cannot be written or
compared.
-/

set_option autoImplicit false

namespace GrammarWorkbench.Grammar

/-- Why a description gives no grammar. -/
inductive DescriptionError where
  | notAnObject
  | memberMissing (name : String)
  | memberNotIterable (kind : String)
  | declaredTwice (names : List Name)
  | entryInvalid (entry : Json)
  | lhsUndeclared (name : Json)
  | nameUndeclared (name : Json)
  | startUndeclared (name : Json)
  | inconsistent (error : GrammarError)
  | nameExpected (found : Json)
  | sequenceExpected (found : Json)

/-- The report of an error, if it has one. -/
def DescriptionError.report? : DescriptionError → Option String
  | notAnObject => some "Grammar description must be an object"
  | memberMissing name => some ("Grammar description is missing '" ++ name ++ "'")
  | memberNotIterable kind =>
    some ("Grammar description has an invalid field: '" ++ kind ++ "' object is not iterable")
  | declaredTwice names => do
    let names ← (Name.sort names).toOption
    some ("Symbols declared as both terminal and non-terminal: " ++ Name.displayList names)
  | entryInvalid entry => some ("Invalid production entry: " ++ entry.display)
  | lhsUndeclared name => some ("Undeclared left-hand side '" ++ name.mention ++ "'")
  | nameUndeclared name => some ("Undeclared symbol '" ++ name.mention ++ "'")
  | startUndeclared name =>
    some ("Start symbol '" ++ name.mention ++ "' must be one of the non-terminals")
  | inconsistent error => error.report.toOption
  | nameExpected _ => none
  | sequenceExpected _ => none

namespace Description

/-- The items of a value that is a sequence: a list, the characters of a text, or the names in an
object. -/
def items? : Json → Option (List Json)
  | .list items => some items
  | .text value => some (value.toList.map fun c => .text (String.singleton c))
  | .object members => some (members.map fun member => .text member.1)
  | _ => none

/-- The sequence under a name in a description. -/
def sequence (members : List (String × Json)) (name : String) :
    Except DescriptionError (List Json) :=
  match members.lookup name with
  | none => .error (.memberMissing name)
  | some value =>
    match items? value with
    | some items => .ok items
    | none => .error (.memberNotIterable value.kindName)

/-- The name that a value stands for. -/
def nameOf : Json → Except DescriptionError Name
  | .text value => .ok (.text value)
  | .integer value => .ok (.integer value)
  | .boolean value => .ok (.boolean value)
  | .real value => .ok (.real value)
  | .null => .ok .null
  | .list items => .error (.nameExpected (.list items))
  | .object members => .error (.nameExpected (.object members))

/-- The non-terminal that a value names, among the declared ones. -/
def namedNonTerminal? (nonTerminals : List Name) (value : Json) :
    Except DescriptionError (Option Symbol) := do
  let name ← nameOf value
  .ok ((Name.find? nonTerminals name.key).map .nonTerminal)

/-- The symbol that a value names, among the declared ones. -/
def symbol (nonTerminals terminals : List Name) (value : Json) :
    Except DescriptionError Symbol := do
  let name ← nameOf value
  match Name.find? nonTerminals name.key with
  | some declared => .ok (.nonTerminal declared)
  | none =>
    match Name.find? terminals name.key with
    | some declared => .ok (.terminal declared)
    | none => .error (.nameUndeclared value)

/-- The right side of a production; it is empty if it is not given. -/
def rightSide (members : List (String × Json)) : Except DescriptionError (List Json) :=
  match members.lookup "rhs" with
  | none => .ok []
  | some value =>
    match items? value with
    | some items => .ok items
    | none => .error (.sequenceExpected value)

/-- The production that an entry describes. -/
def production (nonTerminals terminals : List Name) (entry : Json) :
    Except DescriptionError Production :=
  match entry with
  | .object members =>
    match members.lookup "lhs" with
    | none => .error (.entryInvalid entry)
    | some lhs => do
      match ← namedNonTerminal? nonTerminals lhs with
      | none => .error (.lhsUndeclared lhs)
      | some symbol =>
        let names ← rightSide members
        let rhs ← names.mapM (Description.symbol nonTerminals terminals)
        .ok ⟨symbol, rhs⟩
  | _ => .error (.entryInvalid entry)

/-- The error of `Grammar.build` as an error of the description. -/
def checked {α : Type} : Except GrammarError α → Except DescriptionError α
  | .ok value => .ok value
  | .error error => .error (.inconsistent error)

end Description

open Description in
/-- The grammar that a JSON value describes. -/
def ofJson (description : Json) : Except DescriptionError Grammar :=
  match description with
  | .object members => do
    let nonTerminalItems ← sequence members "non_terminals"
    let terminalItems ← sequence members "terminals"
    let entries ← sequence members "productions"
    match members.lookup "start" with
    | none => .error (.memberMissing "start")
    | some start =>
      let nonTerminalNames ← nonTerminalItems.mapM nameOf
      let terminalNames ← terminalItems.mapM nameOf
      match Name.shared nonTerminalNames terminalNames with
      | name :: names => .error (.declaredTwice (name :: names))
      | [] =>
        let nonTerminals := Name.lastForms nonTerminalNames
        let terminals := Name.lastForms terminalNames
        let productions ← entries.mapM (production nonTerminals terminals)
        match ← namedNonTerminal? nonTerminals start with
        | none => .error (.startUndeclared start)
        | some symbol =>
          checked (build (nonTerminals.map .nonTerminal) (terminals.map .terminal) productions
            (some symbol))
  | _ => .error .notAnObject

end GrammarWorkbench.Grammar
