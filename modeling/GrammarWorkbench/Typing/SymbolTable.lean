import GrammarWorkbench.Expression.Tree
import GrammarWorkbench.FirstOccurrence
import GrammarWorkbench.Text.Quoted

/-!
# Symbol tables

A symbol table keeps all declarations in the order in which they were made, and a stack of scopes
whose innermost scope is the head of a list. A name is looked up from the innermost scope outwards,
and the first declaration in a scope wins.
-/

set_option autoImplicit false

namespace GrammarWorkbench.Typing

open GrammarWorkbench.Expression (SymbolKey)

/-- A declaration: a name with its type, the scope it was made in and the place. -/
structure SymbolEntry where
  name : String
  type : String
  scope : String
  line : Int
  column : Int
  deriving DecidableEq

namespace SymbolEntry

/-- What identifies the declaration. -/
def key (entry : SymbolEntry) : SymbolKey :=
  ⟨entry.name, entry.scope⟩

/-- The declaration with all its parts. -/
def display (entry : SymbolEntry) : String :=
  "SymbolEntry(name=" ++ Text.quoted entry.name ++ ", type=" ++ Text.quoted entry.type ++
    ", scope=" ++ Text.quoted entry.scope ++ ", line=" ++ toString entry.line ++
    ", column=" ++ toString entry.column ++ ")"

end SymbolEntry

/-- The scope around everything else, unless it is given another name. -/
def defaultGlobalScope : String := "global"

/-- Declarations in the order in which they were made, and the scopes entered, innermost first. -/
structure SymbolTable where
  globalScope : String
  scopes : List String
  declared : List SymbolEntry

namespace SymbolTable

/-- A table without declarations, in its global scope. -/
def empty (globalScope : String) : SymbolTable :=
  ⟨globalScope, [globalScope], []⟩

/-- The innermost scope. -/
def currentScope (table : SymbolTable) : String :=
  table.scopes.headD table.globalScope

/-- The table inside one more scope. -/
def enterScope (table : SymbolTable) (scope : String) : SymbolTable :=
  { table with scopes := scope :: table.scopes }

/-- The scope that is left, and the table outside it. The last scope is never left. -/
def exitScope (table : SymbolTable) : String × SymbolTable :=
  match table.scopes with
  | scope :: outer :: rest => (scope, { table with scopes := outer :: rest })
  | _ => (table.currentScope, table)

/-- The table with one more declaration. -/
def add (table : SymbolTable) (entry : SymbolEntry) : SymbolTable :=
  { table with declared := table.declared ++ [entry] }

/-- The declarations of a name, in the order in which they were made. -/
def entries (table : SymbolTable) (name : String) : List SymbolEntry :=
  table.declared.filter fun entry => entry.name = name

/-- The first declaration of a name in a scope. -/
def findIn (table : SymbolTable) (name scope : String) : Option SymbolEntry :=
  (table.entries name).find? fun entry => entry.scope = scope

/-- The declaration that a key identifies. -/
def resolve (table : SymbolTable) (key : SymbolKey) : Option SymbolEntry :=
  table.findIn key.name key.scope

/-- The declaration of a name that is visible: from a given scope if there is one, else from the
innermost scope outwards, and from the global scope last. -/
def lookup (table : SymbolTable) (name : String) (scope : Option String) : Option SymbolEntry :=
  (scope.toList ++ table.scopes ++ [table.globalScope]).findSome? (table.findIn name)

/-- Whether a declaration of a name is visible. -/
def isDeclared (table : SymbolTable) (name : String) (scope : Option String) : Bool :=
  (table.lookup name scope).isSome

/-- Whether a name is declared in the innermost scope. -/
def isDeclaredHere (table : SymbolTable) (name : String) : Bool :=
  (table.entries name).any fun entry => entry.scope = table.currentScope

/-- The declared names, in the order of their first declarations. -/
def names (table : SymbolTable) : List String :=
  firstOccurrences (table.declared.map SymbolEntry.name)

/-- The number of declarations. -/
def size (table : SymbolTable) : Nat :=
  table.declared.length

/-- The lines for a name: the name, then its declarations. -/
def nameLines (table : SymbolTable) (name : String) : List String :=
  ("  " ++ name ++ ":") :: (table.entries name).map fun entry => "    " ++ entry.display

/-- The table as text. -/
def display (table : SymbolTable) : String :=
  String.intercalate "\n" ("SymbolTable:" :: table.names.flatMap table.nameLines) ++ "\n"

end SymbolTable

end GrammarWorkbench.Typing
