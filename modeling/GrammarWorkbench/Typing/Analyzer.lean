import GrammarWorkbench.Typing.SymbolTable

/-!
# Type analysis

An analyzer walks a tree from the operands up, declares the names it meets for the first time and
finds a type for every node. An operator whose operands do not suit it is reported once and has the
type `error_type`, which is passed on upwards without another report.
-/

set_option autoImplicit false

namespace GrammarWorkbench.Typing

open GrammarWorkbench.Expression (Expr Token Binding)

/-! ## Types -/

/-- The type of whole numbers. -/
def intType : String := "int"

/-- The type of numbers with a fraction. -/
def floatType : String := "float"

/-- The type of operands nothing is known about. -/
def unknownType : String := "unknown"

/-- The type of an expression with an error in it. -/
def errorType : String := "error_type"

/-- The types that additive operators work on. -/
def isNumericType (type : String) : Bool :=
  type = intType || type = floatType

/-- The operators that move bits. -/
def isShiftOperator (operator : String) : Bool :=
  operator = "<<" || operator = ">>"

/-- The operators that add and subtract. -/
def isAdditiveOperator (operator : String) : Bool :=
  operator = "+" || operator = "-"

/-! ## Diagnostics -/

/-- Why an operator does not suit its operands. -/
inductive TypeFault where
  | unknownOperands (left right : String)
  | integersExpected (left right : String)
  | numbersExpected (left right : String)
  | unsupportedOperator
  deriving DecidableEq

/-- A fault of an operator, given by its token. -/
structure Diagnostic where
  fault : TypeFault
  operator : Token
  deriving DecidableEq

namespace Diagnostic

/-- What is wrong, without the place. -/
def reason (diagnostic : Diagnostic) : String :=
  let operator := diagnostic.operator.text
  match diagnostic.fault with
  | .unknownOperands left right =>
    "Cannot perform operation '" ++ operator ++ "' on operands with unknown types ('" ++ left ++
      "', '" ++ right ++ "')."
  | .integersExpected left right =>
    "Type mismatch for operator '" ++ operator ++ "'. Expected two integers, but got " ++ left ++
      " and " ++ right ++ "."
  | .numbersExpected left right =>
    "Type mismatch for operator '" ++ operator ++ "'. Expected numeric operands, but got " ++
      left ++ " and " ++ right ++ "."
  | .unsupportedOperator => "Unsupported operator: " ++ operator

/-- The place of the operator and what is wrong there. -/
def message (diagnostic : Diagnostic) : String :=
  "Semantic Error (line " ++ toString diagnostic.operator.line ++ ", col " ++
    toString diagnostic.operator.column ++ "): " ++ diagnostic.reason

end Diagnostic

/-! ## The rule for operators -/

/-- The type of an operator between operands of given types, or why there is none. An operand with
an error makes an error that is not reported again. -/
def operatorType (operator left right : String) : Except TypeFault String :=
  if left = errorType || right = errorType then .ok errorType
  else if left = unknownType || right = unknownType then .error (.unknownOperands left right)
  else if isShiftOperator operator then
    if left = intType && right = intType then .ok intType
    else .error (.integersExpected left right)
  else if isAdditiveOperator operator then
    if isNumericType left && isNumericType right then
      .ok (if left = intType && right = intType then intType else floatType)
    else .error (.numbersExpected left right)
  else .error .unsupportedOperator

/-! ## Analyzers -/

/-- How names without a declaration are treated, and what the outermost scope is called. -/
structure Settings where
  defaultType : String := "int"
  globalScope : String := defaultGlobalScope
  deriving DecidableEq

/-- The state of an analysis: its settings, the symbol table, and the diagnostics so far. -/
structure Analyzer where
  settings : Settings
  table : SymbolTable
  diagnostics : List Diagnostic := []

namespace Analyzer

/-- An analyzer with nothing declared. -/
def empty (settings : Settings) : Analyzer :=
  { settings, table := .empty settings.globalScope }

/-- Declares a name in the innermost scope. -/
def declare (analyzer : Analyzer) (name type : String) (line column : Int) :
    SymbolEntry × Analyzer :=
  let entry : SymbolEntry := ⟨name, type, analyzer.table.currentScope, line, column⟩
  (entry, { analyzer with table := analyzer.table.add entry })

/-- An analyzer with names declared in the global scope, at no particular place. -/
def ofDeclarations (settings : Settings) (declarations : List (String × String)) : Analyzer :=
  declarations.foldl (fun analyzer pair => (analyzer.declare pair.1 pair.2 0 0).2)
    (empty settings)

/-- The analyzer inside one more scope. -/
def enterScope (analyzer : Analyzer) (scope : String) : Analyzer :=
  { analyzer with table := analyzer.table.enterScope scope }

/-- The scope that is left, and the analyzer outside it. -/
def exitScope (analyzer : Analyzer) : String × Analyzer :=
  let (scope, table) := analyzer.table.exitScope
  (scope, { analyzer with table })

/-- The declaration a name is bound to: the visible one, or a new one of the default type at the
place of the name. -/
def bind (analyzer : Analyzer) (name : String) (token : Option Token) :
    SymbolEntry × Analyzer :=
  match analyzer.table.lookup name none with
  | some entry => (entry, analyzer)
  | none =>
    analyzer.declare name analyzer.settings.defaultType ((token.map Token.line).getD 0)
      ((token.map Token.column).getD 0)

/-- The type of an operator node, with its fault recorded if there is one. -/
def typeOperator (analyzer : Analyzer) (operator : Token) (left right : String) :
    String × Analyzer :=
  match operatorType operator.text left right with
  | .ok type => (type, analyzer)
  | .error fault =>
    (errorType, { analyzer with diagnostics := analyzer.diagnostics ++ [⟨fault, operator⟩] })

/-- The type of an analyzed tree. -/
def typeOfAnalyzed (tree : Expr) : String :=
  tree.type?.getD errorType

/-- Finds a type for every node of a tree, the operands of an operator before the operator and from
left to right. -/
def analyze (analyzer : Analyzer) : Expr → Expr × Analyzer
  | .ident name token _ =>
    let (entry, analyzer) := analyzer.bind name token
    (.ident name token (some ⟨entry.type, entry.key⟩), analyzer)
  | .binary left operator right _ =>
    let (left, analyzer) := analyzer.analyze left
    let (right, analyzer) := analyzer.analyze right
    let (type, analyzer) :=
      analyzer.typeOperator operator (typeOfAnalyzed left) (typeOfAnalyzed right)
    (.binary left operator right (some type), analyzer)
  | .paren inner _ =>
    let (inner, analyzer) := analyzer.analyze inner
    (.paren inner inner.type?, analyzer)

end Analyzer

end GrammarWorkbench.Typing
