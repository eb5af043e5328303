import GrammarWorkbench.Expression.Token

/-!
# Expression trees

A tree is a name, an operator between two trees, or a tree in parentheses. Every node has room for
the type that analysis finds for it; a name also keeps the declaration it was bound to.
-/

set_option autoImplicit false

namespace GrammarWorkbench.Expression

/-- What identifies a declaration: its name and the scope it was made in. -/
structure SymbolKey where
  name : String
  scope : String
  deriving DecidableEq

/-- What analysis finds out about a name: its type, and the declaration the type comes from. -/
structure Binding where
  type : String
  key : SymbolKey
  deriving DecidableEq

/-- An expression tree. -/
inductive Expr where
  | ident (name : String) (token : Option Token) (binding : Option Binding)
  | binary (left : Expr) (operator : Token) (right : Expr) (type : Option String)
  | paren (inner : Expr) (type : Option String)
  deriving DecidableEq

namespace Expr

/-- The type found for the root, if analysis has been there. -/
def type? : Expr → Option String
  | ident _ _ binding => binding.map Binding.type
  | binary _ _ _ type => type
  | paren _ type => type

/-- The subtrees directly below the root, from left to right. -/
def children : Expr → List Expr
  | ident _ _ _ => []
  | binary left _ right _ => [left, right]
  | paren inner _ => [inner]

/-- The number of nodes. -/
def size : Expr → Nat
  | ident _ _ _ => 1
  | binary left _ right _ => left.size + right.size + 1
  | paren inner _ => inner.size + 1

/-- The number of nodes of several trees. -/
def sizes : List Expr → Nat
  | [] => 0
  | tree :: rest => tree.size + sizes rest

theorem sizes_append (before after : List Expr) :
    sizes (before ++ after) = sizes before + sizes after := by
  induction before with
  | nil => simp [sizes]
  | cons tree rest ih => simp [sizes, ih, Nat.add_assoc]

/-- A tree is one node larger than the subtrees below its root. -/
theorem size_eq (tree : Expr) : tree.size = sizes tree.children + 1 := by
  cases tree <;> simp [size, children, sizes]

/-- The form of the root. -/
def form : Expr → String
  | ident _ _ _ => "identifier"
  | binary _ _ _ _ => "binary_operation"
  | paren _ _ => "parenthesized"

/-- The mark that shows a type, or nothing where there is none. -/
def typeMark : Option String → String
  | none => ""
  | some type => " [type: " ++ type ++ "]"

/-- The mark that shows the declaration of a name, or nothing where there is none. -/
def bindingMark : Option Binding → String
  | none => ""
  | some binding => " (sym: " ++ binding.key.name ++ ")"

/-- The text of the root on its line of a rendered tree. -/
def label : Expr → String
  | ident name token binding =>
    "ID(" ++ name ++ ")" ++ typeMark (type? (ident name token binding)) ++ bindingMark binding
  | binary _ operator _ type => "BinaryOp(" ++ operator.text ++ ")" ++ typeMark type
  | paren _ _ => "Parenthesized"

end Expr

end GrammarWorkbench.Expression
