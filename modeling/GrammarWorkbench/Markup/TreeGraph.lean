import GrammarWorkbench.Expression.Walk
import GrammarWorkbench.Markup.Options
import GrammarWorkbench.Text.GraphString

/-!
# Trees as graphs

The graph description of a tree: a statement for every node, numbered in pre-order, and after it
the edge from its parent. Names are boxes, everything else is an ellipse.
-/

set_option autoImplicit false

namespace GrammarWorkbench.Markup

open GrammarWorkbench.Expression

/-- What a node is called: its name, its operator, or a pair of parentheses. -/
def nodeName : Expr → String
  | .ident name _ _ => name
  | .binary _ operator _ _ => operator.text
  | .paren _ _ => "( )"

/-- The label of a node: what it is called and, on a second line, its type. Compact graphs leave
the type out. -/
def nodeLabel (options : Options) (node : Expr) : String :=
  match node.type? with
  | some type => if options.compact then nodeName node else nodeName node ++ "\n" ++ type
  | none => nodeName node

/-- How a name is drawn. -/
def boxStyle : String :=
  "shape=box, style=filled, fillcolor=\"#e3f2fd\", color=\"#1976d2\", fontname=\"Courier New\""

/-- How everything else is drawn. -/
def ellipseStyle : String :=
  "shape=ellipse, style=filled, fillcolor=\"#e8f5e8\", color=\"#388e3c\""

/-- How a node is drawn. -/
def nodeStyle : Expr → String
  | .ident _ _ _ => boxStyle
  | _ => ellipseStyle

/-- The name of the node with a number. -/
def nodeId (n : Nat) : String :=
  "node" ++ toString n

/-- The statement of a node. -/
def nodeStatement (options : Options) (n : Nat) (node : Expr) : String :=
  "  " ++ nodeId n ++ " [label=\"" ++ Text.escapeGraph (nodeLabel options node) ++ "\", " ++
    nodeStyle node ++ "];"

/-- The statement of an edge. -/
def edgeStatement (parent child : Nat) : String :=
  "  " ++ nodeId parent ++ " -> " ++ nodeId child ++ " [color=\"#666666\"];"

/-- The subtrees directly below a node, each with the number of the node. -/
def numberedChildren (n : Nat) (node : Expr) : List (Expr × Option Nat) :=
  node.children.map fun child => (child, some n)

/-- Without their numbers they are the subtrees. -/
theorem map_fst_numberedChildren (n : Nat) (node : Expr) :
    (numberedChildren n node).map Prod.fst = node.children := by
  simp [numberedChildren, Function.comp_def]

/-- The statements of the subtrees on a stack, numbered from `n` on. Every subtree comes with the
number of its parent, if it has one. -/
def statementsFrom (options : Options) (n : Nat) : List (Expr × Option Nat) → List String
  | [] => []
  | (node, parent) :: stack =>
    nodeStatement options n node ::
      ((parent.map fun parent => edgeStatement parent n).toList ++
        statementsFrom options (n + 1) (numberedChildren n node ++ stack))
termination_by stack => Expr.sizes (stack.map Prod.fst)
decreasing_by
  rw [List.map_append, map_fst_numberedChildren, Expr.sizes_append, List.map_cons, Expr.sizes,
    Expr.size_eq node]
  omega

/-- The statements of a tree. -/
def treeStatements (options : Options) (tree : Expr) : List String :=
  statementsFrom options 0 [(tree, none)]

/-- The first line of a graph description. -/
def graphOpening (title : String) : String :=
  "digraph \"" ++ Text.escapeGraph title ++ "\" \x7b"

/-- The graph description of a tree. -/
def treeGraph (options : Options) (title : String) (tree : Expr) : String :=
  joinLines (
    [graphOpening title, "  rankdir=TB;", "  node [fontname=\"Arial\", fontsize=12];",
      "  edge [fontsize=9, color=\"#333333\"];", "  bgcolor=white;"] ++
    treeStatements options tree ++ ["\x7d"])

/-- The graph description that stands for a missing tree. -/
def emptyGraph (title message : String) : String :=
  joinLines
    [graphOpening title, "  rankdir=TB;", "  node [fontname=\"Arial\"];",
      "  empty [label=\"" ++ Text.escapeGraph message ++ "\", shape=box, color=red];", "\x7d"]

/-- The title of a graph without one of its own. -/
def defaultTitle : String := "Syntax Tree"

/-- The graph description of a tree that may be missing. -/
def graph (options : Options) (title : String) : Option Expr → String
  | some tree => treeGraph options title tree
  | none => emptyGraph title "Syntax tree is empty"

end GrammarWorkbench.Markup
