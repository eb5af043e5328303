import GrammarWorkbench.Expression.Tree

/-!
# Walks over trees

The nodes of a tree in pre-order and in post-order, and the tree as indented text. A long chain of
operators makes a tree as deep as the chain is long, so every walk keeps its pending subtrees on a
stack of its own: the head of a list is the subtree visited next.
-/

set_option autoImplicit false

namespace GrammarWorkbench.Expression.Expr

/-! ## Pre-order and post-order -/

/-- The nodes of the subtrees on a stack, in pre-order. -/
def preorderFrom : List Expr → List Expr
  | [] => []
  | node :: stack => node :: preorderFrom (node.children ++ stack)
termination_by stack => sizes stack
decreasing_by
  rw [sizes_append, sizes, size_eq node]
  omega

/-- The nodes of a tree, each before those below it. -/
def preorder (tree : Expr) : List Expr :=
  preorderFrom [tree]

/-- What a post-order stack still costs: a subtree to open is visited twice a node, an opened one
once. -/
def postorderCost : List (Expr × Bool) → Nat
  | [] => 0
  | (_, true) :: stack => 1 + postorderCost stack
  | (node, false) :: stack => 2 * node.size + postorderCost stack

/-- Subtrees to open cost twice their size. -/
theorem postorderCost_children (children : List Expr) (stack : List (Expr × Bool)) :
    postorderCost ((children.map fun child => (child, false)) ++ stack) =
      2 * sizes children + postorderCost stack := by
  induction children with
  | nil => simp [sizes]
  | cons child rest ih =>
      rw [List.map_cons, List.cons_append, postorderCost, ih, sizes]
      omega

/-- The nodes of the subtrees on a stack, in post-order; a marked entry has its subtrees behind
it. -/
def postorderFrom : List (Expr × Bool) → List Expr
  | [] => []
  | (node, true) :: stack => node :: postorderFrom stack
  | (node, false) :: stack =>
    postorderFrom ((node.children.map fun child => (child, false)) ++ (node, true) :: stack)
termination_by stack => postorderCost stack
decreasing_by
  · rw [postorderCost]
    omega
  · rw [postorderCost_children, postorderCost, postorderCost, size_eq node]
    omega

/-- The nodes of a tree, each after those below it. -/
def postorder (tree : Expr) : List Expr :=
  postorderFrom [(tree, false)]

/-! ## Rendering -/

/-- The mark before a subtree with another one after it. -/
def branchMark : String := "  ├─ "

/-- The mark before the last subtree. -/
def lastBranchMark : String := "  └─ "

/-- Subtrees with the text that opens their lines: the indentation of their parent and a branch
mark. -/
def branches (indent : String) : List Expr → List (Expr × String)
  | [] => []
  | [child] => [(child, indent ++ lastBranchMark)]
  | child :: rest => (child, indent ++ branchMark) :: branches indent rest

/-- Branches are the given subtrees, in order. -/
theorem map_fst_branches (indent : String) (children : List Expr) :
    (branches indent children).map Prod.fst = children := by
  fun_induction branches indent children <;> simp_all

/-- The line of a node. -/
def line (indent : String) (node : Expr) : String :=
  indent ++ node.label ++ "\n"

/-- The lines of the subtrees on a stack, each subtree with its indentation. -/
def linesFrom : List (Expr × String) → List String
  | [] => []
  | (node, indent) :: stack =>
    line indent node :: linesFrom (branches indent node.children ++ stack)
termination_by stack => sizes (stack.map Prod.fst)
decreasing_by
  rw [List.map_append, map_fst_branches, sizes_append, List.map_cons, sizes, size_eq node]
  omega

/-- The tree as text, a line for every node in pre-order, with an indentation before each. -/
def render (tree : Expr) (indent : String) : String :=
  String.join (linesFrom [(tree, indent)])

end GrammarWorkbench.Expression.Expr
