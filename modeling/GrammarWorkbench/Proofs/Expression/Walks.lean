import GrammarWorkbench.Expression.Walk

/-!
# Walks by recursion

A walk keeps its pending subtrees on a stack, but what it yields of a subtree does not depend on the
rest of the stack (`preorderFrom_cons`, `postorderFrom_cons`, `linesFrom_cons`). The nodes of the
operands therefore come one operand after the other, behind the root in pre-order and in front of it
in post-order. A rendered tree is the line of its root, followed by its rendered subtrees.
-/

set_option autoImplicit false

namespace GrammarWorkbench.Expression.Expr

/-! ## Pre-order -/

theorem preorderFrom_root (node : Expr) (stack : List Expr) :
    preorderFrom (node :: stack) = node :: preorderFrom (node.children ++ stack) := by
  rw [preorderFrom]

/-- A subtree on top of the stack yields its nodes before anything below it. -/
theorem preorderFrom_cons (tree : Expr) (stack : List Expr) :
    preorderFrom (tree :: stack) = tree.preorder ++ preorderFrom stack := by
  induction tree generalizing stack with
  | ident name token binding =>
      rw [preorder, preorderFrom_root, preorderFrom_root, children, List.nil_append,
        List.nil_append, preorderFrom, List.singleton_append]
  | binary left operator right type ihleft ihright =>
      rw [preorder, preorderFrom_root, preorderFrom_root, children, List.append_nil,
        List.cons_append, List.singleton_append, ihleft, ihright, ihleft [_], List.cons_append,
        List.append_assoc]
      rfl
  | paren inner type ih =>
      rw [preorder, preorderFrom_root, preorderFrom_root, children, List.append_nil,
        List.singleton_append, ih, List.cons_append]
      rfl

@[simp] theorem preorder_ident (name : String) (token : Option Token)
    (binding : Option Binding) :
    (ident name token binding).preorder = [ident name token binding] := by
  rw [preorder, preorderFrom_root, children, List.nil_append, preorderFrom]

@[simp] theorem preorder_binary (left : Expr) (operator : Token) (right : Expr)
    (type : Option String) :
    (binary left operator right type).preorder =
      binary left operator right type :: (left.preorder ++ right.preorder) := by
  rw [preorder, preorderFrom_root, children, List.append_nil, preorderFrom_cons]
  rfl

@[simp] theorem preorder_paren (inner : Expr) (type : Option String) :
    (paren inner type).preorder = paren inner type :: inner.preorder := by
  rw [preorder, preorderFrom_root, children, List.append_nil]
  rfl

theorem length_preorder (tree : Expr) : tree.preorder.length = tree.size := by
  induction tree with
  | ident => rw [preorder_ident]; rfl
  | binary left operator right type ihleft ihright =>
      rw [preorder_binary, List.length_cons, List.length_append, ihleft, ihright, size]
  | paren inner type ih => rw [preorder_paren, List.length_cons, ih, size]

/-! ## Post-order -/

theorem postorderFrom_marked (node : Expr) (stack : List (Expr × Bool)) :
    postorderFrom ((node, true) :: stack) = node :: postorderFrom stack := by
  rw [postorderFrom]

theorem postorderFrom_unmarked (node : Expr) (stack : List (Expr × Bool)) :
    postorderFrom ((node, false) :: stack) =
      postorderFrom ((node.children.map fun child => (child, false)) ++ (node, true) :: stack) := by
  rw [postorderFrom]

/-- A subtree on top of the stack yields its nodes before anything below it. -/
theorem postorderFrom_cons (tree : Expr) (stack : List (Expr × Bool)) :
    postorderFrom ((tree, false) :: stack) = tree.postorder ++ postorderFrom stack := by
  -- In each case the nodes before the marked root are the same for every stack below it.
  induction tree generalizing stack with
  | ident name token binding =>
      rw [postorder, postorderFrom_unmarked, postorderFrom_unmarked, children, List.map_nil,
        List.nil_append, List.nil_append, postorderFrom_marked, postorderFrom_marked, postorderFrom,
        List.singleton_append]
  | binary left operator right type ihleft ihright =>
      have hopened : ∀ stack, postorderFrom ((binary left operator right type, false) :: stack) =
          left.postorder ++ (right.postorder ++
            binary left operator right type :: postorderFrom stack) := by
        intro stack
        rw [postorderFrom_unmarked, children, List.map_cons, List.map_singleton, List.cons_append,
          List.singleton_append, ihleft, ihright, postorderFrom_marked]
      have hself : (binary left operator right type).postorder = _ := hopened []
      rw [hopened, hself, postorderFrom]
      simp
  | paren inner type ih =>
      have hopened : ∀ stack, postorderFrom ((paren inner type, false) :: stack) =
          inner.postorder ++ paren inner type :: postorderFrom stack := by
        intro stack
        rw [postorderFrom_unmarked, children, List.map_singleton, List.singleton_append, ih,
          postorderFrom_marked]
      have hself : (paren inner type).postorder = _ := hopened []
      rw [hopened, hself, postorderFrom]
      simp

@[simp] theorem postorder_ident (name : String) (token : Option Token)
    (binding : Option Binding) :
    (ident name token binding).postorder = [ident name token binding] := by
  rw [postorder, postorderFrom_unmarked, children, List.map_nil, List.nil_append,
    postorderFrom_marked, postorderFrom]

@[simp] theorem postorder_binary (left : Expr) (operator : Token) (right : Expr)
    (type : Option String) :
    (binary left operator right type).postorder =
      left.postorder ++ right.postorder ++ [binary left operator right type] := by
  rw [postorder, postorderFrom_unmarked, children, List.map_cons, List.map_singleton,
    List.cons_append, List.singleton_append, postorderFrom_cons, postorderFrom_cons,
    postorderFrom_marked, postorderFrom, List.append_assoc]

@[simp] theorem postorder_paren (inner : Expr) (type : Option String) :
    (paren inner type).postorder = inner.postorder ++ [paren inner type] := by
  rw [postorder, postorderFrom_unmarked, children, List.map_singleton, List.singleton_append,
    postorderFrom_cons, postorderFrom_marked, postorderFrom]

/-- A tree is the last node of its own post-order. -/
theorem mem_postorder_self (tree : Expr) : tree ∈ tree.postorder := by
  cases tree <;> simp

/-- What is in a tree that is in another one is in that one as well. -/
theorem mem_postorder_trans {part node tree : Expr} (hpart : part ∈ node.postorder)
    (hnode : node ∈ tree.postorder) : part ∈ tree.postorder := by
  induction tree with
  | ident name token binding =>
      rw [postorder_ident, List.mem_singleton] at hnode
      rwa [hnode] at hpart
  | binary left operator right type ihleft ihright =>
      rw [postorder_binary, List.mem_append, List.mem_append, List.mem_singleton] at hnode
      rcases hnode with (hleft | hright) | rfl
      · simp [ihleft hleft]
      · simp [ihright hright]
      · exact hpart
  | paren inner type ih =>
      rw [postorder_paren, List.mem_append, List.mem_singleton] at hnode
      rcases hnode with hinner | rfl
      · simp [ih hinner]
      · exact hpart

/-! ## Rendered trees -/

theorem linesFrom_root (node : Expr) (indent : String) (stack : List (Expr × String)) :
    linesFrom ((node, indent) :: stack) =
      line indent node :: linesFrom (branches indent node.children ++ stack) := by
  rw [linesFrom]

theorem branches_pair (indent : String) (left right : Expr) :
    branches indent [left, right] =
      [(left, indent ++ branchMark), (right, indent ++ lastBranchMark)] := by
  simp [branches]

/-- A subtree on top of the stack yields its lines before anything below it. -/
theorem linesFrom_cons (tree : Expr) (indent : String) (stack : List (Expr × String)) :
    linesFrom ((tree, indent) :: stack) = linesFrom [(tree, indent)] ++ linesFrom stack := by
  induction tree generalizing indent stack with
  | ident name token binding =>
      rw [linesFrom_root, linesFrom_root, children, branches, List.nil_append, List.nil_append,
        linesFrom, List.singleton_append]
  | binary left operator right type ihleft ihright =>
      rw [linesFrom_root, linesFrom_root, children, branches_pair, List.append_nil,
        List.cons_append, List.singleton_append, ihleft, ihright, ihleft _ [_], List.cons_append,
        List.append_assoc]
  | paren inner type ih =>
      rw [linesFrom_root, linesFrom_root, children, branches, List.append_nil,
        List.singleton_append, ih, List.cons_append]

theorem render_ident (name : String) (token : Option Token) (binding : Option Binding)
    (indent : String) :
    (ident name token binding).render indent = line indent (ident name token binding) := by
  rw [render, linesFrom_root, children, branches, List.nil_append, linesFrom, String.join_cons,
    String.join_nil, String.append_empty]

theorem render_binary (left : Expr) (operator : Token) (right : Expr) (type : Option String)
    (indent : String) :
    (binary left operator right type).render indent =
      line indent (binary left operator right type) ++
        (left.render (indent ++ branchMark) ++ right.render (indent ++ lastBranchMark)) := by
  rw [render, linesFrom_root, children, branches_pair, List.append_nil, linesFrom_cons,
    String.join_cons, String.join_append, render, render]

theorem render_paren (inner : Expr) (type : Option String) (indent : String) :
    (paren inner type).render indent =
      line indent (paren inner type) ++ inner.render (indent ++ lastBranchMark) := by
  rw [render, linesFrom_root, children, branches, List.append_nil, String.join_cons, render]

end GrammarWorkbench.Expression.Expr
