import Mathlib.Data.List.Perm.Basic
import GrammarWorkbench.Markup.TreeGraph
import GrammarWorkbench.Proofs.Expression.Paths
import GrammarWorkbench.Proofs.Text.GraphString
import GrammarWorkbench.Proofs.Text.PrefixFree

/-!
# The graph of a tree

The walk that writes the graph keeps its pending subtrees on a stack, each with the number of its
parent, and counts the nodes as it meets them. What it writes for a subtree depends on the number it
starts with and on that parent only (`statementsFrom_cons`), so the graph of a whole tree is written
down without a stack (`treeStatements_eq`). Its statements tell from their text what they say: those
of nodes the number, the label and the style (`nodeStatement_eq_iff`), those of edges the nodes that
they connect, which are a parent and its child (`edgeStatement_mem_iff`).
-/

set_option autoImplicit false

namespace GrammarWorkbench.Markup

open GrammarWorkbench.Expression

/-! ## Statements of subtrees -/

/-- The statements for a node of a tree whose nodes are numbered from `n` on: the one of the node,
and the edge from its parent. The root of the tree may have a parent outside of it. -/
def blockFrom (options : Options) (n : Nat) (parent : Option Nat) (tree : Expr)
    (node : Expr × Nat) : List String :=
  nodeStatement options (n + node.2) node.1 ::
    ((((tree.parentNumber? node.2).map (n + ·)).or parent).map
      fun parent => edgeStatement parent (n + node.2)).toList

section Blocks

variable (options : Options) (n : Nat) (parent : Option Nat)

/-- In a subtree the numbers go on behind the nodes in front of it, and its root is a child of the
root of the tree. -/
theorem blockFrom_part {tree part : Expr} {step count : Nat} (h : tree.HasPart step count part)
    {node : Expr × Nat} (hlt : node.2 < part.size) :
    blockFrom options n parent tree (node.1, count + node.2) =
      blockFrom options (n + count) (some n) part node := by
  have hnumber : n + (count + node.2) = n + count + node.2 := by omega
  have hparent : ((tree.parentNumber? (count + node.2)).map (n + ·)).or parent =
      ((part.parentNumber? node.2).map (n + count + ·)).or (some n) := by
    rw [Nat.add_comm, h.parentNumber?_add hlt]
    cases part.parentNumber? node.2 with
    | none => rfl
    | some number => simp only [Option.map_some, Option.getD_some, Option.some_or]; congr 1; omega
  simp only [blockFrom, hnumber, hparent]

theorem flatMap_blockFrom_part {tree part : Expr} {step count : Nat}
    (h : tree.HasPart step count part) :
    (part.preorder.zipIdx count).flatMap (blockFrom options n parent tree) =
      part.preorder.zipIdx.flatMap (blockFrom options (n + count) (some n) part) := by
  rw [List.zipIdx_eq_map_add, List.flatMap_map]
  apply List.flatMap_congr
  intro node hnode
  -- A number in the list is the place of a node, hence smaller than the size.
  have hlt : node.2 < part.size := by
    rw [← Expr.length_preorder]
    exact (List.getElem?_eq_some_iff.1 (List.mem_zipIdx_iff_getElem?.1 hnode)).1
  exact blockFrom_part options n parent h hlt

theorem blockFrom_root (tree : Expr) :
    blockFrom options n parent tree (tree, 0) =
      nodeStatement options n tree ::
        (parent.map fun parent => edgeStatement parent n).toList := by
  rw [blockFrom, Expr.parentNumber?_zero, Option.map_none, Option.none_or]
  rfl

theorem statementsFrom_node (node : Expr) (stack : List (Expr × Option Nat)) :
    statementsFrom options n ((node, parent) :: stack) =
      blockFrom options n parent node (node, 0) ++
        statementsFrom options (n + 1) (numberedChildren n node ++ stack) := by
  rw [statementsFrom, blockFrom_root, List.cons_append]

/-- A subtree on top of the stack yields its statements before anything below it, which is numbered
behind it. -/
theorem statementsFrom_cons (tree : Expr) (stack : List (Expr × Option Nat)) :
    statementsFrom options n ((tree, parent) :: stack) =
      tree.preorder.zipIdx.flatMap (blockFrom options n parent tree) ++
        statementsFrom options (n + tree.size) stack := by
  -- Induction on the tree; the subtrees wait on the stack with the number of the root.
  induction tree generalizing n parent stack with
  | ident name token binding =>
      rw [statementsFrom_node, Expr.preorder_ident]
      simp [numberedChildren, Expr.children, Expr.size]
  | binary left operator right type ihleft ihright =>
      have hright : n + 1 + left.size = n + (left.size + 1) := by omega
      have hstack : n + (left.size + 1) + right.size = n + (left.size + right.size + 1) := by omega
      rw [statementsFrom_node, numberedChildren, Expr.children, List.map_cons, List.map_singleton,
        List.cons_append, List.singleton_append, ihleft, ihright, hright, hstack,
        Expr.preorder_binary, List.zipIdx_cons, List.zipIdx_append, List.flatMap_cons,
        List.flatMap_append, Expr.length_preorder, Nat.zero_add, Nat.add_comm 1,
        flatMap_blockFrom_part _ _ _ (Expr.hasPart_left left operator right type),
        flatMap_blockFrom_part _ _ _ (Expr.hasPart_right left operator right type), Expr.size]
      simp only [List.append_assoc]
  | paren inner type ih =>
      have hstack : n + 1 + inner.size = n + (inner.size + 1) := by omega
      rw [statementsFrom_node, numberedChildren, Expr.children, List.map_singleton,
        List.singleton_append, ih, hstack, Expr.preorder_paren, List.zipIdx_cons,
        List.flatMap_cons, flatMap_blockFrom_part _ _ _ (Expr.hasPart_inner inner type), Expr.size,
        List.append_assoc]

end Blocks

/-- The statements of a tree: for every node in pre-order the one of the node with its number, and
the edge from its parent, if it has one. -/
theorem treeStatements_eq (options : Options) (tree : Expr) :
    treeStatements options tree = tree.preorder.zipIdx.flatMap fun (node, number) =>
      nodeStatement options number node ::
        ((tree.parentNumber? number).map fun parent => edgeStatement parent number).toList := by
  rw [treeStatements, statementsFrom_cons, statementsFrom, List.append_nil]
  apply List.flatMap_congr
  intro node _
  simp [blockFrom]

/-- The statements of the nodes of a tree. -/
def nodeStatements (options : Options) (tree : Expr) : List String :=
  tree.preorder.zipIdx.map fun (node, number) => nodeStatement options number node

/-- The statements of the edges of a tree. -/
def edgeStatements (tree : Expr) : List String :=
  tree.edges.map fun (parent, child) => edgeStatement parent child

/-- The statements of a tree are those of its nodes and those of its edges, in another order. -/
theorem treeStatements_perm (options : Options) (tree : Expr) :
    (treeStatements options tree).Perm (nodeStatements options tree ++ edgeStatements tree) := by
  -- The edges behind the statements of the nodes are those of the numbers in order.
  have hedges : tree.preorder.zipIdx.flatMap (fun node =>
        ((tree.parentNumber? node.2).map fun parent => edgeStatement parent node.2).toList) =
      edgeStatements tree := by
    rw [edgeStatements, Expr.edges, List.map_filterMap, ← Expr.length_preorder,
      List.range_eq_range', ← List.zipIdx_map_snd, List.filterMap_map,
      List.filterMap_eq_flatMap_toList]
    apply List.flatMap_congr
    intro node _
    rw [Function.comp_apply, Option.map_map]
    rfl
  rw [treeStatements_eq, ← hedges]
  exact (List.map_append_flatMap_perm _ _ _).symm

/-! ## Statements as texts -/

/-- The name of a node ends in front of the blank behind it. -/
theorem nodeId_append_inj {n n' : Nat} {rest rest' : List Char}
    (h : (nodeId n).toList ++ ' ' :: rest = (nodeId n').toList ++ ' ' :: rest') :
    n = n' ∧ rest = rest' := by
  rw [nodeId, nodeId, String.toList_append, String.toList_append, List.append_assoc,
    List.append_assoc, List.append_cancel_left_eq] at h
  apply Text.prefixFree_number ' ' (by decide)
  simpa only [List.append_assoc, List.singleton_append] using h

/-- The statement of a node as a text. -/
theorem nodeStatement_text (options : Options) (n : Nat) (node : Expr) :
    nodeStatement options n node =
      "  node" ++ toString n ++ " [label=\"" ++ Text.escapeGraph (nodeLabel options node) ++
        "\", " ++ nodeStyle node ++ "];" := by
  have hfront : "  node" = "  " ++ "node" := rfl
  simp only [nodeStatement, nodeId, hfront, String.append_assoc]

/-- The statement of an edge as a text. -/
theorem edgeStatement_text (parent child : Nat) :
    edgeStatement parent child =
      "  node" ++ toString parent ++ " -> node" ++ toString child ++ " [color=\"#666666\"];" := by
  have hfront : "  node" = "  " ++ "node" := rfl
  have hmiddle : " -> node" = " -> " ++ "node" := rfl
  simp only [edgeStatement, nodeId, hfront, hmiddle, String.append_assoc]

/-- The label in the statement of a node stands between quotes, and the style behind them. -/
theorem toList_nodeStatement (options : Options) (n : Nat) (node : Expr) :
    (nodeStatement options n node).toList =
      ' ' :: ' ' :: ((nodeId n).toList ++ ' ' :: '[' :: ("label=\"".toList ++
        ((nodeLabel options node).toList.flatMap Text.graphChar ++
          '"' :: ',' :: ' ' :: ((nodeStyle node).toList ++ [']', ';'])))) := by
  simp only [nodeStatement, String.toList_append, List.append_assoc, Text.toList_escapeGraph]
  rfl

theorem toList_edgeStatement (parent child : Nat) :
    ∃ rest, (edgeStatement parent child).toList =
      ' ' :: ' ' :: ((nodeId parent).toList ++
        ' ' :: '-' :: '>' :: ' ' :: ((nodeId child).toList ++ ' ' :: rest)) := by
  simp only [edgeStatement, String.toList_append, List.append_assoc]
  exact ⟨_, rfl⟩

/-- An edge is no statement of a node. -/
theorem nodeStatement_ne_edgeStatement (options : Options) (n : Nat) (node : Expr)
    (parent child : Nat) : nodeStatement options n node ≠ edgeStatement parent child := by
  intro h
  have hnode := toList_nodeStatement options n node
  obtain ⟨rest', hedge⟩ := toList_edgeStatement parent child
  rw [h, hedge, List.cons.injEq, List.cons.injEq] at hnode
  -- Behind the name of the first node one has a dash where the other has a bracket.
  obtain ⟨-, htext⟩ := nodeId_append_inj hnode.2.2
  cases htext

/-- The statement of a node tells the number, the label and the style. -/
theorem nodeStatement_eq_iff {options : Options} {n m : Nat} {node other : Expr} :
    nodeStatement options n node = nodeStatement options m other ↔
      n = m ∧ nodeLabel options node = nodeLabel options other ∧
        nodeStyle node = nodeStyle other := by
  constructor
  · intro h
    have htexts := congrArg String.toList h
    rw [toList_nodeStatement, toList_nodeStatement, List.cons.injEq, List.cons.injEq] at htexts
    obtain ⟨rfl, htext⟩ := nodeId_append_inj htexts.2.2
    rw [List.cons.injEq, List.append_cancel_left_eq] at htext
    -- Reading the string behind the name of the node gives the label and the style.
    have hread := congrArg Text.readString htext.2
    rw [Text.readString_escape, Text.readString_escape, Option.some.injEq, Prod.mk.injEq] at hread
    obtain ⟨hlabel, hrest⟩ := hread
    rw [List.cons.injEq, List.cons.injEq, List.append_cancel_right_eq] at hrest
    exact ⟨rfl, String.toList_inj.1 hlabel, String.toList_inj.1 hrest.2.2⟩
  · rintro ⟨rfl, hlabel, hstyle⟩
    simp only [nodeStatement, hlabel, hstyle]

/-- An edge tells which nodes it connects. -/
theorem edgeStatement_inj {parent child parent' child' : Nat}
    (h : edgeStatement parent child = edgeStatement parent' child') :
    parent = parent' ∧ child = child' := by
  obtain ⟨rest, hedge⟩ := toList_edgeStatement parent child
  obtain ⟨rest', hedge'⟩ := toList_edgeStatement parent' child'
  rw [h, hedge', List.cons.injEq, List.cons.injEq] at hedge
  obtain ⟨rfl, htext⟩ := nodeId_append_inj hedge.2.2
  simp only [List.cons.injEq, true_and] at htext
  obtain ⟨rfl, -⟩ := nodeId_append_inj htext
  exact ⟨rfl, rfl⟩

/-- The statement of a node is in the graph of a tree if the node with its number is called and
drawn the same there. -/
theorem nodeStatement_mem_iff {options : Options} {tree : Expr} {number : Nat} {node : Expr} :
    nodeStatement options number node ∈ treeStatements options tree ↔
      ∃ other, tree.preorder[number]? = some other ∧
        nodeLabel options node = nodeLabel options other ∧ nodeStyle node = nodeStyle other := by
  rw [(treeStatements_perm options tree).mem_iff, List.mem_append]
  constructor
  · rintro (hnode | hedge)
    · obtain ⟨⟨other, m⟩, hmem, heq⟩ := List.mem_map.1 hnode
      obtain ⟨rfl, hlabel, hstyle⟩ := nodeStatement_eq_iff.1 heq
      exact ⟨other, List.mem_zipIdx_iff_getElem?.1 hmem, hlabel.symm, hstyle.symm⟩
    · obtain ⟨edge, -, heq⟩ := List.mem_map.1 hedge
      exact absurd heq.symm (nodeStatement_ne_edgeStatement _ _ _ _ _)
  · rintro ⟨other, hother, hlabel, hstyle⟩
    have hmem : (other, number) ∈ tree.preorder.zipIdx := List.mem_zipIdx_iff_getElem?.2 hother
    rw [nodeStatement_eq_iff.2 ⟨rfl, hlabel, hstyle⟩]
    exact .inl (List.mem_map.2 ⟨(other, number), hmem, rfl⟩)

/-- The edges of the graph lead from the parents to their children. -/
theorem edgeStatement_mem_iff {options : Options} {tree : Expr} {parent child : Nat} :
    edgeStatement parent child ∈ treeStatements options tree ↔ tree.IsParent parent child := by
  rw [(treeStatements_perm options tree).mem_iff, List.mem_append, ← Expr.mem_edges_iff]
  constructor
  · rintro (hnode | hedge)
    · obtain ⟨node, -, heq⟩ := List.mem_map.1 hnode
      exact absurd heq (nodeStatement_ne_edgeStatement _ _ _ _ _)
    · obtain ⟨edge, hmem, heq⟩ := List.mem_map.1 hedge
      obtain ⟨rfl, rfl⟩ := edgeStatement_inj heq
      exact hmem
  · intro h
    exact .inr (List.mem_map.2 ⟨(parent, child), h, rfl⟩)

/-- The label of a node is what it is called, with its type on a second line unless the graph is
compact. -/
theorem nodeLabel_eq (options : Options) (node : Expr) :
    nodeLabel options node =
      nodeName node ++
        (if options.compact then "" else (node.type?.map ("\n" ++ ·)).getD "") := by
  rw [nodeLabel]
  cases node.type? with
  | none => simp
  | some type => cases options.compact <;> simp [String.append_assoc]

/-- Exactly the names are boxes. -/
theorem nodeStyle_eq_boxStyle_iff {node : Expr} :
    nodeStyle node = boxStyle ↔ ∃ name token binding, node = .ident name token binding := by
  have hdiffer : ellipseStyle ≠ boxStyle := by decide
  cases node with
  | ident name token binding => exact ⟨fun _ => ⟨name, token, binding, rfl⟩, fun _ => rfl⟩
  | binary => exact ⟨fun h => absurd h hdiffer, nofun⟩
  | paren => exact ⟨fun h => absurd h hdiffer, nofun⟩

/-- Everything else is an ellipse. -/
theorem nodeStyle_eq_ellipseStyle_iff {node : Expr} :
    nodeStyle node = ellipseStyle ↔ ¬ ∃ name token binding, node = .ident name token binding := by
  have hdiffer : boxStyle ≠ ellipseStyle := by decide
  cases node with
  | ident name token binding =>
      exact ⟨fun h => absurd h hdiffer, fun h => absurd ⟨name, token, binding, rfl⟩ h⟩
  | binary => exact ⟨fun _ => nofun, fun _ => rfl⟩
  | paren => exact ⟨fun _ => nofun, fun _ => rfl⟩

/-! ## Graphs of trees -/

/-- The graph of a tree shows the tree and nothing else. Its nodes are numbered in pre-order, the
order of the paths that lead to them, so a node is found at the path with its number. The root has
no parent; every other node has one, whose number is smaller and whose path is that of the node
without the last step. For each node in turn there is a line with its number, its escaped label and
its style, and behind it a line from its parent to it; so there are as many statements of nodes as
nodes, and one edge less. The label of a node is its name, its operator or a pair of parentheses,
with its type on a second line unless the graph is compact. Names are drawn as boxes and everything
else as ellipses. The statement of a node is in the graph exactly when the node with that number has
that label and that style, and an edge exactly when it leads from a parent to its child. -/
theorem treeStatements_nodes_and_edges (options : Options) (tree : Expr) :
    (tree.paths.map tree.at? = tree.preorder.map some ∧ tree.paths.Pairwise (· < ·) ∧
        ∀ path, path ∈ tree.paths ↔ (tree.at? path).isSome = true) ∧
      (tree.parentNumber? 0 = none ∧
        (∀ child, 0 < child → child < tree.size →
          ∃ parent < child, tree.parentNumber? child = some parent) ∧
        ∀ parent child, tree.parentNumber? child = some parent ↔ tree.IsParent parent child) ∧
      treeStatements options tree = (tree.preorder.zipIdx.flatMap fun (node, number) =>
        ("  node" ++ toString number ++ " [label=\"" ++
            Text.escapeGraph (nodeLabel options node) ++ "\", " ++ nodeStyle node ++ "];") ::
          ((tree.parentNumber? number).map fun parent =>
            "  node" ++ toString parent ++ " -> node" ++ toString number ++
              " [color=\"#666666\"];").toList) ∧
      (∀ node,
        (nodeStyle node = "shape=box, style=filled, fillcolor=\"#e3f2fd\", " ++
            "color=\"#1976d2\", fontname=\"Courier New\"" ↔
              ∃ name token binding, node = .ident name token binding) ∧
          (nodeStyle node =
            "shape=ellipse, style=filled, fillcolor=\"#e8f5e8\", color=\"#388e3c\"" ↔
              ¬ ∃ name token binding, node = .ident name token binding)) ∧
      ((∀ name token binding, nodeName (.ident name token binding) = name) ∧
        (∀ left operator right type, nodeName (.binary left operator right type) = operator.text) ∧
        (∀ inner type, nodeName (.paren inner type) = "( )") ∧
        ∀ node, nodeLabel options node =
          nodeName node ++
            if options.compact then "" else (node.type?.map ("\n" ++ ·)).getD "") ∧
      ((treeStatements options tree).Perm (nodeStatements options tree ++ edgeStatements tree) ∧
        (nodeStatements options tree).length = tree.size ∧
        (edgeStatements tree).length = tree.size - 1 ∧
        tree.edges.map Prod.snd = List.range' 1 (tree.size - 1)) ∧
      (∀ number node, nodeStatement options number node ∈ treeStatements options tree ↔
        ∃ other, tree.preorder[number]? = some other ∧
          nodeLabel options node = nodeLabel options other ∧ nodeStyle node = nodeStyle other) ∧
      ∀ parent child, edgeStatement parent child ∈ treeStatements options tree ↔
        tree.IsParent parent child := by
  refine ⟨⟨tree.map_at?_paths, tree.pairwise_lt_paths, fun _ => Expr.mem_paths_iff⟩,
    ⟨tree.parentNumber?_zero, ?_, fun _ _ => Expr.parentNumber?_eq_some_iff⟩, ?_,
    fun _ => ⟨nodeStyle_eq_boxStyle_iff, nodeStyle_eq_ellipseStyle_iff⟩,
    ⟨fun _ _ _ => rfl, fun _ _ _ _ => rfl, fun _ _ => rfl, nodeLabel_eq options⟩,
    ⟨treeStatements_perm options tree, ?_, ?_, tree.map_snd_edges⟩,
    fun _ _ => nodeStatement_mem_iff, fun _ _ => edgeStatement_mem_iff⟩
  · intro child hpos hlt
    obtain ⟨parent, hparent⟩ := Expr.exists_isParent hpos hlt
    exact ⟨parent, hparent.lt, Expr.parentNumber?_eq_some_iff.2 hparent⟩
  · simp only [treeStatements_eq, nodeStatement_text, edgeStatement_text]
  · rw [nodeStatements, List.length_map, List.length_zipIdx, Expr.length_preorder]
  · rw [edgeStatements, List.length_map, Expr.length_edges]

/-- The tree of `(a + b) << c`, in which only `c` has a type. -/
def shiftedSum : Expr :=
  .binary (.paren (.binary (.ident "a" none none) ⟨.plus, "+", 1, 4⟩ (.ident "b" none none) none)
    none) ⟨.shiftLeft, "<<", 1, 9⟩ (.ident "c" none (some ⟨"int", "c", "global"⟩)) none

/-- The second operand of the shift is the last of six nodes, and its parent is the root. -/
theorem treeStatements_nodes_and_edges_shiftedSum :
    (0 < 5 ∧ 5 < shiftedSum.size ∧ ∃ parent < 5, shiftedSum.parentNumber? 5 = some parent) ∧
      (edgeStatements shiftedSum).length = 5 ∧
      edgeStatement 0 5 ∈ treeStatements {} shiftedSum ∧
      treeStatements {} shiftedSum =
        ["  node0 [label=\"<<\", " ++ ellipseStyle ++ "];",
          "  node1 [label=\"( )\", " ++ ellipseStyle ++ "];",
          "  node0 -> node1 [color=\"#666666\"];",
          "  node2 [label=\"+\", " ++ ellipseStyle ++ "];",
          "  node1 -> node2 [color=\"#666666\"];",
          "  node3 [label=\"a\", " ++ boxStyle ++ "];",
          "  node2 -> node3 [color=\"#666666\"];",
          "  node4 [label=\"b\", " ++ boxStyle ++ "];",
          "  node2 -> node4 [color=\"#666666\"];",
          "  node5 [label=\"c\\nint\", shape=box, style=filled, fillcolor=\"#e3f2fd\", " ++
            "color=\"#1976d2\", fontname=\"Courier New\"];",
          "  node0 -> node5 [color=\"#666666\"];"] := by
  have hlt : 5 < shiftedSum.size := by decide
  obtain ⟨-, ⟨-, hparent, -⟩, htexts, -, -, ⟨-, -, hedges, -⟩, -, hmem⟩ :=
    treeStatements_nodes_and_edges {} shiftedSum
  refine ⟨⟨by decide, hlt, hparent 5 (by decide) hlt⟩, hedges,
    (hmem 0 5).2 ⟨[], 1, rfl, rfl⟩, ?_⟩
  rw [htexts]
  decide +kernel

end GrammarWorkbench.Markup
