import Mathlib.Data.List.Basic
import Mathlib.Data.List.Nodup
import Mathlib.Order.Basic
import GrammarWorkbench.Proofs.Expression.Walks

/-!
# Nodes by their paths

A node of a tree is found by its path, which names a child at every step from the root on. The paths
of a tree are listed in pre-order (`Expr.map_at?_paths`), which is their lexicographic order
(`Expr.pairwise_lt_paths`). The number of a node is the place of its path in the list, and the
parent of a node is found at its path without the last step. Every node but the root therefore has
exactly one parent, whose number is smaller (`Expr.exists_isParent`, `Expr.IsParent.lt`,
`Expr.parentNumber?_eq_some_iff`).
-/

set_option autoImplicit false

namespace GrammarWorkbench.Expression.Expr

/-! ## Paths -/

/-- The node that a path leads to. -/
def at? : Expr → List Nat → Option Expr
  | tree, [] => some tree
  | tree, step :: path => (tree.children[step]?).bind fun child => child.at? path

/-- The paths that lead to nodes, in pre-order. -/
def paths : Expr → List (List Nat)
  | ident _ _ _ => [[]]
  | binary left _ right _ => [] :: (left.paths.map (0 :: ·) ++ right.paths.map (1 :: ·))
  | paren inner _ => [] :: inner.paths.map (0 :: ·)

theorem length_paths (tree : Expr) : tree.paths.length = tree.size := by
  induction tree with
  | ident => rfl
  | binary left operator right type ihleft ihright =>
      rw [paths, List.length_cons, List.length_append, List.length_map, List.length_map, ihleft,
        ihright, size]
  | paren inner type ih => rw [paths, List.length_cons, List.length_map, ih, size]

/-- Exactly the paths in the list lead to a node. -/
theorem mem_paths_iff {tree : Expr} {path : List Nat} :
    path ∈ tree.paths ↔ (tree.at? path).isSome = true := by
  induction tree generalizing path with
  | ident name token binding =>
      cases path with
      | nil => simp [paths, at?]
      | cons step path => simp [paths, at?, children]
  | binary left operator right type ihleft ihright =>
      rcases path with _ | ⟨_ | _ | step, path⟩
      · simp [paths, at?]
      · simp [paths, at?, children, ihleft]
      · simp [paths, at?, children, ihright]
      · simp [paths, at?, children]
  | paren inner type ih =>
      rcases path with _ | ⟨_ | step, path⟩
      · simp [paths, at?]
      · simp [paths, at?, children, ih]
      · simp [paths, at?, children]

/-- The paths in the list lead to the nodes in pre-order. -/
theorem map_at?_paths (tree : Expr) : tree.paths.map tree.at? = tree.preorder.map some := by
  induction tree with
  | ident => simp [paths, at?]
  | binary left operator right type ihleft ihright =>
      simp [paths, at?, children, Function.comp_def, ihleft, ihright]
  | paren inner type ih => simp [paths, at?, children, Function.comp_def, ih]

theorem nil_lt_of_mem_map_cons {paths : List (List Nat)} {step : Nat} {path : List Nat}
    (h : path ∈ paths.map (step :: ·)) : [] < path := by
  obtain ⟨rest, -, rfl⟩ := List.mem_map.1 h
  exact List.nil_lt_cons step rest

theorem pairwise_lt_map_cons {paths : List (List Nat)} (h : paths.Pairwise (· < ·)) (step : Nat) :
    (paths.map (step :: ·)).Pairwise (· < ·) :=
  List.pairwise_map.2 (h.imp fun hlt => List.cons_lt_cons_iff.2 (.inr ⟨rfl, hlt⟩))

/-- Pre-order is the lexicographic order of the paths. -/
theorem pairwise_lt_paths (tree : Expr) : tree.paths.Pairwise (· < ·) := by
  induction tree with
  | ident => exact List.pairwise_singleton _ _
  | binary left operator right type ihleft ihright =>
      rw [paths, List.pairwise_cons, List.pairwise_append]
      refine ⟨?root, pairwise_lt_map_cons ihleft 0, pairwise_lt_map_cons ihright 1, ?across⟩
      case root =>
        intro path hpath
        rcases List.mem_append.1 hpath with hleft | hright
        · exact nil_lt_of_mem_map_cons hleft
        · exact nil_lt_of_mem_map_cons hright
      case across =>
        -- The first steps decide between the nodes of the two operands.
        intro path hpath other hother
        obtain ⟨rest, -, rfl⟩ := List.mem_map.1 hpath
        obtain ⟨rest', -, rfl⟩ := List.mem_map.1 hother
        exact List.cons_lt_cons_iff.2 (.inl Nat.zero_lt_one)
  | paren inner type ih =>
      rw [paths, List.pairwise_cons]
      exact ⟨fun path hpath => nil_lt_of_mem_map_cons hpath, pairwise_lt_map_cons ih 0⟩

theorem nodup_paths (tree : Expr) : tree.paths.Nodup := by
  refine tree.pairwise_lt_paths.imp ?_
  rintro path _ hlt rfl
  exact List.lt_irrefl path hlt

theorem at?_append (tree : Expr) (path rest : List Nat) :
    tree.at? (path ++ rest) = (tree.at? path).bind fun node => node.at? rest := by
  induction path generalizing tree with
  | nil => rfl
  | cons step path ih =>
      rw [List.cons_append, at?, at?]
      cases tree.children[step]? with
      | none => rfl
      | some child => exact ih child

/-- The nodes on the way to a node have paths too. -/
theorem mem_paths_of_append {tree : Expr} {path rest : List Nat} (h : path ++ rest ∈ tree.paths) :
    path ∈ tree.paths := by
  rw [mem_paths_iff, at?_append] at h
  rw [mem_paths_iff]
  cases hnode : tree.at? path with
  | none =>
      rw [hnode] at h
      cases h
  | some node => rfl

/-! ## Numbers -/

/-- The number of the node at a path: its place in pre-order. -/
def numberOf (tree : Expr) (path : List Nat) : Nat :=
  tree.paths.idxOf path

/-- The number of the parent of the node at a path. The root has no parent. -/
def parentOf? (tree : Expr) (path : List Nat) : Option Nat :=
  if path = [] then none else some (tree.numberOf path.dropLast)

/-- The number of the parent of the node with a number. -/
def parentNumber? (tree : Expr) (number : Nat) : Option Nat :=
  (tree.paths[number]?).bind tree.parentOf?

/-- The node with the first number is the parent of the node with the second one: one step leads
from the one to the other. -/
def IsParent (tree : Expr) (parent child : Nat) : Prop :=
  ∃ path step, tree.paths[parent]? = some path ∧ tree.paths[child]? = some (path ++ [step])

variable {tree : Expr} {path : List Nat} {parent child : Nat}

theorem numberOf_eq (h : tree.paths[child]? = some path) : tree.numberOf path = child := by
  obtain ⟨hlt, rfl⟩ := List.getElem?_eq_some_iff.1 h
  exact tree.nodup_paths.idxOf_getElem child hlt

theorem getElem?_numberOf (h : path ∈ tree.paths) :
    tree.paths[tree.numberOf path]? = some path :=
  List.getElem?_idxOf h

theorem getElem?_paths_zero (tree : Expr) : tree.paths[0]? = some [] := by
  cases tree <;> rfl

theorem exists_path (h : child < tree.size) : ∃ path, tree.paths[child]? = some path := by
  rw [← length_paths] at h
  exact ⟨_, List.getElem?_eq_getElem h⟩

theorem parentNumber?_zero (tree : Expr) : tree.parentNumber? 0 = none := by
  rw [parentNumber?, getElem?_paths_zero]
  rfl

theorem parentNumber?_eq_some_iff :
    tree.parentNumber? child = some parent ↔ tree.IsParent parent child := by
  rw [parentNumber?]
  constructor
  · intro h
    obtain ⟨path, hpath, hparent⟩ := Option.bind_eq_some_iff.1 h
    rw [parentOf?] at hparent
    split at hparent
    next => cases hparent
    next hne =>
      obtain rfl := Option.some.inj hparent
      -- The path without its last step leads to a node as well, so it has a place in the list.
      have hsplit := List.dropLast_append_getLast hne
      have habove : path.dropLast ∈ tree.paths := by
        apply mem_paths_of_append
        rw [hsplit]
        exact List.mem_of_getElem? hpath
      exact ⟨path.dropLast, path.getLast hne, getElem?_numberOf habove, by rw [hsplit, hpath]⟩
  · rintro ⟨path, step, hparent, hchild⟩
    rw [hchild, Option.bind_some, parentOf?, if_neg (List.concat_ne_nil _ _), List.dropLast_concat,
      numberOf_eq hparent]

theorem lt_append_singleton (path : List Nat) (step : Nat) : path < path ++ [step] := by
  induction path with
  | nil => exact List.nil_lt_cons step []
  | cons first rest ih => exact List.cons_lt_cons_iff.2 (.inr ⟨rfl, ih⟩)

/-- A parent comes before its children. -/
theorem IsParent.lt (h : tree.IsParent parent child) : parent < child := by
  obtain ⟨path, step, hparent, hchild⟩ := h
  obtain ⟨hlt, hpath⟩ := List.getElem?_eq_some_iff.1 hparent
  obtain ⟨hlt', hpath'⟩ := List.getElem?_eq_some_iff.1 hchild
  have hbefore := lt_append_singleton path step
  -- The paths are sorted, so a parent that is not in front of its child would have a larger path.
  by_contra hnot
  rcases Nat.lt_or_eq_of_le (Nat.le_of_not_lt hnot) with hless | rfl
  · have hafter := List.pairwise_iff_getElem.1 tree.pairwise_lt_paths child parent hlt' hlt hless
    rw [hpath, hpath'] at hafter
    exact List.lt_asymm hbefore hafter
  · rw [← hpath', hpath] at hbefore
    exact List.lt_irrefl path hbefore

theorem IsParent.lt_size (h : tree.IsParent parent child) : child < tree.size := by
  obtain ⟨path, step, -, hchild⟩ := h
  rw [← length_paths]
  exact (List.getElem?_eq_some_iff.1 hchild).1

/-- Every node but the root has a parent. -/
theorem exists_isParent (hpos : 0 < child) (hlt : child < tree.size) :
    ∃ parent, tree.IsParent parent child := by
  obtain ⟨path, hpath⟩ := exists_path hlt
  have hne : path ≠ [] := by
    rintro rfl
    have hroot := numberOf_eq tree.getElem?_paths_zero
    rw [numberOf_eq hpath] at hroot
    omega
  refine ⟨tree.numberOf path.dropLast, parentNumber?_eq_some_iff.1 ?_⟩
  rw [parentNumber?, hpath, Option.bind_some, parentOf?, if_neg hne]

/-- The edges of a tree: every node that has a parent, behind the parent. -/
def edges (tree : Expr) : List (Nat × Nat) :=
  (List.range tree.size).filterMap fun child =>
    (tree.parentNumber? child).map fun parent => (parent, child)

theorem mem_edges_iff : (parent, child) ∈ tree.edges ↔ tree.IsParent parent child := by
  rw [edges, List.mem_filterMap, ← parentNumber?_eq_some_iff]
  constructor
  · rintro ⟨number, -, h⟩
    obtain ⟨_, hparent, heq⟩ := Option.map_eq_some_iff.1 h
    cases heq
    exact hparent
  · intro h
    refine ⟨child, List.mem_range.2 ?_, by rw [h, Option.map_some]⟩
    exact (parentNumber?_eq_some_iff.1 h).lt_size

/-- Every node but the root is the lower end of one edge. -/
theorem map_snd_edges (tree : Expr) : tree.edges.map Prod.snd = List.range' 1 (tree.size - 1) := by
  have hrange : List.range tree.size = 0 :: List.range' 1 (tree.size - 1) := by
    have hpos : tree.size - 1 + 1 = tree.size := Nat.sub_add_cancel (by cases tree <;> simp [size])
    rw [List.range_eq_range', ← hpos, List.range'_succ, Nat.add_sub_cancel]
  have hone : ∀ child ∈ List.range' 1 (tree.size - 1),
      ((tree.parentNumber? child).map fun parent => (parent, child)).map Prod.snd =
        some child := by
    intro child hchild
    obtain ⟨hpos, hlt⟩ := List.mem_range'_1.1 hchild
    have hsize : child < tree.size := by omega
    obtain ⟨parent, hparent⟩ := exists_isParent hpos hsize
    rw [parentNumber?_eq_some_iff.2 hparent]
    rfl
  rw [edges, hrange, List.map_filterMap, List.filterMap_cons_none, List.filterMap_congr hone,
    List.filterMap_some]
  rw [parentNumber?_zero]
  rfl

theorem length_edges (tree : Expr) : tree.edges.length = tree.size - 1 := by
  rw [← List.length_map Prod.snd, map_snd_edges, List.length_range']

/-! ## Numbers in a subtree -/

/-- A tree has a subtree at a step from its root, with a number of nodes in front of it. -/
def HasPart (tree : Expr) (step count : Nat) (part : Expr) : Prop :=
  ∀ number < part.size, tree.paths[number + count]? = (part.paths[number]?).map (step :: ·)

theorem hasPart_left (left : Expr) (operator : Token) (right : Expr) (type : Option String) :
    (binary left operator right type).HasPart 0 1 left := by
  intro number hlt
  rw [paths, List.getElem?_cons_succ, List.getElem?_append_left, List.getElem?_map]
  rwa [List.length_map, length_paths]

theorem hasPart_right (left : Expr) (operator : Token) (right : Expr) (type : Option String) :
    (binary left operator right type).HasPart 1 (left.size + 1) right := by
  intro number hlt
  rw [paths, ← Nat.add_assoc, List.getElem?_cons_succ, List.getElem?_append_right,
    List.getElem?_map, List.length_map, length_paths, Nat.add_sub_cancel]
  rw [List.length_map, length_paths]
  exact Nat.le_add_left _ _

theorem hasPart_inner (inner : Expr) (type : Option String) :
    (paren inner type).HasPart 0 1 inner := by
  intro number _
  rw [paths, List.getElem?_cons_succ, List.getElem?_map]

/-- The nodes of a subtree have their parents in it, only its root is a child of the root. -/
theorem HasPart.parentNumber?_add {step count number : Nat} {part : Expr}
    (h : tree.HasPart step count part) (hlt : number < part.size) :
    tree.parentNumber? (number + count) =
      some (((part.parentNumber? number).map (· + count)).getD 0) := by
  obtain ⟨path, hpath⟩ := exists_path hlt
  have hbelow : tree.paths[number + count]? = some (step :: path) := by
    rw [h number hlt, hpath, Option.map_some]
  rw [parentNumber?_eq_some_iff]
  -- Only the root of the subtree has no parent inside of it.
  cases hparent : part.parentNumber? number with
  | none =>
      rw [parentNumber?, hpath, Option.bind_some, parentOf?] at hparent
      split at hparent
      next hroot => exact ⟨[], step, tree.getElem?_paths_zero, by rw [hbelow, hroot]; rfl⟩
      next => cases hparent
  | some parent =>
      have hisParent := parentNumber?_eq_some_iff.1 hparent
      have hless : parent < part.size := Nat.lt_trans hisParent.lt hlt
      obtain ⟨above, last, habove, hlast⟩ := hisParent
      obtain rfl := Option.some.inj (hpath.symm.trans hlast)
      exact ⟨step :: above, last, by rw [Option.map_some, Option.getD_some, h parent hless, habove,
        Option.map_some], hbelow⟩

end GrammarWorkbench.Expression.Expr
