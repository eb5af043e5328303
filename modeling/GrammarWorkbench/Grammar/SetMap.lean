import GrammarWorkbench.Grammar.Symbol

/-!
# Sets of symbols and maps to them

A set of symbols is a list without repetitions, in the order in which the members came in. A set
map gives a set to each of its keys; adding members to the set of a key leaves the other sets and
the keys as they are.
-/

set_option autoImplicit false

namespace GrammarWorkbench.Grammar

/-- A set with more members: those that it does not have yet are put at its end. -/
def union (set : List Symbol) : List Symbol → List Symbol
  | [] => set
  | symbol :: rest => union (if symbol ∈ set then set else set ++ [symbol]) rest

/-- The set without `ε`. -/
def withoutEpsilon (set : List Symbol) : List Symbol :=
  set.filter fun symbol => symbol ≠ .epsilon

/-- A union has the members of both sets. -/
@[simp] theorem mem_union {symbol : Symbol} {set more : List Symbol} :
    symbol ∈ union set more ↔ symbol ∈ set ∨ symbol ∈ more := by
  induction more generalizing set with
  | nil => simp [union]
  | cons head rest ih =>
      simp only [union, ih]
      split <;> grind

/-- A union with a set has no repetitions that the set does not have. -/
theorem nodup_union {set : List Symbol} (more : List Symbol) (h : set.Nodup) :
    (union set more).Nodup := by
  induction more generalizing set with
  | nil => exact h
  | cons head rest ih =>
      simp only [union]
      split
      · exact ih h
      · apply ih
        rw [List.nodup_append]
        grind

/-- A union is at least as large as the set. -/
theorem length_le_length_union (set more : List Symbol) :
    set.length ≤ (union set more).length := by
  induction more generalizing set with
  | nil => exact Nat.le_refl _
  | cons head rest ih =>
      simp only [union]
      split
      · exact ih set
      · exact Nat.le_trans (by simp) (ih _)

/-- Members of a set without `ε`. -/
@[simp] theorem mem_withoutEpsilon {symbol : Symbol} {set : List Symbol} :
    symbol ∈ withoutEpsilon set ↔ symbol ∈ set ∧ symbol ≠ .epsilon := by
  simp [withoutEpsilon]

/-- A set of symbols for each of some keys. -/
abbrev SetMap := List (Symbol × List Symbol)

namespace SetMap

/-- The map of some keys to empty sets. -/
def empty (keys : List Symbol) : SetMap :=
  keys.map fun key => (key, [])

/-- The keys of a map. -/
def keys (sets : SetMap) : List Symbol :=
  List.map Prod.fst sets

/-- The set of a key, if it is one. -/
def members? (sets : SetMap) (key : Symbol) : Option (List Symbol) :=
  List.lookup key sets

/-- The set of a key; what is no key has the empty set. -/
def members (sets : SetMap) (key : Symbol) : List Symbol :=
  (sets.members? key).getD []

/-- The map with more members in the set of a key. -/
def add (sets : SetMap) (key : Symbol) (more : List Symbol) : SetMap :=
  List.map (fun entry => if entry.1 = key then (entry.1, union entry.2 more) else entry) sets

/-- The map with `ε` taken out of every set. -/
def dropEpsilon (sets : SetMap) : SetMap :=
  List.map (fun entry => (entry.1, withoutEpsilon entry.2)) sets

/-- The entries in the order of the names of their keys, if the names can be compared. -/
def sorted (sets : SetMap) : Except Name.Clash SetMap :=
  match Name.clash? (sets.keys.map Symbol.name) with
  | some clash => .error clash
  | none => .ok (List.mergeSort sets fun a b => Name.le a.1.name b.1.name)

end SetMap

end GrammarWorkbench.Grammar
