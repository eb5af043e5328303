import Mathlib.Algebra.GroupWithZero.Nat
import Mathlib.Algebra.Order.BigOperators.Group.List
import Mathlib.Algebra.Order.Group.Nat
import Mathlib.Data.List.Perm.Subperm
import GrammarWorkbench.Grammar.SetMap

/-!
# How set maps grow

Adding members to the set of a key is the only way in which a map changes. An addition leaves the
keys alone, enlarges one set, and either leaves the whole map as it is or raises the number of
members that its sets have together (`SetMap.size_lt_or_add_eq`). Sets without repetitions inside a
domain bound that number (`SetMap.size_le`), which is what ends repeated passes.
-/

set_option autoImplicit false

namespace GrammarWorkbench.Grammar

/-! ## Unions -/

theorem union_append (set more rest : List Symbol) :
    union set (more ++ rest) = union (union set more) rest := by
  induction more generalizing set with
  | nil => rfl
  | cons head more ih => exact ih _

/-- A union that is no larger than the set is the set. -/
theorem union_eq_of_length_le {set more : List Symbol}
    (h : (union set more).length ≤ set.length) : union set more = set := by
  induction more generalizing set with
  | nil => rfl
  | cons head more ih =>
      rw [union] at h ⊢
      split at h
      · rename_i hmem
        rw [if_pos hmem]
        exact ih h
      · have hgrown := length_le_length_union (set ++ [head]) more
        rw [List.length_append] at hgrown
        exact absurd (Nat.le_trans hgrown h) (by simp)

namespace SetMap

/-! ## Keys and members -/

@[simp] theorem keys_empty (keys : List Symbol) : (empty keys).keys = keys := by
  simp [SetMap.keys, empty, Function.comp_def]

/-- What an addition does to an entry. -/
theorem add_cons (entry : Symbol × List Symbol) (sets : SetMap) (key : Symbol)
    (more : List Symbol) :
    add (entry :: sets) key more =
      (if entry.1 = key then (entry.1, union entry.2 more) else entry) :: add sets key more :=
  rfl

@[simp] theorem keys_add (sets : SetMap) (key : Symbol) (more : List Symbol) :
    (sets.add key more).keys = sets.keys := by
  simp only [SetMap.keys, add, List.map_map]
  apply List.map_congr_left
  intro entry _
  simp only [Function.comp_apply]
  split <;> rfl

@[simp] theorem keys_dropEpsilon (sets : SetMap) : sets.dropEpsilon.keys = sets.keys := by
  simp [SetMap.keys, dropEpsilon, Function.comp_def]

theorem members_nil (key : Symbol) : members [] key = [] :=
  rfl

theorem members_cons (entry : Symbol × List Symbol) (sets : SetMap) (key : Symbol) :
    members (entry :: sets) key = if key = entry.1 then entry.2 else members sets key := by
  obtain ⟨head, set⟩ := entry
  by_cases h : key = head
  · simp [members, members?, h]
  · have hne : (key == head) = false := beq_eq_false_iff_ne.2 h
    simp [members, members?, List.lookup_cons, h, hne]

/-- Every key has a set. -/
theorem members?_eq_some {sets : SetMap} {key : Symbol} (h : key ∈ sets.keys) :
    sets.members? key = some (sets.members key) := by
  cases hset : sets.members? key with
  | none =>
      rw [members?, List.lookup_eq_none_iff] at hset
      obtain ⟨entry, hentry, rfl⟩ := List.mem_map.1 h
      simpa using hset entry hentry
  | some set => simp [members, hset]

/-- What is no key has the empty set. -/
theorem members_eq_nil {sets : SetMap} {key : Symbol} (h : key ∉ sets.keys) :
    sets.members key = [] := by
  have hnone : sets.members? key = none := by
    rw [members?, List.lookup_eq_none_iff]
    intro entry hentry
    rw [bne_iff_ne]
    rintro rfl
    exact h (List.mem_map_of_mem hentry)
  rw [members, hnone, Option.getD_none]

/-- The set of a key stands in an entry with that key. -/
theorem mem_of_mem_members {sets : SetMap} {key symbol : Symbol}
    (h : symbol ∈ sets.members key) : ∃ set, (key, set) ∈ sets ∧ symbol ∈ set := by
  induction sets with
  | nil => simp [members_nil] at h
  | cons entry sets ih =>
      rw [members_cons] at h
      split at h
      · rename_i hkey
        subst hkey
        exact ⟨entry.2, List.mem_cons_self, h⟩
      · obtain ⟨set, hset, hsymbol⟩ := ih h
        exact ⟨set, List.mem_cons_of_mem _ hset, hsymbol⟩

/-- In a map whose keys do not repeat, the set of a key is the one of its entry. -/
theorem members_of_mem {sets : SetMap} {entry : Symbol × List Symbol}
    (hnodup : sets.keys.Nodup) (h : entry ∈ sets) : sets.members entry.1 = entry.2 := by
  induction sets with
  | nil => simp at h
  | cons head sets ih =>
      simp only [SetMap.keys, List.map_cons, List.nodup_cons] at hnodup
      rw [members_cons]
      rcases List.mem_cons.1 h with rfl | h
      · exact if_pos rfl
      · rw [if_neg, ih hnodup.2 h]
        rintro heq
        exact hnodup.1 (heq ▸ List.mem_map_of_mem (f := Prod.fst) h)

@[simp] theorem members_empty (keys : List Symbol) (key : Symbol) :
    (empty keys).members key = [] := by
  induction keys with
  | nil => rfl
  | cons head keys ih =>
      rw [empty, List.map_cons, members_cons]
      split
      · rfl
      · exact ih

@[simp] theorem members_dropEpsilon (sets : SetMap) (key : Symbol) :
    sets.dropEpsilon.members key = withoutEpsilon (sets.members key) := by
  induction sets with
  | nil => rfl
  | cons entry sets ih =>
      rw [dropEpsilon, List.map_cons, members_cons, members_cons]
      split
      · rfl
      · exact ih

theorem members_add_self {sets : SetMap} {key : Symbol} (hkey : key ∈ sets.keys)
    (more : List Symbol) : (sets.add key more).members key = union (sets.members key) more := by
  induction sets with
  | nil => cases hkey
  | cons entry sets ih =>
      rw [add_cons, members_cons, members_cons]
      by_cases hentry : entry.1 = key
      · simp [hentry]
      · rw [SetMap.keys, List.map_cons, List.mem_cons] at hkey
        have hne : key ≠ entry.1 := Ne.symm hentry
        rw [if_neg hentry, if_neg hne, if_neg hne, ih (hkey.resolve_left hne)]

theorem members_add_of_ne {sets : SetMap} {key other : Symbol} (hne : other ≠ key)
    (more : List Symbol) : (sets.add key more).members other = sets.members other := by
  induction sets with
  | nil => rfl
  | cons entry sets ih =>
      rw [add_cons, members_cons, members_cons, ih]
      by_cases hentry : entry.1 = key
      · have hother : other ≠ entry.1 := hentry ▸ hne
        rw [if_pos hentry, if_neg hother, if_neg hother]
      · rw [if_neg hentry]

/-- An addition is a union for its key and nothing for the others. -/
@[simp] theorem mem_members_add {sets : SetMap} {key other symbol : Symbol}
    {more : List Symbol} :
    symbol ∈ (sets.add key more).members other ↔
      symbol ∈ sets.members other ∨ other = key ∧ key ∈ sets.keys ∧ symbol ∈ more := by
  by_cases hother : other = key
  · subst hother
    by_cases hkey : other ∈ sets.keys
    · simp [members_add_self hkey, hkey]
    · have hkey' : other ∉ (sets.add other more).keys := by rwa [keys_add]
      simp [members_eq_nil hkey, members_eq_nil hkey', hkey]
  · simp [members_add_of_ne hother, hother]

/-- Two additions to one key are one. -/
theorem add_add (sets : SetMap) (key : Symbol) (more rest : List Symbol) :
    (sets.add key more).add key rest = sets.add key (more ++ rest) := by
  simp only [add, List.map_map]
  apply List.map_congr_left
  intro entry _
  by_cases h : entry.1 = key <;> simp [h, union_append]

/-- An addition after which the set of its key is no larger changes nothing. -/
theorem add_eq_self {sets : SetMap} {key : Symbol} {more : List Symbol}
    (hnodup : sets.keys.Nodup)
    (h : ((sets.add key more).members key).length ≤ (sets.members key).length) :
    sets.add key more = sets := by
  -- The addition is a map over the entries; it is enough that it fixes each of them.
  have hentry : ∀ entry ∈ sets,
      (if entry.1 = key then (entry.1, union entry.2 more) else entry) = id entry := by
    intro entry hmem
    split
    · rename_i hkey
      have hadded : (entry.1, union entry.2 more) ∈ sets.add key more :=
        List.mem_map.2 ⟨entry, hmem, if_pos hkey⟩
      have hold := members_of_mem hnodup hmem
      have hnew := members_of_mem (by rwa [keys_add]) hadded
      rw [hkey] at hold hnew
      rw [hold, hnew] at h
      rw [union_eq_of_length_le h, id]
    · rfl
  rw [add, List.map_congr_left hentry, List.map_id]

/-! ## Size -/

/-- The number of members that the sets have together. -/
def size : SetMap → Nat
  | [] => 0
  | entry :: sets => entry.2.length + size sets

/-- No set has more members than all of them together. -/
theorem length_members_le_size (sets : SetMap) (key : Symbol) :
    (sets.members key).length ≤ sets.size := by
  induction sets with
  | nil => exact Nat.le_refl 0
  | cons entry sets ih =>
      rw [members_cons, size]
      split <;> omega

/-- If keys do not repeat, the size is the sum of the sizes of the sets of the keys. -/
theorem size_eq_sum {sets : SetMap} (hnodup : sets.keys.Nodup) :
    sets.size = (sets.keys.map fun key => (sets.members key).length).sum := by
  induction sets with
  | nil => rfl
  | cons entry sets ih =>
      simp only [SetMap.keys, List.map_cons, List.nodup_cons] at hnodup ⊢
      have hrest : ∀ key ∈ List.map Prod.fst sets,
          (members (entry :: sets) key).length = (members sets key).length := by
        intro key hkey
        have hne : key ≠ entry.1 := by
          rintro rfl
          exact hnodup.1 hkey
        rw [members_cons, if_neg hne]
      rw [List.map_congr_left hrest, List.sum_cons, members_cons, if_pos rfl, size, ih hnodup.2,
        SetMap.keys]

/-- A map of as many sets without repetitions, each inside that of the same key, is no larger. -/
theorem size_le_of_members {sets next : SetMap} (hkeys : next.keys = sets.keys)
    (hnodup : sets.keys.Nodup) (hsets : ∀ key, (next.members key).Nodup)
    (hmembers : ∀ key, next.members key ⊆ sets.members key) : next.size ≤ sets.size := by
  rw [size_eq_sum (hkeys ▸ hnodup), size_eq_sum hnodup, hkeys]
  apply List.sum_le_sum
  intro key _
  exact ((hsets key).subperm (hmembers key)).length_le

/-- An addition that changes the map makes it larger. -/
theorem size_lt_or_add_eq (sets : SetMap) (key : Symbol) (more : List Symbol) :
    sets.size < (sets.add key more).size ∨ sets.add key more = sets := by
  induction sets with
  | nil => exact Or.inr rfl
  | cons entry sets ih =>
      have hrest : size sets ≤ size (add sets key more) := by
        rcases ih with hlt | heq
        · exact Nat.le_of_lt hlt
        · exact Nat.le_of_eq (congrArg size heq.symm)
      rw [add_cons, size, size]
      by_cases hentry : entry.1 = key
      · -- Keys may repeat here, so that the entries after this one may grow as well.
        rw [if_pos hentry]
        rcases Nat.lt_or_ge entry.2.length (union entry.2 more).length with hlt | hge
        · exact Or.inl (Nat.add_lt_add_of_lt_of_le hlt hrest)
        · rw [union_eq_of_length_le hge]
          exact ih.imp (Nat.add_lt_add_left · _) (congrArg _ ·)
      · rw [if_neg hentry]
        exact ih.imp (Nat.add_lt_add_left · _) (congrArg _ ·)

/-- Sets without repetitions inside a domain have together at most as many members as there are
pairs of a key and an element of the domain. -/
theorem size_le {sets : SetMap} {domain : List Symbol}
    (h : ∀ entry ∈ sets, entry.2.Nodup ∧ entry.2 ⊆ domain) :
    sets.size ≤ sets.length * domain.length := by
  induction sets with
  | nil => simp [size]
  | cons entry sets ih =>
      have hentry := h entry List.mem_cons_self
      have hlength := (hentry.1.subperm hentry.2).length_le
      have hrest := ih fun other hother => h other (List.mem_cons_of_mem _ hother)
      rw [size, List.length_cons, Nat.add_mul, Nat.one_mul]
      omega

end SetMap

end GrammarWorkbench.Grammar
