import Mathlib.Data.List.Nodup
import GrammarWorkbench.Grammar.Name

/-!
# Names and their keys

Names with the same key name the same symbol. Both ways to keep one of them, that of a set and that
of a table, keep the keys as they are (`map_key_firstForms`, `map_key_lastForms`), so that a name is
found in a table exactly if some name with its key was put in (`find?_lastForms_eq_none_iff`). Two
lists share a name exactly if they share a key (`shared_eq_nil_iff`).

Names that cannot be sorted have two neighbours that cannot be compared (`sublist_of_clash`); texts
can always be sorted (`clash?_texts`).
-/

set_option autoImplicit false

namespace GrammarWorkbench.Grammar.Name

variable {names others : List Name} {name : Name} {key : Key}

/-! ## Names as they are written -/

theorem Key.ofReal_ne_text (x : Number.Binary64) (value : String) : Key.ofReal x ≠ .text value := by
  rw [Key.ofReal.eq_def]
  split <;> nofun

/-- Only a text has the key of a text. -/
theorem key_eq_text_iff {value : String} : name.key = .text value ↔ name = .text value := by
  cases name with
  | text => rw [Name.key, Key.text.injEq, Name.text.injEq]
  | real x => exact iff_of_false (Key.ofReal_ne_text x value) nofun
  | integer => exact iff_of_false nofun nofun
  | boolean => exact iff_of_false nofun nofun
  | null => exact iff_of_false nofun nofun

theorem value_inj {other : Name} (h : name.value = other.value) : name = other := by
  cases name <;> cases other <;> cases h <;> rfl

/-! ## Names with a key -/

theorem of_find?_eq_some (h : find? names key = some name) : name ∈ names ∧ name.key = key :=
  ⟨List.mem_of_find?_eq_some h, of_decide_eq_true (List.find?_some h :)⟩

theorem find?_eq_none_iff : find? names key = none ↔ ∀ name ∈ names, name.key ≠ key := by
  simp [find?]

theorem mem_keys : key ∈ keys names ↔ ∃ name ∈ names, name.key = key := by
  rw [keys, mem_firstOccurrences, List.mem_map]

/-- Names that are looked up by keys have these keys, if each of them is that of some name. -/
theorem map_key_filterMap_find? {keys : List Key}
    (h : ∀ key ∈ keys, ∃ name ∈ names, name.key = key) :
    (keys.filterMap (find? names)).map Name.key = keys := by
  induction keys with
  | nil => rfl
  | cons key rest ih =>
      cases hfound : find? names key with
      | none =>
          -- A key that is not found would be dropped, but each of them is that of some name.
          obtain ⟨name, hname, hkey⟩ := h key List.mem_cons_self
          exact absurd hkey (find?_eq_none_iff.1 hfound name hname)
      | some name =>
          rw [List.filterMap_cons_some hfound, List.map_cons, (of_find?_eq_some hfound).2,
            ih fun key hkey => h key (List.mem_cons_of_mem _ hkey)]

theorem map_key_firstForms (names : List Name) : (firstForms names).map Name.key = keys names :=
  map_key_filterMap_find? fun _ => mem_keys.1

theorem map_key_lastForms (names : List Name) : (lastForms names).map Name.key = keys names := by
  apply map_key_filterMap_find?
  simpa only [List.mem_reverse] using fun _ => mem_keys.1

theorem mem_of_mem_lastForms (h : name ∈ lastForms names) : name ∈ names := by
  obtain ⟨key, -, hfound⟩ := List.mem_filterMap.1 h
  exact List.mem_reverse.1 (of_find?_eq_some hfound).1

/-- The keys in a table are those of the names that it was made of. -/
theorem exists_mem_lastForms : (∃ name ∈ lastForms names, name.key = key) ↔
    ∃ name ∈ names, name.key = key := by
  rw [← @mem_keys names, ← map_key_lastForms, List.mem_map]

/-- Nothing is found in a table only if no name with the key was put in. -/
theorem find?_lastForms_eq_none_iff :
    find? (lastForms names) key = none ↔ ∀ name ∈ names, name.key ≠ key := by
  have hkeys := not_congr (@exists_mem_lastForms names key)
  push Not at hkeys
  rw [find?_eq_none_iff, hkeys]

/-- The names in a table of texts are these texts. -/
theorem mem_lastForms_texts {texts : List String} :
    name ∈ lastForms (texts.map text) ↔ ∃ value ∈ texts, name = text value := by
  constructor
  · intro hname
    obtain ⟨value, hvalue, rfl⟩ := List.mem_map.1 (mem_of_mem_lastForms hname)
    exact ⟨value, hvalue, rfl⟩
  · rintro ⟨value, hvalue, rfl⟩
    -- The table has a name with the key of the text, and that can only be the text itself.
    obtain ⟨other, hother, hkey⟩ :=
      exists_mem_lastForms.2 ⟨text value, List.mem_map_of_mem hvalue, rfl⟩
    rwa [key_eq_text_iff.1 hkey] at hother

theorem mem_map_lastForms_texts {α : Type} {f : Name → α} {texts : List String} {a : α} :
    a ∈ (lastForms (texts.map text)).map f ↔ ∃ value ∈ texts, a = f (text value) := by
  simp only [List.mem_map, mem_lastForms_texts]
  grind

/-- A text is found in a table of texts if it is one of them. -/
theorem find?_lastForms_texts (texts : List String) (value : String) :
    find? (lastForms (texts.map text)) (.text value) =
      if value ∈ texts then some (text value) else none := by
  cases hfound : find? (lastForms (texts.map text)) (.text value) with
  | none =>
      rw [if_neg]
      intro hvalue
      exact find?_lastForms_eq_none_iff.1 hfound (text value) (List.mem_map_of_mem hvalue) rfl
  | some found =>
      obtain ⟨hmem, hkey⟩ := of_find?_eq_some hfound
      obtain rfl := key_eq_text_iff.1 hkey
      obtain ⟨other, hother, heq⟩ := mem_lastForms_texts.1 hmem
      cases heq
      rw [if_pos hother]

/-! ## Names of two lists -/

/-- A name in both lists has its key in both. -/
theorem of_mem_shared (h : name ∈ shared names others) :
    (∃ first ∈ names, first.key = name.key) ∧ ∃ second ∈ others, second.key = name.key := by
  -- The names come from one of the two lists, whichever has fewer keys; they are looked up in the
  -- keys of the other.
  have hfirst : ∀ {names : List Name}, name ∈ firstForms names → name.key ∈ keys names := by
    intro names hmem
    rw [← map_key_firstForms]
    exact List.mem_map_of_mem hmem
  rw [← mem_keys, ← mem_keys]
  rw [shared] at h
  split at h
  · obtain ⟨hmem, hkey⟩ := List.mem_filter.1 h
    exact ⟨hfirst hmem, of_decide_eq_true hkey⟩
  · obtain ⟨hmem, hkey⟩ := List.mem_filter.1 h
    exact ⟨of_decide_eq_true hkey, hfirst hmem⟩

/-- Two lists share a name exactly if their tables have a key in common. -/
theorem shared_eq_nil_iff : shared names others = [] ↔
    ∀ first ∈ lastForms names, ∀ second ∈ lastForms others, first.key ≠ second.key := by
  have hfilter : ∀ names others : List Name,
      (firstForms names).filter (fun name => name.key ∈ keys others) = [] ↔
        ∀ key ∈ keys names, key ∉ keys others := by
    intro names others
    rw [← map_key_firstForms names]
    simp
  have hkeys : (∀ key ∈ keys names, key ∉ keys others) ↔
      ∀ first ∈ lastForms names, ∀ second ∈ lastForms others, first.key ≠ second.key := by
    rw [← map_key_lastForms names, ← map_key_lastForms others, List.forall_mem_map]
    simp only [List.mem_map, not_exists, not_and, ne_comm, ne_eq]
  rw [shared, ← hkeys]
  split
  · exact hfilter names others
  · rw [hfilter others names]
    grind

/-- No two names in both lists have the same key. -/
theorem nodup_shared (names others : List Name) : ((shared names others).map Name.key).Nodup := by
  have hfilter : ∀ (names : List Name) (keep : Name → Bool),
      (((firstForms names).filter keep).map Name.key).Nodup := by
    intro names keep
    apply List.Nodup.sublist (List.filter_sublist.map Name.key)
    rw [map_key_firstForms]
    exact nodup_firstOccurrences _
  rw [shared]
  split
  · exact hfilter names _
  · exact hfilter others _

/-! ## Names that are compared -/

/-- Names that clash are neighbours that cannot be compared. -/
theorem sublist_of_clash {clash : Clash} (h : clash? names = some clash) :
    [clash.right, clash.left].Sublist names ∧ clash.right.comparable clash.left = false := by
  induction names with
  | nil => cases h
  | cons first rest ih =>
      cases rest with
      | nil => cases h
      | cons second rest =>
          rw [clash?] at h
          split at h
          next =>
            obtain ⟨hsublist, hclash⟩ := ih h
            exact ⟨hsublist.cons first, hclash⟩
          next hclash =>
            cases h
            exact ⟨((List.nil_sublist rest).cons_cons second).cons_cons first,
              by simpa using hclash⟩

/-- Texts do not clash. -/
theorem clash?_texts (h : ∀ name ∈ names, name.isText = true) : clash? names = none := by
  induction names with
  | nil => rfl
  | cons first rest ih =>
      cases rest with
      | nil => rfl
      | cons second rest =>
          have hcomparable : first.comparable second = true := by
            rw [comparable, h first List.mem_cons_self,
              h second (List.mem_cons_of_mem _ List.mem_cons_self)]
            rfl
          rw [clash?, if_pos hcomparable]
          exact ih fun name hname => h name (List.mem_cons_of_mem _ hname)

end GrammarWorkbench.Grammar.Name
