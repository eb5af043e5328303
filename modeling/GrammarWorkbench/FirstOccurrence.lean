/-!
# First occurrences

A list with every element kept at its first occurrence only.
-/

set_option autoImplicit false

namespace GrammarWorkbench

variable {α : Type} [DecidableEq α]

/-- The elements that were not seen before, each at its first occurrence only. -/
def firstOccurrencesAfter (seen : List α) : List α → List α
  | [] => []
  | a :: rest =>
    if a ∈ seen then firstOccurrencesAfter seen rest
    else a :: firstOccurrencesAfter (a :: seen) rest

/-- The elements of a list, each at its first occurrence only. -/
def firstOccurrences (list : List α) : List α :=
  firstOccurrencesAfter [] list

/-- The elements kept are those of the list that were not seen before. -/
theorem mem_firstOccurrencesAfter {a : α} {seen list : List α} :
    a ∈ firstOccurrencesAfter seen list ↔ a ∈ list ∧ a ∉ seen := by
  induction list generalizing seen with
  | nil => simp [firstOccurrencesAfter]
  | cons b rest ih =>
      simp only [firstOccurrencesAfter]
      split
      · grind
      · grind

/-- The elements kept are those of the list. -/
@[simp] theorem mem_firstOccurrences {a : α} {list : List α} :
    a ∈ firstOccurrences list ↔ a ∈ list := by
  simp [firstOccurrences, mem_firstOccurrencesAfter]

/-- No element is kept twice. -/
theorem nodup_firstOccurrencesAfter (seen list : List α) :
    (firstOccurrencesAfter seen list).Nodup := by
  induction list generalizing seen with
  | nil => simp [firstOccurrencesAfter]
  | cons b rest ih =>
      simp only [firstOccurrencesAfter]
      split
      · exact ih seen
      · simp [ih, mem_firstOccurrencesAfter]

/-- Elements that were seen before can be left out first, all of them or only some. -/
theorem firstOccurrencesAfter_filter {seen later before list : List α}
    (h : ∀ a, a ∈ seen ↔ a ∈ later ∨ a ∈ before) :
    firstOccurrencesAfter seen list =
      firstOccurrencesAfter later (list.filter fun a => a ∉ before) := by
  induction list generalizing seen later with
  | nil => rfl
  | cons b rest ih =>
      have hrest : ∀ a, a ∈ b :: seen ↔ a ∈ b :: later ∨ a ∈ before := by
        intro a
        rw [List.mem_cons, List.mem_cons, h, or_assoc]
      by_cases hbefore : b ∈ before
      · rw [List.filter_cons_of_neg (by simpa using hbefore), firstOccurrencesAfter,
          if_pos ((h b).2 (.inr hbefore))]
        exact ih h
      · rw [List.filter_cons_of_pos (by simpa using hbefore), firstOccurrencesAfter,
          firstOccurrencesAfter, ih h, ih hrest]
        simp only [h, hbefore, or_false]

/-- Which elements were seen matters, and not in which order. -/
theorem firstOccurrencesAfter_congr {seen seen' : List α} (h : ∀ a, a ∈ seen ↔ a ∈ seen')
    (list : List α) : firstOccurrencesAfter seen list = firstOccurrencesAfter seen' list := by
  have hnone : ∀ a, a ∈ seen ↔ a ∈ seen' ∨ a ∈ ([] : List α) := by simpa using h
  rw [firstOccurrencesAfter_filter hnone, List.filter_eq_self.2 (by simp)]

/-- Elements that are all different and were not seen before are all kept, and nothing is kept of
what comes again after them. -/
theorem firstOccurrencesAfter_append_of_subset {seen list more : List α} (hnodup : list.Nodup)
    (hnew : ∀ a ∈ list, a ∉ seen) (hmore : more ⊆ seen ++ list) :
    firstOccurrencesAfter seen (list ++ more) = list := by
  induction list generalizing seen with
  | nil =>
      rw [List.nil_append, List.eq_nil_iff_forall_not_mem]
      intro a ha
      obtain ⟨hmem, hfresh⟩ := mem_firstOccurrencesAfter.1 ha
      exact hfresh (by simpa using hmore hmem)
  | cons b rest ih =>
      obtain ⟨hfresh, hrest⟩ := List.nodup_cons.1 hnodup
      rw [List.cons_append, firstOccurrencesAfter, if_neg (hnew b List.mem_cons_self), ih hrest]
      · intro a ha
        rw [List.mem_cons, not_or]
        refine ⟨?_, hnew a (List.mem_cons_of_mem b ha)⟩
        rintro rfl
        exact hfresh ha
      · intro a ha
        simpa [or_left_comm] using hmore ha

theorem firstOccurrencesAfter_eq_self {seen list : List α} (hnodup : list.Nodup)
    (hnew : ∀ a ∈ list, a ∉ seen) : firstOccurrencesAfter seen list = list := by
  have happend :=
    firstOccurrencesAfter_append_of_subset hnodup hnew (List.nil_subset (seen ++ list))
  rwa [List.append_nil] at happend

/-- No element is kept twice. -/
theorem nodup_firstOccurrences (list : List α) : (firstOccurrences list).Nodup :=
  nodup_firstOccurrencesAfter [] list

/-- What comes again after elements that are all different is left out. -/
theorem firstOccurrences_append_of_subset {list more : List α} (hnodup : list.Nodup)
    (hmore : more ⊆ list) : firstOccurrences (list ++ more) = list :=
  firstOccurrencesAfter_append_of_subset hnodup (fun _ _ => List.not_mem_nil) hmore

end GrammarWorkbench
