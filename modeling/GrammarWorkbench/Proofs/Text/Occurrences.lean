import Mathlib.Data.List.Basic

/-!
# Words in texts

How often a word occurs in a text. Where a character stands that is not in the word, the text can be
cut (`occurrences_append_cons`), and characters in front of a word that are not its first one do not
count (`occurrences_append_of_notMem`).
-/

set_option autoImplicit false

namespace GrammarWorkbench.Text

/-- The number of places at which a word occurs in a text. The word is not empty. -/
def occurrences (word : List Char) : List Char → Nat
  | [] => 0
  | c :: cs => (if word <+: c :: cs then 1 else 0) + occurrences word cs

variable {word front rest : List Char} {c first : Char}

/-- A word that starts a text ends in front of every character that it does not have. -/
theorem prefix_append_cons_iff (h : c ∉ word) : word <+: front ++ c :: rest ↔ word <+: front := by
  constructor
  · intro hstarts
    rcases List.prefix_or_prefix_of_prefix hstarts (List.prefix_append front (c :: rest)) with
      hword | ⟨more, rfl⟩
    · exact hword
    · rw [List.prefix_append_right_inj] at hstarts
      cases more with
      | nil => simp
      | cons d more =>
          rw [(List.cons_prefix_cons.1 hstarts).1] at h
          simp at h
  · exact fun hstarts => hstarts.trans (List.prefix_append _ _)

theorem occurrences_append_cons (hne : word ≠ []) (h : c ∉ word) :
    occurrences word (front ++ c :: rest) = occurrences word front + occurrences word rest := by
  induction front with
  | nil =>
      -- The word cannot start with the character that it does not have.
      have hnone : ¬ word <+: c :: rest := by
        rw [← List.nil_append (c :: rest), prefix_append_cons_iff h, List.prefix_nil]
        exact hne
      simp only [List.nil_append, occurrences, if_neg hnone]
  | cons d front ih =>
      have hcut : word <+: d :: (front ++ c :: rest) ↔ word <+: d :: front := by
        rw [← List.cons_append, prefix_append_cons_iff h]
      rw [List.cons_append, occurrences, occurrences, ih]
      simp only [hcut, Nat.add_assoc]

/-- Texts can be put together if the word does not have the first character of the second one. -/
theorem occurrences_append {back : List Char} (hne : word ≠ [])
    (h : back.head?.all (fun c => decide (c ∉ word)) = true) :
    occurrences word (front ++ back) = occurrences word front + occurrences word back := by
  cases back with
  | nil => rw [List.append_nil, occurrences, Nat.add_zero]
  | cons c rest =>
      have hc : c ∉ word := by simpa using h
      have hback : occurrences word (c :: rest) = occurrences word rest := by
        rw [← List.nil_append (c :: rest), occurrences_append_cons hne hc, occurrences,
          Nat.zero_add]
      rw [occurrences_append_cons hne hc, hback]

theorem occurrences_append_of_notMem (h : first ∉ front) :
    occurrences (first :: word) (front ++ rest) = occurrences (first :: word) rest := by
  induction front with
  | nil => rfl
  | cons d front ih =>
      rw [List.mem_cons, not_or] at h
      have hnone : ¬ first :: word <+: d :: (front ++ rest) :=
        fun hstarts => h.1 (List.cons_prefix_cons.1 hstarts).1
      rw [List.cons_append, occurrences, if_neg hnone, Nat.zero_add, ih h.2]

/-- In a literal text the characters are counted as they stand, without taking the text apart. -/
theorem occurrences_literal {cs : List Char} {count : Nat} (h : occurrences word cs = count) :
    occurrences word (String.ofList cs).toList = count := by
  rw [String.toList_ofList, h]

/-- A word does not occur in a text of which it is no part. -/
theorem occurrences_eq_zero (h : ¬ word <:+: front) : occurrences word front = 0 := by
  induction front with
  | nil => rfl
  | cons c front ih =>
      rw [List.infix_cons_iff, not_or] at h
      rw [occurrences, if_neg h.1, ih h.2]

end GrammarWorkbench.Text
