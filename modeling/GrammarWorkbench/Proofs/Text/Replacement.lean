import Mathlib.Data.List.Basic
import GrammarWorkbench.Text.Replacement

/-!
# Replacements that do not meet

Replacements made one after the other are the same as all of them at once, character by character,
if none of the characters that are replaced later stands in what was put in earlier
(`replaceInTurn_eq_flatMap`). Every character of the result then comes from one character of the
text (`exists_of_flatMap_eq`).
-/

set_option autoImplicit false

namespace GrammarWorkbench.Text

/-! ## All at once -/

/-- What a table puts in the place of a character. -/
def substitute (table : List (Char × List Char)) (c : Char) : List Char :=
  (table.lookup c).getD [c]

/-- No character that is replaced stands in what was put in before. -/
def MeetsNone (table : List (Char × List Char)) : Prop :=
  table.Pairwise fun earlier later => later.1 ∉ earlier.2

instance (table : List (Char × List Char)) : Decidable (MeetsNone table) :=
  inferInstanceAs (Decidable (List.Pairwise _ _))

theorem substitute_cons_self (c : Char) (replacement : List Char)
    (table : List (Char × List Char)) :
    substitute ((c, replacement) :: table) c = replacement := by
  simp [substitute]

theorem substitute_cons_of_ne {c d : Char} (h : d ≠ c) (replacement : List Char)
    (table : List (Char × List Char)) :
    substitute ((c, replacement) :: table) d = substitute table d := by
  have hne : (d == c) = false := beq_eq_false_iff_ne.2 h
  rw [substitute, List.lookup_cons, hne, substitute]

/-- A text without the characters of a table stays as it is. -/
theorem flatMap_substitute_eq_self {table : List (Char × List Char)} {cs : List Char}
    (h : ∀ entry ∈ table, entry.1 ∉ cs) : cs.flatMap (substitute table) = cs := by
  have hself : ∀ c ∈ cs, substitute table c = [c] := by
    intro c hc
    have hnone : table.lookup c = none := by
      rw [List.lookup_eq_none_iff]
      intro entry hentry
      rw [bne_iff_ne]
      rintro rfl
      exact h entry hentry hc
    rw [substitute, hnone, Option.getD_none]
  rw [List.flatMap_congr hself, List.flatMap_singleton']

theorem replaceInTurn_eq_flatMap {table : List (Char × List Char)} (h : MeetsNone table)
    (cs : List Char) : replaceInTurn table cs = cs.flatMap (substitute table) := by
  -- Induction on the table: the first replacement changes the text for all later ones, which do not
  -- touch what it has put in.
  induction table generalizing cs with
  | nil => exact (flatMap_substitute_eq_self (List.forall_mem_nil _)).symm
  | cons entry later ih =>
      obtain ⟨c, replacement⟩ := entry
      obtain ⟨hfirst, hlater⟩ := List.pairwise_cons.1 h
      have hrest : replaceInTurn ((c, replacement) :: later) cs =
          (replaceChar cs c replacement).flatMap (substitute later) :=
        ih hlater (replaceChar cs c replacement)
      rw [hrest, replaceChar, List.flatMap_assoc]
      apply List.flatMap_congr
      intro d _
      by_cases hd : d = c
      · subst hd
        rw [if_pos rfl, substitute_cons_self, flatMap_substitute_eq_self hfirst]
      · rw [if_neg hd, substitute_cons_of_ne hd, List.flatMap_singleton]

/-! ## Characters of the result -/

/-- A character in a text that was replaced stands in what one of its characters was replaced by. -/
theorem exists_of_flatMap_eq {f : Char → List Char} {cs before after : List Char} {d : Char}
    (h : cs.flatMap f = before ++ d :: after) :
    ∃ earlier c later front back, cs = earlier ++ c :: later ∧ f c = front ++ d :: back ∧
      before = earlier.flatMap f ++ front := by
  induction cs generalizing before with
  | nil => exact absurd h.symm (List.append_ne_nil_of_right_ne_nil _ (List.cons_ne_nil _ _))
  | cons c cs ih =>
      -- Behind what the first character is replaced by, the others are searched.
      have hbehind : ∀ rest, before = f c ++ rest → cs.flatMap f = rest ++ d :: after →
          ∃ earlier c' later front back, c :: cs = earlier ++ c' :: later ∧
            f c' = front ++ d :: back ∧ before = earlier.flatMap f ++ front := by
        intro rest hbefore hrest
        obtain ⟨earlier, c', later, front, back, rfl, hc', rfl⟩ := ih hrest
        refine ⟨c :: earlier, c', later, front, back, rfl, hc', ?_⟩
        rw [hbefore, List.flatMap_cons, List.append_assoc]
      rw [List.flatMap_cons, List.append_eq_append_iff] at h
      rcases h with ⟨rest, hbefore, hrest⟩ | ⟨back, hc, hrest⟩
      · exact hbehind rest hbefore hrest
      · cases back with
        | nil => exact hbehind [] (by rw [hc, List.append_nil, List.append_nil]) hrest.symm
        | cons first back =>
            obtain ⟨rfl, -⟩ := List.cons.inj hrest
            exact ⟨[], c, cs, before, back, rfl, hc, rfl⟩

end GrammarWorkbench.Text
