import Mathlib.Data.List.Basic

/-!
# Texts that can be read off the front

A writer is prefix-free if what it writes can be read off the front of every longer text: the text
tells what was written, and what stands behind it. Fixed texts around what is written change nothing
(`PrefixFree.between`), and a list can be read off if what ends it cannot be mistaken for another
item (`PrefixFree.list`). Numbers are ended by any character that is no digit (`prefixFree_number`).
-/

set_option autoImplicit false

namespace GrammarWorkbench.Text

variable {α : Type} {write : α → List Char}

/-- What is written can be read off the front of every longer text. -/
def PrefixFree (write : α → List Char) : Prop :=
  ∀ ⦃a b : α⦄ ⦃s t : List Char⦄, write a ++ s = write b ++ t → a = b ∧ s = t

namespace PrefixFree

theorem injective (h : PrefixFree write) : Function.Injective write := by
  intro a b hab
  have hread : write a ++ [] = write b ++ [] := by rw [hab]
  exact (h hread).1

theorem between (h : PrefixFree write) (front back : List Char) :
    PrefixFree fun a => front ++ (write a ++ back) := by
  intro a b s t hread
  simp only [List.append_assoc, List.append_cancel_left_eq] at hread
  obtain ⟨hab, hrest⟩ := h hread
  exact ⟨hab, List.append_cancel_left hrest⟩

/-- Items can be read off one after the other, up to an end that is no item. -/
theorem list (h : PrefixFree write) {stop : List Char}
    (hstop : ∀ a s t, write a ++ s ≠ stop ++ t) :
    PrefixFree fun items : List α => items.flatMap write ++ stop := by
  intro items others s t hread
  induction items generalizing others with
  | nil =>
      cases others with
      | nil => exact ⟨rfl, List.append_cancel_left hread⟩
      | cons b others =>
          -- The end of one list would start like an item of the other.
          simp only [List.flatMap_nil, List.flatMap_cons, List.nil_append,
            List.append_assoc] at hread
          exact absurd hread.symm (hstop b _ s)
  | cons a items ih =>
      cases others with
      | nil =>
          simp only [List.flatMap_nil, List.flatMap_cons, List.nil_append,
            List.append_assoc] at hread
          exact absurd hread (hstop a _ t)
      | cons b others =>
          simp only [List.flatMap_cons, List.append_assoc] at hread ih
          obtain ⟨rfl, hrest⟩ := h hread
          obtain ⟨rfl, hst⟩ := ih hrest
          exact ⟨rfl, hst⟩

end PrefixFree

/-- Two texts in front of a character that is in neither of them end in the same place. -/
theorem append_cons_inj {stop : Char} {front front' rest rest' : List Char} (h : stop ∉ front)
    (h' : stop ∉ front') (heq : front ++ stop :: rest = front' ++ stop :: rest') :
    front = front' ∧ rest = rest' := by
  induction front generalizing front' with
  | nil =>
      cases front' with
      | nil => exact ⟨rfl, (List.cons.inj heq).2⟩
      | cons c front' =>
          rw [(List.cons.inj heq).1] at h'
          exact absurd List.mem_cons_self h'
  | cons c front ih =>
      cases front' with
      | nil =>
          rw [(List.cons.inj heq).1] at h
          exact absurd List.mem_cons_self h
      | cons d front' =>
          obtain ⟨rfl, htail⟩ := List.cons.inj heq
          obtain ⟨rfl, hrest⟩ :=
            ih (List.not_mem_of_not_mem_cons h) (List.not_mem_of_not_mem_cons h') htail
          exact ⟨rfl, hrest⟩

/-- A number can be read off up to a character that is no digit. -/
theorem prefixFree_number (stop : Char) (hstop : stop.isDigit = false) :
    PrefixFree fun n : Nat => (toString n).toList ++ [stop] := by
  have hdigits : ∀ n : Nat, stop ∉ Nat.toDigits 10 n := by
    intro n hmem
    rw [Nat.isDigit_of_mem_toDigits (by decide) (by decide) hmem] at hstop
    cases hstop
  intro n m s t h
  simp only [Nat.toString_eq_ofList_toDigits, String.toList_ofList, List.append_assoc,
    List.singleton_append] at h
  obtain ⟨hsame, hrest⟩ := append_cons_inj (hdigits n) (hdigits m) h
  have hvalue := congrArg (fun digits => Nat.ofDigitChars 10 digits 0) hsame
  exact ⟨by simpa using hvalue, hrest⟩

end GrammarWorkbench.Text
