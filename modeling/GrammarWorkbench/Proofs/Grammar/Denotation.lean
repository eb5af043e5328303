import GrammarWorkbench.Proofs.Grammar.Derivation

/-!
# Forms as sets of strings

Let every symbol stand for some set of strings over an alphabet. A form then stands for the strings
that are put together of one string for each of its symbols (`Denotes`). If the strings of the right
side of every production are strings of its left side, then the strings of a form are strings of
every form it is derived from (`Derives.denotes`).
-/

set_option autoImplicit false

namespace GrammarWorkbench.Grammar

section Denotation

variable {α : Type} {meaning : Symbol → List α → Prop} {symbol : Symbol} {left right : List Symbol}
  {string : List α}

/-- The strings of a form, when each symbol stands for a set of strings. -/
def Denotes (meaning : Symbol → List α → Prop) : List Symbol → List α → Prop
  | [], string => string = []
  | symbol :: form, string =>
    ∃ first rest, string = first ++ rest ∧ meaning symbol first ∧ Denotes meaning form rest

theorem denotes_singleton : Denotes meaning [symbol] string ↔ meaning symbol string := by
  simp [Denotes]

/-- The strings of two forms side by side are strings of each, side by side. -/
theorem denotes_append : Denotes meaning (left ++ right) string ↔
    ∃ first rest, string = first ++ rest ∧ Denotes meaning left first ∧
      Denotes meaning right rest := by
  induction left generalizing string with
  | nil =>
      constructor
      · intro h
        exact ⟨[], string, rfl, rfl, h⟩
      · rintro ⟨_, rest, rfl, rfl, hrest⟩
        exact hrest
  | cons symbol form ih =>
      constructor
      · rintro ⟨first, rest, rfl, hfirst, hrest⟩
        obtain ⟨middle, last, rfl, hmiddle, hlast⟩ := ih.1 hrest
        exact ⟨first ++ middle, last, by simp, ⟨first, middle, rfl, hfirst, hmiddle⟩, hlast⟩
      · rintro ⟨_, last, rfl, ⟨first, middle, rfl, hfirst, hmiddle⟩, hlast⟩
        exact ⟨first, middle ++ last, by simp, hfirst, ih.2 ⟨middle, last, rfl, hmiddle, hlast⟩⟩

/-- The meaning of symbols can be taken back along derivations, if it can be taken back through
every production. -/
theorem Derives.denotes {grammar : Grammar}
    (hproductions : ∀ production ∈ grammar.productions, ∀ string,
      Denotes meaning production.rhs string → meaning production.lhs string)
    {form next : List Symbol} (h : grammar.Derives form next)
    (hnext : Denotes meaning next string) : Denotes meaning form string := by
  have hstep : ∀ form next, grammar.Step form next → Denotes meaning next string →
      Denotes meaning form string := by
    rintro _ _ ⟨production, hproduction, before, after, rfl, rfl⟩ hdenotes
    obtain ⟨_, last, rfl, hfront, hlast⟩ := denotes_append.1 hdenotes
    obtain ⟨first, middle, rfl, hfirst, hmiddle⟩ := denotes_append.1 hfront
    have hlhs := hproductions production hproduction middle hmiddle
    exact denotes_append.2
      ⟨first, middle ++ last, by simp, hfirst, middle, last, rfl, hlhs, hlast⟩
  exact h.backward hstep hnext

end Denotation

end GrammarWorkbench.Grammar
