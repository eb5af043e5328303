import Mathlib.Algebra.Ring.Parity
import Mathlib.Data.List.Induction
import GrammarWorkbench.Proofs.Text.Replacement
import GrammarWorkbench.Text.GraphString

/-!
# Escaped strings of graph descriptions

The replacements that escape a text do not meet, so that each character is replaced on its own
(`toList_escapeGraph`): it is written as itself, or as a backslash with a character behind it
(`graphChar_cases`). Backslashes therefore come in pairs, but for those that escape something
(`even_backslashesAtEnd`, `odd_backslashesAtEnd`). Whoever reads a string up to the quote that
closes it reads the whole escaped text, and can read the text itself from it (`readString_escape`).
-/

set_option autoImplicit false

namespace GrammarWorkbench.Text

/-! ## Character by character -/

/-- A character as it stands in a string of a graph description. -/
def graphChar (c : Char) : List Char :=
  if c = '\\' then ['\\', '\\']
  else if c = '"' then ['\\', '"']
  else if c = '\n' then ['\\', 'n']
  else if c = '\t' then ['\\', 't']
  else if c = '\r' then ['\\', 'r']
  else [c]

theorem substitute_graphEscapes : substitute graphEscapes = graphChar := by
  funext c
  rw [graphEscapes, graphChar]
  split_ifs with hbackslash hquote hline htab hreturn
  · subst hbackslash; rfl
  · subst hquote; rfl
  · subst hline; rfl
  · subst htab; rfl
  · subst hreturn; rfl
  · simp only [substitute_cons_of_ne hbackslash, substitute_cons_of_ne hquote,
      substitute_cons_of_ne hline, substitute_cons_of_ne htab, substitute_cons_of_ne hreturn]
    rfl

/-- None of the replacements touches what another one has put in. -/
theorem toList_escapeGraph (s : String) :
    (escapeGraph s).toList = s.toList.flatMap graphChar := by
  have hmeets : MeetsNone graphEscapes := by decide
  rw [escapeGraph, String.toList_ofList, replaceInTurn_eq_flatMap hmeets, substitute_graphEscapes]

/-- The characters that do not stand in a string of a graph description. -/
def controls : List Char :=
  ['\n', '\t', '\r']

/-- A character is written as a backslash and one more character, or as itself. -/
theorem graphChar_cases (c : Char) :
    (∃ d ∉ controls, graphChar c = ['\\', d]) ∨
      (c ≠ '\\' ∧ c ≠ '"' ∧ c ∉ controls) ∧ graphChar c = [c] := by
  rw [graphChar]
  split_ifs with hbackslash hquote hline htab hreturn
  · exact .inl ⟨'\\', by decide, rfl⟩
  · exact .inl ⟨'"', by decide, rfl⟩
  · exact .inl ⟨'n', by decide, rfl⟩
  · exact .inl ⟨'t', by decide, rfl⟩
  · exact .inl ⟨'r', by decide, rfl⟩
  · exact .inr ⟨⟨hbackslash, hquote, by simp [controls, hline, htab, hreturn]⟩, rfl⟩

theorem notMem_controls_escape {cs : List Char} {c : Char} (h : c ∈ cs.flatMap graphChar) :
    c ∉ controls := by
  obtain ⟨original, -, hc⟩ := List.mem_flatMap.1 h
  rcases graphChar_cases original with ⟨d, hd, heq⟩ | ⟨⟨-, -, hother⟩, heq⟩
  · rw [heq] at hc
    rcases List.mem_cons.1 hc with rfl | hlast
    · decide
    · rwa [List.mem_singleton.1 hlast]
  · rw [heq, List.mem_singleton] at hc
    rwa [hc]

/-! ## Runs of backslashes -/

/-- The number of backslashes that a text ends with. -/
def backslashesAtEnd (cs : List Char) : Nat :=
  (cs.reverse.takeWhile fun c => c = '\\').length

theorem backslashesAtEnd_backslash (cs : List Char) :
    backslashesAtEnd (cs ++ ['\\']) = backslashesAtEnd cs + 1 := by
  simp [backslashesAtEnd]

theorem backslashesAtEnd_of_ne {c : Char} (h : c ≠ '\\') (cs : List Char) :
    backslashesAtEnd (cs ++ [c]) = 0 := by
  simp [backslashesAtEnd, h]

/-- An escaped text ends with pairs of backslashes only. -/
theorem even_backslashesAtEnd (cs : List Char) :
    Even (backslashesAtEnd (cs.flatMap graphChar)) := by
  induction cs using List.reverseRecOn with
  | nil => exact Even.zero
  | append_singleton cs c ih =>
      rw [List.flatMap_append, List.flatMap_singleton]
      rcases graphChar_cases c with ⟨d, -, heq⟩ | ⟨⟨hbackslash, -⟩, heq⟩
      · rw [heq, List.append_cons]
        by_cases hd : d = '\\'
        · rw [hd, backslashesAtEnd_backslash, backslashesAtEnd_backslash]
          exact ih.add_one.add_one
        · rw [backslashesAtEnd_of_ne hd]
          exact Even.zero
      · rw [heq, backslashesAtEnd_of_ne hbackslash]
        exact Even.zero

/-- A quote is only written behind a backslash. -/
theorem eq_of_graphChar_quote {c : Char} {front back : List Char}
    (h : graphChar c = front ++ '"' :: back) : front = ['\\'] := by
  rcases graphChar_cases c with ⟨d, -, heq⟩ | ⟨⟨-, hquote, -⟩, heq⟩
  · rw [heq] at h
    rcases front with _ | ⟨first, _ | ⟨second, front⟩⟩
    · exact absurd (List.cons.inj h).1 (by decide)
    · rw [(List.cons.inj h).1]
    · simp at h
  · rw [heq] at h
    rcases front with _ | ⟨first, front⟩
    · exact absurd (List.cons.inj h).1 hquote
    · simp at h

/-- A quote in an escaped text has an odd number of backslashes in front of it. -/
theorem odd_backslashesAtEnd {cs before after : List Char}
    (h : cs.flatMap graphChar = before ++ '"' :: after) : Odd (backslashesAtEnd before) := by
  obtain ⟨earlier, c, later, front, back, -, hc, rfl⟩ := exists_of_flatMap_eq h
  rw [eq_of_graphChar_quote hc, backslashesAtEnd_backslash]
  exact (even_backslashesAtEnd earlier).add_one

/-! ## Reading a string -/

/-- The character that an escape stands for. -/
def escapedChar (c : Char) : Char :=
  if c = 'n' then '\n' else if c = 't' then '\t' else if c = 'r' then '\r' else c

/-- Reads the string that ends at the first quote without a backslash of its own in front of it: the
text that it stands for, and what follows the quote. -/
def readString : List Char → Option (List Char × List Char)
  | [] => none
  | '"' :: rest => some ([], rest)
  | '\\' :: c :: rest => (readString rest).map fun read => (escapedChar c :: read.1, read.2)
  | c :: rest => (readString rest).map fun read => (c :: read.1, read.2)

theorem readString_graphChar (c : Char) (rest : List Char) :
    readString (graphChar c ++ rest) = (readString rest).map fun read => (c :: read.1, read.2) := by
  rw [graphChar]
  split_ifs with hbackslash hquote hline htab hreturn
  · subst hbackslash; rfl
  · subst hquote; rfl
  · subst hline; rfl
  · subst htab; rfl
  · subst hreturn; rfl
  · simp [readString, hbackslash]

/-- Inside of quotes an escaped text neither ends the string early nor takes away the quote that
ends it, and the text is read from it. -/
theorem readString_escape (cs rest : List Char) :
    readString (cs.flatMap graphChar ++ '"' :: rest) = some (cs, rest) := by
  induction cs with
  | nil => rw [List.flatMap_nil, List.nil_append, readString]
  | cons c cs ih =>
      rw [List.flatMap_cons, List.append_assoc, readString_graphChar, ih, Option.map_some]

/-! ## Escaped texts -/

/-- Escaping a text is sound and can be undone. The replacements made one after the other write each
character on its own. In the result there is no line break, tab or carriage return; every quote has
an odd number of backslashes in front of it, and the end has an even number of them. Inside of
quotes the result is therefore read up to the quote that ends it and no further, and the text is
read from it; so no two texts are escaped alike. -/
theorem escapeGraph_sound (s : String) :
    (escapeGraph s).toList = s.toList.flatMap graphChar ∧
      ('\n' ∉ (escapeGraph s).toList ∧ '\t' ∉ (escapeGraph s).toList ∧
        '\r' ∉ (escapeGraph s).toList) ∧
      (∀ before after, (escapeGraph s).toList = before ++ '"' :: after →
        Odd (backslashesAtEnd before)) ∧
      ¬ Odd (backslashesAtEnd (escapeGraph s).toList) ∧
      (∀ rest, readString ((escapeGraph s).toList ++ '"' :: rest) = some (s.toList, rest)) ∧
      ∀ other, escapeGraph other = escapeGraph s → other = s := by
  have hread : ∀ s rest, readString ((escapeGraph s).toList ++ '"' :: rest) =
      some (s.toList, rest) := by
    intro s rest
    rw [toList_escapeGraph, readString_escape]
  have hcontrols : ∀ c ∈ controls, c ∉ (escapeGraph s).toList := by
    intro c hc hmem
    rw [toList_escapeGraph] at hmem
    exact notMem_controls_escape hmem hc
  refine ⟨toList_escapeGraph s, ⟨hcontrols _ (by decide), hcontrols _ (by decide),
    hcontrols _ (by decide)⟩, ?_, ?_, hread s, ?_⟩
  · intro before after h
    rw [toList_escapeGraph] at h
    exact odd_backslashesAtEnd h
  · rw [toList_escapeGraph, Nat.not_odd_iff_even]
    exact even_backslashesAtEnd s.toList
  · intro other h
    have hother := hread other []
    rw [h, hread s [], Option.some.injEq, Prod.mk.injEq] at hother
    exact String.toList_inj.1 hother.1.symm

/-- The quote has the two backslashes of the escaped one and its own in front of it, and behind it
the letter stays a letter while the line break becomes one. -/
theorem escapeGraph_sound_mixed :
    (escapeGraph "\\\"n\n").toList = ['\\', '\\', '\\'] ++ '"' :: ['n', '\\', 'n'] ∧
      Odd (backslashesAtEnd ['\\', '\\', '\\']) ∧
      readString ((escapeGraph "\\\"n\n").toList ++ ['"', ']']) =
        some (['\\', '"', 'n', '\n'], [']']) := by
  obtain ⟨hchars, -, hquotes, -, hread, -⟩ := escapeGraph_sound "\\\"n\n"
  have hescaped : (escapeGraph "\\\"n\n").toList =
      ['\\', '\\', '\\'] ++ '"' :: ['n', '\\', 'n'] := by
    rw [hchars]
    decide
  exact ⟨hescaped, hquotes _ _ hescaped, hread [']']⟩

end GrammarWorkbench.Text
