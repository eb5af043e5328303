import GrammarWorkbench.Markup.Options

/-!
# Pages as lines

A page is made of lines with line breaks between them. Every line but the last is thus ended by a
line break (`toList_joinLines`), and lines that were joined before are no different from lines that
were not (`endedLines_joinLines`).
-/

set_option autoImplicit false

namespace GrammarWorkbench.Markup

/-- Lines, each ended by a line break. -/
def endedLines (lines : List String) : List Char :=
  lines.flatMap fun line => line.toList ++ ['\n']

theorem endedLines_cons (line : String) (lines : List String) :
    endedLines (line :: lines) = line.toList ++ '\n' :: endedLines lines := by
  simp [endedLines]

theorem endedLines_append (lines more : List String) :
    endedLines (lines ++ more) = endedLines lines ++ endedLines more :=
  List.flatMap_append

theorem toList_joinLines (lines : List String) (last : String) :
    (joinLines (lines ++ [last])).toList = endedLines lines ++ last.toList := by
  induction lines with
  | nil => simp [joinLines, endedLines]
  | cons line lines ih =>
      have hne : lines ++ [last] ≠ [] := List.concat_ne_nil _ _
      rw [joinLines] at ih
      rw [List.cons_append, joinLines, String.intercalate_cons_of_ne_nil hne, String.toList_append,
        ih, endedLines_cons]
      simp

theorem endedLines_joinLines {lines : List String} (h : lines ≠ []) :
    endedLines [joinLines lines] = endedLines lines := by
  rw [← List.dropLast_concat_getLast h, endedLines_cons, toList_joinLines, endedLines_append,
    endedLines_cons]
  simp [endedLines]

end GrammarWorkbench.Markup
