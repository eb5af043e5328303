import Mathlib.Data.List.TakeWhile
import GrammarWorkbench.Expression.Scanner
import GrammarWorkbench.Proofs.Expression.Lexing

/-!
# Places in a source text

The line and the column of a place are determined by the characters before it (`lineAfter`,
`columnAfter`). A cursor keeps them up to date while it moves: skipping a gap and reading a lexeme
take it from the place behind some characters to the place behind more of them
(`Cursor.skipGap_behind`, `Cursor.past_behind`). A cursor that is placed in a text therefore stays
placed in it while it reads tokens (`Cursor.PlacedIn.next`).
-/

set_option autoImplicit false

namespace GrammarWorkbench.Expression

/-! ## Lines and columns -/

/-- The line of the character after a text: one more than the line breaks in the text. -/
def lineAfter (before : List Char) : Nat :=
  1 + before.count '\n'

/-- The column of the character after a text: one more than the characters of the text after its
last line break. -/
def columnAfter (before : List Char) : Nat :=
  1 + (before.reverse.takeWhile fun c => c != '\n').length

theorem lineAfter_newline (before : List Char) :
    lineAfter (before ++ ['\n']) = lineAfter before + 1 := by
  simp [lineAfter, Nat.add_assoc]

theorem columnAfter_newline (before : List Char) : columnAfter (before ++ ['\n']) = 1 := by
  simp [columnAfter]

/-- A text without line breaks stays on its line. -/
theorem lineAfter_append {text : List Char} (h : '\n' ∉ text) (before : List Char) :
    lineAfter (before ++ text) = lineAfter before := by
  rw [lineAfter, List.count_append, List.count_eq_zero_of_not_mem h, Nat.add_zero, lineAfter]

/-- Each character of a text without line breaks takes up one column. -/
theorem columnAfter_append {text : List Char} (h : '\n' ∉ text) (before : List Char) :
    columnAfter (before ++ text) = columnAfter before + text.length := by
  have htext : ∀ c ∈ text.reverse, (c != '\n') = true := by
    intro c hc
    rw [bne_iff_ne]
    rintro rfl
    exact h (List.mem_reverse.1 hc)
  rw [columnAfter, List.reverse_append, List.takeWhile_append_of_pos htext, List.length_append,
    List.length_reverse, columnAfter]
  omega

/-! ## Gaps -/

/-- Where dropping characters of a class stops there is none of them. -/
theorem head?_dropWhile_eq_false (isMember : Char → Bool) (cs : List Char) :
    ∀ c ∈ (cs.dropWhile isMember).head?, isMember c = false := by
  intro c hc
  have hstop := List.head?_dropWhile_not isMember cs
  rw [Option.mem_def.1 hc] at hstop
  simpa using hstop

/-- Characters of a class are taken up to the first one that is none of them. -/
theorem takeWhile_append_of_head {isMember : Char → Bool} {front rest : List Char}
    (hfront : ∀ c ∈ front, isMember c = true) (hrest : ∀ c ∈ rest.head?, isMember c = false) :
    (front ++ rest).takeWhile isMember = front := by
  rw [List.takeWhile_append_of_pos hfront]
  cases rest with
  | nil => rw [List.takeWhile_nil, List.append_nil]
  | cons c rest => rw [List.takeWhile_cons_of_neg (by simp [hrest c rfl]), List.append_nil]

/-- The characters of a class at the front of a text end in one place only. -/
theorem append_inj_of_head {isMember : Char → Bool} {front front' rest rest' : List Char}
    (hfront : ∀ c ∈ front, isMember c = true) (hrest : ∀ c ∈ rest.head?, isMember c = false)
    (hfront' : ∀ c ∈ front', isMember c = true) (hrest' : ∀ c ∈ rest'.head?, isMember c = false)
    (h : front ++ rest = front' ++ rest') : front = front' ∧ rest = rest' := by
  have hsame : front = front' := by
    rw [← takeWhile_append_of_head hfront hrest, h, takeWhile_append_of_head hfront' hrest']
  subst hsame
  exact ⟨rfl, List.append_cancel_left h⟩

theorem Lexeme.read?_eq_none {cs : List Char} : Lexeme.read? cs = none ↔ cs = [] := by
  cases cs with
  | nil => exact iff_of_true rfl rfl
  | cons c cs =>
      refine iff_of_false ?_ (List.cons_ne_nil c cs)
      simp only [Lexeme.read?]
      repeat' split
      all_goals exact Option.some_ne_none _

namespace Cursor

/-! ## Cursors behind some characters -/

/-- The cursor behind some characters of a source text, and in front of the rest of it. -/
def behind (before rest : List Char) : Cursor :=
  ⟨rest, before.length, lineAfter before, columnAfter before⟩

theorem skipGap_behind_eq (before rest : List Char) :
    (behind before rest).skipGap =
      skipFrom rest before.length (lineAfter before) (columnAfter before) :=
  rfl

/-- Nothing is skipped in front of a character that belongs to no gap. -/
theorem skipGap_behind_self {rest : List Char} (h : ∀ c ∈ rest.head?, isGap c = false)
    (before : List Char) : (behind before rest).skipGap = behind before rest := by
  cases rest with
  | nil => rfl
  | cons c rest =>
      have hgap : isGap c = false := h c rfl
      have hline : c ≠ '\n' := by
        rintro rfl
        cases hgap
      rw [skipGap_behind_eq, skipFrom, if_neg hline, if_neg (by simp [hgap]), behind]

/-- Skipping a gap leads behind it. -/
theorem skipGap_behind {gap rest : List Char} (hgap : ∀ c ∈ gap, isGap c = true)
    (hrest : ∀ c ∈ rest.head?, isGap c = false) (before : List Char) :
    (behind before (gap ++ rest)).skipGap = behind (before ++ gap) rest := by
  induction gap generalizing before with
  | nil => rw [List.nil_append, List.append_nil, skipGap_behind_self hrest]
  | cons c gap ih =>
      have hlater := ih (fun d hd => hgap d (List.mem_cons_of_mem c hd)) (before ++ [c])
      rw [List.append_assoc, List.singleton_append, skipGap_behind_eq, List.length_append,
        List.length_singleton] at hlater
      rw [← hlater, skipGap_behind_eq, List.cons_append, skipFrom]
      by_cases hline : c = '\n'
      · subst hline
        rw [if_pos rfl, lineAfter_newline, columnAfter_newline]
      · have hother : '\n' ∉ [c] := by simpa using Ne.symm hline
        rw [if_neg hline, if_pos (hgap c List.mem_cons_self), lineAfter_append hother,
          columnAfter_append hother, List.length_singleton]

/-- Every text starts with a gap, which may be empty, and something that does not go on with it. -/
theorem exists_skipGap_behind (before cs : List Char) :
    ∃ gap rest, cs = gap ++ rest ∧ (∀ c ∈ gap, isGap c = true) ∧
      (∀ c ∈ rest.head?, isGap c = false) ∧
      (behind before cs).skipGap = behind (before ++ gap) rest := by
  have hgap : ∀ c ∈ cs.takeWhile isGap, isGap c = true := fun c hc => List.mem_takeWhile_imp hc
  have hrest := head?_dropWhile_eq_false isGap cs
  have hcs : cs = cs.takeWhile isGap ++ cs.dropWhile isGap := by simp
  refine ⟨_, _, hcs, hgap, hrest, ?_⟩
  rw [← skipGap_behind hgap hrest, ← hcs]

/-- No lexeme reaches over a line break, unless it starts with one. -/
theorem newline_notMem {cs : List Char} {lexeme : Lexeme} (hgap : ∀ c ∈ cs.head?, isGap c = false)
    (h : Lexeme.read? cs = some lexeme) : '\n' ∉ lexeme.text := by
  obtain ⟨c, cs, rfl⟩ : ∃ c later, cs = c :: later := by
    cases cs with
    | nil => cases h
    | cons c cs => exact ⟨c, cs, rfl⟩
  have hc : '\n' ≠ c := by
    rintro rfl
    cases hgap _ rfl
  rcases Lexeme.read?_eq_some h with
    ⟨kind, -, rfl⟩ | ⟨kind, rest, -, -, rfl⟩ | ⟨-, rfl⟩ | rfl
  · simpa using hc
  · simpa using hc
  · intro hmem
    rcases List.mem_cons.1 hmem with heq | hname
    · exact hc heq
    · have hchar := List.mem_takeWhile_imp hname
      exact absurd hchar (by decide)
  · simpa using hc

/-- Reading a lexeme leads behind it. -/
theorem past_behind {lexeme : Lexeme} (h : '\n' ∉ lexeme.text) (before cs : List Char) :
    (behind before cs).past lexeme = behind (before ++ lexeme.text) lexeme.rest := by
  simp only [past, behind, lineAfter_append h, columnAfter_append h, List.length_append]

/-! ## The tokens from a cursor on -/

/-- The tokens from a cursor to the end of its text, the end token included. -/
def tokens (cursor : Cursor) : List Token :=
  cursor.scan.1 ++ [cursor.scan.2.endToken]

section Scan

variable {cursor : Cursor}

theorem next_of_none (h : Lexeme.read? cursor.skipGap.rest = none) :
    cursor.next = (cursor.skipGap.endToken, cursor.skipGap) := by
  rw [next, h]

theorem next_of_some {lexeme : Lexeme} (h : Lexeme.read? cursor.skipGap.rest = some lexeme) :
    cursor.next = (cursor.skipGap.token lexeme, cursor.skipGap.past lexeme) := by
  rw [next, h]

theorem scan_eq_of_none (h : Lexeme.read? cursor.skipGap.rest = none) :
    cursor.scan = ([], cursor.skipGap) := by
  rw [scan]
  split
  next => rfl
  next lexeme hread =>
    rw [h] at hread
    cases hread

theorem scan_eq_of_some {lexeme : Lexeme} (h : Lexeme.read? cursor.skipGap.rest = some lexeme) :
    cursor.scan = (cursor.skipGap.token lexeme :: (cursor.skipGap.past lexeme).scan.1,
      (cursor.skipGap.past lexeme).scan.2) := by
  rw [scan]
  split
  next hread =>
    rw [h] at hread
    cases hread
  next lexeme' hread =>
    rw [h] at hread
    cases hread
    rfl

theorem tokens_of_none (h : Lexeme.read? cursor.skipGap.rest = none) :
    cursor.tokens = [cursor.skipGap.endToken] := by
  rw [tokens, scan_eq_of_none h, List.nil_append]

theorem tokens_of_some {lexeme : Lexeme} (h : Lexeme.read? cursor.skipGap.rest = some lexeme) :
    cursor.tokens = cursor.skipGap.token lexeme :: (cursor.skipGap.past lexeme).tokens := by
  rw [tokens, scan_eq_of_some h, List.cons_append, tokens]

end Scan

/-! ## Cursors placed in a source text -/

/-- A cursor is placed in a source text: some characters of the text are before it and the others
after it, and its line and column are those of its place. -/
def PlacedIn (source : List Char) (cursor : Cursor) : Prop :=
  ∃ before rest, source = before ++ rest ∧ cursor = behind before rest

theorem placedIn_startOf (source : List Char) : PlacedIn source (Scanner.startOf source) :=
  ⟨[], source, rfl, rfl⟩

/-- Reading a token leads from one place of the source text to another one. -/
theorem PlacedIn.next {source : List Char} {cursor : Cursor} (h : PlacedIn source cursor) :
    PlacedIn source cursor.next.2 := by
  obtain ⟨before, cs, rfl, rfl⟩ := h
  obtain ⟨gap, rest, rfl, hgap, hrest, hskip⟩ := exists_skipGap_behind before cs
  cases hread : Lexeme.read? (behind before (gap ++ rest)).skipGap.rest with
  | none =>
      rw [next_of_none hread, hskip]
      exact ⟨before ++ gap, rest, by simp, rfl⟩
  | some lexeme =>
      rw [next_of_some hread, hskip]
      rw [hskip] at hread
      have htext : lexeme.text ++ lexeme.rest = rest := Lexeme.text_append_rest hread
      rw [past_behind (newline_notMem hrest hread)]
      exact ⟨before ++ gap ++ lexeme.text, lexeme.rest, by simp [htext], rfl⟩

/-- The line and the column of a cursor in a source text are those after the characters before its
offset, and the others are still to be read. -/
theorem PlacedIn.line_and_column {source : List Char} {cursor : Cursor}
    (h : PlacedIn source cursor) :
    cursor.offset ≤ source.length ∧ cursor.rest = source.drop cursor.offset ∧
      cursor.line = lineAfter (source.take cursor.offset) ∧
      cursor.column = columnAfter (source.take cursor.offset) := by
  obtain ⟨before, rest, rfl, rfl⟩ := h
  simp [behind]

end Cursor

end GrammarWorkbench.Expression
