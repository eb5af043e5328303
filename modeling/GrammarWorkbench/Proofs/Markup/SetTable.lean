import Mathlib.Data.List.Forall2
import GrammarWorkbench.Markup.SetTable
import GrammarWorkbench.Proofs.Markup.Lines
import GrammarWorkbench.Proofs.Text.Entity
import GrammarWorkbench.Proofs.Text.Occurrences

/-!
# What a table of sets shows

The name in a label is cut out between the first opening parenthesis and the last character, and so
is the name that was put into the label, whatever it is (`labelName_append`). Sets that come under
the labels of keys with different names therefore give a row for each key (`forall₂_setRows`). Names
and sets are escaped where they are put into cells, so that every row tag but the first stands for a
row (`occurrences_setTable`).
-/

set_option autoImplicit false

namespace GrammarWorkbench.Markup

open GrammarWorkbench.Text (occurrences)

/-! ## Rows -/

/-- The name that was put into a label is the name in it. -/
theorem labelName_append {kind : String} (hkind : '(' ∉ kind.toList) (name : String) :
    labelName (kind ++ "(" ++ name ++ ")") = name := by
  have hchars : (kind ++ "(" ++ name ++ ")").toList =
      kind.toList ++ '(' :: (name.toList ++ [')']) := by
    simp
  have hother : ∀ c ∈ kind.toList, decide (c ≠ '(') = true := by
    intro c hc
    rw [decide_eq_true_iff]
    rintro rfl
    exact hkind hc
  rw [labelName, hchars, if_pos (by simp), List.dropWhile_append_of_pos hother,
    List.dropWhile_cons_of_neg (by simp), List.drop_one, List.tail_cons, List.dropLast_concat,
    String.ofList_toList]

section

variable {κ : Type} {nameOf : κ → String} {kind : String} {shows : κ → String → Prop}
  {keys : List κ} {sets : List (String × String)}

/-- Sets that come under labels with the names of some keys, each as a text that shows what is
due. -/
def Labels (nameOf : κ → String) (kind : String) (shows : κ → String → Prop) (keys : List κ)
    (sets : List (String × String)) : Prop :=
  List.Forall₂ (fun key entry => entry.1 = kind ++ "(" ++ nameOf key ++ ")" ∧ shows key entry.2)
    keys sets

theorem Labels.map_labelName (hkind : '(' ∉ kind.toList) (h : Labels nameOf kind shows keys sets) :
    (sets.map Prod.fst).map labelName = keys.map nameOf := by
  induction h with
  | nil => rfl
  | cons hentry _ ih =>
      rw [List.map_cons, List.map_cons, List.map_cons, ih, hentry.1, labelName_append hkind]

/-- The text under the label of a key shows what is due, if no other key has its name. -/
theorem Labels.shows_setText (hkind : '(' ∉ kind.toList) (hnodup : (keys.map nameOf).Nodup)
    (h : Labels nameOf kind shows keys sets) {key : κ} (hkey : key ∈ keys) :
    shows key (setText sets (kind ++ "(" ++ nameOf key ++ ")")) := by
  induction h with
  | nil => cases hkey
  | @cons first entry rest sets hentry _ ih =>
      rw [List.map_cons, List.nodup_cons] at hnodup
      rcases List.mem_cons.1 hkey with rfl | hrest
      · rw [← hentry.1, setText, List.lookup_cons_self, Option.getD_some]
        exact hentry.2
      · -- The name of a later key is another one, so that its label is another one.
        have hother : kind ++ "(" ++ nameOf key ++ ")" ≠ entry.1 := by
          intro heq
          rw [hentry.1] at heq
          have hname := congrArg labelName heq
          rw [labelName_append hkind, labelName_append hkind] at hname
          apply hnodup.1
          rw [← hname]
          exact List.mem_map_of_mem hrest
        have hskip : (kind ++ "(" ++ nameOf key ++ ")" == entry.1) = false :=
          beq_eq_false_iff_ne.2 hother
        rw [setText, List.lookup_cons, hskip]
        exact ih hnodup.2 hrest

/-- Sets under the labels of keys with different names give one row for each key, in order. -/
theorem forall₂_setRows {showsFirst showsFollow : κ → String → Prop}
    {firstSets followSets : List (String × String)} (hnodup : (keys.map nameOf).Nodup)
    (hfirst : Labels nameOf "FIRST" showsFirst keys firstSets)
    (hfollow : Labels nameOf "FOLLOW" showsFollow keys followSets) :
    List.Forall₂ (fun key row => row.name = nameOf key ∧ showsFirst key row.first ∧
      showsFollow key row.follow) keys (setRows firstSets followSets) := by
  -- The labels of the second map bring no new names.
  have hnames : firstOccurrences
      ((firstSets.map Prod.fst ++ followSets.map Prod.fst).map labelName) = keys.map nameOf := by
    rw [List.map_append, hfirst.map_labelName (by decide), hfollow.map_labelName (by decide),
      firstOccurrences_append_of_subset hnodup (List.Subset.refl _)]
  rw [setRows, hnames, List.map_map, List.forall₂_map_right_iff, List.forall₂_same]
  intro key hkey
  have hopening : "FIRST" ++ "(" = "FIRST(" := by decide
  have hopening' : "FOLLOW" ++ "(" = "FOLLOW(" := by decide
  have hfirstText := hfirst.shows_setText (by decide) hnodup hkey
  have hfollowText := hfollow.shows_setText (by decide) hnodup hkey
  rw [hopening] at hfirstText
  rw [hopening'] at hfollowText
  exact ⟨rfl, hfirstText, hfollowText⟩

end

/-! ## Row tags -/

/-- The tag that starts a row. -/
def rowTag : List Char :=
  ['<', 't', 'r', '>']

/-- The number of row tags in some lines. -/
def rowTags : List String → Nat
  | [] => 0
  | line :: lines => occurrences rowTag line.toList + rowTags lines

theorem rowTags_append (lines more : List String) :
    rowTags (lines ++ more) = rowTags lines + rowTags more := by
  induction lines with
  | nil => rw [List.nil_append, rowTags, Nat.zero_add]
  | cons line lines ih => rw [List.cons_append, rowTags, rowTags, ih, Nat.add_assoc]

/-- No row tag reaches over the end of a line. -/
theorem occurrences_endedLines (lines : List String) (rest : List Char) :
    occurrences rowTag (endedLines lines ++ rest) = rowTags lines + occurrences rowTag rest := by
  induction lines with
  | nil => simp [endedLines, rowTags]
  | cons line lines ih =>
      rw [endedLines_cons, List.append_assoc, List.cons_append,
        Text.occurrences_append_cons (by decide) (by decide), ih, rowTags, Nat.add_assoc]

theorem occurrences_joinLines {lines : List String} (h : lines ≠ []) :
    occurrences rowTag (joinLines lines).toList = rowTags lines := by
  rw [← List.dropLast_concat_getLast h, toList_joinLines, occurrences_endedLines, rowTags_append]
  simp [rowTags]

/-- Nothing in the text of a cell counts as a row tag. -/
theorem occurrences_cell {opening closing : List Char} (h : ['"', '>'] <:+ opening) (s : String) :
    occurrences rowTag (String.ofList opening ++ Text.escapeMarkup s ++
      String.ofList closing).toList = occurrences rowTag opening + occurrences rowTag closing := by
  obtain ⟨front, rfl⟩ := h
  have htext : '<' ∉ '>' :: (Text.escapeMarkup s).toList := by
    rw [List.mem_cons, not_or]
    exact ⟨by decide, Text.markup_notMem_escape s (by decide) (by decide)⟩
  have hcut : ∀ rest, occurrences rowTag (front ++ '"' :: rest) =
      occurrences rowTag front + occurrences rowTag rest :=
    fun _ => Text.occurrences_append_cons (by decide) (by decide)
  calc occurrences rowTag (String.ofList (front ++ ['"', '>']) ++ Text.escapeMarkup s ++
        String.ofList closing).toList
      = occurrences rowTag (front ++ '"' :: ('>' :: (Text.escapeMarkup s).toList ++ closing)) := by
        simp
    _ = occurrences rowTag front + occurrences rowTag closing := by
        rw [hcut, rowTag, Text.occurrences_append_of_notMem htext]
    _ = occurrences rowTag (front ++ ['"', '>']) + occurrences rowTag closing := by
        rw [hcut]
        rfl

theorem rowTags_rowLines (row : SetRow) : rowTags (rowLines row) = 1 := by
  have htag : occurrences rowTag "<tr>".toList = 1 := Text.occurrences_literal (by decide)
  have hclosing : occurrences rowTag "</tr>".toList = 0 := Text.occurrences_literal (by decide)
  have hname : occurrences rowTag (
      "<th class=\"grammar-table-cell grammar-table-cell-primary\" scope=\"row\">" ++
        Text.escapeMarkup row.name ++ "</th>").toList = 0 :=
    (occurrences_cell (by decide) row.name).trans (by decide)
  have hset : ∀ s, occurrences rowTag ("<td class=\"grammar-table-cell\">" ++
      Text.escapeMarkup s ++ "</td>").toList = 0 :=
    fun s => (occurrences_cell (by decide) s).trans (by decide)
  rw [rowLines, rowTags, rowTags, rowTags, rowTags, rowTags, htag, hname, hset, hset, hclosing]
  rfl

/-- Every row has one row tag. -/
theorem rowTags_rows (rows : List SetRow) : rowTags (rows.flatMap rowLines) = rows.length := by
  induction rows with
  | nil => rfl
  | cons row rows ih =>
      rw [List.flatMap_cons, rowTags_append, rowTags_rowLines, ih, List.length_cons, Nat.add_comm]

/-- The head of the table has one row tag, next to those in the class names. -/
theorem rowTags_tableOpening (options : Options) :
    rowTags (tableOpening options) = occurrences rowTag options.tableClasses.toList + 1 := by
  have hchars : ("<table class=\"grammar-table " ++ options.tableClasses ++
      "\" role=\"table\" aria-label=\"FIRST and FOLLOW sets\">").toList =
      "<table class=\"grammar-table".toList ++ ' ' :: (options.tableClasses.toList ++
        '"' :: " role=\"table\" aria-label=\"FIRST and FOLLOW sets\">".toList) := by
    simp
  have hfront : occurrences rowTag "<table class=\"grammar-table".toList = 0 :=
    Text.occurrences_literal (by decide)
  have hback : occurrences rowTag
      " role=\"table\" aria-label=\"FIRST and FOLLOW sets\">".toList = 0 :=
    Text.occurrences_literal (by decide)
  have hfirst : occurrences rowTag ("<table class=\"grammar-table " ++ options.tableClasses ++
      "\" role=\"table\" aria-label=\"FIRST and FOLLOW sets\">").toList =
      occurrences rowTag options.tableClasses.toList := by
    rw [hchars, Text.occurrences_append_cons (by decide) (by decide),
      Text.occurrences_append_cons (by decide) (by decide), hfront, hback, Nat.zero_add,
      Nat.add_zero]
  rw [tableOpening, rowTags, hfirst, Nat.add_left_cancel_iff]
  decide

theorem occurrences_tableStyles : occurrences rowTag tableStyles.toList = 0 := by
  unfold tableStyles
  -- No part starts with a character of the tag.
  rw [String.toList_append, String.toList_append, String.toList_append,
    Text.occurrences_append (by decide) (by decide +kernel),
    Text.occurrences_append (by decide) (by decide +kernel),
    Text.occurrences_append (by decide) (by decide +kernel),
    Nat.add_eq_zero_iff, Nat.add_eq_zero_iff, Nat.add_eq_zero_iff]
  refine ⟨⟨⟨Text.occurrences_literal ?_, Text.occurrences_literal ?_⟩,
    Text.occurrences_literal ?_⟩, Text.occurrences_literal ?_⟩
  all_goals decide +kernel

/-- A table with rows has a row tag for its head and one for each row, next to those in the class
names. -/
theorem occurrences_setTable (options : Options) {firstSets followSets : List (String × String)}
    (h : setRows firstSets followSets ≠ []) :
    occurrences rowTag (setTable options firstSets followSets).toList =
      occurrences rowTag options.tableClasses.toList + 1 +
        (setRows firstSets followSets).length := by
  have htable : setTable options firstSets followSets =
      joinLines (options.styled tableStyles (tableOpening options ++
        (setRows firstSets followSets).flatMap rowLines ++ tableClosing)) :=
    if_neg (by rwa [List.isEmpty_iff])
  have hlines : rowTags (tableOpening options ++ (setRows firstSets followSets).flatMap rowLines ++
      tableClosing) = occurrences rowTag options.tableClasses.toList + 1 +
        (setRows firstSets followSets).length := by
    have hclosing : rowTags tableClosing = 0 := by decide
    rw [rowTags_append, rowTags_append, rowTags_tableOpening, rowTags_rows, hclosing, Nat.add_zero]
  rw [htable, Options.styled]
  -- The styles are one more line above the table, if they are there at all.
  split
  · rw [occurrences_joinLines (List.cons_ne_nil _ _), rowTags, occurrences_tableStyles,
      Nat.zero_add, hlines]
  · rw [occurrences_joinLines (by simp [tableOpening]), hlines]

end GrammarWorkbench.Markup
