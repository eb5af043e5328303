import Mathlib.Data.List.Basic
import GrammarWorkbench.Markup.Diagnostics
import GrammarWorkbench.Proofs.Markup.Lines
import GrammarWorkbench.Proofs.Text.Entity

/-!
# What a page of messages shows

A message is escaped where it is put into an item, so that it has no `<` in it and ends in front of
the first one. The items of a section can therefore be told apart, and a section from what stands
behind it (`messageSections_append_inj`).
-/

set_option autoImplicit false

namespace GrammarWorkbench.Markup

open GrammarWorkbench.Text (PrefixFree)

/-! ## Sections -/

/-- The lines above the items of a section with a number of messages. -/
def sectionOpening (title : String) (count : Nat) : List String :=
  ["<h4>" ++ Text.escapeMarkup title ++ " (" ++ toString count ++ " found)</h4>", "<ul>"]

theorem endedLines_messageSections (title : String) {messages : List String} (h : messages ≠ []) :
    endedLines (messageSections title messages) =
      endedLines (sectionOpening title messages.length) ++
        (endedLines (messages.map messageItem) ++ endedLines ["</ul>"]) := by
  have hempty : ¬ messages.isEmpty = true := by simpa using h
  rw [messageSections, if_neg hempty, messageSection, endedLines_joinLines, endedLines_append,
    endedLines_append, List.append_assoc, sectionOpening]
  simp

/-- An item, split behind the character that ends the message. -/
theorem toList_messageItem (message : String) :
    (messageItem message).toList ++ ['\n'] =
      "<li class=\"error-text\">".toList ++
        (((Text.escapeMarkup message).toList ++ ['<']) ++ "/li>\n".toList) := by
  have hclosing : "</li>".toList ++ ['\n'] = ['<'] ++ "/li>\n".toList := by decide
  unfold messageItem
  simp only [String.toList_append, List.append_assoc, hclosing]

theorem prefixFree_messageItem :
    PrefixFree fun message => (messageItem message).toList ++ ['\n'] := by
  have hescape := Text.prefixFree_escape .hexadecimal '<' (by decide) (by decide)
  rw [funext toList_messageItem]
  exact hescape.between _ _

/-- The items of a section can be read off one after the other. -/
theorem prefixFree_messageItems :
    PrefixFree fun messages : List String =>
      endedLines (messages.map messageItem) ++ endedLines ["</ul>"] := by
  have hstop : ∀ message s t,
      ((messageItem message).toList ++ ['\n']) ++ s ≠ endedLines ["</ul>"] ++ t := by
    intro message s t h
    rw [toList_messageItem] at h
    have hsecond := congrArg (fun cs => cs[1]?) h
    simp [endedLines] at hsecond
  have hlist := prefixFree_messageItem.list hstop
  simp only [endedLines, List.flatMap_map]
  exact hlist

/-- The opening of a section, split behind the blank that ends the number of messages. -/
theorem endedLines_sectionOpening (title : String) (count : Nat) :
    endedLines (sectionOpening title count) =
      ("<h4>" ++ Text.escapeMarkup title ++ " (").toList ++
        (((toString count).toList ++ [' ']) ++ "found)</h4>\n<ul>\n".toList) := by
  have hclosing : " found)</h4>".toList ++ '\n' :: ("<ul>".toList ++ ['\n']) =
      [' '] ++ "found)</h4>\n<ul>\n".toList := by decide
  rw [sectionOpening, endedLines_cons, endedLines_cons, endedLines, List.flatMap_nil,
    String.toList_append, String.toList_append]
  simp only [List.append_assoc, hclosing]

theorem prefixFree_sectionOpening (title : String) :
    PrefixFree fun count => endedLines (sectionOpening title count) := by
  have hnumber := Text.prefixFree_number ' ' (by decide)
  rw [funext (endedLines_sectionOpening title)]
  exact hnumber.between _ _

theorem prefixFree_section (title : String) :
    PrefixFree fun messages : List String => endedLines (sectionOpening title messages.length) ++
      (endedLines (messages.map messageItem) ++ endedLines ["</ul>"]) := by
  intro messages others s t h
  simp only [List.append_assoc] at h
  obtain ⟨-, hitems⟩ := prefixFree_sectionOpening title h
  apply prefixFree_messageItems
  simpa only [List.append_assoc] using hitems

/-- What the text of a section starts with. -/
def sectionMark (title : String) : List Char :=
  ("<h4>" ++ Text.escapeMarkup title).toList

theorem sectionMark_starts (title : String) {messages : List String} (h : messages ≠ []) :
    sectionMark title <+: endedLines (messageSections title messages) := by
  rw [endedLines_messageSections title h, endedLines_sectionOpening, String.toList_append,
    List.append_assoc, List.append_assoc]
  exact List.prefix_append _ _

/-- Messages and what stands behind their section can be told apart, unless that starts like the
section itself. -/
theorem messageSections_append_inj {title : String} {messages others : List String}
    {s t : List Char} (hs : ¬ sectionMark title <+: s) (ht : ¬ sectionMark title <+: t)
    (h : endedLines (messageSections title messages) ++ s =
      endedLines (messageSections title others) ++ t) : messages = others ∧ s = t := by
  have hnone : endedLines (messageSections title []) = [] := rfl
  by_cases hmessages : messages = []
  · by_cases hothers : others = []
    · rw [hmessages, hothers, hnone] at h
      exact ⟨hmessages.trans hothers.symm, h⟩
    · rw [hmessages, hnone, List.nil_append] at h
      rw [h] at hs
      exact absurd ((sectionMark_starts title hothers).trans (List.prefix_append _ t)) hs
  · by_cases hothers : others = []
    · rw [hothers, hnone, List.nil_append] at h
      rw [← h] at ht
      exact absurd ((sectionMark_starts title hmessages).trans (List.prefix_append _ s)) ht
    · rw [endedLines_messageSections title hmessages, endedLines_messageSections title hothers] at h
      exact prefixFree_section title h

/-! ## Pages -/

/-- The lines of a page above its sections. -/
def diagnosticsOpening (options : Options) : List String :=
  options.styled errorStyles ["<div class=\"" ++ options.errorClasses ++ "\">"]

/-- A page with messages consists of its opening, the section of each kind and the closing tag. -/
theorem toList_diagnosticsPage (options : Options) {syntaxErrors semanticErrors : List String}
    (h : ¬ (syntaxErrors = [] ∧ semanticErrors = [])) :
    (diagnosticsPage options syntaxErrors semanticErrors).toList =
      endedLines (diagnosticsOpening options) ++
        (endedLines (messageSections "Parser Errors" syntaxErrors) ++
          (endedLines (messageSections "Semantic Errors" semanticErrors) ++ "</div>".toList)) := by
  have hsome : ¬ (syntaxErrors.isEmpty && semanticErrors.isEmpty) = true := by simpa using h
  have hlines : options.styled errorStyles (errorBlock options (
      messageSections "Parser Errors" syntaxErrors ++
        messageSections "Semantic Errors" semanticErrors)) =
      diagnosticsOpening options ++ (messageSections "Parser Errors" syntaxErrors ++
        messageSections "Semantic Errors" semanticErrors) ++ ["</div>"] := by
    rw [diagnosticsOpening, Options.styled, Options.styled, errorBlock]
    split <;> simp
  rw [diagnosticsPage, if_neg hsome, hlines, toList_joinLines, endedLines_append, endedLines_append]
  simp only [List.append_assoc]

theorem diagnosticsPage_nil (options : Options) :
    diagnosticsPage options [] [] = "<div class=\"no-errors\">No errors found.</div>" :=
  rfl

/-- A page without messages has one line, and a page with messages has more. -/
theorem diagnosticsPage_ne_notice (options : Options) {syntaxErrors semanticErrors : List String}
    (h : ¬ (syntaxErrors = [] ∧ semanticErrors = [])) :
    diagnosticsPage options syntaxErrors semanticErrors ≠ diagnosticsPage options [] [] := by
  intro heq
  have hbreak : '\n' ∈ (diagnosticsPage options syntaxErrors semanticErrors).toList := by
    rw [toList_diagnosticsPage options h, diagnosticsOpening, Options.styled]
    split <;> simp [endedLines_cons]
  rw [heq, diagnosticsPage_nil] at hbreak
  exact absurd hbreak (by decide)

/-- The semantic section is told from the section in front of it by its title. -/
theorem not_sectionMark_starts (semanticErrors : List String) :
    ¬ sectionMark "Parser Errors" <+:
      endedLines (messageSections "Semantic Errors" semanticErrors) ++ "</div>".toList := by
  intro hstarts
  by_cases hnone : semanticErrors = []
  · rw [hnone] at hstarts
    exact absurd hstarts (by decide)
  · have hsemantic : sectionMark "Semantic Errors" <+:
        endedLines (messageSections "Semantic Errors" semanticErrors) ++ "</div>".toList :=
      (sectionMark_starts _ hnone).trans (List.prefix_append _ _)
    rcases List.prefix_or_prefix_of_prefix hstarts hsemantic with h | h
    · exact absurd h (by decide)
    · exact absurd h (by decide)

theorem diagnosticsPage_injective (options : Options)
    {syntaxErrors semanticErrors syntaxErrors' semanticErrors' : List String}
    (h : diagnosticsPage options syntaxErrors semanticErrors =
      diagnosticsPage options syntaxErrors' semanticErrors') :
    syntaxErrors = syntaxErrors' ∧ semanticErrors = semanticErrors' := by
  -- A page without messages is a notice that no other page is.
  by_cases hnone : syntaxErrors = [] ∧ semanticErrors = []
  · by_cases hnone' : syntaxErrors' = [] ∧ semanticErrors' = []
    · exact ⟨hnone.1.trans hnone'.1.symm, hnone.2.trans hnone'.2.symm⟩
    · rw [hnone.1, hnone.2] at h
      exact absurd h.symm (diagnosticsPage_ne_notice options hnone')
  · by_cases hnone' : syntaxErrors' = [] ∧ semanticErrors' = []
    · rw [hnone'.1, hnone'.2] at h
      exact absurd h (diagnosticsPage_ne_notice options hnone)
    · -- Both pages open alike, and the two sections are read off one after the other.
      have hchars := congrArg String.toList h
      rw [toList_diagnosticsPage options hnone, toList_diagnosticsPage options hnone',
        List.append_cancel_left_eq] at hchars
      obtain ⟨hfirst, hrest⟩ := messageSections_append_inj (not_sectionMark_starts _)
        (not_sectionMark_starts _) hchars
      obtain ⟨hsecond, -⟩ := messageSections_append_inj (by decide) (by decide) hrest
      exact ⟨hfirst, hsecond⟩

/-! ## Tags -/

theorem count_escapeMarkup (s : String) : (Text.escapeMarkup s).toList.count '<' = 0 :=
  List.count_eq_zero.2 (Text.markup_notMem_escape s (by decide) (by decide))

theorem count_number (n : Nat) : (toString n).toList.count '<' = 0 := by
  rw [List.count_eq_zero, Nat.toString_eq_ofList_toDigits, String.toList_ofList]
  intro hmem
  exact absurd (Nat.isDigit_of_mem_toDigits (by decide) (by decide) hmem) (by decide)

theorem count_messageItem (message : String) :
    ((messageItem message).toList ++ ['\n']).count '<' = 2 := by
  have hopening : "<li class=\"error-text\">".toList.count '<' = 1 := by decide
  have hclosing : "/li>\n".toList.count '<' = 0 := by decide
  rw [toList_messageItem, List.count_append, List.count_append, List.count_append,
    count_escapeMarkup, hopening, hclosing]
  rfl

theorem count_messageItems (messages : List String) :
    (endedLines (messages.map messageItem)).count '<' = 2 * messages.length := by
  induction messages with
  | nil => rfl
  | cons message messages ih =>
      rw [List.map_cons, endedLines_cons, List.append_cons, List.count_append, count_messageItem,
        ih, List.length_cons]
      omega

theorem count_sectionOpening (title : String) (count : Nat) :
    (endedLines (sectionOpening title count)).count '<' = 3 := by
  have hclosing : "found)</h4>\n<ul>\n".toList.count '<' = 2 := by decide
  rw [endedLines_sectionOpening, String.toList_append, String.toList_append]
  simp only [List.count_append, count_escapeMarkup, count_number, hclosing]
  decide

/-- The number of tags in a section with a number of messages: two for each item, and four for the
title and the list. -/
def sectionTags (count : Nat) : Nat :=
  if count = 0 then 0 else 2 * count + 4

theorem count_messageSections (title : String) (messages : List String) :
    (endedLines (messageSections title messages)).count '<' = sectionTags messages.length := by
  have hclosing : (endedLines ["</ul>"]).count '<' = 1 := by decide
  by_cases h : messages = []
  · rw [h]
    rfl
  · have hlength : ¬ messages.length = 0 := by rwa [List.length_eq_zero_iff]
    rw [endedLines_messageSections title h, List.count_append, List.count_append,
      count_sectionOpening, count_messageItems, hclosing, sectionTags, if_neg hlength]
    omega

/-- The number of `<` on the page of so many syntax and semantic messages. -/
def pageTags (options : Options) (syntaxCount semanticCount : Nat) : Nat :=
  if syntaxCount = 0 ∧ semanticCount = 0 then 2
  else (endedLines (diagnosticsOpening options)).count '<' + sectionTags syntaxCount +
    sectionTags semanticCount + 1

theorem count_diagnosticsPage (options : Options) (syntaxErrors semanticErrors : List String) :
    (diagnosticsPage options syntaxErrors semanticErrors).toList.count '<' =
      pageTags options syntaxErrors.length semanticErrors.length := by
  have hclosing : "</div>".toList.count '<' = 1 := by decide
  by_cases h : syntaxErrors = [] ∧ semanticErrors = []
  · have hnotice : "<div class=\"no-errors\">No errors found.</div>".toList.count '<' = 2 := by
      decide
    rw [h.1, h.2, diagnosticsPage_nil, hnotice]
    rfl
  · have hcounts : ¬ (syntaxErrors.length = 0 ∧ semanticErrors.length = 0) := by simpa using h
    rw [toList_diagnosticsPage options h, List.count_append, List.count_append, List.count_append,
      count_messageSections, count_messageSections, hclosing, pageTags, if_neg hcounts]
    omega

/-- A page of messages shows all of them and nothing else can be brought in by them. Whatever the
options are, two pages are the same only if their syntax messages and their semantic messages are.
The number of `<` on a page depends on the options and on the numbers of messages. -/
theorem diagnosticsPage_faithful (options : Options) :
    (∀ syntaxErrors semanticErrors syntaxErrors' semanticErrors' : List String,
      diagnosticsPage options syntaxErrors semanticErrors =
          diagnosticsPage options syntaxErrors' semanticErrors' ↔
        syntaxErrors = syntaxErrors' ∧ semanticErrors = semanticErrors') ∧
      ∀ syntaxErrors semanticErrors : List String,
        (diagnosticsPage options syntaxErrors semanticErrors).toList.count '<' =
          pageTags options syntaxErrors.length semanticErrors.length := by
  refine ⟨?_, count_diagnosticsPage options⟩
  intro syntaxErrors semanticErrors syntaxErrors' semanticErrors'
  constructor
  · exact diagnosticsPage_injective options
  · rintro ⟨rfl, rfl⟩
    rfl

end GrammarWorkbench.Markup
