import GrammarWorkbench.Proofs.Text.PrefixFree
import GrammarWorkbench.Proofs.Text.Replacement
import GrammarWorkbench.Text.Entity

/-!
# Escaped texts of markup

The replacements that escape a text do not meet, so that each character is replaced on its own
(`toList_escapeMarkupWith`): by its entity, or by itself if it has none (`entityOf_cases`). An
entity starts with an ampersand and has no other markup character in it. Escaped texts are therefore
free of markup (`markup_notMem_escape`, `exists_entity_of_ampersand`) and can be read back
(`prefixFree_escape`). The two spellings of the apostrophe differ in one entity only, and replacing
that entity leads from one escaped text to the other (`replaceWord_escape`).
-/

set_option autoImplicit false

namespace GrammarWorkbench.Text

open ApostropheSpelling (decimal hexadecimal)

variable {apostrophe : ApostropheSpelling}

/-! ## Character by character -/

/-- A character as it stands in markup. -/
def entityOf (apostrophe : ApostropheSpelling) (c : Char) : List Char :=
  if c = '&' then ['&', 'a', 'm', 'p', ';']
  else if c = '<' then ['&', 'l', 't', ';']
  else if c = '>' then ['&', 'g', 't', ';']
  else if c = '"' then ['&', 'q', 'u', 'o', 't', ';']
  else if c = '\'' then apostrophe.entity
  else [c]

theorem substitute_entityTable (apostrophe : ApostropheSpelling) :
    substitute (entityTable apostrophe) = entityOf apostrophe := by
  funext c
  rw [entityTable, entityOf]
  split_ifs with hampersand hless hgreater hquote hapostrophe
  · subst hampersand; rfl
  · subst hless; rfl
  · subst hgreater; rfl
  · subst hquote; rfl
  · subst hapostrophe; rfl
  · simp only [substitute_cons_of_ne hampersand, substitute_cons_of_ne hless,
      substitute_cons_of_ne hgreater, substitute_cons_of_ne hquote,
      substitute_cons_of_ne hapostrophe]
    rfl

/-- None of the replacements touches what another one has put in. -/
theorem toList_escapeMarkupWith (apostrophe : ApostropheSpelling) (s : String) :
    (escapeMarkupWith apostrophe s).toList = s.toList.flatMap (entityOf apostrophe) := by
  have hmeets : MeetsNone (entityTable apostrophe) := by cases apostrophe <;> decide
  rw [escapeMarkupWith, String.toList_ofList, replaceInTurn_eq_flatMap hmeets,
    substitute_entityTable]

/-! ## Entities -/

/-- The characters with a meaning in markup. -/
def markupCharacters : List Char :=
  ['&', '<', '>', '"', '\'']

/-- A character is written as its entity, or as itself if it has no meaning in markup. -/
theorem entityOf_cases (apostrophe : ApostropheSpelling) (c : Char) :
    (c, entityOf apostrophe c) ∈ entityTable apostrophe ∨
      c ∉ markupCharacters ∧ entityOf apostrophe c = [c] := by
  rw [entityOf, entityTable]
  split_ifs with hampersand hless hgreater hquote hapostrophe
  · simp [hampersand]
  · simp [hless]
  · simp [hgreater]
  · simp [hquote]
  · simp [hapostrophe]
  · exact .inr ⟨by simp [markupCharacters, *], rfl⟩

/-- An entity starts with an ampersand, and nothing behind it has a meaning in markup. -/
theorem eq_cons_of_mem_entityTable {c : Char} {entity : List Char}
    (h : (c, entity) ∈ entityTable apostrophe) :
    ∃ rest, entity = '&' :: rest ∧ ∀ d ∈ rest, d ∉ markupCharacters := by
  have hall : ∀ entry ∈ entityTable apostrophe, entry.2 = '&' :: entry.2.tail ∧
      entry.2.tail.all (fun d => decide (d ∉ markupCharacters)) = true := by
    cases apostrophe <;> decide
  obtain ⟨heq, hrest⟩ := hall _ h
  simp only [List.all_eq_true, decide_eq_true_eq] at hrest
  exact ⟨entity.tail, heq, hrest⟩

/-- No entity starts another one. -/
theorem eq_of_entity_starts {entry other : Char × List Char} (h : entry ∈ entityTable apostrophe)
    (hother : other ∈ entityTable apostrophe) (hstarts : entry.2 <+: other.2) : entry = other := by
  have hall : ∀ entry ∈ entityTable apostrophe, ∀ other ∈ entityTable apostrophe,
      entry.2 <+: other.2 → entry = other := by
    cases apostrophe <;> decide
  exact hall entry h other hother hstarts

theorem entityOf_ne_nil (c : Char) : entityOf apostrophe c ≠ [] := by
  rcases entityOf_cases apostrophe c with hentity | ⟨-, heq⟩
  · obtain ⟨rest, heq, -⟩ := eq_cons_of_mem_entityTable hentity
    rw [heq]
    exact List.cons_ne_nil _ _
  · rw [heq]
    exact List.cons_ne_nil _ _

/-- The only markup character in what is written for a character is an ampersand. -/
theorem eq_ampersand_of_mem_entityOf {c d : Char} (h : d ∈ entityOf apostrophe c)
    (hmarkup : d ∈ markupCharacters) : d = '&' := by
  rcases entityOf_cases apostrophe c with hentity | ⟨hother, heq⟩
  · obtain ⟨rest, heq, hrest⟩ := eq_cons_of_mem_entityTable hentity
    rw [heq] at h
    exact (List.mem_cons.1 h).resolve_right fun hmem => hrest d hmem hmarkup
  · rw [heq, List.mem_singleton] at h
    rw [h] at hmarkup
    exact absurd hmarkup hother

/-- The only ampersand in what is written for a character starts an entity. -/
theorem mem_entityTable_of_ampersand {c : Char} {front back : List Char}
    (h : entityOf apostrophe c = front ++ '&' :: back) :
    front = [] ∧ (c, '&' :: back) ∈ entityTable apostrophe := by
  have hampersand : '&' ∈ markupCharacters := by decide
  rcases entityOf_cases apostrophe c with hentity | ⟨hother, heq⟩
  · obtain ⟨rest, heq, hrest⟩ := eq_cons_of_mem_entityTable hentity
    cases front with
    | nil => exact ⟨rfl, by rwa [h] at hentity⟩
    | cons first front =>
        rw [h, List.cons_append, List.cons.injEq] at heq
        exact absurd hampersand (hrest '&' (by simp [← heq.2]))
  · have hmem : '&' ∈ entityOf apostrophe c := by simp [h]
    rw [heq, List.mem_singleton] at hmem
    rw [← hmem] at hother
    exact absurd hampersand hother

theorem markup_notMem_escape (s : String) {c : Char} (hmarkup : c ∈ markupCharacters)
    (hne : c ≠ '&') : c ∉ (escapeMarkupWith apostrophe s).toList := by
  intro hmem
  rw [toList_escapeMarkupWith] at hmem
  obtain ⟨original, -, hc⟩ := List.mem_flatMap.1 hmem
  exact hne (eq_ampersand_of_mem_entityOf hc hmarkup)

/-- Every ampersand in an escaped text starts an entity. -/
theorem exists_entity_of_ampersand {s : String} {before after : List Char}
    (h : (escapeMarkupWith apostrophe s).toList = before ++ '&' :: after) :
    ∃ entry ∈ entityTable apostrophe, entry.2 <+: '&' :: after := by
  rw [toList_escapeMarkupWith] at h
  obtain ⟨earlier, c, later, front, back, hsplit, hc, rfl⟩ := exists_of_flatMap_eq h
  obtain ⟨rfl, hentity⟩ := mem_entityTable_of_ampersand hc
  refine ⟨_, hentity, later.flatMap (entityOf apostrophe), ?_⟩
  -- Behind the entity stands what is written for the characters after this one.
  rw [hsplit, List.flatMap_append, List.flatMap_cons, hc, List.append_nil, List.nil_append,
    List.append_cancel_left_eq] at h
  exact h

/-! ## Reading an escaped text -/

/-- What is written for a character can be read off the front of a text. -/
theorem prefixFree_entityOf (apostrophe : ApostropheSpelling) :
    PrefixFree (entityOf apostrophe) := by
  -- An entity and a character without one differ in their first characters.
  have hdiffer : ∀ {c d s t}, (c, entityOf apostrophe c) ∈ entityTable apostrophe →
      d ∉ markupCharacters → entityOf apostrophe c ++ s ≠ [d] ++ t := by
    intro c d s t hentity hother heq
    obtain ⟨rest, hrest, -⟩ := eq_cons_of_mem_entityTable hentity
    rw [hrest] at heq
    rw [← (List.cons.inj heq).1] at hother
    exact hother (by decide)
  intro c d s t heq
  rcases entityOf_cases apostrophe c with hc | ⟨hc, hc'⟩
  · rcases entityOf_cases apostrophe d with hd | ⟨hd, hd'⟩
    · have hsame : (c, entityOf apostrophe c) = (d, entityOf apostrophe d) := by
        rcases List.prefix_or_prefix_of_prefix ⟨s, heq⟩ (List.prefix_append _ t) with h | h
        · exact eq_of_entity_starts hc hd h
        · exact (eq_of_entity_starts hd hc h).symm
      obtain rfl := (Prod.mk.inj hsame).1
      exact ⟨rfl, List.append_cancel_left heq⟩
    · rw [hd'] at heq
      exact absurd heq (hdiffer hc hd)
  · rcases entityOf_cases apostrophe d with hd | ⟨hd, hd'⟩
    · rw [hc'] at heq
      exact absurd heq.symm (hdiffer hd hc)
    · rw [hc', hd'] at heq
      exact List.cons.inj heq

/-- An escaped text can be read off up to a markup character that is no ampersand. -/
theorem prefixFree_escape (apostrophe : ApostropheSpelling) (stop : Char)
    (hmarkup : stop ∈ markupCharacters) (hne : stop ≠ '&') :
    PrefixFree fun s : String => (escapeMarkupWith apostrophe s).toList ++ [stop] := by
  have hstop : ∀ c s t, entityOf apostrophe c ++ s ≠ [stop] ++ t := by
    intro c s t heq
    have hfirst : stop ∈ entityOf apostrophe c := by
      cases hwritten : entityOf apostrophe c with
      | nil => exact absurd hwritten (entityOf_ne_nil c)
      | cons first rest =>
          rw [hwritten] at heq
          rw [(List.cons.inj heq).1]
          exact List.mem_cons_self
    exact hne (eq_ampersand_of_mem_entityOf hfirst hmarkup)
  intro s other rest rest' heq
  simp only [toList_escapeMarkupWith] at heq
  obtain ⟨hsame, hrest⟩ := (prefixFree_entityOf apostrophe).list hstop heq
  exact ⟨String.toList_inj.1 hsame, hrest⟩

theorem escapeMarkupWith_injective (apostrophe : ApostropheSpelling) :
    Function.Injective (escapeMarkupWith apostrophe) := by
  have hread := prefixFree_escape apostrophe '<' (by decide) (by decide)
  intro s other heq
  apply hread.injective
  simp only [heq]

/-! ## From one spelling to the other -/

/-- A text with every occurrence of a word replaced, from left to right. The word is not empty. -/
def replaceWord (word replacement : List Char) : List Char → List Char
  | [] => []
  | c :: cs =>
    if word <+: c :: cs then
      replacement ++ replaceWord word replacement (cs.drop (word.length - 1))
    else c :: replaceWord word replacement cs
termination_by cs => cs.length
decreasing_by
  · rw [List.length_drop, List.length_cons]
    omega
  · exact Nat.lt_add_one _

section

variable {first : Char} {others replacement : List Char}

theorem replaceWord_word (rest : List Char) :
    replaceWord (first :: others) replacement (first :: others ++ rest) =
      replacement ++ replaceWord (first :: others) replacement rest := by
  have hword : first :: others <+: first :: (others ++ rest) := List.prefix_append _ rest
  rw [List.cons_append, replaceWord, if_pos hword, List.length_cons, Nat.add_sub_cancel,
    List.drop_left]

theorem replaceWord_of_not_starts {rest : List Char} (h : ¬ others <+: rest) :
    replaceWord (first :: others) replacement (first :: rest) =
      first :: replaceWord (first :: others) replacement rest := by
  rw [replaceWord, if_neg fun hword => h (List.cons_prefix_cons.1 hword).2]

theorem replaceWord_append {front : List Char} (h : first ∉ front) (rest : List Char) :
    replaceWord (first :: others) replacement (front ++ rest) =
      front ++ replaceWord (first :: others) replacement rest := by
  induction front with
  | nil => rfl
  | cons c front ih =>
      rw [List.mem_cons, not_or] at h
      rw [List.cons_append, replaceWord, if_neg fun hword => h.1 (List.cons_prefix_cons.1 hword).1,
        ih h.2, List.cons_append]

end

/-- Only the apostrophe has two spellings. -/
theorem entityOf_of_ne {c : Char} (h : c ≠ '\'') :
    entityOf .decimal c = entityOf .hexadecimal c := by
  simp only [entityOf, if_neg h]

/-- The entity of the apostrophe is told from the others by the character behind the ampersand. -/
theorem not_starts_of_mem_entityTable {c : Char} {rest others : List Char}
    (h : (c, '&' :: rest) ∈ entityTable apostrophe) (hne : c ≠ '\'') (after : List Char) :
    ¬ '#' :: others <+: rest ++ after := by
  have hall : ∀ entry ∈ entityTable apostrophe, entry.1 ≠ '\'' →
      entry.2.tail ≠ [] ∧ '#' ∉ entry.2.tail := by
    cases apostrophe <;> decide
  obtain ⟨hnonempty, hnone⟩ := hall _ h hne
  cases rest with
  | nil => exact absurd rfl hnonempty
  | cons d rest =>
      intro hstarts
      rw [List.cons_append, List.cons_prefix_cons] at hstarts
      exact hnone (List.mem_cons.2 (.inl hstarts.1))

/-- Replacing the decimal entity of the apostrophe by the hexadecimal one leads from what is written
for a character in the one spelling to what is written for it in the other. -/
theorem replaceWord_entityOf (c : Char) (rest : List Char) :
    replaceWord decimal.entity hexadecimal.entity (entityOf .decimal c ++ rest) =
      entityOf .hexadecimal c ++ replaceWord decimal.entity hexadecimal.entity rest := by
  have hword : decimal.entity = '&' :: '#' :: ['0', '3', '9', ';'] := rfl
  rw [hword]
  -- Every entity starts like the word, so that the character behind the ampersand decides.
  by_cases hc : c = '\''
  · rw [hc]
    exact replaceWord_word rest
  · rw [← entityOf_of_ne hc]
    rcases entityOf_cases .decimal c with hentity | ⟨hother, heq⟩
    · obtain ⟨behind, heq, hbehind⟩ := eq_cons_of_mem_entityTable hentity
      rw [heq] at hentity ⊢
      have hampersand : '&' ∉ behind := fun hmem => hbehind '&' hmem (by decide)
      rw [List.cons_append,
        replaceWord_of_not_starts (not_starts_of_mem_entityTable hentity hc rest),
        replaceWord_append hampersand, List.cons_append]
    · rw [heq]
      apply replaceWord_append
      rw [List.mem_singleton]
      rintro rfl
      exact hother (by decide)

theorem replaceWord_escape (cs : List Char) :
    replaceWord decimal.entity hexadecimal.entity (cs.flatMap (entityOf .decimal)) =
      cs.flatMap (entityOf .hexadecimal) := by
  induction cs with
  | nil => rw [List.flatMap_nil, replaceWord, List.flatMap_nil]
  | cons c cs ih => rw [List.flatMap_cons, replaceWord_entityOf, ih, List.flatMap_cons]

/-! ## Escaped messages -/

/-- Escaping a message is sound and agrees with the escaping of pages. The replacements made one
after the other write each character on its own. The result has no markup character but ampersands,
and each of these starts an entity. No two messages are escaped alike. With the hexadecimal entity
of the apostrophe in the place of the decimal one the result is the text as pages escape it. -/
theorem escapeMessage_sound (s : String) :
    (escapeMessage s).toList = s.toList.flatMap (entityOf .decimal) ∧
      ('<' ∉ (escapeMessage s).toList ∧ '>' ∉ (escapeMessage s).toList ∧
        '"' ∉ (escapeMessage s).toList ∧ '\'' ∉ (escapeMessage s).toList) ∧
      (∀ before after, (escapeMessage s).toList = before ++ '&' :: after →
        ∃ entity ∈ ["&amp;", "&lt;", "&gt;", "&quot;", "&#039;"],
          entity.toList <+: '&' :: after) ∧
      (∀ other, escapeMessage other = escapeMessage s → other = s) ∧
      replaceWord "&#039;".toList "&#x27;".toList (escapeMessage s).toList =
        (escapeMarkup s).toList := by
  refine ⟨toList_escapeMarkupWith _ s,
    ⟨markup_notMem_escape s (by decide) (by decide), markup_notMem_escape s (by decide) (by decide),
      markup_notMem_escape s (by decide) (by decide),
      markup_notMem_escape s (by decide) (by decide)⟩, ?_,
    fun other h => escapeMarkupWith_injective _ h, ?_⟩
  · intro before after h
    obtain ⟨entry, hentry, hstarts⟩ := exists_entity_of_ampersand h
    have hnamed : ∀ entry ∈ entityTable .decimal,
        ∃ entity ∈ ["&amp;", "&lt;", "&gt;", "&quot;", "&#039;"], entity.toList = entry.2 := by
      decide
    obtain ⟨entity, hentity, heq⟩ := hnamed entry hentry
    exact ⟨entity, hentity, heq ▸ hstarts⟩
  · have hdecimal : "&#039;".toList = decimal.entity := by decide
    have hhexadecimal : "&#x27;".toList = hexadecimal.entity := by decide
    rw [escapeMessage, toList_escapeMarkupWith, hdecimal, hhexadecimal, replaceWord_escape,
      escapeMarkup, toList_escapeMarkupWith]

/-- A message that looks escaped already: its ampersand is written as an entity, so that only the
apostrophe is spelled anew. -/
theorem escapeMessage_sound_entity :
    (escapeMessage "&#039;'").toList = [] ++ '&' :: "amp;#039;&#039;".toList ∧
      (∃ entity ∈ ["&amp;", "&lt;", "&gt;", "&quot;", "&#039;"],
        entity.toList <+: '&' :: "amp;#039;&#039;".toList) ∧
      escapeMessage "''" ≠ escapeMessage "&#039;'" ∧
      escapeMarkup "&#039;'" = "&amp;#039;&#x27;" := by
  obtain ⟨hchars, -, hampersand, hinjective, hspelling⟩ := escapeMessage_sound "&#039;'"
  have hescaped : (escapeMessage "&#039;'").toList = [] ++ '&' :: "amp;#039;&#039;".toList := by
    rw [hchars]
    decide
  refine ⟨hescaped, hampersand _ _ hescaped,
    fun heq => absurd (hinjective _ heq) (by decide), String.toList_inj.1 ?_⟩
  rw [← hspelling, hescaped]
  cbv

end GrammarWorkbench.Text
