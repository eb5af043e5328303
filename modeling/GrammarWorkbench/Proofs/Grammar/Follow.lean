import GrammarWorkbench.Proofs.Grammar.First

/-!
# FOLLOW sets and derivations

The FOLLOW set of a non-terminal holds the terminals that stand directly after it in what some
non-terminal derives, and `$` when what the start symbol derives can end in it (`FollowSolved`).

Every member has such a derivation: that is kept by every visit of a FOLLOW pass. For the converse,
what is handed to an occurrence of a symbol in a form (`Hands`) is followed along the derivation of
the form: a step hands on to the symbols of the right side what the left side was handed, and
between the two stand only symbols that can vanish.
-/

set_option autoImplicit false

namespace GrammarWorkbench.Grammar

variable {grammar : Grammar}

/-- The symbol can stand directly after the key: for `$`, what the start symbol derives can end in
the key; for any other, some non-terminal derives a form with the two side by side. -/
def CanFollow (grammar : Grammar) (key symbol : Symbol) : Prop :=
  if symbol = .endMark then ∃ before, grammar.Derives [grammar.start] (before ++ [key])
  else ∃ origin ∈ grammar.nonTerminals, ∃ before after,
    grammar.Derives [origin] (before ++ key :: symbol :: after)

namespace CanFollow

theorem endMark_iff {key : Symbol} :
    grammar.CanFollow key .endMark ↔
      ∃ before, grammar.Derives [grammar.start] (before ++ [key]) := by
  rw [CanFollow, if_pos rfl]

theorem iff_of_ne {key symbol : Symbol} (hne : symbol ≠ .endMark) :
    grammar.CanFollow key symbol ↔ ∃ origin ∈ grammar.nonTerminals, ∃ before after,
      grammar.Derives [origin] (before ++ key :: symbol :: after) := by
  rw [CanFollow, if_neg hne]

/-- What can follow a symbol can follow the last symbol of what it derives. -/
theorem of_derives {key last symbol : Symbol} {front : List Symbol}
    (hfollow : grammar.CanFollow key symbol) (h : grammar.Derives [key] (front ++ [last])) :
    grammar.CanFollow last symbol := by
  by_cases heq : symbol = .endMark
  · subst heq
    rw [endMark_iff] at hfollow ⊢
    obtain ⟨before, hbefore⟩ := hfollow
    refine ⟨before ++ front, hbefore.trans ?_⟩
    simpa using h.context before []
  · rw [iff_of_ne heq] at hfollow ⊢
    obtain ⟨origin, horigin, before, after, hbefore⟩ := hfollow
    refine ⟨origin, horigin, before ++ front, after, hbefore.trans ?_⟩
    simpa using h.context before (symbol :: after)

end CanFollow

/-! ## Occurrences of non-terminals -/

theorem Production.mem_occurrencesIn {symbols after : List Symbol} {key : Symbol} :
    (key, after) ∈ occurrencesIn symbols ↔
      key.isTerminal = false ∧ ∃ before, symbols = before ++ key :: after := by
  induction symbols with
  | nil => simp [occurrencesIn]
  | cons head rest ih =>
      have hcons : (∃ before, head :: rest = before ++ key :: after) ↔
          (key = head ∧ after = rest) ∨ ∃ before, rest = before ++ key :: after := by
        constructor
        · rintro ⟨before, hbefore⟩
          cases before with
          | nil =>
              rw [List.nil_append, List.cons.injEq] at hbefore
              exact Or.inl ⟨hbefore.1.symm, hbefore.2.symm⟩
          | cons first before =>
              rw [List.cons_append, List.cons.injEq] at hbefore
              exact Or.inr ⟨before, hbefore.2⟩
        · rintro (⟨rfl, rfl⟩ | ⟨before, rfl⟩)
          · exact ⟨[], rfl⟩
          · exact ⟨head :: before, rfl⟩
      -- A non-terminal at the head is an occurrence of its own, a terminal is passed over.
      rw [hcons, occurrencesIn]
      cases hkind : head.isTerminal with
      | true =>
          simp only [Symbol.isNonTerminal, hkind, Bool.not_true, Bool.false_eq_true, if_false, ih]
          constructor
          · exact And.imp_right Or.inr
          · rintro ⟨hkey, ⟨rfl, -⟩ | hrest⟩
            · rw [hkind] at hkey
              exact absurd hkey (by simp)
            · exact ⟨hkey, hrest⟩
      | false =>
          simp only [Symbol.isNonTerminal, hkind, Bool.not_false, if_true, List.mem_cons,
            Prod.mk.injEq, ih]
          constructor
          · rintro (⟨rfl, rfl⟩ | ⟨hkey, hrest⟩)
            · exact ⟨hkind, Or.inl ⟨rfl, rfl⟩⟩
            · exact ⟨hkey, Or.inr hrest⟩
          · rintro ⟨hkey, hhead | hrest⟩
            · exact Or.inl hhead
            · exact Or.inr ⟨hkey, hrest⟩

/-- In a well-sorted grammar every non-terminal on a right side is declared as one. -/
theorem mem_nonTerminals_of_mem_occurrences (hsorted : grammar.WellSorted)
    {production : Production} (hproduction : production ∈ grammar.productions) {key : Symbol}
    {after : List Symbol} (h : (key, after) ∈ production.occurrences) :
    key ∈ grammar.nonTerminals := by
  obtain ⟨hkind, before, hrhs⟩ := Production.mem_occurrencesIn.1 h
  have hmem : key ∈ production.rhs := by
    rw [hrhs]
    exact List.mem_append_right before List.mem_cons_self
  exact hsorted.mem_nonTerminals ((grammar.declared production hproduction).2 key hmem).2.2 hkind

/-! ## What the passes keep -/

/-- Every member of a set can follow its key. -/
def FollowSound (grammar : Grammar) (follow : SetMap) : Prop :=
  ∀ key symbol, symbol ∈ follow.members key → grammar.CanFollow key symbol

/-- What a visit adds to the set of an occurrence: the starts of what comes after it, and if that
can vanish, the set of the left side. -/
theorem visitOccurrence_sets {first : SetMap} {pass : Pass} (hagrees : pass.cache.Agrees first)
    (lhs key : Symbol) (after : List Symbol) :
    ∃ more, (pass.visitOccurrence first lhs (key, after)).sets = pass.sets.add key more ∧
      ∀ symbol, symbol ∈ more ↔
        symbol ∈ firstOfSequence first after ∧ symbol ≠ .epsilon ∨
          .epsilon ∈ firstOfSequence first after ∧ symbol ∈ pass.sets.members lhs := by
  simp only [Pass.visitOccurrence, Pass.visitOccurrenceBy, hagrees.request_fst]
  split
  · rename_i hvanishes
    refine ⟨_, SetMap.add_add _ _ _ _, ?_⟩
    intro symbol
    rw [List.mem_append, mem_withoutEpsilon, SetMap.mem_members_add, mem_withoutEpsilon]
    -- If the occurrence is of the left side, its set has grown already; that adds nothing new.
    tauto
  · rename_i hvanishes
    exact ⟨_, rfl, fun symbol => by simp [hvanishes]⟩

theorem visitOccurrence_extends {first : SetMap} {pass : Pass} (hnodup : pass.sets.keys.Nodup)
    (hagrees : pass.cache.Agrees first) (lhs : Symbol) (occurrence : Symbol × List Symbol) :
    pass.Extends (pass.visitOccurrence first lhs occurrence) := by
  obtain ⟨more, hsets, -⟩ := visitOccurrence_sets hagrees lhs occurrence.1 occurrence.2
  exact .of_add hnodup hsets rfl

/-- The symbols after an occurrence on a right side are no `ε` and no `$`. -/
theorem notMem_after {production : Production} (hproduction : production ∈ grammar.productions)
    {before after : List Symbol} {key : Symbol} (hrhs : production.rhs = before ++ key :: after) :
    .epsilon ∉ after ∧ .endMark ∉ after := by
  have hepsilon := epsilon_notMem_rhs hproduction
  have hendMark := endMark_notMem_rhs hproduction
  rw [hrhs] at hepsilon hendMark
  exact ⟨fun hmem => hepsilon (by simp [hmem]), fun hmem => hendMark (by simp [hmem])⟩

/-- What the symbols after an occurrence can start with can follow the occurrence. -/
theorem canFollow_of_start {first : SetMap} (hfirst : FirstSolved grammar first)
    {production : Production} (hproduction : production ∈ grammar.productions)
    {before after : List Symbol} {key symbol : Symbol}
    (hrhs : production.rhs = before ++ key :: after)
    (hmem : symbol ∈ firstOfSequence first after) (hne : symbol ≠ .epsilon) :
    grammar.CanFollow key symbol := by
  obtain ⟨hepsilon, hendMark⟩ := notMem_after hproduction hrhs
  obtain ⟨rest, hrest⟩ := (CanStart.iff_of_ne hne).1 (hfirst.sound.canStart hepsilon hmem)
  have hreached := hrest.notMem (fun _ => endMark_notMem_rhs) hendMark
  rw [List.mem_cons, not_or] at hreached
  refine (CanFollow.iff_of_ne (Ne.symm hreached.1)).2
    ⟨production.lhs, lhs_mem hproduction, before, rest, .of_production hproduction ?_⟩
  rw [hrhs]
  simpa using hrest.context (before ++ [key]) []

/-- If the symbols after an occurrence can vanish, what can follow the left side can follow the
occurrence. -/
theorem canFollow_of_vanish {first : SetMap} (hfirst : FirstSolved grammar first)
    {production : Production} (hproduction : production ∈ grammar.productions)
    {before after : List Symbol} {key symbol : Symbol}
    (hrhs : production.rhs = before ++ key :: after)
    (hvanishes : .epsilon ∈ firstOfSequence first after)
    (hfollow : grammar.CanFollow production.lhs symbol) : grammar.CanFollow key symbol := by
  obtain ⟨hepsilon, -⟩ := notMem_after hproduction hrhs
  have hempty := CanStart.epsilon_iff.1 (hfirst.sound.canStart hepsilon hvanishes)
  have hlast : grammar.Derives [production.lhs] (before ++ [key]) := by
    apply Derives.of_production hproduction
    rw [hrhs]
    simpa using hempty.context (before ++ [key]) []
  exact hfollow.of_derives hlast

/-- What every visit of a FOLLOW pass keeps. -/
structure FollowInvariant (grammar : Grammar) (first sets : SetMap) (cache : SequenceCache) :
    Prop where
  isOver : sets.IsOver grammar
  agrees : cache.Agrees first
  sound : FollowSound grammar sets
  endMark : .endMark ∈ sets.members grammar.start

theorem maintains_visitOccurrence {first : SetMap} (hsorted : grammar.WellSorted)
    (hfirst : FirstSolved grammar first) {production : Production}
    (hproduction : production ∈ grammar.productions) :
    Pass.Maintains (FollowInvariant grammar first)
      (Pass.visitOccurrence first production.lhs) production.occurrences := by
  rintro ⟨key, after⟩ hoccurrence pass hinv
  obtain ⟨-, before, hrhs⟩ := Production.mem_occurrencesIn.1 hoccurrence
  obtain ⟨more, hsets, hmore⟩ := visitOccurrence_sets hinv.agrees production.lhs key after
  have hextends := visitOccurrence_extends hinv.isOver.keys_nodup hinv.agrees production.lhs
    (key, after)
  refine ⟨⟨?_, hinv.agrees.request_snd after, ?_, hextends.members hinv.endMark⟩, hextends⟩
  · rw [hsets]
    apply hinv.isOver.add key
    intro symbol hsymbol
    rcases (hmore symbol).1 hsymbol with ⟨hstart, -⟩ | ⟨-, hold⟩
    · refine firstOfSequence_subset hfirst.isOver ?_ hstart
      intro other hother
      exact rhs_mem_terminals hsorted hproduction (by simp [hrhs, hother])
    · exact hinv.isOver.mem_terminals hold
  · rw [hsets]
    intro other symbol hsymbol
    rcases SetMap.mem_members_add.1 hsymbol with hold | ⟨rfl, -, hnew⟩
    · exact hinv.sound other symbol hold
    · rcases (hmore symbol).1 hnew with ⟨hstart, hne⟩ | ⟨hvanishes, hlhs⟩
      · exact canFollow_of_start hfirst hproduction hrhs hstart hne
      · exact canFollow_of_vanish hfirst hproduction hrhs hvanishes (hinv.sound _ _ hlhs)

theorem maintains_visitFollow {first : SetMap} (hsorted : grammar.WellSorted)
    (hfirst : FirstSolved grammar first) :
    Pass.Maintains (FollowInvariant grammar first) (Pass.visitFollow first)
      grammar.productions :=
  fun _ hproduction pass hinv =>
    (maintains_visitOccurrence hsorted hfirst hproduction).foldl pass hinv

/-! ## What an occurrence is handed -/

/-- An occurrence of the key with some symbols after it is handed the starts of these symbols, and
if they can vanish, the set of the origin. -/
structure Hands (first follow : SetMap) (origin key : Symbol) (after : List Symbol) : Prop where
  starts : ∀ symbol, symbol ∈ firstOfSequence first after → symbol ≠ .epsilon →
    symbol ∈ follow.members key
  inherits : .epsilon ∈ firstOfSequence first after →
    ∀ symbol, symbol ∈ follow.members origin → symbol ∈ follow.members key

namespace Hands

variable {first follow : SetMap} {origin middle key : Symbol} {after inner : List Symbol}

theorem refl (origin : Symbol) : Hands first follow origin origin [] := by
  constructor
  · intro symbol hmem hne
    exact absurd (mem_firstOfSequence_nil.1 hmem) hne
  · intro _ symbol hsymbol
    exact hsymbol

/-- Symbols that can start with less hand over less. -/
theorem mono {other : List Symbol} (h : Hands first follow origin key after)
    (hsubset : ∀ symbol, symbol ∈ firstOfSequence first other →
      symbol ∈ firstOfSequence first after) : Hands first follow origin key other := by
  constructor
  · intro symbol hmem
    exact h.starts symbol (hsubset symbol hmem)
  · intro hmem
    exact h.inherits (hsubset .epsilon hmem)

/-- What is handed to a symbol is handed on to the symbols that it is replaced by. -/
theorem trans (h : Hands first follow origin middle after)
    (h' : Hands first follow middle key inner) :
    Hands first follow origin key (inner ++ after) := by
  constructor
  · intro symbol hmem hne
    rcases mem_firstOfSequence_append.1 hmem with ⟨hinner, -⟩ | ⟨hvanishes, hafter⟩
    · exact h'.starts symbol hinner hne
    · exact h'.inherits hvanishes symbol (h.starts symbol hafter hne)
  · intro hmem symbol hsymbol
    rcases mem_firstOfSequence_append.1 hmem with ⟨-, hne⟩ | ⟨hvanishes, hafter⟩
    · exact absurd rfl hne
    · exact h'.inherits hvanishes symbol (h.inherits hafter symbol hsymbol)

end Hands

/-! ## The sets that the passes end with -/

/-- FOLLOW sets that are sound and closed: every occurrence on a right side has what it is handed
by the left side. -/
structure FollowSolved (grammar : Grammar) (first follow : SetMap) : Prop where
  isOver : follow.IsOver grammar
  sound : FollowSound grammar follow
  endMark : .endMark ∈ follow.members grammar.start
  closed : ∀ production ∈ grammar.productions, ∀ before key after,
    production.rhs = before ++ key :: after → key.isTerminal = false →
      Hands first follow production.lhs key after

theorem followStart_invariant {first : SetMap} {cache : SequenceCache}
    (hagrees : cache.Agrees first) :
    FollowInvariant grammar first (followStart grammar) cache := by
  have hkeys : grammar.start ∈ (SetMap.empty grammar.nonTerminals).keys := by
    rw [SetMap.keys_empty]
    exact grammar.start_mem
  refine ⟨(SetMap.IsOver.empty grammar).add _ (by simpa using grammar.endMark_mem), hagrees, ?_,
    SetMap.mem_members_add.2 (Or.inr ⟨rfl, hkeys, by simp⟩)⟩
  intro key symbol hsymbol
  rcases SetMap.mem_members_add.1 hsymbol with hold | ⟨rfl, -, hnew⟩
  · simp at hold
  · rw [List.mem_singleton.1 hnew, CanFollow.endMark_iff]
    exact ⟨[], .refl⟩

/-- Sets that every visit left alone hold what is handed to each occurrence on a right side. -/
theorem hands_of_closed {first follow : SetMap} (hsorted : grammar.WellSorted)
    (hfirst : FirstSolved grammar first) (hover : follow.IsOver grammar)
    (hclosed : Pass.Closed (FollowInvariant grammar first) (Pass.visitFollow first)
      grammar.productions follow)
    {production : Production} (hproduction : production ∈ grammar.productions)
    {before after : List Symbol} {key : Symbol} (hrhs : production.rhs = before ++ key :: after)
    (hkey : key.isTerminal = false) : Hands first follow production.lhs key after := by
  -- The last visit to the production, and in it the one to the occurrence, saw the final sets.
  obtain ⟨pass, hpass, hinv, hsame⟩ := hclosed production hproduction
  have hoccurrence := Production.mem_occurrencesIn.2 ⟨hkey, before, hrhs⟩
  obtain ⟨pass', hpass', hinv', hsame'⟩ := (maintains_visitOccurrence hsorted hfirst
    hproduction).closed pass hinv (hsame.trans hpass.symm) (key, after) hoccurrence
  obtain ⟨more, hsets, hmore⟩ := visitOccurrence_sets hinv'.agrees production.lhs key after
  rw [hsets, hpass', hpass] at hsame'
  rw [hpass', hpass] at hmore
  have hkeys : key ∈ follow.keys := by
    rw [hover.keys]
    exact mem_nonTerminals_of_mem_occurrences hsorted hproduction hoccurrence
  have hadded : ∀ symbol ∈ more, symbol ∈ follow.members key := by
    intro symbol hsymbol
    rw [← hsame']
    exact SetMap.mem_members_add.2 (Or.inr ⟨rfl, hkeys, hsymbol⟩)
  constructor
  · intro symbol hmem hne
    exact hadded symbol ((hmore symbol).2 (Or.inl ⟨hmem, hne⟩))
  · intro hvanishes symbol hlhs
    exact hadded symbol ((hmore symbol).2 (Or.inr ⟨hvanishes, hlhs⟩))

/-- The FOLLOW passes end with solved sets and leave the cache in agreement with the FIRST sets. -/
theorem followProgress_solved {first : SetMap} {cache : SequenceCache}
    (hsorted : grammar.WellSorted) (hfirst : FirstSolved grammar first)
    (hagrees : cache.Agrees first) (record : Bool) :
    FollowSolved grammar first (followProgress grammar record first cache).sets ∧
      (followProgress grammar record first cache).cache.Agrees first := by
  obtain ⟨hinv, hclosed⟩ := Progress.settle_spec (maintains_visitFollow hsorted hfirst)
    (fun sets cache hinv => hinv.isOver.size_le) record (passBound grammar)
    { sets := followStart grammar, cache } (followStart_invariant hagrees)
    (Nat.lt_add_left _ (lt_passBound grammar))
  refine ⟨⟨hinv.isOver, hinv.sound, hinv.endMark, ?_⟩, hinv.agrees⟩
  intro production hproduction before key after hrhs hkey
  exact hands_of_closed hsorted hfirst hinv.isOver hclosed hproduction hrhs hkey

/-- An element of two lists side by side stands in the left one or in the right one. -/
theorem append_eq_append_cons {left right before after : List Symbol} {key : Symbol}
    (h : left ++ right = before ++ key :: after) :
    (∃ inner, left = before ++ key :: inner ∧ after = inner ++ right) ∨
      ∃ inner, before = left ++ inner ∧ right = inner ++ key :: after := by
  rcases List.append_eq_append_iff.1 h with hright | ⟨inner, hleft, hinner⟩
  · exact Or.inr hright
  · cases inner with
    | nil => exact Or.inr ⟨[], by simpa using hleft.symm, hinner.symm⟩
    | cons head inner =>
        rw [List.cons_append, List.cons.injEq] at hinner
        obtain ⟨rfl, rfl⟩ := hinner
        exact Or.inl ⟨inner, hleft, rfl⟩

namespace FollowSolved

variable {first follow : SetMap}

/-- Along a derivation every occurrence of a non-terminal has what it is handed by the origin. -/
theorem hands (hsorted : grammar.WellSorted) (hfirst : FirstSolved grammar first)
    (hfollow : FollowSolved grammar first follow) {origin : Symbol} {form : List Symbol}
    (h : grammar.Derives [origin] form) {before after : List Symbol} {key : Symbol}
    (hform : form = before ++ key :: after) (hkey : key.isTerminal = false) :
    Hands first follow origin key after := by
  -- Induction on the steps from the origin on; the occurrence in the form is arbitrary, since the
  -- last step may have brought it in or moved what stands after it.
  induction h generalizing before key after with
  | refl =>
      rcases List.append_eq_singleton_iff.1 hform.symm with ⟨rfl, hsingle⟩ | ⟨-, hsingle⟩
      · rw [List.cons.injEq] at hsingle
        obtain ⟨rfl, rfl⟩ := hsingle
        exact .refl key
      · exact absurd hsingle (List.cons_ne_nil key after)
  | tail _ hstep ih =>
      obtain ⟨production, hproduction, left, right, rfl, rfl⟩ := hstep
      have hlhs := hsorted.isTerminal_eq_false (lhs_mem hproduction)
      rw [List.append_assoc] at hform
      -- The occurrence stands before the replaced left side, on the right side, or after it.
      rcases append_eq_append_cons hform with ⟨inner, rfl, rfl⟩ | ⟨inner, -, hrest⟩
      · have hold : Hands first follow origin key (inner ++ production.lhs :: right) :=
          ih (List.append_assoc _ _ _) hkey
        apply hold.mono
        intro symbol
        apply hfirst.mem_of_step hsorted
        exact ⟨production, hproduction, inner, right, rfl, (List.append_assoc _ _ _).symm⟩
      · rcases append_eq_append_cons hrest with ⟨inner', hrhs, rfl⟩ | ⟨inner', -, rfl⟩
        · exact (ih rfl hlhs).trans (hfollow.closed production hproduction _ _ _ hrhs hkey)
        · have hafter : left ++ production.lhs :: (inner' ++ key :: after) =
              (left ++ production.lhs :: inner') ++ key :: after := by simp
          exact ih hafter hkey

/-- Solved FOLLOW sets hold exactly what the derivations say. -/
theorem mem_members_iff (hsorted : grammar.WellSorted) (hfirst : FirstSolved grammar first)
    (hfollow : FollowSolved grammar first follow) {key symbol : Symbol}
    (hkey : key ∈ grammar.nonTerminals) :
    symbol ∈ follow.members key ↔ symbol.isTerminal = true ∧ grammar.CanFollow key symbol := by
  have hkind := hsorted.isTerminal_eq_false hkey
  constructor
  · intro hmem
    exact ⟨hsorted.2 symbol (hfollow.isOver.mem_terminals hmem), hfollow.sound key symbol hmem⟩
  · rintro ⟨hterminal, hcan⟩
    by_cases heq : symbol = .endMark
    · subst heq
      obtain ⟨before, hbefore⟩ := CanFollow.endMark_iff.1 hcan
      have hhands := hfollow.hands hsorted hfirst hbefore rfl hkind
      exact hhands.inherits (mem_firstOfSequence_nil.2 rfl) _ hfollow.endMark
    · obtain ⟨origin, horigin, before, after, hderives⟩ := (CanFollow.iff_of_ne heq).1 hcan
      have hhands := hfollow.hands hsorted hfirst hderives rfl hkind
      have hform := hderives.notMem (fun _ => epsilon_notMem_rhs)
        (by simpa using (hsorted.ne_epsilon horigin).symm)
      have hne : symbol ≠ .epsilon := by
        rintro rfl
        exact hform (by simp)
      refine hhands.starts symbol ?_ hne
      rw [mem_firstOfSequence_cons, firstOfSymbol_of_isTerminal hterminal]
      exact Or.inl ⟨List.mem_singleton_self symbol, hne⟩

end FollowSolved

end GrammarWorkbench.Grammar
