import GrammarWorkbench.Grammar.Solution
import GrammarWorkbench.Proofs.Grammar.SetMap

/-!
# Passes up to a fixed point

A visit either leaves the sets and the mark of a pass as they are, or makes the sets larger and
sets the mark (`Pass.Extends`). What a single visit keeps, in the sense of `Pass.Maintains`, a
whole pass keeps, and so do repeated passes. As the sets cannot outgrow a limit, the repetition
ends with a pass that changes nothing before its bound is used up (`Progress.settle_last`): each
of its visits saw the final sets and left them alone (`Pass.Closed`). Whatever is known of the
result of repeated passes is derived from that last pass.
-/

set_option autoImplicit false

namespace GrammarWorkbench.Grammar

namespace Pass

/-! ## What a visit does to a pass -/

/-- How a pass goes on: no set loses a member, and either nothing changes or the sets get larger
and the pass is marked. -/
structure Extends (pass next : Pass) : Prop where
  members : ∀ {key symbol : Symbol}, symbol ∈ pass.sets.members key →
    symbol ∈ next.sets.members key
  change : next.sets = pass.sets ∧ next.grew = pass.grew ∨
    pass.sets.size < next.sets.size ∧ next.grew = true

namespace Extends

theorem refl (pass : Pass) : pass.Extends pass :=
  ⟨id, Or.inl ⟨rfl, rfl⟩⟩

theorem size_le {pass next : Pass} (h : pass.Extends next) : pass.sets.size ≤ next.sets.size := by
  rcases h.change with ⟨hsets, -⟩ | ⟨hlt, -⟩
  · exact Nat.le_of_eq (congrArg SetMap.size hsets.symm)
  · exact Nat.le_of_lt hlt

theorem trans {pass middle next : Pass} (h : pass.Extends middle) (h' : middle.Extends next) :
    pass.Extends next := by
  refine ⟨fun hmem => h'.members (h.members hmem), ?_⟩
  rcases h'.change with ⟨hsets, hgrew⟩ | ⟨hlt, hgrew⟩
  · rw [hsets, hgrew]
    exact h.change
  · exact Or.inr ⟨Nat.lt_of_le_of_lt h.size_le hlt, hgrew⟩

/-- A pass that ends unmarked has left the sets as they were. -/
theorem sets_eq {pass next : Pass} (h : pass.Extends next) (hgrew : next.grew = false) :
    next.sets = pass.sets := by
  rcases h.change with ⟨hsets, -⟩ | ⟨-, hmarked⟩
  · exact hsets
  · rw [hmarked] at hgrew
    exact absurd hgrew (by simp)

/-- A pass that begins unmarked and ends marked has made the sets larger. -/
theorem size_lt {pass next : Pass} (h : pass.Extends next) (hold : pass.grew = false)
    (hgrew : next.grew = true) : pass.sets.size < next.sets.size := by
  rcases h.change with ⟨-, hsame⟩ | ⟨hlt, -⟩
  · rw [hold, hgrew] at hsame
    exact absurd hsame (by simp)
  · exact hlt

/-- An addition to one set, with the mark set if that set grew. -/
theorem of_add {pass next : Pass} {key : Symbol} {more : List Symbol}
    (hnodup : pass.sets.keys.Nodup) (hsets : next.sets = pass.sets.add key more)
    (hgrew : next.grew = (pass.grew ||
      decide ((pass.sets.members key).length < (next.sets.members key).length))) :
    pass.Extends next := by
  constructor
  · intro other symbol hmem
    rw [hsets]
    exact SetMap.mem_members_add.2 (Or.inl hmem)
  · -- The mark looks at the set of the key only; as keys do not repeat, no other set grows.
    by_cases hlt : (pass.sets.members key).length < (next.sets.members key).length
    · rcases pass.sets.size_lt_or_add_eq key more with hsize | heq
      · exact Or.inr ⟨hsets ▸ hsize, by rw [hgrew, decide_eq_true hlt, Bool.or_true]⟩
      · rw [hsets, heq] at hlt
        exact absurd hlt (Nat.lt_irrefl _)
    · have hsame : next.sets = pass.sets := by
        rw [hsets] at hlt ⊢
        exact SetMap.add_eq_self hnodup (Nat.not_lt.1 hlt)
      exact Or.inl ⟨hsame, by rw [hgrew, decide_eq_false hlt, Bool.or_false]⟩

end Extends

/-! ## Whole passes -/

variable {Item : Type} {holds : SetMap → SequenceCache → Prop} {visit : Pass → Item → Pass}

/-- Visits to some items keep a property of the sets and the cache, and extend the pass. -/
def Maintains (holds : SetMap → SequenceCache → Prop) (visit : Pass → Item → Pass)
    (items : List Item) : Prop :=
  ∀ item ∈ items, ∀ pass : Pass, holds pass.sets pass.cache →
    holds (visit pass item).sets (visit pass item).cache ∧ pass.Extends (visit pass item)

theorem Maintains.foldl {items : List Item} (h : Maintains holds visit items) (pass : Pass)
    (hpass : holds pass.sets pass.cache) :
    holds (items.foldl visit pass).sets (items.foldl visit pass).cache ∧
      pass.Extends (items.foldl visit pass) := by
  induction items generalizing pass with
  | nil => exact ⟨hpass, .refl pass⟩
  | cons item items ih =>
      obtain ⟨hnext, hextends⟩ := h item List.mem_cons_self pass hpass
      obtain ⟨hlast, hrest⟩ :=
        ih (fun other hother => h other (List.mem_cons_of_mem _ hother)) _ hnext
      exact ⟨hlast, hextends.trans hrest⟩

/-- Sets that a visit to any of the items leaves as they are, in a pass with the property. -/
def Closed (holds : SetMap → SequenceCache → Prop) (visit : Pass → Item → Pass)
    (items : List Item) (sets : SetMap) : Prop :=
  ∀ item ∈ items, ∃ before : Pass,
    before.sets = sets ∧ holds before.sets before.cache ∧ (visit before item).sets = sets

/-- A pass that changes nothing in the end has changed nothing in any of its visits. -/
theorem Maintains.closed {items : List Item} (h : Maintains holds visit items) (pass : Pass)
    (hpass : holds pass.sets pass.cache) (hsame : (items.foldl visit pass).sets = pass.sets) :
    Closed holds visit items pass.sets := by
  induction items generalizing pass with
  | nil => simp [Closed]
  | cons item items ih =>
      have hrest : Maintains holds visit items := fun other hother =>
        h other (List.mem_cons_of_mem _ hother)
      obtain ⟨hnext, hextends⟩ := h item List.mem_cons_self pass hpass
      -- Sets that grew in one visit could not shrink again in the visits after it.
      have hsize := (hrest.foldl _ hnext).2.size_le
      rw [List.foldl_cons] at hsame
      rw [hsame] at hsize
      have hfirst : (visit pass item).sets = pass.sets := by
        rcases hextends.change with ⟨hsets, -⟩ | ⟨hlt, -⟩
        · exact hsets
        · exact absurd hlt (Nat.not_lt.2 hsize)
      intro other hother
      rcases List.mem_cons.1 hother with rfl | hother
      · exact ⟨pass, rfl, hpass, hfirst⟩
      · rw [← hfirst] at hsame ⊢
        exact ih hrest _ hnext hsame other hother

end Pass

/-! ## Repeated passes -/

namespace Progress

open Pass

variable {holds : SetMap → SequenceCache → Prop} {visit : Pass → Production → Pass}
  {productions : List Production}

/-- What one more pass leads to: the sets and the cache that it ends with, one more in the count of
passes, and the sets once more in the history if they are recorded. -/
theorem advance_eq {record : Bool} {progress next : Progress} {grew : Bool}
    (h : progress.advance visit productions record = (next, grew)) :
    productions.foldl visit ⟨progress.sets, progress.cache, false⟩ =
        ⟨next.sets, next.cache, grew⟩ ∧
      next.passes = progress.passes + 1 ∧
      next.history = if record then progress.history ++ [next.sets] else progress.history := by
  rw [advance, Prod.mk.injEq] at h
  obtain ⟨rfl, rfl⟩ := h
  exact ⟨rfl, rfl, rfl⟩

/-- One more pass keeps what a visit keeps, and no set loses a member in it. If a set grew in it,
the sets are larger; otherwise they are as before, and closed. -/
theorem advance_spec (hmaintains : Maintains holds visit productions) {record : Bool}
    {progress next : Progress} {grew : Bool} (hholds : holds progress.sets progress.cache)
    (hadvance : progress.advance visit productions record = (next, grew)) :
    holds next.sets next.cache ∧
      (∀ {key symbol : Symbol}, symbol ∈ progress.sets.members key →
        symbol ∈ next.sets.members key) ∧
      (grew = true → progress.sets.size < next.sets.size) ∧
      (grew = false → next.sets = progress.sets ∧ Closed holds visit productions next.sets) := by
  obtain ⟨hpass, -, -⟩ := advance_eq hadvance
  obtain ⟨hnext, hextends⟩ :=
    hmaintains.foldl ⟨progress.sets, progress.cache, false⟩ hholds
  rw [hpass] at hnext hextends
  refine ⟨hnext, hextends.members, fun hgrew => hextends.size_lt rfl hgrew, fun hgrew => ?_⟩
  have hsame : next.sets = progress.sets := hextends.sets_eq hgrew
  refine ⟨hsame, ?_⟩
  rw [hsame]
  apply hmaintains.closed ⟨progress.sets, progress.cache, false⟩ hholds
  rw [hpass]
  exact hsame

/-- Repeated passes with room for every member that the sets can get end with a pass in which no
set grows. Before it holds what a visit keeps, and whatever else is kept by a pass that goes on. -/
theorem settle_last (hmaintains : Maintains holds visit productions) {limit : Nat}
    (hlimit : ∀ sets cache, holds sets cache → sets.size ≤ limit) {record : Bool}
    (keeps : Progress → Prop)
    (hkeeps : ∀ progress next, holds progress.sets progress.cache → keeps progress →
      progress.advance visit productions record = (next, true) → keeps next)
    (bound : Nat) (progress : Progress) (hholds : holds progress.sets progress.cache)
    (hstart : keeps progress) (hroom : limit < progress.sets.size + bound) :
    ∃ last, holds last.sets last.cache ∧ keeps last ∧
      last.advance visit productions record =
        (settle visit productions record bound progress, false) := by
  induction bound generalizing progress with
  | zero => exact absurd (hlimit _ _ hholds) (Nat.not_le.2 hroom)
  | succ bound ih =>
      obtain ⟨⟨next, grew⟩, hadvance⟩ : ∃ result,
          progress.advance visit productions record = result := ⟨_, rfl⟩
      obtain ⟨hnext, -, hlarger, -⟩ := advance_spec hmaintains hholds hadvance
      rw [settle, hadvance]
      cases grew with
      | true =>
          -- A pass that goes on has used up room for at least one member.
          have hlt := hlarger rfl
          have hroom' : limit < next.sets.size + bound := by omega
          exact ih next hnext (hkeeps progress next hholds hstart hadvance) hroom'
      | false => exact ⟨progress, hholds, hstart, hadvance⟩

/-- Repeated passes with room for every member that the sets can get: they keep what a visit
keeps, and end with closed sets. -/
theorem settle_spec (hmaintains : Maintains holds visit productions) {limit : Nat}
    (hlimit : ∀ sets cache, holds sets cache → sets.size ≤ limit) (record : Bool) (bound : Nat)
    (progress : Progress) (hholds : holds progress.sets progress.cache)
    (hroom : limit < progress.sets.size + bound) :
    holds (settle visit productions record bound progress).sets
        (settle visit productions record bound progress).cache ∧
      Closed holds visit productions (settle visit productions record bound progress).sets := by
  obtain ⟨last, hlast, -, hadvance⟩ := settle_last hmaintains hlimit (fun _ => True)
    (fun _ _ _ _ _ => trivial) bound progress hholds trivial hroom
  obtain ⟨hholds', -, -, hclosed⟩ := advance_spec hmaintains hlast hadvance
  exact ⟨hholds', (hclosed rfl).2⟩

end Progress

/-! ## Room for the sets of a grammar -/

/-- A set map of a grammar: a set of terminals for each non-terminal. -/
structure SetMap.IsOver (sets : SetMap) (grammar : Grammar) : Prop where
  keys : sets.keys = grammar.nonTerminals
  nodup : ∀ entry ∈ sets, entry.2.Nodup
  subset : ∀ entry ∈ sets, entry.2 ⊆ grammar.terminals

namespace SetMap.IsOver

variable {grammar : Grammar} {sets : SetMap}

theorem empty (grammar : Grammar) : (SetMap.empty grammar.nonTerminals).IsOver grammar where
  keys := keys_empty _
  nodup := by simp [SetMap.empty]
  subset := by simp [SetMap.empty]

theorem keys_nodup (h : sets.IsOver grammar) : sets.keys.Nodup :=
  h.keys ▸ grammar.nodup_nonTerminals

theorem mem_terminals (h : sets.IsOver grammar) {key symbol : Symbol}
    (hmem : symbol ∈ sets.members key) : symbol ∈ grammar.terminals := by
  obtain ⟨set, hset, hsymbol⟩ := mem_of_mem_members hmem
  exact h.subset _ hset hsymbol

theorem members_nodup (h : sets.IsOver grammar) (key : Symbol) : (sets.members key).Nodup := by
  by_cases hkey : key ∈ sets.keys
  · obtain ⟨entry, hentry, rfl⟩ := List.mem_map.1 hkey
    rw [members_of_mem h.keys_nodup hentry]
    exact h.nodup entry hentry
  · rw [members_eq_nil hkey]
    exact List.nodup_nil

/-- Adding terminals gives a set map of the grammar again. -/
theorem add (h : sets.IsOver grammar) (key : Symbol) {more : List Symbol}
    (hmore : more ⊆ grammar.terminals) : (sets.add key more).IsOver grammar := by
  refine ⟨by rw [keys_add, h.keys], ?_, ?_⟩
  all_goals
    intro entry hentry
    obtain ⟨old, hold, rfl⟩ := List.mem_map.1 hentry
    split
  · exact nodup_union more (h.nodup old hold)
  · exact h.nodup old hold
  · intro symbol hsymbol
    rcases mem_union.1 hsymbol with hsymbol | hsymbol
    · exact h.subset old hold hsymbol
    · exact hmore hsymbol
  · exact h.subset old hold

theorem size_le (h : sets.IsOver grammar) :
    sets.size ≤ grammar.nonTerminals.length * grammar.terminals.length := by
  have hlength : sets.length = grammar.nonTerminals.length := by
    rw [← h.keys, SetMap.keys, List.length_map]
  rw [← hlength]
  apply SetMap.size_le
  intro entry hentry
  exact ⟨h.nodup entry hentry, h.subset entry hentry⟩

end SetMap.IsOver

/-- The bound on the number of passes leaves room for every member of every set. -/
theorem lt_passBound (grammar : Grammar) :
    grammar.nonTerminals.length * grammar.terminals.length < passBound grammar := by
  rw [passBound, Nat.mul_add]
  omega

end GrammarWorkbench.Grammar
