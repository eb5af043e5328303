import Mathlib.Data.List.Basic
import GrammarWorkbench.Grammar.SequenceCache

/-!
# FIRST of a sequence, asked for and worked out

Membership in the FIRST set of a sequence follows the sequence: it splits at every place
(`mem_firstOfSequence_append`), and occurrences of `ε` do not matter
(`mem_firstOfSequence_withoutEpsilon`). A cache agrees with the FIRST sets when each of its entries
is what would be worked out from them; then a request answers with the set of the sequence and
leaves a cache that agrees as well. Every request is counted once, and leaves its sequence among
those that the cache keeps.
-/

set_option autoImplicit false

namespace GrammarWorkbench.Grammar

variable {first : SetMap} {symbol : Symbol}

theorem firstOfSymbol_of_isTerminal (h : symbol.isTerminal = true) :
    firstOfSymbol first symbol = [symbol] :=
  if_pos h

theorem firstOfSymbol_of_isTerminal_eq_false (h : symbol.isTerminal = false) :
    firstOfSymbol first symbol = first.members symbol :=
  if_neg (by simp [h])

@[simp] theorem firstOfSymbol_epsilon : firstOfSymbol first .epsilon = [.epsilon] :=
  rfl

/-! ## Members of FIRST sets of sequences -/

@[simp] theorem mem_firstOfSequence_nil :
    symbol ∈ firstOfSequence first [] ↔ symbol = .epsilon := by
  simp [firstOfSequence]

theorem mem_firstOfSequence_cons {head : Symbol} {rest : List Symbol} :
    symbol ∈ firstOfSequence first (head :: rest) ↔
      symbol ∈ firstOfSymbol first head ∧ symbol ≠ .epsilon ∨
        .epsilon ∈ firstOfSymbol first head ∧ symbol ∈ firstOfSequence first rest := by
  rw [firstOfSequence]
  split
  · rename_i hvanishes
    simp [hvanishes]
  · rename_i hvanishes
    simp [hvanishes]

/-- The FIRST set of two sequences side by side: what the first one starts with, and if that can
vanish, what the second one starts with. -/
theorem mem_firstOfSequence_append {left right : List Symbol} :
    symbol ∈ firstOfSequence first (left ++ right) ↔
      symbol ∈ firstOfSequence first left ∧ symbol ≠ .epsilon ∨
        .epsilon ∈ firstOfSequence first left ∧ symbol ∈ firstOfSequence first right := by
  induction left with
  | nil => simp
  | cons head left ih =>
      rw [List.cons_append, mem_firstOfSequence_cons, mem_firstOfSequence_cons,
        mem_firstOfSequence_cons, ih]
      tauto

theorem mem_firstOfSequence_singleton {head : Symbol} :
    symbol ∈ firstOfSequence first [head] ↔ symbol ∈ firstOfSymbol first head := by
  rw [mem_firstOfSequence_cons, mem_firstOfSequence_nil]
  constructor
  · rintro (⟨hmem, -⟩ | ⟨hvanishes, rfl⟩)
    · exact hmem
    · exact hvanishes
  · intro hmem
    by_cases heq : symbol = .epsilon
    · exact Or.inr ⟨heq ▸ hmem, heq⟩
    · exact Or.inl ⟨hmem, heq⟩

/-- An occurrence of `ε` in a sequence stands for nothing. -/
theorem mem_firstOfSequence_withoutEpsilon {sequence : List Symbol} :
    symbol ∈ firstOfSequence first (withoutEpsilon sequence) ↔
      symbol ∈ firstOfSequence first sequence := by
  induction sequence with
  | nil => rfl
  | cons head rest ih =>
      by_cases heq : head = .epsilon
      · subst heq
        have hdrop : withoutEpsilon (.epsilon :: rest) = withoutEpsilon rest := by
          simp [withoutEpsilon]
        rw [hdrop, ih, mem_firstOfSequence_cons, firstOfSymbol_epsilon]
        simp
      · have hkeep : withoutEpsilon (head :: rest) = head :: withoutEpsilon rest := by
          simp [withoutEpsilon, heq]
        rw [hkeep, mem_firstOfSequence_cons, mem_firstOfSequence_cons, ih]

/-! ## The cache -/

namespace SequenceCache

/-- Every entry of the cache is what would be worked out from the FIRST sets. -/
def Agrees (cache : SequenceCache) (first : SetMap) : Prop :=
  ∀ entry ∈ cache.entries, entry.2 = firstOfSequence first entry.1

theorem agrees_of_entries_eq_nil {cache : SequenceCache} (h : cache.entries = []) :
    cache.Agrees first := by
  simp [Agrees, h]

theorem agrees_clear (cache : SequenceCache) : cache.clear.Agrees first :=
  agrees_of_entries_eq_nil rfl

/-- A cache that agrees with the FIRST sets answers a request with the FIRST set of the
sequence. -/
theorem Agrees.request_fst {cache : SequenceCache} (h : cache.Agrees first)
    (sequence : List Symbol) :
    (cache.request first sequence).1 = firstOfSequence first sequence := by
  rw [request]
  cases hfound : cache.find? sequence with
  | none => rfl
  | some set =>
      obtain ⟨before, after, hentries, -⟩ := List.lookup_eq_some_iff.1 hfound
      exact h (sequence, set) (by simp [hentries])

/-- Answering a request keeps the cache in agreement with the FIRST sets. -/
theorem Agrees.request_snd {cache : SequenceCache} (h : cache.Agrees first)
    (sequence : List Symbol) : (cache.request first sequence).2.Agrees first := by
  rw [request]
  cases cache.find? sequence with
  | some set => exact h
  | none =>
      intro entry hentry
      rcases List.mem_append.1 hentry with hold | hnew
      · exact h entry hold
      · rw [List.mem_singleton.1 hnew]

/-! ## What the cache holds and counts -/

/-- The sequences whose sets are kept. -/
def sequences (cache : SequenceCache) : List (List Symbol) :=
  cache.entries.map Prod.fst

/-- The number of requests so far. -/
def requests (cache : SequenceCache) : Nat :=
  cache.hits + cache.misses

@[simp] theorem sequences_clear (cache : SequenceCache) : cache.clear.sequences = [] :=
  rfl

@[simp] theorem requests_clear (cache : SequenceCache) : cache.clear.requests = cache.requests :=
  rfl

/-- A set is found for exactly the sequences that are kept. -/
theorem find?_eq_none_iff {cache : SequenceCache} {sequence : List Symbol} :
    cache.find? sequence = none ↔ sequence ∉ cache.sequences := by
  simp only [find?, sequences, List.lookup_eq_none_iff, List.mem_map, not_exists, not_and,
    bne_iff_ne, ne_comm, ne_eq]

/-- A request for a sequence that is kept is counted as answered, and nothing else changes. -/
theorem request_of_mem {cache : SequenceCache} {sequence : List Symbol}
    (h : sequence ∈ cache.sequences) :
    (cache.request first sequence).2 = { cache with hits := cache.hits + 1 } := by
  rw [request]
  cases hfound : cache.find? sequence with
  | none => exact absurd h (find?_eq_none_iff.1 hfound)
  | some set => rfl

/-- The set of a sequence that is not kept yet is worked out, kept and counted. -/
theorem request_of_notMem {cache : SequenceCache} {sequence : List Symbol}
    (h : sequence ∉ cache.sequences) :
    cache.request first sequence =
      (firstOfSequence first sequence,
        { cache with
          entries := cache.entries ++ [(sequence, firstOfSequence first sequence)]
          misses := cache.misses + 1 }) := by
  rw [request, find?_eq_none_iff.2 h]

/-- The sequences after a request: the requested one has come last if it was new. -/
theorem sequences_request (cache : SequenceCache) (first : SetMap) (sequence : List Symbol) :
    (cache.request first sequence).2.sequences =
      if sequence ∈ cache.sequences then cache.sequences else cache.sequences ++ [sequence] := by
  split
  · rename_i h
    rw [request_of_mem h, sequences, sequences]
  · rename_i h
    rw [request_of_notMem h, sequences, List.map_append, sequences]
    rfl

@[simp] theorem mem_sequences_request {cache : SequenceCache} {sequence other : List Symbol} :
    other ∈ (cache.request first sequence).2.sequences ↔
      other ∈ cache.sequences ∨ other = sequence := by
  rw [sequences_request]
  split
  · rename_i h
    constructor
    · exact Or.inl
    · rintro (hmem | rfl)
      · exact hmem
      · exact h
  · rw [List.mem_append, List.mem_singleton]

theorem nodup_sequences_request {cache : SequenceCache} (h : cache.sequences.Nodup)
    (sequence : List Symbol) : (cache.request first sequence).2.sequences.Nodup := by
  rw [sequences_request]
  split
  · exact h
  · rename_i hnew
    rw [List.nodup_append]
    exact ⟨h, by simp, by grind⟩

@[simp] theorem requests_request (cache : SequenceCache) (sequence : List Symbol) :
    (cache.request first sequence).2.requests = cache.requests + 1 := by
  by_cases h : sequence ∈ cache.sequences
  · rw [request_of_mem h]
    exact Nat.add_right_comm cache.hits 1 cache.misses
  · rw [request_of_notMem h]
    rfl

end SequenceCache

end GrammarWorkbench.Grammar
