import GrammarWorkbench.Proofs.Grammar.Transparency

/-!
# Questions do not disturb each other

The answers to questions asked one after another are those that the solution gives to each of them
alone (`Solution.answersBy_eq_map`), since a question changes nothing but the cache, and the cache
goes on to agree with the FIRST sets.

What a question does to the cache depends on the question alone: one that fails, and any question
about a symbol, leaves it as it is, and an answered one about a sequence is one request for the
symbols that the sequence resolves to. All of this holds after any questions before
(`questions_independent`).
-/

set_option autoImplicit false

namespace GrammarWorkbench.Grammar

namespace Solution

variable {solution other later next : Solution}

/-! ## Answers -/

/-- Without the cache a question changes nothing. -/
theorem answerBy_uncached_snd (solution : Solution) (question : Question) :
    (solution.answerBy .uncached question).2 = solution := by
  cases question with
  | first reference => rfl
  | follow reference => rfl
  | sequence references =>
      cases hsymbols : references.mapM solution.resolve with
      | error failure => rw [answerBy_of_unresolved _ hsymbols]
      | ok symbols =>
          rw [answerBy_of_resolved _ hsymbols]
          rfl

theorem Matches.refl (solution : Solution) : solution.Matches solution :=
  ⟨rfl, rfl, rfl, rfl, rfl, rfl, rfl⟩

/-- Solutions that match answer a question alike if their caches agree with the FIRST sets, whatever
these caches hold; and after the question they match as before. -/
theorem Matches.answer_cached (h : solution.Matches other)
    (hagrees : solution.cache.Agrees solution.first) (hagrees' : other.cache.Agrees other.first)
    (question : Question) :
    (solution.answerBy .cached question).1 = (other.answerBy .cached question).1 ∧
      (solution.answerBy .cached question).2.Matches other ∧
      (solution.answerBy .cached question).2.cache.Agrees
        (solution.answerBy .cached question).2.first := by
  obtain ⟨hanswer, hnext, hcache⟩ := h.answer hagrees question
  obtain ⟨hother, -, -⟩ := (Matches.refl other).answer hagrees' question
  rw [answerBy_uncached_snd] at hnext
  exact ⟨hanswer.trans hother.symm, hnext, hcache⟩

/-- The answers to questions asked one after another are the answers to each of them alone. -/
theorem Matches.answersBy_eq_map (h : solution.Matches other)
    (hagrees : solution.cache.Agrees solution.first) (hagrees' : other.cache.Agrees other.first)
    (questions : List Question) :
    (solution.answersBy .cached questions).1 =
        questions.map (fun question => (other.answerBy .cached question).1) ∧
      (solution.answersBy .cached questions).2.Matches other ∧
      (solution.answersBy .cached questions).2.cache.Agrees
        (solution.answersBy .cached questions).2.first := by
  -- `other` is asked each question alone and stays as it is; the solution with the questions behind
  -- it goes on, and matches `other` throughout.
  induction questions generalizing solution with
  | nil => exact ⟨rfl, h, hagrees⟩
  | cons question questions ih =>
      obtain ⟨hanswer, hnext, hcache⟩ := h.answer_cached hagrees hagrees' question
      obtain ⟨hanswers, hlast, hcache'⟩ := ih hnext hcache
      simp only [answersBy, List.map_cons]
      exact ⟨by rw [hanswer, hanswers], hlast, hcache'⟩

/-! ## The cache after a question -/

/-- A question without an answer changes nothing. -/
theorem eq_of_answerBy_error {question : Question} {failure : QueryError}
    (h : solution.answerBy .cached question = (.error failure, next)) : next = solution := by
  cases question with
  | first reference => exact (congrArg Prod.snd h).symm
  | follow reference => exact (congrArg Prod.snd h).symm
  | sequence references =>
      cases hsymbols : references.mapM solution.resolve with
      | error failure' =>
          rw [answerBy_of_unresolved _ hsymbols] at h
          exact (congrArg Prod.snd h).symm
      | ok symbols =>
          rw [answerBy_of_resolved _ hsymbols] at h
          exact absurd (congrArg Prod.fst h) (by simp)

/-- An answered question about a sequence is one request for the symbols that it resolves to. -/
theorem cache_of_answerBy_sequence {references : List SymbolRef} {set : List Symbol}
    (h : solution.answerBy .cached (.sequence references) = (.ok set, next)) :
    ∃ symbols, references.mapM solution.resolve = .ok symbols ∧
      solution.cache.request solution.first symbols = (set, next.cache) ∧
      next = { solution with cache := next.cache } := by
  cases hsymbols : references.mapM solution.resolve with
  | error failure =>
      rw [answerBy_of_unresolved _ hsymbols] at h
      exact absurd (congrArg Prod.fst h) (by simp)
  | ok symbols =>
      rw [answerBy_of_resolved _ hsymbols, Prod.mk.injEq, Except.ok.injEq] at h
      obtain ⟨rfl, rfl⟩ := h
      exact ⟨symbols, rfl, rfl, rfl⟩

/-! ## Sequences of one symbol -/

theorem firstOf_of_resolved {reference : SymbolRef} {symbol : Symbol}
    (h : solution.resolve reference = .ok symbol) :
    solution.firstOf reference =
      if symbol.isTerminal then .ok [symbol] else setOf solution.first symbol := by
  rw [firstOf, h]
  rfl

theorem firstOf_of_unresolved {reference : SymbolRef} {failure : QueryError}
    (h : solution.resolve reference = .error failure) :
    solution.firstOf reference = .error failure := by
  rw [firstOf, h]
  rfl

/-- The answer for a symbol is its FIRST set. -/
theorem eq_firstOfSymbol {reference : SymbolRef} {symbol : Symbol} {set : List Symbol}
    (hsymbol : solution.resolve reference = .ok symbol)
    (h : solution.firstOf reference = .ok set) : set = firstOfSymbol solution.first symbol := by
  rw [firstOf_of_resolved hsymbol] at h
  cases hkind : symbol.isTerminal with
  | true =>
      rw [hkind, if_pos rfl, Except.ok.injEq] at h
      rw [firstOfSymbol_of_isTerminal hkind, h]
  | false =>
      rw [hkind, if_neg Bool.false_ne_true, setOf] at h
      rw [firstOfSymbol_of_isTerminal_eq_false hkind, SetMap.members]
      cases hset : solution.first.members? symbol with
      | none =>
          rw [hset] at h
          cases h
      | some members =>
          rw [hset] at h
          exact (Except.ok.inj h).symm

/-- A symbol and the sequence of this symbol alone have the same FIRST set. -/
theorem answerBy_singleton (hagrees : solution.cache.Agrees solution.first)
    {reference : SymbolRef} {set : List Symbol}
    (h : (solution.answerBy .cached (.first reference)).1 = .ok set) :
    ∃ set', (solution.answerBy .cached (.sequence [reference])).1 = .ok set' ∧
      ∀ symbol, symbol ∈ set' ↔ symbol ∈ set := by
  have hanswer : solution.firstOf reference = .ok set := h
  cases hresolve : solution.resolve reference with
  | error failure =>
      rw [firstOf_of_unresolved hresolve] at hanswer
      cases hanswer
  | ok symbol =>
      have hsymbols : [reference].mapM solution.resolve = .ok [symbol] := by
        rw [List.mapM_cons, hresolve]
        rfl
      rw [answerBy_of_resolved _ hsymbols]
      -- The set may come from the cache, which agrees with the FIRST sets.
      refine ⟨_, rfl, fun member => ?_⟩
      rw [eq_firstOfSymbol hresolve hanswer, ← mem_firstOfSequence_singleton,
        ← hagrees.request_fst]

/-- Every symbol of the grammar has a FIRST set. -/
theorem Settled.answerBy_first (hsettled : solution.Settled)
    (hsorted : solution.grammar.WellSorted) {symbol : Symbol}
    (h : symbol ∈ solution.grammar.symbols) :
    ∃ set, (solution.answerBy .cached (.first (.symbol symbol))).1 = .ok set := by
  have hresolve : solution.resolve (.symbol symbol) = .ok symbol := if_pos h
  have hanswer : (solution.answerBy .cached (.first (.symbol symbol))).1 =
      if symbol.isTerminal then .ok [symbol] else setOf solution.first symbol :=
    firstOf_of_resolved hresolve
  rw [hanswer]
  cases hkind : symbol.isTerminal with
  | true => exact ⟨[symbol], rfl⟩
  | false =>
      have hkey : symbol ∈ solution.first.keys := by
        rw [hsettled.first.isOver.keys]
        exact hsorted.mem_nonTerminals (mem_symbols.1 h).symm hkind
      exact ⟨_, by rw [if_neg Bool.false_ne_true, setOf, SetMap.members?_eq_some hkey]⟩

end Solution

/-! ## Questions to a solved grammar -/

/-- After any questions to a solved grammar, which are answered as if each of them had been the only
one: a question that fails and a question about a symbol change nothing; an answered question about
a sequence counts as one more request, answered by the cache if the cache holds the symbols that the
sequence resolves to, and else worked out and kept for them; and the FIRST set of a symbol, which
every symbol of the grammar has, is that of the sequence of this symbol alone. -/
theorem questions_independent (grammar : Grammar) (hsorted : grammar.WellSorted) (record : Bool) :
    ∃ solution, solve grammar record = .ok solution ∧
      ∀ questions answers later, solution.answersBy .cached questions = (answers, later) →
        answers = questions.map (fun question => (solution.answerBy .cached question).1) ∧
        (∀ question failure next,
          later.answerBy .cached question = (.error failure, next) → next = later) ∧
        (∀ reference, (later.answerBy .cached (.first reference)).2 = later ∧
          (later.answerBy .cached (.follow reference)).2 = later) ∧
        (∀ references set next,
          later.answerBy .cached (.sequence references) = (.ok set, next) →
            ∃ symbols, references.mapM later.resolve = .ok symbols ∧
              next = { later with cache := next.cache } ∧
              (symbols ∈ later.cache.sequences →
                next.cache = { later.cache with hits := later.cache.hits + 1 }) ∧
              (symbols ∉ later.cache.sequences →
                next.cache = { later.cache with
                  entries := later.cache.entries ++ [(symbols, set)]
                  misses := later.cache.misses + 1 })) ∧
        Symbol.epsilon ∈ grammar.symbols ∧ Symbol.endMark ∈ grammar.symbols ∧
        (∀ symbol ∈ grammar.symbols, ∃ set,
          (later.answerBy .cached (.first (.symbol symbol))).1 = .ok set) ∧
        ∀ reference set, (later.answerBy .cached (.first reference)).1 = .ok set →
          ∃ set', (later.answerBy .cached (.sequence [reference])).1 = .ok set' ∧
            ∀ symbol, symbol ∈ set' ↔ symbol ∈ set := by
  have hsettled := Solution.settled_settled hsorted record
  refine ⟨settled grammar record, solve_eq hsorted record, ?_⟩
  intro questions answers later hlater
  obtain ⟨hanswers, hmatches, hagrees⟩ := (Solution.Matches.refl _).answersBy_eq_map
    hsettled.agrees hsettled.agrees questions
  rw [hlater] at hanswers hmatches hagrees
  refine ⟨hanswers, fun _ _ _ => Solution.eq_of_answerBy_error, fun _ => ⟨rfl, rfl⟩, ?_,
    mem_symbols.2 (.inr grammar.epsilon_mem), mem_symbols.2 (.inr grammar.endMark_mem), ?_,
    fun _ _ => Solution.answerBy_singleton hagrees⟩
  · intro references set next hanswer
    obtain ⟨symbols, hsymbols, hrequest, hnext⟩ := Solution.cache_of_answerBy_sequence hanswer
    refine ⟨symbols, hsymbols, hnext, fun hmem => ?_, fun hnew => ?_⟩
    · rw [← SequenceCache.request_of_mem hmem, hrequest]
    · rw [SequenceCache.request_of_notMem hnew, Prod.mk.injEq] at hrequest
      obtain ⟨rfl, hcache⟩ := hrequest
      exact hcache.symm
  · intro symbol hsymbol
    obtain ⟨set, hset⟩ := hsettled.answerBy_first hsorted hsymbol
    exact ⟨set, (hmatches.answer_cached hagrees hsettled.agrees _).1.trans hset⟩

theorem questions_independent_shiftExpression :
    shiftExpression.WellSorted ∧
      ∃ solution answers later, solve shiftExpression false = .ok solution ∧
        solution.answersBy .cached [.sequence [.named (.text "E")], .follow (.named (.text "x"))] =
          (answers, later) ∧
        answers = [(solution.answerBy .cached (.sequence [.named (.text "E")])).1,
          (solution.answerBy .cached (.follow (.named (.text "x")))).1] ∧
        (∃ failure, later.answerBy .cached (.sequence [.named (.text "x")]) =
          (.error failure, later)) ∧
        ∃ set, (later.answerBy .cached (.first (.symbol .epsilon))).1 = .ok set ∧
          ∃ set' next, later.answerBy .cached (.sequence [.symbol .epsilon]) = (.ok set', next) ∧
            (∀ symbol, symbol ∈ set' ↔ symbol ∈ set) ∧
            ∃ symbols, [SymbolRef.symbol .epsilon].mapM later.resolve = .ok symbols ∧
              (symbols ∈ later.cache.sequences → next.cache.hits = later.cache.hits + 1) ∧
              (symbols ∉ later.cache.sequences → next.cache.misses = later.cache.misses + 1) := by
  have hsorted : shiftExpression.WellSorted := by decide
  obtain ⟨solution, hsolve, hquestions⟩ := questions_independent shiftExpression hsorted false
  obtain ⟨answers, later, hlater⟩ : ∃ answers later, solution.answersBy .cached
      [.sequence [.named (.text "E")], .follow (.named (.text "x"))] = (answers, later) :=
    ⟨_, _, rfl⟩
  obtain ⟨hanswers, hfailed, -, hcounted, hepsilon, -, hsymbols, hsingle⟩ :=
    hquestions _ _ _ hlater
  obtain ⟨set, hset⟩ := hsymbols _ hepsilon
  obtain ⟨set', hset', hsame⟩ := hsingle _ _ hset
  obtain ⟨next, hnext⟩ : ∃ next, later.answerBy .cached (.sequence [.symbol .epsilon]) =
      (.ok set', next) := ⟨_, Prod.ext hset' rfl⟩
  obtain ⟨symbols, hresolved, -, hhit, hmiss⟩ := hcounted _ _ _ hnext
  -- No symbol is named `x`, whatever was asked before.
  have hunknown : ∃ failure next, later.answerBy .cached (.sequence [.named (.text "x")]) =
      (.error failure, next) := by
    have hsettled := Solution.settled_settled hsorted false
    obtain rfl : settled shiftExpression false = solution :=
      Except.ok.inj ((solve_eq hsorted false).symm.trans hsolve)
    obtain ⟨-, hmatches, -⟩ := (Solution.Matches.refl _).answersBy_eq_map hsettled.agrees
      hsettled.agrees [.sequence [.named (.text "E")], .follow (.named (.text "x"))]
    rw [hlater] at hmatches
    have hsymbols : [SymbolRef.named (.text "x")].mapM later.resolve =
        .error (.unknown (.named (.text "x"))) := by
      rw [funext hmatches.resolve]
      rfl
    exact ⟨_, _, Solution.answerBy_of_unresolved _ hsymbols⟩
  obtain ⟨failure, next', hnext'⟩ := hunknown
  obtain rfl : next' = later := hfailed _ _ _ hnext'
  exact ⟨hsorted, solution, answers, next', hsolve, hlater, hanswers, ⟨failure, hnext'⟩, set, hset,
    set', next, hnext, hsame, symbols, hresolved, fun h => by rw [hhit h],
    fun h => by rw [hmiss h]⟩

end GrammarWorkbench.Grammar
