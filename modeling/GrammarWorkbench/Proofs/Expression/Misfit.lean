import GrammarWorkbench.Proofs.Expression.Fronts
import GrammarWorkbench.Proofs.Expression.Lexing

/-!
# The token at which the parser comes to a halt

Some tokens are viable if a sentence, ended by the end token, starts with them. In a text that is
no sentence there is exactly one place with viable tokens before it whose own token makes them not
viable: the misfit.

A phrase that fails has read tokens that may come next one after the other, and stands at one that
may not (`Halts`): each of the four places where a reading can fail says what was pending there.
The parser therefore reports its error at the misfit, and reports that the end was expected exactly
where a sentence was complete (`parse_error_at_misfit`).
-/

set_option autoImplicit false

namespace GrammarWorkbench.Expression

/-! ## Where a phrase comes to a halt -/

/-- A phrase hands back no operator of its layer or of one below it. -/
def Exhausts (layer : Nat) (phrase : Phrase) : Prop :=
  ∀ (tokens : List Token) (tree : Expr) (rest : List Token),
    phrase tokens = .ok (tree, rest) → StopsAt layer rest

/-- A failure that fits what is pending: no further parenthesis is allowed, or an operand was due
and something else came, or an expression in parentheses was complete and neither an operator nor
the closing parenthesis came. -/
inductive Halts (allowance : Nat) : Pending → Failure → Prop
  | tooDeep {token : Token} {later : List Token} (hopen : token.kind = .openParen) :
      Halts allowance ⟨allowance, true⟩ ⟨.tooDeep, token :: later⟩
  | operand {opened : Nat} {fault : Fault} {unread : List Token}
      (hfault : fault = .invalidToken ∨ fault = .operandExpected)
      (hnext : ∀ token ∈ unread.head?, token.kind ≠ .identifier ∧ token.kind ≠ .openParen) :
      Halts allowance ⟨opened, true⟩ ⟨fault, unread⟩
  | closing {opened : Nat} {unread : List Token}
      (hnext : ∀ token ∈ unread.head?, token.kind.isOperator = false ∧ token.kind ≠ .closeParen) :
      Halts allowance ⟨opened + 1, false⟩ ⟨.closingExpected, unread⟩

/-- A reading that began with an operand due or after one has read some tokens that may come next
one after the other, and has come to a halt behind them. -/
def HaltsIn (allowance : Nat) (due : Bool) (tokens : List Token) (failure : Failure) : Prop :=
  ∃ used pending, tokens = used ++ failure.unread ∧
    Pending.after ⟨0, due⟩ used = some pending ∧ Halts allowance pending failure

/-- Every failure of a phrase fits what is pending where it comes to a halt. -/
def FailsInPlace (allowance : Nat) (phrase : Phrase) : Prop :=
  ∀ (tokens : List Token) (failure : Failure),
    phrase tokens = .error failure → HaltsIn allowance true tokens failure

theorem Halts.deepen {allowance : Nat} {pending : Pending} {failure : Failure}
    (h : Halts allowance pending failure) (more : Nat) :
    Halts (allowance + more) (pending.deepen more) failure := by
  cases h with
  | tooDeep hopen => exact .tooDeep hopen
  | operand hfault hnext => exact .operand hfault hnext
  | @closing opened unread hnext =>
      have hopened : opened + 1 + more = opened + more + 1 := Nat.add_right_comm opened 1 more
      rw [Pending.deepen, hopened]
      exact .closing hnext

/-- A halt behind further tokens, which may have opened parentheses. -/
theorem HaltsIn.behind {allowance more : Nat} {due due' : Bool} {front tokens : List Token}
    {failure : Failure} (h : HaltsIn allowance due' tokens failure)
    (hfront : Pending.after ⟨0, due⟩ front = some ⟨more, due'⟩) :
    HaltsIn (allowance + more) due (front ++ tokens) failure := by
  obtain ⟨used, pending, rfl, hused, hhalts⟩ := h
  have hdeeper := Pending.after_deepen hused more
  rw [Pending.deepen, Nat.zero_add] at hdeeper
  exact ⟨front ++ used, pending.deepen more, by simp, Pending.after_trans hfront hdeeper,
    hhalts.deepen more⟩

/-! ## Chains of operators -/

section Chain

variable {layer allowance : Nat} {isOperator : TokenKind → Bool} {operand : Phrase}

/-- Nothing that a layer stops at, and no operator of the next layer, goes on with that layer. -/
theorem StopsAt.succ
    (hoperator : ∀ kind, isOperator kind = true ↔
      kind.isOperator = true ∧ kind.rank = layer + 1)
    {tokens : List Token} (hstop : StopsAt layer tokens)
    (hother : ∀ token ∈ tokens.head?, isOperator token.kind = false) :
    StopsAt (layer + 1) tokens := by
  intro token hmem
  have hbelow := hstop token hmem
  have hlayer : ¬ (token.kind.isOperator = true ∧ token.kind.rank = layer + 1) := by
    rw [← hoperator, hother token hmem]
    exact Bool.false_ne_true
  rw [TokenKind.isWithin, Bool.and_eq_false_iff, decide_eq_false_iff_not] at hbelow ⊢
  rcases hbelow with hkind | hrank
  · exact .inl hkind
  · by_cases hkind : token.kind.isOperator = true
    · right
      intro hle
      exact hlayer ⟨hkind, by omega⟩
    · exact .inl (Bool.not_eq_true _ ▸ hkind)

/-- With a round for every token the loop ends where no operator of its layer comes next. -/
theorem foldOperators_exhausts (hreads : Reads layer allowance operand)
    (hexhausts : Exhausts layer operand)
    (hoperator : ∀ kind, isOperator kind = true ↔
      kind.isOperator = true ∧ kind.rank = layer + 1)
    {rounds : Nat} {left tree : Expr} {tokens rest : List Token}
    (hrounds : tokens.length ≤ rounds) (hstop : StopsAt layer tokens)
    (h : foldOperators isOperator operand rounds left tokens = .ok (tree, rest)) :
    StopsAt (layer + 1) rest := by
  induction rounds generalizing left tokens with
  | zero =>
      obtain rfl : tokens = [] := List.length_eq_zero_iff.1 (Nat.le_zero.1 hrounds)
      cases h
      simp [StopsAt]
  | succ rounds ih =>
      cases tokens with
      | nil =>
          cases h
          simp [StopsAt]
      | cons token later =>
          rw [foldOperators] at h
          split at h
          next =>
            cases hoperand : operand later with
            | error failure =>
                rw [hoperand] at h
                cases h
            | ok result =>
                obtain ⟨right, rest'⟩ := result
                rw [hoperand] at h
                have hlength := hreads.rest_length_le hoperand
                have hrounds' : rest'.length ≤ rounds :=
                  Nat.le_trans hlength (Nat.le_of_succ_le_succ hrounds)
                exact ih hrounds' (hexhausts _ _ _ hoperand) h
          next hother =>
            cases h
            refine hstop.succ hoperator ?_
            intro next hnext
            cases hnext
            exact Bool.not_eq_true _ ▸ hother

theorem Exhausts.chain (hreads : Reads layer allowance operand)
    (hexhausts : Exhausts layer operand)
    (hoperator : ∀ kind, isOperator kind = true ↔
      kind.isOperator = true ∧ kind.rank = layer + 1) :
    Exhausts (layer + 1) (chain isOperator operand) := by
  intro tokens tree rest h
  rw [Expression.chain] at h
  cases hoperand : operand tokens with
  | error failure =>
      rw [hoperand] at h
      cases h
  | ok result =>
      obtain ⟨left, rest'⟩ := result
      rw [hoperand] at h
      exact foldOperators_exhausts hreads hexhausts hoperator (Nat.le_refl _)
        (hexhausts _ _ _ hoperand) h

/-- The loop fails only where the operand behind an operator does. Before the operator stands a tree
that begins with the one so far. -/
theorem foldOperators_eq_error (hreads : Reads layer allowance operand)
    (hoperator : ∀ kind, isOperator kind = true → kind.isOperator = true)
    {rounds : Nat} {left : Expr} {taken tokens : List Token} {failure : Failure}
    (hleft : Spells left taken) (hnesting : left.nesting ≤ allowance)
    (h : foldOperators isOperator operand rounds left tokens = .error failure) :
    ∃ tree front operator later, Spells tree front ∧ tree.nesting ≤ allowance ∧
      operator.kind.isOperator = true ∧ taken ++ tokens = front ++ operator :: later ∧
      operand later = .error failure := by
  -- Induction on the rounds; each takes one more operator and operand into the tree so far.
  induction rounds generalizing left taken tokens with
  | zero => cases h
  | succ rounds ih =>
      cases tokens with
      | nil => cases h
      | cons token later =>
          rw [foldOperators] at h
          split at h
          next hkind =>
            have htoken := hoperator _ hkind
            cases hoperand : operand later with
            | error failure' =>
                rw [hoperand] at h
                cases h
                exact ⟨left, taken, token, later, hleft, hnesting, htoken, rfl, hoperand⟩
            | ok result =>
                obtain ⟨right, rest⟩ := result
                rw [hoperand] at h
                obtain ⟨used, rfl, hright, hnestingRight⟩ := hreads.sound hoperand
                have hjoined := Spells.binary htoken hleft hright.spells
                have hlater := ih hjoined (Nat.max_le.2 ⟨hnesting, hnestingRight⟩) h
                simpa using hlater
          next => cases h

/-- Everything that can go wrong with a chain: its first operand fails, or one behind a tree and an
operator does. -/
theorem chain_eq_error (hreads : Reads layer allowance operand)
    (hoperator : ∀ kind, isOperator kind = true → kind.isOperator = true)
    {tokens : List Token} {failure : Failure}
    (h : chain isOperator operand tokens = .error failure) :
    operand tokens = .error failure ∨
      ∃ tree front operator later, Spells tree front ∧ tree.nesting ≤ allowance ∧
        operator.kind.isOperator = true ∧ tokens = front ++ operator :: later ∧
        operand later = .error failure := by
  rw [Expression.chain] at h
  cases hoperand : operand tokens with
  | error failure' =>
      rw [hoperand] at h
      cases h
      exact .inl rfl
  | ok result =>
      obtain ⟨left, rest⟩ := result
      rw [hoperand] at h
      obtain ⟨used, rfl, hleft, hnesting⟩ := hreads.sound hoperand
      exact .inr (foldOperators_eq_error hreads hoperator hleft.spells hnesting h)

theorem FailsInPlace.chain (hreads : Reads layer allowance operand)
    (hfails : FailsInPlace allowance operand)
    (hoperator : ∀ kind, isOperator kind = true → kind.isOperator = true) :
    FailsInPlace allowance (chain isOperator operand) := by
  intro tokens failure h
  rcases chain_eq_error hreads hoperator h with
    hfirst | ⟨tree, front, operator, later, htree, -, hkind, rfl, hlater⟩
  · exact hfails _ _ hfirst
  · have hdue : Pending.after ⟨0, false⟩ [operator] = some ⟨0, true⟩ := by
      rw [Pending.after_singleton, Pending.step_operator hkind]
    have hfront := Pending.after_trans (htree.after_eq 0) hdue
    have hplace := (hfails _ _ hlater).behind hfront
    rwa [List.append_assoc] at hplace

end Chain

/-! ## The layers of the grammar -/

/-- No operator belongs to the layer of factors. -/
theorem exhausts_factor (allowance : Nat) : Exhausts 0 (factor allowance) := by
  intro tokens tree rest _ token _
  have hrank := TokenKind.one_le_rank token.kind
  simp only [TokenKind.isWithin, Bool.and_eq_false_iff, decide_eq_false_iff_not]
  omega

theorem exhausts_expression (allowance : Nat) : Exhausts 2 (expression allowance) :=
  (exhausts_factor allowance |>.chain (reads_factor allowance)
    fun _ => TokenKind.isAdditive_iff).chain (reads_term (reads_factor allowance))
    fun _ => TokenKind.isShift_iff

theorem failsInPlace_term {allowance : Nat} (h : FailsInPlace allowance (factor allowance)) :
    FailsInPlace allowance (term allowance) :=
  h.chain (reads_factor allowance) fun _ hkind => (TokenKind.isAdditive_iff.1 hkind).1

theorem failsInPlace_expression {allowance : Nat} (h : FailsInPlace allowance (factor allowance)) :
    FailsInPlace allowance (expression allowance) :=
  (failsInPlace_term h).chain (reads_term (reads_factor allowance))
    fun _ hkind => (TokenKind.isShift_iff.1 hkind).1

/-- Everything that can go wrong with a factor: there is no operand, there is one parenthesis too
many, the expression inside fails, or it is not closed. -/
theorem factor_eq_error {allowance : Nat} {tokens : List Token} {failure : Failure}
    (h : factor allowance tokens = .error failure) :
    (failure.unread = tokens ∧
        (failure.fault = .invalidToken ∨ failure.fault = .operandExpected) ∧
        ∀ token ∈ tokens.head?, token.kind ≠ .identifier ∧ token.kind ≠ .openParen) ∨
      (∃ opening later, tokens = opening :: later ∧ opening.kind = .openParen ∧
        allowance = 0 ∧ failure = ⟨.tooDeep, tokens⟩) ∨
      ∃ below opening later, allowance = below + 1 ∧ tokens = opening :: later ∧
        opening.kind = .openParen ∧
        (expression below later = .error failure ∨
          ∃ inner rest, expression below later = .ok (inner, rest) ∧
            closeParen inner rest = .error failure) := by
  rw [factor.eq_def] at h
  split at h
  next =>
    cases h
    exact .inl ⟨rfl, .inr rfl, by simp⟩
  next token later =>
    split at h
    next => cases h
    next hkind =>
      cases h
      exact .inr (.inl ⟨token, later, rfl, hkind, rfl, rfl⟩)
    next below hkind =>
      refine .inr (.inr ⟨below, token, later, rfl, rfl, hkind, ?_⟩)
      split at h
      next failure' hinner =>
        cases h
        exact .inl hinner
      next inner rest hinner => exact .inr ⟨inner, rest, hinner, h⟩
    next hkind =>
      cases h
      refine .inl ⟨rfl, .inl rfl, ?_⟩
      intro next hnext
      cases hnext
      rw [hkind]
      decide
    next bound _ _ hname _ hzero hsucc =>
      cases h
      refine .inl ⟨rfl, .inr rfl, ?_⟩
      intro next hnext
      cases hnext
      refine ⟨fun hkind => hname hkind, fun hkind => ?_⟩
      cases bound with
      | zero => exact hzero hkind rfl
      | succ below => exact hsucc below hkind rfl

theorem closeParen_eq_error {inner : Expr} {tokens : List Token} {failure : Failure}
    (h : closeParen inner tokens = .error failure) :
    failure = ⟨.closingExpected, tokens⟩ ∧ ∀ token ∈ tokens.head?, token.kind ≠ .closeParen := by
  cases tokens with
  | nil =>
      cases h
      exact ⟨rfl, by simp⟩
  | cons token later =>
      rw [closeParen] at h
      split at h
      next => cases h
      next hkind =>
        cases h
        refine ⟨rfl, ?_⟩
        intro next hnext
        cases hnext
        exact hkind

/-- What stops every layer is no operator. -/
theorem StopsAt.isOperator_eq_false {tokens : List Token} (h : StopsAt 2 tokens) :
    ∀ token ∈ tokens.head?, token.kind.isOperator = false := by
  intro token hmem
  have hwithin := h token hmem
  generalize token.kind = kind at hwithin ⊢
  cases kind <;> first | rfl | exact absurd hwithin (by decide)

/-- Factors fail in place, by induction on how many parentheses may still be opened. -/
theorem failsInPlace_factor (allowance : Nat) : FailsInPlace allowance (factor allowance) := by
  induction allowance with
  | zero =>
      intro tokens failure h
      obtain ⟨fault, unread⟩ := failure
      rcases factor_eq_error h with ⟨rfl, hfault, hnext⟩ | ⟨opening, later, rfl, hopen, -, heq⟩ |
        ⟨below, opening, later, hzero, -⟩
      · exact ⟨[], ⟨0, true⟩, rfl, rfl, .operand hfault hnext⟩
      · cases heq
        exact ⟨[], ⟨0, true⟩, rfl, rfl, .tooDeep hopen⟩
      · exact absurd hzero (Nat.succ_ne_zero below).symm
  | succ allowance ih =>
      intro tokens failure h
      obtain ⟨fault, unread⟩ := failure
      rcases factor_eq_error h with ⟨rfl, hfault, hnext⟩ | ⟨-, -, -, -, hzero, -⟩ |
        ⟨below, opening, later, hbelow, rfl, hopen, hrest⟩
      · exact ⟨[], ⟨0, true⟩, rfl, rfl, .operand hfault hnext⟩
      · exact absurd hzero (Nat.succ_ne_zero allowance)
      · obtain rfl := Nat.succ.inj hbelow
        -- The opening parenthesis is behind the halt, with one parenthesis more allowed before it.
        have hfront : Pending.after ⟨0, true⟩ [opening] = some ⟨1, true⟩ := by
          rw [Pending.after_singleton, hopen]
          rfl
        rcases hrest with hinner | ⟨inner, rest, hinner, hclose⟩
        · exact (failsInPlace_expression ih _ _ hinner).behind hfront
        · obtain ⟨heq, hnext⟩ := closeParen_eq_error hclose
          cases heq
          obtain ⟨used, rfl, hphrased, -⟩ :=
            (reads_expression (reads_factor allowance)).sound hinner
          have hstop := (exhausts_expression allowance _ _ _ hinner).isOperator_eq_false
          exact ⟨opening :: used, ⟨1, false⟩, rfl,
            Pending.after_trans hfront (hphrased.spells.after_eq 1),
            .closing fun token hmem => ⟨hstop token hmem, hnext token hmem⟩⟩

/-! ## Sentences that fail -/

/-- The token at hand, or the end of the input, does not go on with any sentence; that the end was
expected is reported exactly if a sentence is complete. -/
structure Misfits (pending : Pending) (failure : Failure) : Prop where
  blocked : ∀ token ∈ failure.unread.head?, pending.step token.kind = none
  ended : failure.unread = [] → pending ≠ .done
  endExpected_iff : failure.fault = .endExpected ↔ pending = .done

theorem Halts.misfits {allowance : Nat} {pending : Pending} {failure : Failure}
    (h : Halts allowance pending failure) (hfault : failure.fault ≠ .tooDeep) :
    Misfits pending failure := by
  cases h with
  | tooDeep => exact absurd rfl hfault
  | operand hkind hnext =>
      refine ⟨?_, fun _ => by simp [Pending.done], ?_⟩
      · intro token hmem
        obtain ⟨hname, hopen⟩ := hnext token hmem
        exact Pending.step_eq_none_of_due hname hopen _
      · rcases hkind with rfl | rfl <;> simp [Pending.done]
  | closing hnext =>
      refine ⟨?_, fun _ => by simp [Pending.done], by simp [Pending.done]⟩
      intro token hmem
      obtain ⟨hoperator, hclose⟩ := hnext token hmem
      exact Pending.step_eq_none_of_not_due hoperator fun hkind => absurd hkind hclose

/-- Everything that can go wrong with a sentence: its expression fails, or there is more behind
it. -/
theorem sentence_eq_error_cases {allowance : Nat} {tokens : List Token} {failure : Failure}
    (h : sentence allowance tokens = .error failure) :
    expression allowance tokens = .error failure ∨
      ∃ tree token later, expression allowance tokens = .ok (tree, token :: later) ∧
        failure = ⟨.endExpected, token :: later⟩ := by
  rw [sentence] at h
  split at h
  next failure' hread =>
    cases h
    exact .inl hread
  next => cases h
  next tree token later hread =>
    cases h
    exact .inr ⟨tree, token, later, hread, rfl⟩

/-- Where a sentence cannot be read, the depth is exceeded at a parenthesis that opens, or the
failure is a misfit. -/
theorem sentence_halts {allowance : Nat} {tokens : List Token} {failure : Failure}
    (h : sentence allowance tokens = .error failure) :
    ∃ used pending, tokens = used ++ failure.unread ∧ Pending.start.after used = some pending ∧
      (failure.fault = .tooDeep ∧ Halts allowance pending failure ∨
        failure.fault ≠ .tooDeep ∧ Misfits pending failure) := by
  rcases sentence_eq_error_cases h with hread | ⟨tree, token, later, hread, rfl⟩
  · obtain ⟨used, pending, hused, hafter, hhalts⟩ :=
      failsInPlace_expression (failsInPlace_factor allowance) _ _ hread
    refine ⟨used, pending, hused, hafter, ?_⟩
    by_cases hfault : failure.fault = .tooDeep
    · exact .inl ⟨hfault, hhalts⟩
    · exact .inr ⟨hfault, hhalts.misfits hfault⟩
  · obtain ⟨used, rfl, hphrased, -⟩ := (reads_expression (reads_factor allowance)).sound hread
    refine ⟨used, .done, rfl, hphrased.spells.after_eq 0,
      .inr ⟨nofun, ?_, nofun, iff_of_true rfl rfl⟩⟩
    intro next hnext
    have hstop := (exhausts_expression allowance _ _ _ hread).isOperator_eq_false next hnext
    exact Pending.step_eq_none_of_not_due hstop fun _ => rfl

theorem Halts.opening_of_tooDeep {allowance : Nat} {pending : Pending} {failure : Failure}
    (h : Halts allowance pending failure) (hfault : failure.fault = .tooDeep) :
    pending = ⟨allowance, true⟩ ∧
      ∃ opening later, failure.unread = opening :: later ∧ opening.kind = .openParen := by
  cases h with
  | tooDeep hopen => exact ⟨rfl, _, _, rfl, hopen⟩
  | operand hkind _ =>
      rcases hkind with rfl | rfl
      · cases hfault
      · cases hfault
  | closing => cases hfault

/-- A sentence that cannot be read has one parenthesis too many, or a misfit. -/
theorem sentence_eq_error {allowance : Nat} {tokens : List Token} {failure : Failure}
    (h : sentence allowance tokens = .error failure) :
    ∃ used pending, tokens = used ++ failure.unread ∧ Pending.start.after used = some pending ∧
      ((∃ opening later, failure.unread = opening :: later ∧ opening.kind = .openParen ∧
          pending.opened = allowance) ∨ Misfits pending failure) := by
  obtain ⟨used, pending, hused, hafter, ⟨hfault, hhalts⟩ | ⟨-, hmisfits⟩⟩ := sentence_halts h
  · obtain ⟨rfl, opening, later, hunread, hopen⟩ := hhalts.opening_of_tooDeep hfault
    exact ⟨used, _, hused, hafter, .inl ⟨opening, later, hunread, hopen, rfl⟩⟩
  · exact ⟨used, pending, hused, hafter, .inr hmisfits⟩

/-- The sentences of the grammar are the tokens that may come next one after the other and leave
nothing pending. -/
theorem isSentence_iff_after {tokens : List Token} :
    IsSentence tokens ↔ Pending.start.after tokens = some .done := by
  constructor
  · intro h
    obtain ⟨tree, hspells, -⟩ := isSentence_iff.1 h
    exact hspells.after_eq 0
  · intro h
    -- With room for all its parentheses a reading of the tokens cannot come to a halt.
    cases hread : sentence (kindCount .openParen tokens) tokens with
    | ok tree =>
        obtain ⟨hspells, hnormal, -⟩ := sentence_eq_ok_iff.1 hread
        exact isSentence_iff.2 ⟨tree, hspells, hnormal⟩
    | error failure =>
        obtain ⟨used, pending, hused, hafter, hcases⟩ := sentence_eq_error hread
        rw [hused] at h
        obtain ⟨middle, hmiddle, hlast⟩ := Pending.after_front h
        rw [hafter, Option.some.injEq] at hmiddle
        subst hmiddle
        rcases hcases with ⟨opening, later, hunread, hopen, hopened⟩ | hmisfits
        · have hbalance := Pending.after_balance hafter
          rw [hopened, hused, hunread] at hbalance
          simp only [kindCount_append, kindCount_cons, hopen, Pending.start] at hbalance
          simp at hbalance
          omega
        · cases hunread : failure.unread with
          | nil =>
              rw [hunread] at hlast
              exact absurd (Option.some.inj hlast) (hmisfits.ended hunread)
          | cons token later =>
              rw [hunread, Pending.after_cons,
                hmisfits.blocked token (by rw [hunread]; rfl)] at hlast
              cases hlast

/-! ## Viable tokens -/

/-- Some tokens are a sentence and the end token after it. -/
def IsEnded (tokens : List Token) : Prop :=
  ∃ front stop, tokens = front ++ [stop] ∧ stop.kind = .endOfInput ∧ IsSentence front

/-- Some tokens are viable: a sentence with the end token after it starts with them. -/
def Viable (tokens : List Token) : Prop :=
  ∃ more, IsEnded (tokens ++ more)

/-- The tokens before a place are viable, and with its own token they are not. -/
def IsMisfit (tokens : List Token) (place : Nat) : Prop :=
  Viable (tokens.take place) ∧ ¬ Viable (tokens.take (place + 1))

theorem Viable.of_append {front more : List Token} (h : Viable (front ++ more)) : Viable front := by
  obtain ⟨rest, hended⟩ := h
  exact ⟨more ++ rest, by rwa [← List.append_assoc]⟩

/-- Tokens that may come next one after the other are viable. -/
theorem viable_of_after {tokens : List Token} {pending : Pending}
    (h : Pending.start.after tokens = some pending) : Viable tokens := by
  obtain ⟨more, hmore⟩ := pending.exists_closing
  let stop : Token := ⟨.endOfInput, "", 1, 1⟩
  refine ⟨more ++ [stop], tokens ++ more, stop, by simp, rfl, ?_⟩
  exact isSentence_iff_after.2 (Pending.after_trans h hmore)

/-- A token after which some tokens are viable may come next, or it is the end token behind a
sentence. -/
theorem Viable.concat {front : List Token} {token : Token} (h : Viable (front ++ [token])) :
    (∃ pending, Pending.start.after (front ++ [token]) = some pending) ∨
      token.kind = .endOfInput ∧ IsSentence front := by
  obtain ⟨more, body, stop, heq, hstop, hsentence⟩ := h
  rcases List.eq_nil_or_concat more with rfl | ⟨init, last, rfl⟩
  · right
    rw [List.append_nil] at heq
    obtain ⟨rfl, hlast⟩ := List.append_inj' heq rfl
    cases hlast
    exact ⟨hstop, hsentence⟩
  · left
    rw [List.concat_eq_append, ← List.append_assoc] at heq
    obtain ⟨rfl, -⟩ := List.append_inj' heq rfl
    obtain ⟨pending, hpending, -⟩ := Pending.after_front (isSentence_iff_after.1 hsentence)
    exact ⟨pending, hpending⟩

theorem not_viable_of_step {front : List Token} {token : Token} {pending : Pending}
    (hafter : Pending.start.after front = some pending)
    (hstep : pending.step token.kind = none)
    (hend : token.kind = .endOfInput → pending ≠ .done) : ¬ Viable (front ++ [token]) := by
  intro h
  rcases h.concat with ⟨next, hnext⟩ | ⟨hkind, hsentence⟩
  · rw [Pending.after_append, hafter, Option.bind_some, Pending.after_singleton, hstep] at hnext
    cases hnext
  · rw [isSentence_iff_after, hafter, Option.some.injEq] at hsentence
    exact hend hkind hsentence

/-- There is no second misfit. -/
theorem IsMisfit.unique {tokens : List Token} {place other : Nat} (h : IsMisfit tokens place)
    (hother : IsMisfit tokens other) : place = other := by
  have hle : ∀ {low high : Nat}, IsMisfit tokens low → IsMisfit tokens high → high ≤ low := by
    intro low high hlow hhigh
    by_contra hlt
    obtain ⟨more, hmore⟩ : tokens.take (low + 1) <+: tokens.take high :=
      List.take_prefix_take_left (Nat.lt_of_not_le hlt)
    exact hlow.2 (Viable.of_append (hmore ▸ hhigh.1))
  exact Nat.le_antisymm (hle hother h) (hle h hother)

/-- The token behind viable tokens is a misfit if nothing goes on with it. -/
theorem isMisfit_of_step {front rest : List Token} {token : Token} {pending : Pending}
    (hafter : Pending.start.after front = some pending)
    (hstep : pending.step token.kind = none)
    (hend : token.kind = .endOfInput → pending ≠ .done) :
    IsMisfit (front ++ token :: rest) front.length := by
  have hbefore : (front ++ token :: rest).take front.length = front := List.take_left
  have hwith : (front ++ token :: rest).take (front.length + 1) = front ++ [token] :=
    List.take_length_add_append 1
  refine ⟨?_, ?_⟩
  · rw [hbefore]
    exact viable_of_after hafter
  · rw [hwith]
    exact not_viable_of_step hafter hstep hend

/-! ## The error of a parser -/

/-- Only the error for a sentence with more behind it says that the end of the input was
expected. -/
theorem SyntaxError.reason_endExpected_iff {error : SyntaxError} :
    (∃ found, error.reason = "Expected end of input, but found: " ++ found) ↔
      error.fault = .endExpected := by
  obtain ⟨fault, token⟩ := error
  constructor
  · rintro ⟨found, h⟩
    have hchars := congrArg String.toList h
    cases fault with
    | endExpected => rfl
    | _ => simp [reason] at hchars
  · rintro rfl
    exact ⟨token.describe, rfl⟩

namespace Parser

/-- The unread tokens of a parser, up to the end token, start with its current one. -/
theorem current_moveTo (parser : Parser) (tokens : List Token) :
    ∃ rest, tokens ++ [parser.stop] = (parser.moveTo tokens).current :: rest := by
  cases tokens with
  | nil => exact ⟨[], rfl⟩
  | cons token later => exact ⟨later ++ [parser.stop], rfl⟩

/-- Only the last token of a source text is an end token. -/
theorem kind_ne_endOfInput (source : String) :
    ∀ token ∈ (ofSource source).unread, token.kind ≠ .endOfInput :=
  Cursor.kind_ne_endOfInput _

/-- The current token is a misfit where the tokens before it cannot go on with it. -/
theorem isMisfit_current {source : String} {used : List Token} {pending : Pending}
    {failure : Failure} (hused : (ofSource source).unread = used ++ failure.unread)
    (hafter : Pending.start.after used = some pending) (hmisfits : Misfits pending failure) :
    ∃ rest, tokenize source = used ++ ((ofSource source).moveTo failure.unread).current :: rest ∧
      IsMisfit (tokenize source) used.length := by
  obtain ⟨rest, hrest⟩ := (ofSource source).current_moveTo failure.unread
  have htokens : tokenize source =
      used ++ ((ofSource source).moveTo failure.unread).current :: rest := by
    rw [tokenize_eq, hused, List.append_assoc, hrest]
  refine ⟨rest, htokens, ?_⟩
  rw [htokens]
  cases hunread : failure.unread with
  | nil =>
      -- The end token goes on with nothing, and no sentence was complete before it.
      exact isMisfit_of_step hafter (Pending.step_endOfInput pending)
        fun _ => hmisfits.ended hunread
  | cons token later =>
      have hkind : token.kind ≠ .endOfInput := by
        apply kind_ne_endOfInput source
        simp [hused, hunread]
      exact isMisfit_of_step hafter (hmisfits.blocked token (by rw [hunread]; rfl))
        fun hend => absurd hend hkind

end Parser

/-- Within a hundred open parentheses no reading of a source text comes to a halt because of the
depth. -/
theorem not_opened_limit (limit : NestingLimit) {used later after : List Token}
    {opening : Token} {pending : Pending}
    (hnests : NestsWithin 100 (used ++ opening :: later ++ after))
    (hafter : Pending.start.after used = some pending) (hopen : opening.kind = .openParen) :
    pending.opened ≠ limit.count := by
  intro hopened
  have hsplit : used ++ opening :: later ++ after = (used ++ [opening]) ++ (later ++ after) := by
    simp
  rw [hsplit] at hnests
  have hfront := hnests.front
  have hbalance := Pending.after_balance hafter
  have hclose : ¬ opening.kind = .closeParen := by simp [hopen]
  simp only [kindCount_append, kindCount_cons, kindCount_nil, if_pos hopen, if_neg hclose] at hfront
  have hstart : Pending.start.opened = 0 := rfl
  have hleast := limit.hundred_le
  omega

/-- A source text that is not parsed, with at most a hundred parentheses open at once, has exactly
one misfit, and the only error is reported there; it says that the end of the input was expected
exactly if the tokens before the misfit are a sentence. -/
theorem parse_error_at_misfit (limit : NestingLimit) (source : String)
    (hnests : NestsWithin 100 (tokenize source))
    (hnone : ((Parser.ofSource source).parse limit).1 = none) :
    ∃ error place token, ((Parser.ofSource source).parse limit).2.errors = [error] ∧
      (∀ other, IsMisfit (tokenize source) other ↔ other = place) ∧
      (tokenize source)[place]? = some token ∧
      error.message = "Error at line " ++ toString token.line ++ ", column " ++
        toString token.column ++ ": " ++ error.reason ∧
      ((∃ found, error.reason = "Expected end of input, but found: " ++ found) ↔
        IsSentence ((tokenize source).take place)) := by
  cases hread : sentence limit.count (Parser.ofSource source).unread with
  | ok tree =>
      rw [Parser.parse_of_ok hread] at hnone
      cases hnone
  | error failure =>
      obtain ⟨used, pending, hused, hafter, hcases⟩ := sentence_eq_error hread
      have hmisfits : Misfits pending failure := by
        rcases hcases with ⟨opening, later, hunread, hopen, hopened⟩ | hmisfits
        · rw [tokenize_eq, hused, hunread] at hnests
          exact absurd hopened (not_opened_limit limit hnests hafter hopen)
        · exact hmisfits
      obtain ⟨rest, htokens, hmisfit⟩ := Parser.isMisfit_current hused hafter hmisfits
      have hbefore : (tokenize source).take used.length = used := by rw [htokens, List.take_left]
      refine ⟨_, used.length, _, (Parser.parse_of_error hread).2, ?_, ?_, rfl, ?_⟩
      · intro other
        exact ⟨fun hother => hother.unique hmisfit, fun heq => heq ▸ hmisfit⟩
      · rw [htokens, List.getElem?_append_right (Nat.le_refl _), Nat.sub_self]
        rfl
      · rw [SyntaxError.reason_endExpected_iff, hbefore, isSentence_iff_after, hafter,
          Option.some.injEq]
        exact hmisfits.endExpected_iff

/-- The last closing parenthesis in this text has no partner, and the error stands there: a
sentence was complete before it. -/
theorem parse_error_at_misfit_unopened :
    NestsWithin 100 (tokenize "a << (b +\n c)) - d") ∧
      ((Parser.ofSource "a << (b +\n c)) - d").parse .usual).1 = none ∧
      ∃ error place, ((Parser.ofSource "a << (b +\n c)) - d").parse .usual).2.errors = [error] ∧
        error.message = "Error at line 2, column 4: Expected end of input, but found: )" ∧
        (∀ other, IsMisfit (tokenize "a << (b +\n c)) - d") other ↔ other = place) ∧
        IsSentence ((tokenize "a << (b +\n c)) - d").take place) := by
  have hnests : NestsWithin 100 (tokenize "a << (b +\n c)) - d") := by decide +kernel
  have hnone : ((Parser.ofSource "a << (b +\n c)) - d").parse .usual).1 = none := by decide +kernel
  have hread : ((Parser.ofSource "a << (b +\n c)) - d").parse .usual).2.errors =
      [⟨.endExpected, ⟨.closeParen, ")", 2, 4⟩⟩] := by decide +kernel
  obtain ⟨error, place, token, herrors, hmisfit, -, -, hend⟩ :=
    parse_error_at_misfit .usual _ hnests hnone
  obtain rfl := List.singleton_inj.1 (herrors.symm.trans hread)
  exact ⟨hnests, hnone, _, place, hread, by decide +kernel, hmisfit, hend.1 ⟨")", rfl⟩⟩

end GrammarWorkbench.Expression
