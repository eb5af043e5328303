import GrammarWorkbench.Expression.Phrase
import GrammarWorkbench.Proofs.Expression.Spelling

/-!
# Phrases read exactly the spelled trees

The layers of the grammar are numbered from the operands: factors make up layer zero, terms layer
one and expressions layer two. A tree belongs to a layer with the tokens that spell it if it is
normal and its rank is not above the layer (`Phrased`).

A phrase reads a layer if every tree it hands back belongs to the layer with the tokens it took
(`Reads.sound`), and if it hands back every tree of the layer from its tokens, as long as no
operator of the layer comes next (`Reads.complete`). A chain of operators over a phrase for one
layer reads the next one (`Reads.chain`). A sentence therefore is accepted exactly if its tokens
spell a normal tree whose parentheses are within the allowance (`sentence_eq_ok_iff`).
-/

set_option autoImplicit false

namespace GrammarWorkbench.Expression

/-! ## Trees of a layer -/

/-- A tree belongs to a layer, and the tokens spell it. -/
structure Phrased (layer : Nat) (tree : Expr) (tokens : List Token) : Prop where
  spells : Spells tree tokens
  normal : tree.Normal
  rank_le : tree.rank ≤ layer

namespace Phrased

variable {layer : Nat} {tree left right inner : Expr} {operator opening closing : Token}
  {tokens before after between : List Token}

theorem mono {upper : Nat} (h : Phrased layer tree tokens) (hle : layer ≤ upper) :
    Phrased upper tree tokens :=
  ⟨h.spells, h.normal, Nat.le_trans h.rank_le hle⟩

theorem ident {token : Token} (hkind : token.kind = .identifier) :
    Phrased 0 (.ident token.text (some token) none) [token] :=
  ⟨.ident hkind, trivial, Nat.le_refl 0⟩

theorem paren (hopening : opening.kind = .openParen) (hclosing : closing.kind = .closeParen)
    (h : Phrased 2 inner between) :
    Phrased 0 (.paren inner none) (opening :: between ++ [closing]) :=
  ⟨.paren hopening hclosing h.spells, h.normal, Nat.le_refl 0⟩

/-- An operator of a layer joins a tree of its layer and a tree of the layer below. -/
theorem binary (hoperator : operator.kind.isOperator = true)
    (hrank : operator.kind.rank = layer + 1) (hleft : Phrased (layer + 1) left before)
    (hright : Phrased layer right after) :
    Phrased (layer + 1) (.binary left operator right none) (before ++ operator :: after) := by
  refine ⟨.binary hoperator hleft.spells hright.spells, ?_, Nat.le_of_eq hrank⟩
  rw [Expr.normal_binary_iff hoperator, hrank]
  exact ⟨hleft.normal, hright.normal, hleft.rank_le, Nat.lt_succ_of_le hright.rank_le⟩

/-- A tree of a layer that is not of the layer below has an operator of the layer at its root. -/
theorem cases_succ (h : Phrased (layer + 1) tree tokens) :
    Phrased layer tree tokens ∨
      ∃ left operator right before after, tree = .binary left operator right none ∧
        tokens = before ++ operator :: after ∧ operator.kind.isOperator = true ∧
        operator.kind.rank = layer + 1 ∧ Phrased (layer + 1) left before ∧
        Phrased layer right after := by
  rcases Nat.lt_or_ge layer tree.rank with hrank | hrank
  · right
    obtain ⟨hspells, hnormal, hle⟩ := h
    have htop : tree.rank = layer + 1 := Nat.le_antisymm hle hrank
    cases hspells with
    | ident => exact absurd hrank (Nat.not_lt_zero layer)
    | paren => exact absurd hrank (Nat.not_lt_zero layer)
    | binary hoperator hleft hright =>
        rw [Expr.rank] at htop
        obtain ⟨hnormalLeft, hnormalRight, hrankLeft, hrankRight⟩ :=
          (Expr.normal_binary_iff hoperator).1 hnormal
        rw [htop] at hrankLeft hrankRight
        exact ⟨_, _, _, _, _, rfl, rfl, hoperator, htop, ⟨hleft, hnormalLeft, hrankLeft⟩,
          ⟨hright, hnormalRight, Nat.le_of_lt_succ hrankRight⟩⟩
  · left
    exact ⟨h.spells, h.normal, hrank⟩

end Phrased

/-! ## Phrases that read a layer -/

/-- Whether an operator belongs to a layer or to one below it. -/
def TokenKind.isWithin (layer : Nat) (kind : TokenKind) : Bool :=
  kind.isOperator && decide (kind.rank ≤ layer)

/-- No operator of a layer or of one below it comes next. -/
def StopsAt (layer : Nat) (rest : List Token) : Prop :=
  ∀ token ∈ rest.head?, token.kind.isWithin layer = false

theorem StopsAt.of_isOperator {layer : Nat} {token : Token} {later : List Token}
    (h : token.kind.isOperator = false) : StopsAt layer (token :: later) := by
  intro next hnext
  obtain rfl : token = next := by simpa using hnext
  rw [TokenKind.isWithin, h, Bool.false_and]

theorem StopsAt.of_rank {layer : Nat} {token : Token} {later : List Token}
    (h : token.kind.rank = layer + 1) : StopsAt layer (token :: later) := by
  intro next hnext
  obtain rfl : token = next := by simpa using hnext
  simp [TokenKind.isWithin, h]

/-- A phrase reads exactly the trees of a layer whose parentheses are within an allowance, each
from the tokens that spell it. -/
structure Reads (layer allowance : Nat) (phrase : Phrase) : Prop where
  sound {tokens rest : List Token} {tree : Expr} (h : phrase tokens = .ok (tree, rest)) :
    ∃ used, tokens = used ++ rest ∧ Phrased layer tree used ∧ tree.nesting ≤ allowance
  complete {used rest : List Token} {tree : Expr} (h : Phrased layer tree used)
    (hnesting : tree.nesting ≤ allowance) (hstop : StopsAt layer rest) :
    phrase (used ++ rest) = .ok (tree, rest)

/-! ## Chains of operators -/

section Chain

variable {layer allowance : Nat} {isOperator : TokenKind → Bool} {operand : Phrase}

/-- A phrase leaves no more tokens than there were. -/
theorem Reads.rest_length_le (hreads : Reads layer allowance operand) {tokens rest : List Token}
    {tree : Expr} (h : operand tokens = .ok (tree, rest)) : rest.length ≤ tokens.length := by
  obtain ⟨used, rfl, -⟩ := hreads.sound h
  rw [List.length_append]
  exact Nat.le_add_left _ _

/-- Rounds beyond the number of tokens change nothing. -/
theorem foldOperators_rounds (hreads : Reads layer allowance operand) {rounds rounds' : Nat}
    {left : Expr} {tokens : List Token} (h : tokens.length ≤ rounds)
    (h' : tokens.length ≤ rounds') :
    foldOperators isOperator operand rounds left tokens =
      foldOperators isOperator operand rounds' left tokens := by
  -- Induction on the rounds of one side: where a token is left, the other side has a round too.
  induction rounds generalizing rounds' left tokens with
  | zero =>
      obtain rfl : tokens = [] := List.length_eq_zero_iff.1 (Nat.le_zero.1 h)
      cases rounds' <;> rfl
  | succ rounds ih =>
      cases tokens with
      | nil => cases rounds' <;> rfl
      | cons token later =>
          cases rounds' with
          | zero => exact absurd h' (Nat.not_succ_le_zero _)
          | succ rounds' =>
              rw [foldOperators, foldOperators]
              split
              · cases hoperand : operand later with
                | error failure => rfl
                | ok result =>
                    have hle := hreads.rest_length_le hoperand
                    exact ih (Nat.le_trans hle (Nat.le_of_succ_le_succ h))
                      (Nat.le_trans hle (Nat.le_of_succ_le_succ h'))
              · rfl

/-- The loop keeps its invariant: the tree so far is of the layer, spelled by the tokens taken so
far. -/
theorem foldOperators_sound (hreads : Reads layer allowance operand)
    (hoperator : ∀ kind, isOperator kind = true ↔
      kind.isOperator = true ∧ kind.rank = layer + 1)
    {rounds : Nat} {left tree : Expr} {taken tokens rest : List Token}
    (hleft : Phrased (layer + 1) left taken) (hnesting : left.nesting ≤ allowance)
    (h : foldOperators isOperator operand rounds left tokens = .ok (tree, rest)) :
    ∃ used, tokens = used ++ rest ∧ Phrased (layer + 1) tree (taken ++ used) ∧
      tree.nesting ≤ allowance := by
  -- Induction on the rounds; the tree so far and the tokens taken so far change with each round.
  induction rounds generalizing left taken tokens with
  | zero =>
      cases h
      exact ⟨[], rfl, by simpa using hleft, hnesting⟩
  | succ rounds ih =>
      cases tokens with
      | nil =>
          cases h
          exact ⟨[], rfl, by simpa using hleft, hnesting⟩
      | cons token later =>
          rw [foldOperators] at h
          split at h
          next hkind =>
            obtain ⟨hkind, hrank⟩ := (hoperator token.kind).1 hkind
            cases hoperand : operand later with
            | error failure =>
                rw [hoperand] at h
                cases h
            | ok result =>
                obtain ⟨right, rest'⟩ := result
                rw [hoperand] at h
                obtain ⟨used, rfl, hright, hnestingRight⟩ := hreads.sound hoperand
                have hjoined := Phrased.binary hkind hrank hleft hright
                obtain ⟨used', rfl, htree, hnestingTree⟩ :=
                  ih hjoined (Nat.max_le.2 ⟨hnesting, hnestingRight⟩) h
                exact ⟨token :: used ++ used', by simp, by simpa using htree, hnestingTree⟩
          next =>
            cases h
            exact ⟨[], rfl, by simpa using hleft, hnesting⟩

/-- Reading a chain whose first tokens spell a tree of its layer comes to the point where the loop
holds that tree. What follows may be another operator of the layer. -/
theorem chain_append (hreads : Reads layer allowance operand)
    (hoperator : ∀ kind, isOperator kind = true ↔
      kind.isOperator = true ∧ kind.rank = layer + 1)
    {tree : Expr} {used rest : List Token} (h : Phrased (layer + 1) tree used)
    (hnesting : tree.nesting ≤ allowance) (hstop : StopsAt layer rest) :
    chain isOperator operand (used ++ rest) =
      foldOperators isOperator operand rest.length tree rest := by
  -- Induction down the left operands: only they are read by the same chain.
  induction tree generalizing used rest with
  | ident name token binding =>
      have hbottom : Phrased layer (.ident name token binding) used :=
        ⟨h.spells, h.normal, Nat.zero_le layer⟩
      rw [chain, hreads.complete hbottom hnesting hstop]
  | paren inner type _ =>
      have hbottom : Phrased layer (.paren inner type) used :=
        ⟨h.spells, h.normal, Nat.zero_le layer⟩
      rw [chain, hreads.complete hbottom hnesting hstop]
  | binary left operator right type ihleft _ =>
      rcases h.cases_succ with
        hbottom | ⟨_, _, _, before, after, heq, rfl, hkind, hrank, hleft, hright⟩
      · rw [chain, hreads.complete hbottom hnesting hstop]
      · cases heq
        -- The chain is read up to the operator first, and then one round of the loop is made.
        have hnestings := Nat.max_le.1 hnesting
        have hnext : StopsAt layer (operator :: (after ++ rest)) := .of_rank hrank
        have hbefore := ihleft hleft hnestings.1 hnext
        have hround := hreads.complete hright hnestings.2 hstop
        rw [List.append_assoc, List.cons_append, hbefore, List.length_cons, foldOperators,
          if_pos ((hoperator _).2 ⟨hkind, hrank⟩), hround]
        exact foldOperators_rounds hreads (by simp) (Nat.le_refl _)

/-- A chain over a phrase for one layer reads the next layer. -/
theorem Reads.chain (hreads : Reads layer allowance operand)
    (hoperator : ∀ kind, isOperator kind = true ↔
      kind.isOperator = true ∧ kind.rank = layer + 1) :
    Reads (layer + 1) allowance (chain isOperator operand) := by
  constructor
  case sound =>
    intro tokens rest tree h
    rw [Expression.chain] at h
    cases hoperand : operand tokens with
    | error failure =>
        rw [hoperand] at h
        cases h
    | ok result =>
        obtain ⟨left, rest'⟩ := result
        rw [hoperand] at h
        obtain ⟨taken, rfl, hleft, hnesting⟩ := hreads.sound hoperand
        obtain ⟨used, rfl, htree, hnestingTree⟩ :=
          foldOperators_sound hreads hoperator (hleft.mono (Nat.le_succ layer)) hnesting h
        exact ⟨taken ++ used, by simp, htree, hnestingTree⟩
  case complete =>
    intro used rest tree h hnesting hstop
    -- What follows no longer goes on with the chain, and still less with its last operand.
    have hbelow : StopsAt layer rest := by
      intro token hmem
      have hwithin := hstop token hmem
      rw [TokenKind.isWithin, Bool.and_eq_false_iff, decide_eq_false_iff_not] at hwithin ⊢
      exact hwithin.imp_right fun hrank hle => hrank (Nat.le_succ_of_le hle)
    rw [chain_append hreads hoperator h hnesting hbelow]
    cases rest with
    | nil => rfl
    | cons token later =>
        have hwithin := hstop token rfl
        have hother : ¬ isOperator token.kind = true := by
          rw [hoperator]
          rintro ⟨hkind, hrank⟩
          simp [TokenKind.isWithin, hkind, hrank] at hwithin
        rw [List.length_cons, foldOperators, if_neg hother]

end Chain

/-! ## The layers of the grammar -/

theorem reads_term {allowance : Nat} (h : Reads 0 allowance (factor allowance)) :
    Reads 1 allowance (term allowance) :=
  h.chain fun _ => TokenKind.isAdditive_iff

theorem reads_expression {allowance : Nat} (h : Reads 0 allowance (factor allowance)) :
    Reads 2 allowance (expression allowance) :=
  (reads_term h).chain fun _ => TokenKind.isShift_iff

theorem closeParen_eq_ok {inner tree : Expr} {tokens rest : List Token}
    (h : closeParen inner tokens = .ok (tree, rest)) :
    ∃ closing, closing.kind = .closeParen ∧ tokens = closing :: rest ∧
      tree = .paren inner none := by
  cases tokens with
  | nil => cases h
  | cons closing later =>
      rw [closeParen] at h
      split at h
      next hkind =>
        cases h
        exact ⟨closing, hkind, rfl, rfl⟩
      next => cases h

/-- Everything a factor can be: a name, or an expression between parentheses that is read with one
parenthesis less to open. -/
theorem factor_eq_ok {allowance : Nat} {tokens rest : List Token} {tree : Expr}
    (h : factor allowance tokens = .ok (tree, rest)) :
    (∃ token, token.kind = .identifier ∧ tokens = token :: rest ∧
      tree = .ident token.text (some token) none) ∨
    ∃ below inner opening later rest', allowance = below + 1 ∧ opening.kind = .openParen ∧
      tokens = opening :: later ∧ expression below later = .ok (inner, rest') ∧
      closeParen inner rest' = .ok (tree, rest) := by
  rw [factor.eq_def] at h
  split at h
  next => cases h
  next token later =>
    split at h
    next hkind =>
      cases h
      exact .inl ⟨token, hkind, rfl, rfl⟩
    next => cases h
    next below hkind =>
      split at h
      next => cases h
      next inner rest' hinner =>
        exact .inr ⟨below, inner, token, later, rest', rfl, hkind, rfl, hinner, h⟩
    next => cases h
    next => cases h

/-- Factors are read exactly if they are with one parenthesis less. -/
theorem reads_factor_of {allowance : Nat}
    (ih : ∀ below, allowance = below + 1 → Reads 0 below (factor below)) :
    Reads 0 allowance (factor allowance) := by
  constructor
  case sound =>
    intro tokens rest tree h
    rcases factor_eq_ok h with ⟨token, hkind, rfl, rfl⟩ |
      ⟨below, inner, opening, later, rest', hbelow, hopening, rfl, hinner, hclose⟩
    · exact ⟨[token], rfl, .ident hkind, Nat.zero_le _⟩
    · obtain ⟨closing, hclosing, rfl, rfl⟩ := closeParen_eq_ok hclose
      obtain ⟨between, rfl, hphrased, hnesting⟩ :=
        (reads_expression (ih below hbelow)).sound hinner
      refine ⟨opening :: between ++ [closing], by simp, .paren hopening hclosing hphrased, ?_⟩
      rw [hbelow]
      exact Nat.succ_le_succ hnesting
  case complete =>
    intro used rest tree h hnesting _
    obtain ⟨hspells, hnormal, hrank⟩ := h
    cases hspells with
    | ident hkind => simp [factor, hkind]
    | binary hoperator _ _ =>
        exact absurd (Nat.le_trans (TokenKind.one_le_rank _) hrank) (Nat.not_succ_le_zero 0)
    | @paren inner opening closing between hopening hclosing hinner =>
        cases allowance with
        | zero => exact absurd hnesting (Nat.not_succ_le_zero _)
        | succ below =>
            have hnext : StopsAt 2 (closing :: rest) := .of_isOperator (by rw [hclosing]; rfl)
            have hread := (reads_expression (ih below rfl)).complete
              ⟨hinner, hnormal, inner.rank_le_two⟩ (Nat.le_of_succ_le_succ hnesting) hnext
            rw [expression] at hread
            simp [factor, hopening, hread, closeParen, hclosing]

/-- Factors are read exactly, by induction on how many parentheses may still be opened. -/
theorem reads_factor (allowance : Nat) : Reads 0 allowance (factor allowance) := by
  induction allowance with
  | zero =>
      apply reads_factor_of
      intro below h
      exact absurd h (Nat.succ_ne_zero below).symm
  | succ allowance ih =>
      apply reads_factor_of
      intro below h
      obtain rfl := Nat.succ.inj h
      exact ih

/-- A sentence is accepted exactly if its tokens spell a normal tree whose parentheses are within
the allowance; the tree is the one handed back. -/
theorem sentence_eq_ok_iff {allowance : Nat} {tokens : List Token} {tree : Expr} :
    sentence allowance tokens = .ok tree ↔
      Spells tree tokens ∧ tree.Normal ∧ tree.nesting ≤ allowance := by
  have hreads := reads_expression (reads_factor allowance)
  constructor
  · intro h
    rw [sentence] at h
    split at h
    next => cases h
    next tree' hread =>
      cases h
      obtain ⟨used, rfl, hphrased, hnesting⟩ := hreads.sound hread
      rw [List.append_nil]
      exact ⟨hphrased.spells, hphrased.normal, hnesting⟩
    next => cases h
  · rintro ⟨hspells, hnormal, hnesting⟩
    have hend : StopsAt 2 [] := by
      intro token hmem
      cases hmem
    have hread := hreads.complete ⟨hspells, hnormal, tree.rank_le_two⟩ hnesting hend
    rw [List.append_nil] at hread
    rw [sentence, hread]

end GrammarWorkbench.Expression
