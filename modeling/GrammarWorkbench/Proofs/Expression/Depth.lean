import Mathlib.Data.List.MinMax
import Mathlib.Order.Nat
import GrammarWorkbench.Proofs.Expression.Misfit

/-!
# The depth of parentheses and the limit on it

The depth of some tokens is the largest number of parentheses open at once (`depth`). The fitting
front of a text is the longest of its fronts that a sentence can start with (`FittingFront`); it
ends before the first token that cannot go on with any sentence.

A phrase that fails has taken tokens whose depth is within its allowance, however many operators
they hold (`keepsWithin_factor`): a chain reads its operands one after the other, each with the
allowance of the chain, and only a parenthesis lowers it. So a reading fails for its depth exactly
if the fitting front is deeper than the allowance (`FittingFront.tooDeep_iff`), and what comes
behind the parenthesis that is one too many plays no part.
-/

set_option autoImplicit false

namespace GrammarWorkbench.Expression

/-! ## Depth -/

/-- The largest number of parentheses open at once: over all fronts of the tokens, how many more
they open than they close. -/
def depth (tokens : List Token) : Nat :=
  (tokens.inits.map fun front =>
    kindCount .openParen front - kindCount .closeParen front).foldr max 0

theorem depth_le_iff {limit : Nat} {tokens : List Token} :
    depth tokens ≤ limit ↔ NestsWithin limit tokens := by
  constructor
  · intro h front hfront
    have hle : kindCount .openParen front - kindCount .closeParen front ≤ depth tokens :=
      List.le_max_of_le (List.mem_map_of_mem hfront) (Nat.le_refl _)
    omega
  · intro h
    refine List.max_le_of_forall_le _ _ ?_
    intro excess hexcess
    obtain ⟨front, hfront, rfl⟩ := List.mem_map.1 hexcess
    have hle := h front hfront
    omega

namespace NestsWithin

variable {limit more : Nat} {front tokens before after : List Token}

theorem of_initial (h : NestsWithin limit tokens) (hfront : front <+: tokens) :
    NestsWithin limit front := by
  obtain ⟨rest, rfl⟩ := hfront
  exact h.of_append

theorem mono (h : NestsWithin limit tokens) (hle : limit ≤ more) : NestsWithin more tokens :=
  fun front hfront => Nat.le_trans (h front hfront) (Nat.add_le_add_left hle _)

theorem nil : NestsWithin limit [] := by
  intro front hfront
  obtain rfl := List.prefix_nil.1 ((List.mem_inits _ _).1 hfront)
  exact Nat.zero_le _

/-- A token in front adds at most one to the depth. -/
theorem cons_succ (h : NestsWithin limit tokens) (token : Token) :
    NestsWithin (limit + 1) (token :: tokens) := by
  intro front hfront
  rcases List.prefix_cons_iff.1 ((List.mem_inits _ _).1 hfront) with rfl | ⟨rest, rfl, hrest⟩
  · exact Nat.zero_le _
  · have hle := h rest ((List.mem_inits _ _).2 hrest)
    rw [kindCount_cons, kindCount_cons]
    split <;> omega

/-- A token in front that opens nothing adds nothing to the depth. -/
theorem cons (h : NestsWithin limit tokens) {token : Token} (hopen : token.kind ≠ .openParen) :
    NestsWithin limit (token :: tokens) := by
  intro front hfront
  rcases List.prefix_cons_iff.1 ((List.mem_inits _ _).1 hfront) with rfl | ⟨rest, rfl, hrest⟩
  · exact Nat.zero_le _
  · have hle := h rest ((List.mem_inits _ _).2 hrest)
    rw [kindCount_cons, kindCount_cons, if_neg hopen]
    omega

/-- Behind tokens that close what they open, the depth starts anew. -/
theorem append (hbefore : NestsWithin limit before)
    (hclosed : kindCount .openParen before = kindCount .closeParen before)
    (hafter : NestsWithin limit after) : NestsWithin limit (before ++ after) := by
  intro front hfront
  have hinitial := (List.mem_inits _ _).1 hfront
  -- A front ends before the second part or inside it.
  rcases List.prefix_or_prefix_of_prefix hinitial (List.prefix_append before after) with
    hshort | ⟨rest, rfl⟩
  · exact hbefore front ((List.mem_inits _ _).2 hshort)
  · have hrest := hafter rest ((List.mem_inits _ _).2 ((List.prefix_append_right_inj _).1 hinitial))
    rw [kindCount_append, kindCount_append]
    omega

end NestsWithin

/-- The tokens of a tree are no deeper than the tree. -/
theorem Spells.nestsWithin {tree : Expr} {tokens : List Token} (h : Spells tree tokens) :
    NestsWithin tree.nesting tokens := by
  induction h with
  | ident hkind => exact .cons .nil (by rw [hkind]; decide)
  | @binary left right operator before after hoperator hleft _ ihleft ihright =>
      -- The left operand closes what it opens, and the operator opens nothing.
      have hbehind := (ihright.mono (Nat.le_max_right left.nesting _)).cons
        (TokenKind.ne_paren hoperator).1
      exact .append (ihleft.mono (Nat.le_max_left _ _)) hleft.kindCount_parens hbehind
  | @paren inner opening closing between hopening hclosing hinner ih =>
      have hlast : NestsWithin inner.nesting [closing] := .cons .nil (by rw [hclosing]; decide)
      exact (ih.append hinner.kindCount_parens hlast).cons_succ opening

/-! ## Fitting fronts -/

/-- The longest front of some tokens that a sentence, ended by the end token, can start with. -/
structure FittingFront (tokens front : List Token) : Prop where
  initial : front <+: tokens
  viable : Viable front
  longest : ∀ token, front ++ [token] <+: tokens → ¬ Viable (front ++ [token])

namespace FittingFront

variable {tokens front other : List Token}

/-- Every other viable front is a front of it. -/
theorem initial_of_viable (h : FittingFront tokens front) (hinitial : other <+: tokens)
    (hviable : Viable other) : other <+: front := by
  rcases List.prefix_or_prefix_of_prefix hinitial h.initial with hshort | ⟨more, rfl⟩
  · exact hshort
  · cases more with
    | nil => rw [List.append_nil]
    | cons token more =>
        -- A longer viable front goes on with the token that the fitting one stops at.
        have hsplit : front ++ token :: more = (front ++ [token]) ++ more := by simp
        rw [hsplit] at hinitial hviable
        exact absurd hviable.of_append (h.longest token ((List.prefix_append _ _).trans hinitial))

/-- There is no second fitting front. -/
theorem unique (h : FittingFront tokens front) (hother : FittingFront tokens other) :
    other = front :=
  (h.initial_of_viable hother.initial hother.viable).eq_of_length_le
    (hother.initial_of_viable h.initial h.viable).length_le

end FittingFront

/-- The tokens before a misfit are the fitting front. -/
theorem IsMisfit.fittingFront {tokens : List Token} {place : Nat} (h : IsMisfit tokens place) :
    FittingFront tokens (tokens.take place) := by
  refine ⟨List.take_prefix _ _, h.1, ?_⟩
  intro token hinitial
  have hlength := hinitial.length_le
  -- A token comes behind those taken, so as many were taken as there are before the misfit.
  have htaken : (tokens.take place ++ [token]).length = place + 1 := by
    simp only [List.length_append, List.length_take, List.length_singleton] at hlength ⊢
    omega
  rw [List.prefix_iff_eq_take.1 hinitial, htaken]
  exact h.2

/-- All tokens have a fitting front. -/
theorem exists_fittingFront (tokens : List Token) : ∃ front, FittingFront tokens front := by
  -- From the right: one more token belongs to the front, or is behind the one there was.
  induction tokens using List.reverseRecOn with
  | nil =>
      have hstart : Viable [] := @viable_of_after [] .start rfl
      exact ⟨[], List.prefix_rfl, hstart, fun token hinitial => by simp at hinitial⟩
  | append_singleton tokens last ih =>
      by_cases hviable : Viable (tokens ++ [last])
      · refine ⟨_, List.prefix_rfl, hviable, ?_⟩
        intro token hinitial
        have hlength := hinitial.length_le
        simp at hlength
      · obtain ⟨front, hfront⟩ := ih
        refine ⟨front, hfront.initial.trans (List.prefix_append _ _), hfront.viable, ?_⟩
        intro token hinitial
        rcases List.prefix_concat_iff.1 hinitial with heq | hshort
        · exact heq ▸ hviable
        · exact hfront.longest token hshort

/-! ## Failures within the allowance -/

/-- What a phrase has taken when it fails is within the allowance. -/
def KeepsWithin (allowance : Nat) (phrase : Phrase) : Prop :=
  ∀ (tokens : List Token) (failure : Failure), phrase tokens = .error failure →
    ∃ used, tokens = used ++ failure.unread ∧ NestsWithin allowance used

theorem KeepsWithin.chain {layer allowance : Nat} {isOperator : TokenKind → Bool}
    {operand : Phrase} (hreads : Reads layer allowance operand)
    (hkeeps : KeepsWithin allowance operand)
    (hoperator : ∀ kind, isOperator kind = true → kind.isOperator = true) :
    KeepsWithin allowance (chain isOperator operand) := by
  intro tokens failure h
  rcases chain_eq_error hreads hoperator h with
    hfirst | ⟨tree, front, operator, later, htree, hnesting, hkind, rfl, hlater⟩
  · exact hkeeps _ _ hfirst
  · -- All parentheses before the operand that fails are closed again.
    obtain ⟨used, rfl, hused⟩ := hkeeps _ _ hlater
    refine ⟨front ++ operator :: used, by simp, ?_⟩
    exact (htree.nestsWithin.mono hnesting).append htree.kindCount_parens
      (hused.cons (TokenKind.ne_paren hkind).1)

theorem keepsWithin_expression {allowance : Nat} (h : KeepsWithin allowance (factor allowance)) :
    KeepsWithin allowance (expression allowance) :=
  (h.chain (reads_factor allowance) fun _ hkind => (TokenKind.isAdditive_iff.1 hkind).1).chain
    (reads_term (reads_factor allowance)) fun _ hkind => (TokenKind.isShift_iff.1 hkind).1

/-- Only a parenthesis uses up some of the allowance. -/
theorem keepsWithin_factor (allowance : Nat) : KeepsWithin allowance (factor allowance) := by
  induction allowance with
  | zero =>
      intro tokens failure h
      rcases factor_eq_error h with ⟨hunread, -⟩ | ⟨-, -, -, -, -, rfl⟩ | ⟨below, -, -, hzero, -⟩
      · exact ⟨[], hunread.symm, .nil⟩
      · exact ⟨[], rfl, .nil⟩
      · exact absurd hzero (Nat.succ_ne_zero below).symm
  | succ allowance ih =>
      intro tokens failure h
      rcases factor_eq_error h with ⟨hunread, -⟩ | ⟨-, -, -, -, hzero, -⟩ |
        ⟨below, opening, later, hbelow, rfl, hopen, hrest⟩
      · exact ⟨[], hunread.symm, .nil⟩
      · exact absurd hzero (Nat.succ_ne_zero allowance)
      · obtain rfl := Nat.succ.inj hbelow
        -- Both ways to fail inside leave tokens within the smaller allowance.
        have hinside : ∃ used, later = used ++ failure.unread ∧ NestsWithin allowance used := by
          rcases hrest with hinner | ⟨inner, rest, hinner, hclose⟩
          · exact keepsWithin_expression ih _ _ hinner
          · obtain ⟨rfl, -⟩ := closeParen_eq_error hclose
            obtain ⟨used, rfl, hphrased, hnesting⟩ :=
              (reads_expression (reads_factor allowance)).sound hinner
            exact ⟨used, rfl, hphrased.spells.nestsWithin.mono hnesting⟩
        obtain ⟨used, rfl, hused⟩ := hinside
        exact ⟨opening :: used, rfl, hused.cons_succ opening⟩

/-- What a sentence has taken when it fails is within the allowance. -/
theorem nestsWithin_of_sentence_error {allowance : Nat} {used : List Token} {failure : Failure}
    (h : sentence allowance (used ++ failure.unread) = .error failure) :
    NestsWithin allowance used := by
  rcases sentence_eq_error_cases h with hread | ⟨tree, token, later, hread, rfl⟩
  · obtain ⟨taken, htaken, hwithin⟩ := keepsWithin_expression (keepsWithin_factor _) _ _ hread
    rwa [List.append_cancel_right htaken]
  · obtain ⟨taken, htaken, hphrased, hnesting⟩ :=
      (reads_expression (reads_factor allowance)).sound hread
    rw [List.append_cancel_right htaken]
    exact hphrased.spells.nestsWithin.mono hnesting

/-! ## The limit -/

/-- The text of the error for too deep a nesting belongs to that fault only. -/
theorem SyntaxError.reason_tooDeep_iff {error : SyntaxError} :
    error.reason = "Expression is nested too deeply" ↔ error.fault = .tooDeep := by
  obtain ⟨fault, token⟩ := error
  constructor
  · intro h
    have hchars := congrArg String.toList h
    cases fault with
    | tooDeep => rfl
    | _ => simp [reason] at hchars
  · rintro rfl
    rfl

theorem SyntaxError.message_of_tooDeep {error : SyntaxError} (h : error.fault = .tooDeep) :
    error.message = "Error at line " ++ toString error.token.line ++ ", column " ++
      toString error.token.column ++ ": Expression is nested too deeply" := by
  have htext (place : String) : place ++ ": " ++ "Expression is nested too deeply" =
      place ++ ": Expression is nested too deeply" := by simp [String.append_assoc]
  exact (congrArg _ (reason_tooDeep_iff.2 h)).trans (htext _)

variable {source : String} {allowance : Nat} {front : List Token}

/-- A text that can be read as a sentence has no front deeper than the allowance. -/
theorem depth_le_of_sentence {tree : Expr}
    (hread : sentence allowance (Parser.ofSource source).unread = .ok tree)
    (hinitial : front <+: tokenize source) : depth front ≤ allowance := by
  obtain ⟨hspells, -, hnesting⟩ := sentence_eq_ok_iff.1 hread
  have hstop : NestsWithin allowance [(Parser.ofSource source).stop] := .cons .nil nofun
  have htokens := (hspells.nestsWithin.mono hnesting).append hspells.kindCount_parens hstop
  rw [← tokenize_eq] at htokens
  exact depth_le_iff.2 (htokens.of_initial hinitial)

/-- A text that cannot be read as a sentence fails for its depth exactly if its fitting front is
deeper than the allowance. -/
theorem FittingFront.tooDeep_iff {failure : Failure}
    (hfront : FittingFront (tokenize source) front)
    (hread : sentence allowance (Parser.ofSource source).unread = .error failure) :
    failure.fault = .tooDeep ↔ allowance < depth front := by
  obtain ⟨used, pending, hused, hafter, ⟨hfault, hhalts⟩ | ⟨hfault, hmisfits⟩⟩ :=
    sentence_halts hread
  · -- The parenthesis that is one too many could be part of a sentence.
    obtain ⟨rfl, opening, later, hunread, hopen⟩ := hhalts.opening_of_tooDeep hfault
    have hinitial : used ++ [opening] <+: tokenize source := by
      rw [tokenize_eq, hused, hunread]
      exact ⟨later ++ [(Parser.ofSource source).stop], by simp⟩
    have hstep : Pending.after ⟨allowance, true⟩ [opening] = some ⟨allowance + 1, true⟩ := by
      rw [Pending.after_singleton, hopen]
      rfl
    have hviable := viable_of_after (Pending.after_trans hafter hstep)
    have hwithin := hfront.initial_of_viable hinitial hviable
    have hbalance := Pending.after_balance (Pending.after_trans hafter hstep)
    refine iff_of_true hfault (Nat.lt_of_not_le ?_)
    intro hle
    have hnests := (depth_le_iff.1 hle).of_initial hwithin
    have hcount := hnests _ ((List.mem_inits _ _).2 List.prefix_rfl)
    simp only [Pending.start] at hbalance
    omega
  · -- At a misfit the fitting front is what was read, which is within the allowance.
    refine iff_of_false hfault (Nat.not_lt_of_le ?_)
    obtain ⟨rest, htokens, hmisfit⟩ := Parser.isMisfit_current hused hafter hmisfits
    have hbefore : (tokenize source).take used.length = used := by rw [htokens, List.take_left]
    obtain rfl : used = front := hbefore ▸ hfront.unique hmisfit.fittingFront
    rw [hused] at hread
    exact depth_le_iff.2 (nestsWithin_of_sentence_error hread)

/-- The limit on the nesting is about nesting only. As long as at most a hundred parentheses are
open at once before the first token that cannot go on with any sentence, no error says that the
nesting is too deep, however long the text is. With three thousand open this is the only error, and
there is no tree, whatever comes behind. -/
theorem nesting_limit (limit : NestingLimit) (source : String) :
    ∃ front, (∀ other, FittingFront (tokenize source) other ↔ other = front) ∧
      (depth front ≤ 100 → ∀ error ∈ ((Parser.ofSource source).parse limit).2.errors,
        error.reason ≠ "Expression is nested too deeply") ∧
      (3000 ≤ depth front → ((Parser.ofSource source).parse limit).1 = none ∧
        ∃ error, ((Parser.ofSource source).parse limit).2.errors = [error] ∧
          error.message = "Error at line " ++ toString error.token.line ++ ", column " ++
            toString error.token.column ++ ": Expression is nested too deeply") := by
  obtain ⟨front, hfront⟩ := exists_fittingFront (tokenize source)
  have hleast := limit.hundred_le
  have hmost := limit.lt_threeThousand
  refine ⟨front, fun other => ⟨hfront.unique, fun heq => heq ▸ hfront⟩, ?_⟩
  cases hread : sentence limit.count (Parser.ofSource source).unread with
  | ok tree =>
      have hdepth := depth_le_of_sentence hread hfront.initial
      have herrors : ((Parser.ofSource source).parse limit).2.errors = [] := by
        rw [Parser.parse_of_ok hread]
        rfl
      refine ⟨?_, fun hdeep => by omega⟩
      intro _ error herror
      rw [herrors] at herror
      exact absurd herror List.not_mem_nil
  | error failure =>
      have hiff := hfront.tooDeep_iff hread
      obtain ⟨hnone, herrors⟩ := Parser.parse_of_error hread
      have hnoErrors : (Parser.ofSource source).errors = [] := rfl
      rw [hnoErrors, List.nil_append] at herrors
      refine ⟨?_, ?_⟩
      · intro hdepth error herror hreason
        rw [herrors] at herror
        obtain rfl := List.mem_singleton.1 herror
        have hdeep := hiff.1 (SyntaxError.reason_tooDeep_iff.1 hreason)
        omega
      · intro hdeep
        have hfault : failure.fault = .tooDeep := hiff.2 (by omega)
        exact ⟨hnone, _, herrors, SyntaxError.message_of_tooDeep hfault⟩

/-- Parentheses that are closed again do not add up. -/
example : depth (tokenize "(a) + ((b) << c)") = 2 := by decide +kernel

end GrammarWorkbench.Expression
