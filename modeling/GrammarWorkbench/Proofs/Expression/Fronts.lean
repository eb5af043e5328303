import Mathlib.Data.List.Basic
import GrammarWorkbench.Proofs.Expression.Language

/-!
# What is pending after the front of a sentence

Reading a sentence token by token, two things tell what may come next: how many parentheses are
open, and whether an operand is due (`Pending`). A token that may come next moves this state on, any
other one has no next state. The tokens of a tree lead from a place where an operand is due to the
place after the operand (`Spells.after_eq`), and from every state some tokens lead to the end of a
sentence (`Pending.exists_closing`).
-/

set_option autoImplicit false

namespace GrammarWorkbench.Expression

/-- What is pending after some tokens: the parentheses to close, and whether an operand is due. -/
structure Pending where
  opened : Nat
  due : Bool
  deriving DecidableEq

namespace Pending

/-- The start of a sentence. -/
def start : Pending :=
  ⟨0, true⟩

/-- The end of a sentence. -/
def done : Pending :=
  ⟨0, false⟩

/-- What is pending after a token of a kind, if such a token may come next. -/
def step : Pending → TokenKind → Option Pending
  | ⟨opened, true⟩, .identifier => some ⟨opened, false⟩
  | ⟨opened, true⟩, .openParen => some ⟨opened + 1, true⟩
  | ⟨_, true⟩, _ => none
  | ⟨opened + 1, false⟩, .closeParen => some ⟨opened, false⟩
  | ⟨opened, false⟩, kind => if kind.isOperator then some ⟨opened, true⟩ else none

/-- What is pending after some tokens, if each of them may come next in its place. -/
def after (pending : Pending) (tokens : List Token) : Option Pending :=
  tokens.foldlM (fun pending token => pending.step token.kind) pending

/-- The same place behind more open parentheses. -/
def deepen (more : Nat) (pending : Pending) : Pending :=
  ⟨pending.opened + more, pending.due⟩

variable {pending next : Pending}

/-! ## One token -/

theorem step_operator {kind : TokenKind} (h : kind.isOperator = true) (opened : Nat) :
    step ⟨opened, false⟩ kind = some ⟨opened, true⟩ := by
  cases opened <;> cases kind <;> first | rfl | exact absurd h (by decide)

theorem step_eq_none_of_due {kind : TokenKind} (hname : kind ≠ .identifier)
    (hopen : kind ≠ .openParen) (opened : Nat) : step ⟨opened, true⟩ kind = none := by
  cases kind <;> first | rfl | exact absurd rfl hname | exact absurd rfl hopen

theorem step_eq_none_of_not_due {kind : TokenKind} (hoperator : kind.isOperator = false)
    {opened : Nat} (hclose : kind = .closeParen → opened = 0) :
    step ⟨opened, false⟩ kind = none := by
  cases opened with
  | zero => cases kind <;> first | rfl | exact absurd hoperator (by decide)
  | succ opened =>
      cases kind <;> first | rfl | exact absurd hoperator (by decide) | cases hclose rfl

/-- No sentence goes on with an end token. -/
theorem step_endOfInput (pending : Pending) : pending.step .endOfInput = none := by
  obtain ⟨opened, due⟩ := pending
  cases due with
  | true => rfl
  | false => cases opened <;> rfl

/-- More open parentheses do not stand in the way of a token. -/
theorem step_deepen {kind : TokenKind} (h : pending.step kind = some next) (more : Nat) :
    (pending.deepen more).step kind = some (next.deepen more) := by
  obtain ⟨opened, due⟩ := pending
  cases due with
  | true =>
      cases kind <;> cases h
      · rfl
      · rw [deepen, deepen, step, Nat.add_right_comm]
  | false =>
      by_cases hoperator : kind.isOperator = true
      · rw [step_operator hoperator] at h
        cases h
        exact step_operator hoperator _
      · -- What is no operator can only be the parenthesis that closes one of those open.
        cases opened with
        | zero => cases kind <;> first | exact absurd rfl hoperator | cases h
        | succ opened =>
            cases kind <;> first | exact absurd rfl hoperator | cases h
            rw [deepen, Nat.add_right_comm, step, deepen]

/-- A token opens or closes at most one parenthesis. -/
theorem step_balance {token : Token} (h : pending.step token.kind = some next) :
    pending.opened + kindCount .openParen [token] =
      next.opened + kindCount .closeParen [token] := by
  obtain ⟨opened, due⟩ := pending
  simp only [kindCount_cons, kindCount_nil]
  generalize token.kind = kind at h ⊢
  cases due with
  | true => cases kind <;> cases h <;> rfl
  | false => cases opened <;> cases kind <;> cases h <;> rfl

/-! ## Several tokens -/

theorem after_append (pending : Pending) (front tokens : List Token) :
    pending.after (front ++ tokens) = (pending.after front).bind fun next => next.after tokens :=
  List.foldlM_append

theorem after_cons (pending : Pending) (token : Token) (tokens : List Token) :
    pending.after (token :: tokens) =
      (pending.step token.kind).bind fun next => next.after tokens :=
  List.foldlM_cons

theorem after_singleton (pending : Pending) (token : Token) :
    pending.after [token] = pending.step token.kind := by
  rw [after_cons]
  cases pending.step token.kind <;> rfl

/-- Tokens that may come next one after the other. -/
theorem after_trans {last : Pending} {front tokens : List Token}
    (hfront : pending.after front = some next) (htokens : next.after tokens = some last) :
    pending.after (front ++ tokens) = some last := by
  rw [after_append, hfront]
  exact htokens

/-- Tokens that lead somewhere do so with every front. -/
theorem after_front {last : Pending} {front tokens : List Token}
    (h : pending.after (front ++ tokens) = some last) :
    ∃ middle, pending.after front = some middle ∧ middle.after tokens = some last := by
  rw [after_append] at h
  exact Option.bind_eq_some_iff.1 h

theorem after_deepen {tokens : List Token} (h : pending.after tokens = some next) (more : Nat) :
    (pending.deepen more).after tokens = some (next.deepen more) := by
  induction tokens generalizing pending with
  | nil =>
      cases h
      rfl
  | cons token tokens ih =>
      rw [after_cons] at h ⊢
      obtain ⟨middle, hmiddle, hlast⟩ := Option.bind_eq_some_iff.1 h
      rw [step_deepen hmiddle]
      exact ih hlast

/-- The parentheses open at the end are those open at the start and those opened in between, less
those closed in between. -/
theorem after_balance {tokens : List Token} (h : pending.after tokens = some next) :
    pending.opened + kindCount .openParen tokens =
      next.opened + kindCount .closeParen tokens := by
  induction tokens generalizing pending with
  | nil =>
      cases h
      rfl
  | cons token tokens ih =>
      rw [after_cons] at h
      obtain ⟨middle, hmiddle, hlast⟩ := Option.bind_eq_some_iff.1 h
      have hfirst := step_balance hmiddle
      have hrest := ih hlast
      rw [← List.singleton_append, kindCount_append, kindCount_append]
      omega

/-! ## To the end of a sentence -/

/-- All open parentheses can be closed after an operand. -/
theorem exists_closeParens (opened : Nat) : ∃ more, after ⟨opened, false⟩ more = some done := by
  induction opened with
  | zero => exact ⟨[], rfl⟩
  | succ opened ih =>
      obtain ⟨more, hmore⟩ := ih
      exact ⟨⟨.closeParen, ")", 1, 1⟩ :: more, hmore⟩

/-- From every place some tokens lead to the end of a sentence. -/
theorem exists_closing (pending : Pending) : ∃ more, pending.after more = some done := by
  obtain ⟨opened, due⟩ := pending
  obtain ⟨more, hmore⟩ := exists_closeParens opened
  cases due with
  | true => exact ⟨⟨.identifier, "x", 1, 1⟩ :: more, hmore⟩
  | false => exact ⟨more, hmore⟩

end Pending

/-! ## Trees -/

/-- The tokens of a tree are the operand that was due. -/
theorem Spells.after_eq {tree : Expr} {tokens : List Token} (h : Spells tree tokens)
    (opened : Nat) : Pending.after ⟨opened, true⟩ tokens = some ⟨opened, false⟩ := by
  induction h generalizing opened with
  | ident hkind =>
      rw [Pending.after_singleton, hkind]
      rfl
  | binary hoperator _ _ ihleft ihright =>
      refine Pending.after_trans (ihleft opened) ?_
      rw [Pending.after_cons, Pending.step_operator hoperator]
      exact ihright opened
  | @paren inner opening closing between hopening hclosing _ ih =>
      have hopen : Pending.after ⟨opened, true⟩ [opening] = some ⟨opened + 1, true⟩ := by
        rw [Pending.after_singleton, hopening]
        rfl
      have hclose : Pending.after ⟨opened + 1, false⟩ [closing] = some ⟨opened, false⟩ := by
        rw [Pending.after_singleton, hclosing]
        rfl
      exact Pending.after_trans (Pending.after_trans hopen (ih (opened + 1))) hclose

end GrammarWorkbench.Expression
