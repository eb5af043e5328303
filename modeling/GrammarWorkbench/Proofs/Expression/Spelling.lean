import GrammarWorkbench.Expression.Tree

/-!
# Trees and the tokens that spell them

Reading makes a tree of tokens: a name keeps its token, an operator keeps its token between the
tokens of its operands, and parentheses leave their two tokens to the form of the tree
(`Spells`). Spelled trees can be flattened: the kinds and texts of their tokens, and the tokens that
the nodes keep, are read off the tree again (`Spells.flatten_eq`, `Spells.carried_eq`).

Which trees the layers of the grammar make is said by ranks: an operand has rank zero, an additive
operator rank one and a shift rank two. In a normal tree the left operand of an operator has at
most the rank of the operator and the right operand a smaller one (`normal_binary_iff`).
-/

set_option autoImplicit false

namespace GrammarWorkbench.Expression

/-! ## Ranks of operators -/

namespace TokenKind

/-- The kinds of the four operators. -/
def isOperator (kind : TokenKind) : Bool :=
  kind.isAdditive || kind.isShift

/-- The rank of an operator: one for the operators that bind tighter, two for the others. -/
def rank (kind : TokenKind) : Nat :=
  if kind.isShift then 2 else 1

/-- The kinds of the parentheses. -/
def isParen : TokenKind → Bool
  | openParen | closeParen => true
  | _ => false

theorem isAdditive_iff {kind : TokenKind} :
    kind.isAdditive = true ↔ kind.isOperator = true ∧ kind.rank = 1 := by
  cases kind <;> decide

theorem isShift_iff {kind : TokenKind} :
    kind.isShift = true ↔ kind.isOperator = true ∧ kind.rank = 2 := by
  cases kind <;> decide

theorem ne_paren {kind : TokenKind} (h : kind.isOperator = true) :
    kind ≠ openParen ∧ kind ≠ closeParen := by
  cases kind <;> first | decide | exact absurd h (by decide)

theorem isParen_eq_false {kind : TokenKind} (h : kind.isOperator = true) :
    kind.isParen = false := by
  cases kind <;> first | rfl | exact absurd h (by decide)

theorem one_le_rank (kind : TokenKind) : 1 ≤ kind.rank := by
  cases kind <;> decide

end TokenKind

/-! ## Normal trees -/

namespace Expr

/-- Whether the root is a shift without parentheses around it. -/
def isShiftNode : Expr → Bool
  | binary _ operator _ _ => operator.kind.isShift
  | _ => false

/-- Whether the root is a name or a pair of parentheses. -/
def isOperand : Expr → Bool
  | binary _ _ _ _ => false
  | _ => true

/-- No additive operator has a bare shift on its left or a bare operator on its right, and no shift
has a bare shift on its right. -/
def Normal : Expr → Prop
  | ident _ _ _ => True
  | paren inner _ => inner.Normal
  | binary left operator right _ =>
    left.Normal ∧ right.Normal ∧
      (operator.kind.isAdditive = true → left.isShiftNode = false ∧ right.isOperand = true) ∧
      (operator.kind.isShift = true → right.isShiftNode = false)

instance decidableNormal : (tree : Expr) → Decidable tree.Normal
  | ident _ _ _ => inferInstanceAs (Decidable True)
  | paren inner _ => decidableNormal inner
  | binary left _ right _ =>
    have := decidableNormal left
    have := decidableNormal right
    inferInstanceAs (Decidable (_ ∧ _ ∧ (_ → _ ∧ _) ∧ (_ → _)))

/-- The rank of the operator at the root; names and parentheses have rank zero. -/
def rank : Expr → Nat
  | binary _ operator _ _ => operator.kind.rank
  | _ => 0

/-- How many parentheses are around the innermost subtree. -/
def nesting : Expr → Nat
  | ident _ _ _ => 0
  | paren inner _ => inner.nesting + 1
  | binary left _ right _ => max left.nesting right.nesting

theorem rank_le_two (tree : Expr) : tree.rank ≤ 2 := by
  cases tree with
  | ident => exact Nat.zero_le 2
  | paren => exact Nat.zero_le 2
  | binary left operator right =>
      rw [rank, TokenKind.rank]
      split <;> omega

theorem rank_le_one_iff {tree : Expr} : tree.rank ≤ 1 ↔ tree.isShiftNode = false := by
  cases tree with
  | ident => simp [rank, isShiftNode]
  | paren => simp [rank, isShiftNode]
  | binary left operator right =>
      rw [rank, TokenKind.rank, isShiftNode]
      cases operator.kind.isShift <;> decide

theorem rank_lt_one_iff {tree : Expr} : tree.rank < 1 ↔ tree.isOperand = true := by
  cases tree with
  | ident => simp [rank, isOperand]
  | paren => simp [rank, isOperand]
  | binary left operator right =>
      rw [rank, TokenKind.rank, isOperand]
      cases operator.kind.isShift <;> decide

/-- Normality at an operator, in terms of ranks. -/
theorem normal_binary_iff {left right : Expr} {operator : Token} {type : Option String}
    (hoperator : operator.kind.isOperator = true) :
    (binary left operator right type).Normal ↔
      left.Normal ∧ right.Normal ∧
        left.rank ≤ operator.kind.rank ∧ right.rank < operator.kind.rank := by
  rw [Normal]
  apply and_congr_right
  intro _
  apply and_congr_right
  intro _
  -- An operator is a shift or additive, and only the conditions of its own kind say anything.
  cases hshift : operator.kind.isShift with
  | true =>
      have hrank := (TokenKind.isShift_iff.1 hshift).2
      have hadditive : ¬ operator.kind.isAdditive = true := by
        rw [TokenKind.isAdditive_iff, hrank]
        simp
      have hleft := left.rank_le_two
      rw [hrank, Nat.lt_succ_iff, rank_le_one_iff]
      simp [hadditive, hleft]
  | false =>
      have hrank : operator.kind.rank = 1 := by rw [TokenKind.rank, hshift]; rfl
      have hadditive := TokenKind.isAdditive_iff.2 ⟨hoperator, hrank⟩
      rw [hrank, rank_le_one_iff, rank_lt_one_iff]
      simp [hadditive]

end Expr

/-! ## Spelling -/

/-- The tree that reading makes of some tokens. -/
inductive Spells : Expr → List Token → Prop
  | ident {token : Token} (hkind : token.kind = .identifier) :
      Spells (.ident token.text (some token) none) [token]
  | binary {left right : Expr} {operator : Token} {before after : List Token}
      (hoperator : operator.kind.isOperator = true) (hleft : Spells left before)
      (hright : Spells right after) :
      Spells (.binary left operator right none) (before ++ operator :: after)
  | paren {inner : Expr} {opening closing : Token} {between : List Token}
      (hopening : opening.kind = .openParen) (hclosing : closing.kind = .closeParen)
      (hinner : Spells inner between) :
      Spells (.paren inner none) (opening :: between ++ [closing])

namespace Expr

/-- The kinds and texts of the tokens of a tree, from left to right. -/
def flatten : Expr → List (TokenKind × String)
  | ident name _ _ => [(.identifier, name)]
  | binary left operator right _ =>
    left.flatten ++ (operator.kind, operator.text) :: right.flatten
  | paren inner _ => (.openParen, "(") :: inner.flatten ++ [(.closeParen, ")")]

/-- The tokens that the names and operators of a tree keep, from left to right. -/
def carried : Expr → List (Option Token)
  | ident _ token _ => [token]
  | binary left operator right _ => left.carried ++ some operator :: right.carried
  | paren inner _ => inner.carried

end Expr

namespace Token

/-- The kind and the text of a token, without its place. -/
def lexical (token : Token) : TokenKind × String :=
  (token.kind, token.text)

end Token

namespace Spells

variable {tree : Expr} {tokens : List Token}

/-- A tree keeps the tokens that spell it, the parentheses apart. -/
theorem carried_eq (h : Spells tree tokens) :
    tree.carried = (tokens.filter fun token => !token.kind.isParen).map some := by
  induction h with
  | ident hkind => simp [Expr.carried, hkind, TokenKind.isParen]
  | binary hoperator _ _ ihleft ihright =>
      simp [Expr.carried, ihleft, ihright, TokenKind.isParen_eq_false hoperator]
  | paren hopening hclosing _ ih =>
      simp [Expr.carried, ih, hopening, hclosing, TokenKind.isParen]

/-- Flattening a tree gives the kinds and texts of the tokens that spell it. -/
theorem flatten_eq (h : Spells tree tokens)
    (hparens : ∀ token ∈ tokens, (token.kind = .openParen → token.text = "(") ∧
      (token.kind = .closeParen → token.text = ")")) :
    tree.flatten = tokens.map Token.lexical := by
  induction h with
  | ident hkind => simp [Expr.flatten, Token.lexical, hkind]
  | binary _ _ _ ihleft ihright =>
      rw [Expr.flatten, ihleft fun token hmem => hparens token (by simp [hmem]),
        ihright fun token hmem => hparens token (by simp [hmem])]
      simp [Token.lexical]
  | paren hopening hclosing _ ih =>
      have hfirst := (hparens _ (by simp)).1 hopening
      have hlast := (hparens _ (by simp)).2 hclosing
      rw [Expr.flatten, ih fun token hmem => hparens token (by simp [hmem])]
      simp [Token.lexical, hopening, hclosing, hfirst, hlast]

end Spells

end GrammarWorkbench.Expression
