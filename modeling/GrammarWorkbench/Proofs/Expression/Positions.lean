import GrammarWorkbench.Proofs.Expression.Lexing

/-!
# The tokens of a text stand in order

Lines and columns never go back while a text is read, and a token takes up at least one column, so
that each token stands before all later ones (`Cursor.scan_inOrder`).
-/

set_option autoImplicit false

namespace GrammarWorkbench.Expression

/-- A token stands before another one: on an earlier line, or further left on the same line. -/
def Token.Precedes (token later : Token) : Prop :=
  token.line < later.line ∨ token.line = later.line ∧ token.column < later.column

namespace Cursor

/-- A token does not stand before the place of a cursor. -/
def Reaches (cursor : Cursor) (token : Token) : Prop :=
  (cursor.line : Int) < token.line ∨
    (cursor.line : Int) = token.line ∧ (cursor.column : Int) ≤ token.column

/-- Skipping a gap goes forward. -/
theorem skipFrom_forward (cs : List Char) (offset line column : Nat) :
    line < (skipFrom cs offset line column).line ∨
      line = (skipFrom cs offset line column).line ∧
        column ≤ (skipFrom cs offset line column).column := by
  induction cs generalizing offset line column with
  | nil => exact .inr ⟨rfl, Nat.le_refl column⟩
  | cons c rest ih =>
      rw [skipFrom]
      split
      next =>
        have hrest := ih (offset + 1) (line + 1) 1
        omega
      next =>
        split
        next =>
          have hrest := ih (offset + 1) line (column + 1)
          omega
        next => exact .inr ⟨rfl, Nat.le_refl column⟩

/-- The next token does not stand before the cursor. -/
theorem reaches_token (cursor : Cursor) (lexeme : Lexeme) :
    cursor.Reaches (cursor.skipGap.token lexeme) := by
  have hforward := skipFrom_forward cursor.rest cursor.offset cursor.line cursor.column
  simp only [Reaches, token, skipGap]
  omega

/-- What comes after a lexeme comes after its token, and not before the cursor. -/
theorem Reaches.past {cursor : Cursor} {lexeme : Lexeme} {later : Token}
    (h : (cursor.skipGap.past lexeme).Reaches later) (hlexeme : lexeme.text ≠ []) :
    (cursor.skipGap.token lexeme).Precedes later ∧ cursor.Reaches later := by
  have hforward := skipFrom_forward cursor.rest cursor.offset cursor.line cursor.column
  have hlength := List.length_pos_iff.2 hlexeme
  simp only [Reaches, Cursor.past, skipGap, Token.Precedes, token] at h ⊢
  omega

/-- No token of a text stands before the cursor, and each stands before all later ones. -/
theorem scan_inOrder (cursor : Cursor) :
    (∀ token ∈ cursor.scan.1, cursor.Reaches token) ∧ cursor.scan.1.Pairwise Token.Precedes := by
  induction cursor using scan.induct with
  | case1 cursor hread =>
      rw [scan_of_none hread]
      exact ⟨by simp, .nil⟩
  | case2 cursor lexeme hread _ _ _ _ ih =>
      have hlexeme := Lexeme.text_ne_nil hread
      rw [scan_of_some hread]
      refine ⟨?_, .cons ?_ ih.2⟩
      · intro token hmem
        rcases List.mem_cons.1 hmem with rfl | hlater
        · exact cursor.reaches_token lexeme
        · exact ((ih.1 token hlater).past hlexeme).2
      · intro later hlater
        exact ((ih.1 later hlater).past hlexeme).1

end Cursor

end GrammarWorkbench.Expression
