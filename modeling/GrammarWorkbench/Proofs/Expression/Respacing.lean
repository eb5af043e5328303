import GrammarWorkbench.Proofs.Expression.Splitting

/-!
# Spaced tokens

The text of a token that fits what follows it in a source text fits a blank and the end of a text as
well (`Fits.readsBack`). The tokens of a source text are the pieces of a split of it, whose texts
all fit. With single blanks between them they are therefore read again as they are, whatever the
source text is (`tokenize_respaced`).
-/

set_option autoImplicit false

namespace GrammarWorkbench.Expression

/-- The text of a token reads back in front of a blank and at the end of a text, whatever followed
it before. -/
theorem Fits.readsBack {kind : TokenKind} {text rest : List Char} (h : Fits kind text rest) :
    ReadsBack kind text := by
  cases h with
  | fixed hkind rest => exact .wording hkind
  | name hname hend => exact .name hname
  | @invalid c rest hletter hgap hmark hhalf =>
      constructor
      case head =>
        intro d hd
        cases hd
        exact hgap
      case read =>
        intro later hblank
        -- A blank is no half of a shift, so that half of a shift stays alone in front of it.
        have hother : later.head? ≠ some c := by
          intro hc
          obtain rfl : c = ' ' := hblank c hc
          cases hgap
        exact (Fits.invalid hletter hgap hmark fun _ => hother).read?

namespace Split

/-- The kinds and the texts of the tokens of a split. -/
def pieces : Split → List (TokenKind × String)
  | last _ => []
  | piece _ kind text rest => (kind, String.ofList text) :: rest.pieces

theorem map_lexical_tokens (split : Split) (before : List Char) :
    (split.tokens before).map Token.lexical = split.pieces ++ [(.endOfInput, "")] := by
  induction split generalizing before with
  | last gap => rfl
  | piece gap kind text rest ih => rw [tokens, List.map_cons, ih, pieces]; rfl

theorem Sound.readsBack {split : Split} (h : split.Sound) :
    ∀ piece ∈ split.pieces, ReadsBack piece.1 piece.2.toList := by
  induction split with
  | last gap => exact nofun
  | piece gap kind text rest ih =>
      obtain ⟨-, hfits, hrest⟩ := h
      intro piece hpiece
      rcases List.mem_cons.1 hpiece with rfl | hlater
      · rw [String.toList_ofList]
        exact hfits.readsBack
      · exact ih hrest piece hlater

end Split

/-- The texts of the tokens of a source text, with single blanks between them. The end token is left
out. -/
def respaced (source : String) : String :=
  String.intercalate " "
    (((tokenize source).filter fun token => token.kind ≠ .endOfInput).map Token.text)

theorem filter_tokens (cursor : Cursor) :
    cursor.tokens.filter (fun token => token.kind ≠ .endOfInput) = cursor.scan.1 := by
  have hscan : ∀ token ∈ cursor.scan.1, decide (token.kind ≠ .endOfInput) = true :=
    fun token hmem => decide_eq_true (cursor.kind_ne_endOfInput token hmem)
  rw [Cursor.tokens, List.filter_append, List.filter_eq_self.2 hscan]
  exact List.append_nil _

/-- The tokens of a source text before the end token read back. -/
theorem exists_pieces (source : String) :
    ∃ pieces : List (TokenKind × String),
      (tokenize source).map Token.lexical = pieces ++ [(.endOfInput, "")] ∧
      respaced source = String.intercalate " " (pieces.map Prod.snd) ∧
      ∀ piece ∈ pieces, ReadsBack piece.1 piece.2.toList := by
  obtain ⟨split, hchars, hsound⟩ := Split.exists_sound source.toList
  have hlexical : (tokenize source).map Token.lexical = split.pieces ++ [(.endOfInput, "")] := by
    rw [tokenize_eq_tokens, ← hchars, hsound.tokens_behind, Split.map_lexical_tokens]
  refine ⟨split.pieces, hlexical, ?_, hsound.readsBack⟩
  rw [tokenize_eq_tokens, Cursor.tokens, List.map_append] at hlexical
  have hscan := List.append_cancel_right hlexical
  rw [respaced, tokenize_eq_tokens, filter_tokens, ← hscan, List.map_map]
  rfl

/-- Separating the tokens of a source text by single blanks changes neither the kinds nor the texts
of the tokens, invalid ones included. -/
theorem tokenize_respaced (source : String) :
    (tokenize (respaced source)).map Token.lexical = (tokenize source).map Token.lexical := by
  obtain ⟨pieces, hlexical, hrespaced, hreadsBack⟩ := exists_pieces source
  rw [hlexical, hrespaced, tokenize_eq_tokens, Cursor.tokens, List.map_append]
  congr 1
  exact scan_intercalate hreadsBack

end GrammarWorkbench.Expression
