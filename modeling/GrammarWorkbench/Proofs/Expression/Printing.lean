import GrammarWorkbench.Proofs.Expression.Language
import GrammarWorkbench.Proofs.Expression.Lexing

/-!
# Printing and parsing

A tree is printed by writing the texts of its tokens with single blanks between them. The parser
makes only normal trees, and a tree it makes flattens to the tokens of the source text. The other
way round, a normal tree whose names and operators read back is what the parser makes of its
printed form, up to the places of its tokens and without the annotations of a later analysis
(`parse_print`).
-/

set_option autoImplicit false

namespace GrammarWorkbench.Expression

/-! ## Trees up to the places of their tokens -/

/-- The token at the start of a text. -/
def Token.unplaced (token : Token) : Token :=
  { token with line := 1, column := 1 }

theorem Token.unplaced_eq {token other : Token} (h : token.lexical = other.lexical) :
    token.unplaced = other.unplaced := by
  obtain ⟨hkind, htext⟩ := Prod.mk.inj h
  rw [unplaced, unplaced, hkind, htext]

namespace Expr

/-- The tree without the places of its tokens. -/
def unplaced : Expr → Expr
  | ident name token binding => ident name (token.map Token.unplaced) binding
  | binary left operator right type =>
    binary left.unplaced operator.unplaced right.unplaced type
  | paren inner type => paren inner.unplaced type

/-- The tree without what analysis found out about it. -/
def bare : Expr → Expr
  | ident name token _ => ident name token none
  | binary left operator right _ => binary left.bare operator right.bare none
  | paren inner _ => paren inner.bare none

/-- Names of a tree are names and have their tokens, and operators have the texts of their
kinds. -/
def Lexable : Expr → Prop
  | ident name token _ =>
    isName name.toList = true ∧ token.map Token.lexical = some (.identifier, name)
  | binary left operator right _ =>
    left.Lexable ∧ right.Lexable ∧
      operator.kind.isOperator = true ∧ operator.text = operator.kind.wording
  | paren inner _ => inner.Lexable

instance decidableLexable : (tree : Expr) → Decidable tree.Lexable
  | ident _ _ _ => inferInstanceAs (Decidable (_ ∧ _))
  | paren inner _ => decidableLexable inner
  | binary left _ right _ =>
    have := decidableLexable left
    have := decidableLexable right
    inferInstanceAs (Decidable (_ ∧ _ ∧ _ ∧ _))

/-- The texts of the tokens of a tree, with single blanks between them. -/
def print (tree : Expr) : String :=
  String.intercalate " " (tree.flatten.map Prod.snd)

/-- All tokens of a tree read back. -/
theorem Lexable.readsBack {tree : Expr} (h : tree.Lexable) :
    ∀ piece ∈ tree.flatten, ReadsBack piece.1 piece.2.toList := by
  induction tree with
  | ident name token binding =>
      intro piece hpiece
      obtain rfl := List.mem_singleton.1 hpiece
      exact .name h.1
  | binary left operator right type ihleft ihright =>
      obtain ⟨hleft, hright, hoperator, htext⟩ := h
      intro piece hpiece
      rcases List.mem_append.1 hpiece with hmem | hmem
      · exact ihleft hleft piece hmem
      · rcases List.mem_cons.1 hmem with rfl | hmem
        · rw [htext]
          exact .wording (.inl hoperator)
        · exact ihright hright piece hmem
  | paren inner type ih =>
      intro piece hpiece
      rcases List.mem_append.1 hpiece with hmem | hmem
      · rcases List.mem_cons.1 hmem with rfl | hmem
        · exact .wording (.inr rfl)
        · exact ih h piece hmem
      · obtain rfl := List.mem_singleton.1 hmem
        exact .wording (.inr rfl)

end Expr

/-! ## The tree of other tokens -/

/-- A tree made of other tokens in place of those of a tree with the same texts. -/
structure Remakes (tree parsed : Expr) (tokens : List Token) : Prop where
  spells : Spells parsed tokens
  unplaced_eq : parsed.unplaced = tree.bare.unplaced
  rank_eq : parsed.rank = tree.rank
  nesting_eq : parsed.nesting = tree.nesting
  normal (h : tree.Normal) : parsed.Normal

/-- Tokens with the kinds and texts of a tree spell that tree. -/
theorem exists_remakes {tree : Expr} (hlexable : tree.Lexable) {tokens : List Token}
    (h : tokens.map Token.lexical = tree.flatten) : ∃ parsed, Remakes tree parsed tokens := by
  induction tree generalizing tokens with
  | ident name token binding =>
      obtain ⟨leaf, rfl, hleaf⟩ := Option.map_eq_some_iff.1 hlexable.2
      obtain ⟨read, rfl, hread⟩ := List.map_eq_singleton_iff.1 h
      obtain ⟨hkind, rfl⟩ := Prod.mk.inj hread
      refine ⟨_, .ident hkind, ?_, rfl, rfl, fun _ => trivial⟩
      have hplace := Token.unplaced_eq (hread.trans hleaf.symm)
      rw [Expr.bare, Expr.unplaced, Expr.unplaced, Option.map_some, Option.map_some, hplace]
  | binary left operator right type ihleft ihright =>
      obtain ⟨hleft, hright, hoperator, -⟩ := hlexable
      obtain ⟨before, rest, rfl, hbefore, hrest⟩ := List.map_eq_append_iff.1 h
      obtain ⟨read, after, rfl, hread, hafter⟩ := List.map_eq_cons_iff.1 hrest
      obtain ⟨parsedLeft, hparsedLeft⟩ := ihleft hleft hbefore
      obtain ⟨parsedRight, hparsedRight⟩ := ihright hright hafter
      have hkind : read.kind = operator.kind := (Prod.mk.inj hread).1
      have hplace : read.unplaced = operator.unplaced := Token.unplaced_eq hread
      have hreadOperator : read.kind.isOperator = true := by rw [hkind, hoperator]
      refine ⟨.binary parsedLeft read parsedRight none,
        .binary hreadOperator hparsedLeft.spells hparsedRight.spells, ?_, ?_, ?_, ?_⟩
      · rw [Expr.bare, Expr.unplaced, Expr.unplaced, hparsedLeft.unplaced_eq, hplace,
          hparsedRight.unplaced_eq]
      · rw [Expr.rank, Expr.rank, hkind]
      · rw [Expr.nesting, Expr.nesting, hparsedLeft.nesting_eq, hparsedRight.nesting_eq]
      · -- Normality only looks at ranks, which other tokens of the same kinds do not change.
        intro hnormal
        rw [Expr.normal_binary_iff hoperator] at hnormal
        obtain ⟨hnormalLeft, hnormalRight, hranks⟩ := hnormal
        rw [Expr.normal_binary_iff hreadOperator, hkind, hparsedLeft.rank_eq,
          hparsedRight.rank_eq]
        exact ⟨hparsedLeft.normal hnormalLeft, hparsedRight.normal hnormalRight, hranks⟩
  | paren inner type ih =>
      obtain ⟨front, last, rfl, hfront, hlast⟩ := List.map_eq_append_iff.1 h
      obtain ⟨opening, between, rfl, hopening, hbetween⟩ := List.map_eq_cons_iff.1 hfront
      obtain ⟨closing, rfl, hclosing⟩ := List.map_eq_singleton_iff.1 hlast
      obtain ⟨parsed, hparsed⟩ := ih hlexable hbetween
      have hopen : opening.kind = .openParen := (Prod.mk.inj hopening).1
      have hclose : closing.kind = .closeParen := (Prod.mk.inj hclosing).1
      refine ⟨.paren parsed none, .paren hopen hclose hparsed.spells, ?_, rfl, ?_, hparsed.normal⟩
      · rw [Expr.bare, Expr.unplaced, Expr.unplaced, hparsed.unplaced_eq]
      · rw [Expr.nesting, Expr.nesting, hparsed.nesting_eq]

/-! ## Parsing and printing -/

section Limit

variable {limit : NestingLimit}

/-- The tree of a source text is normal and flattens to the tokens of the text, which it keeps. -/
theorem flatten_of_parse {source : String} {tree : Expr}
    (h : ((Parser.ofSource source).parse limit).1 = some tree) :
    tree.Normal ∧ tree.flatten = (tokenize source).dropLast.map Token.lexical ∧
      tree.carried =
        ((tokenize source).dropLast.filter fun token => !token.kind.isParen).map some := by
  rw [dropLast_tokenize]
  obtain ⟨hspells, hnormal, -⟩ := sentence_eq_ok_iff.1 (Parser.sentence_of_parse h)
  -- Only the texts of parentheses are not kept by the tree.
  have hparens := Cursor.text_of_paren ⟨source.toList, 0, 1, 1⟩
  exact ⟨hnormal, hspells.flatten_eq hparens, hspells.carried_eq⟩

/-- The parser makes a normal tree again of its printed form. -/
theorem parse_print {tree : Expr} (hnormal : tree.Normal) (hlexable : tree.Lexable)
    (hnesting : tree.nesting ≤ limit.count) :
    ∃ parsed, ((Parser.ofSource tree.print).parse limit).1 = some parsed ∧
      ((Parser.ofSource tree.print).parse limit).2.errors = [] ∧
      parsed.unplaced = tree.bare.unplaced := by
  have htokens : (Parser.ofSource tree.print).unread.map Token.lexical = tree.flatten :=
    scan_intercalate hlexable.readsBack
  obtain ⟨parsed, hparsed⟩ := exists_remakes hlexable htokens
  have hparsedNesting : parsed.nesting ≤ limit.count := by rw [hparsed.nesting_eq]; exact hnesting
  have hread := sentence_eq_ok_iff.2 ⟨hparsed.spells, hparsed.normal hnormal, hparsedNesting⟩
  have hparse := Parser.parse_of_ok hread
  refine ⟨parsed, ?_, ?_, hparsed.unplaced_eq⟩
  · rw [hparse]
  · rw [hparse]
    rfl

end Limit

/-- Parsing and printing are inverse: a tree that was parsed flattens to the tokens it was made of,
and a normal tree is parsed again from its printed form, up to the places of its tokens. -/
theorem parse_print_inverse (limit : NestingLimit) :
    (∀ (source : String) (tree : Expr), ((Parser.ofSource source).parse limit).1 = some tree →
      tree.Normal ∧ tree.flatten = (tokenize source).dropLast.map Token.lexical ∧
        tree.carried =
          ((tokenize source).dropLast.filter fun token => !token.kind.isParen).map some) ∧
    ∀ tree : Expr, tree.Normal → tree.Lexable → tree.nesting ≤ 100 →
      ∃ parsed, ((Parser.ofSource tree.print).parse limit).1 = some parsed ∧
        ((Parser.ofSource tree.print).parse limit).2.errors = [] ∧
        parsed.unplaced = tree.bare.unplaced := by
  constructor
  · intro source tree h
    exact flatten_of_parse h
  · intro tree hnormal hlexable hnesting
    exact parse_print hnormal hlexable (Nat.le_trans hnesting limit.hundred_le)

/-- The tree of `a << (b + c)`, with all its tokens at the start of a text. -/
def shiftOfSum : Expr :=
  .binary (.ident "a" (some ⟨.identifier, "a", 1, 1⟩) none) ⟨.shiftLeft, "<<", 1, 1⟩
    (.paren (.binary (.ident "b" (some ⟨.identifier, "b", 1, 1⟩) none) ⟨.plus, "+", 1, 1⟩
      (.ident "c" (some ⟨.identifier, "c", 1, 1⟩) none) none) none) none

/-- Both directions apply to this tree and to a text of it. -/
theorem parse_print_inverse_shiftOfSum :
    (∃ tree, ((Parser.ofSource "a << (b + c)").parse .usual).1 = some tree ∧ tree.Normal) ∧
      shiftOfSum.Normal ∧ shiftOfSum.Lexable ∧ shiftOfSum.nesting ≤ 100 ∧
      ∃ parsed, ((Parser.ofSource shiftOfSum.print).parse .usual).1 = some parsed ∧
        parsed.unplaced = shiftOfSum.bare.unplaced := by
  have hsome : ((Parser.ofSource "a << (b + c)").parse .usual).1.isSome = true := by decide +kernel
  obtain ⟨tree, htree⟩ := Option.isSome_iff_exists.1 hsome
  have hnormal : shiftOfSum.Normal := by decide
  have hlexable : shiftOfSum.Lexable := by decide
  have hnesting : shiftOfSum.nesting ≤ 100 := by decide
  obtain ⟨hprints, hparses⟩ := parse_print_inverse .usual
  obtain ⟨parsed, hparsed, -, hsame⟩ := hparses shiftOfSum hnormal hlexable hnesting
  exact ⟨⟨tree, htree, (hprints _ tree htree).1⟩, hnormal, hlexable, hnesting,
    parsed, hparsed, hsame⟩

end GrammarWorkbench.Expression
