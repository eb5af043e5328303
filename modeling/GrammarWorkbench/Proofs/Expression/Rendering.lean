import GrammarWorkbench.Proofs.Expression.Printing
import GrammarWorkbench.Proofs.Expression.Walks
import GrammarWorkbench.Proofs.Text.PrefixFree

/-!
# What the rendered tree tells

The rendered form of a tree without annotations can be read back: the first letter of a label says
what the node is, the closing parenthesis ends the name or the operator, and a subtree ends where
its last line does (`Expr.render_inj`). So trees with the same rendered form flatten to the same
tokens. The other way round, tokens with the same kinds and texts make the same tree up to their
places, which the rendered form does not show (`Expr.render_unplaced`).
-/

set_option autoImplicit false

namespace GrammarWorkbench.Expression

/-! ## Texts of tokens -/

/-- A name has no closing parenthesis in it. -/
theorem closeParen_notMem_name {name : List Char} (h : isName name = true) : ')' ∉ name := by
  intro hmem
  cases name with
  | nil => cases hmem
  | cons c cs =>
      rw [isName, Bool.and_eq_true, List.all_eq_true] at h
      rcases List.mem_cons.1 hmem with rfl | hlater
      · exact absurd h.1 (by decide)
      · exact absurd (h.2 _ hlater) (by decide)

/-- An operator has no closing parenthesis in it. -/
theorem closeParen_notMem_wording {kind : TokenKind} (h : kind.isOperator = true) :
    ')' ∉ kind.wording.toList := by
  cases kind <;> first | decide | exact absurd h (by decide)

/-- Operators are told apart by their texts. -/
theorem wording_inj {kind other : TokenKind} (h : kind.isOperator = true)
    (hother : other.isOperator = true) (heq : kind.wording = other.wording) : kind = other := by
  revert h hother heq
  cases kind <;> cases other <;> decide

namespace Expr

/-! ## Reading a rendered tree back -/

theorem toList_line (indent : String) (node : Expr) :
    (line indent node).toList = indent.toList ++ (node.label.toList ++ ['\n']) := by
  simp [line]

theorem toList_render_ident (name : String) (token : Option Token) (binding : Option Binding)
    (indent : String) (rest : List Char) :
    ((ident name token binding).bare.render indent).toList ++ rest =
      indent.toList ++ ('I' :: 'D' :: '(' :: (name.toList ++ ')' :: '\n' :: rest)) := by
  simp [bare, render_ident, toList_line, label, type?, typeMark, bindingMark]

theorem toList_render_binary (left : Expr) (operator : Token) (right : Expr)
    (type : Option String) (indent : String) (rest : List Char) :
    ((binary left operator right type).bare.render indent).toList ++ rest =
      indent.toList ++ ('B' :: ("inaryOp(".toList ++ (operator.text.toList ++ ')' :: '\n' ::
        ((left.bare.render (indent ++ branchMark)).toList ++
          ((right.bare.render (indent ++ lastBranchMark)).toList ++ rest))))) := by
  simp [bare, render_binary, toList_line, label, typeMark]

theorem toList_render_paren (inner : Expr) (type : Option String) (indent : String)
    (rest : List Char) :
    ((paren inner type).bare.render indent).toList ++ rest =
      indent.toList ++ ('P' :: ("arenthesized\n".toList ++
        ((inner.bare.render (indent ++ lastBranchMark)).toList ++ rest))) := by
  simp [bare, render_paren, toList_line, label]

/-- The rendered form of a tree without annotations can be read back, whatever stands behind it: it
ends in one place only, and the tokens of the tree are known. -/
theorem render_inj {tree other : Expr} (htree : tree.Lexable) (hother : other.Lexable)
    {indent : String} {rest rest' : List Char}
    (h : (tree.bare.render indent).toList ++ rest =
      (other.bare.render indent).toList ++ rest') :
    tree.flatten = other.flatten ∧ rest = rest' := by
  -- Both trees are taken apart from the root: behind the same indentation, the first letter of the
  -- label rules out different nodes, and the subtrees have the same indentation again.
  induction tree generalizing other indent rest rest' with
  | ident name token binding =>
      rw [toList_render_ident] at h
      cases other with
      | ident name' token' binding' =>
          rw [toList_render_ident, List.append_cancel_left_eq] at h
          obtain ⟨hname, hrest⟩ := Text.append_cons_inj (closeParen_notMem_name htree.1)
            (closeParen_notMem_name hother.1) (by simpa using h)
          rw [flatten, flatten, String.toList_inj.1 hname]
          exact ⟨rfl, (List.cons.inj hrest).2⟩
      | binary left operator right type =>
          rw [toList_render_binary, List.append_cancel_left_eq] at h
          exact absurd (List.cons.inj h).1 (by decide)
      | paren inner type =>
          rw [toList_render_paren, List.append_cancel_left_eq] at h
          exact absurd (List.cons.inj h).1 (by decide)
  | binary left operator right type ihleft ihright =>
      rw [toList_render_binary] at h
      cases other with
      | ident name token binding =>
          rw [toList_render_ident, List.append_cancel_left_eq] at h
          exact absurd (List.cons.inj h).1 (by decide)
      | binary left' operator' right' type' =>
          obtain ⟨hleft, hright, hoperator, htext⟩ := htree
          obtain ⟨hleft', hright', hoperator', htext'⟩ := hother
          rw [toList_render_binary, List.append_cancel_left_eq, List.cons.injEq,
            List.append_cancel_left_eq, htext, htext'] at h
          obtain ⟨hwording, hlines⟩ := Text.append_cons_inj
            (closeParen_notMem_wording hoperator) (closeParen_notMem_wording hoperator') h.2
          have hkind := wording_inj hoperator hoperator' (String.toList_inj.1 hwording)
          obtain ⟨hflattenLeft, hbehind⟩ := ihleft hleft hleft' (List.cons.inj hlines).2
          obtain ⟨hflattenRight, hrest⟩ := ihright hright hright' hbehind
          rw [flatten, flatten, htext, htext', hkind, hflattenLeft, hflattenRight]
          exact ⟨rfl, hrest⟩
      | paren inner type =>
          rw [toList_render_paren, List.append_cancel_left_eq] at h
          exact absurd (List.cons.inj h).1 (by decide)
  | paren inner type ih =>
      rw [toList_render_paren] at h
      cases other with
      | ident name token binding =>
          rw [toList_render_ident, List.append_cancel_left_eq] at h
          exact absurd (List.cons.inj h).1 (by decide)
      | binary left operator right type =>
          rw [toList_render_binary, List.append_cancel_left_eq] at h
          exact absurd (List.cons.inj h).1 (by decide)
      | paren inner' type' =>
          rw [toList_render_paren, List.append_cancel_left_eq, List.cons.injEq,
            List.append_cancel_left_eq] at h
          have hinner : inner'.Lexable := hother
          obtain ⟨hflatten, hrest⟩ := ih htree hinner h.2
          rw [flatten, flatten, hflatten]
          exact ⟨rfl, hrest⟩

/-! ## What a rendered tree does not show -/

/-- The places of the tokens are not shown. -/
theorem render_unplaced (tree : Expr) (indent : String) :
    tree.unplaced.render indent = tree.render indent := by
  induction tree generalizing indent with
  | ident name token binding =>
      rw [unplaced, render_ident, render_ident]
      rfl
  | binary left operator right type ihleft ihright =>
      rw [unplaced, render_binary, render_binary, ihleft, ihright]
      rfl
  | paren inner type ih =>
      rw [unplaced, render_paren, render_paren, ih]
      rfl

end Expr

/-! ## Trees of source texts -/

/-- A tree made of tokens has no annotations. -/
theorem Spells.bare_eq {tree : Expr} {tokens : List Token} (h : Spells tree tokens) :
    tree.bare = tree := by
  induction h with
  | ident => rfl
  | binary _ _ _ ihleft ihright => rw [Expr.bare, ihleft, ihright]
  | paren _ _ _ ih => rw [Expr.bare, ih]

/-- A tree made of tokens whose texts are those of names and operators. -/
theorem Spells.lexable {tree : Expr} {tokens : List Token} (h : Spells tree tokens)
    (htokens : ∀ token ∈ tokens,
      (token.kind = .identifier → isName token.text.toList = true) ∧
        (token.kind.isOperator = true → token.text = token.kind.wording)) : tree.Lexable := by
  induction h with
  | @ident token hkind =>
      have hname := (htokens token List.mem_cons_self).1 hkind
      exact ⟨hname, by rw [Option.map_some, Token.lexical, hkind]⟩
  | @binary left right operator before after hoperator _ _ ihleft ihright =>
      have htext := (htokens operator (by simp)).2 hoperator
      have hbefore := ihleft fun token hmem => htokens token (by simp [hmem])
      have hafter := ihright fun token hmem => htokens token (by simp [hmem])
      exact ⟨hbefore, hafter, hoperator, htext⟩
  | paren _ _ _ ih => exact ih fun token hmem => htokens token (by simp [hmem])

section Limit

variable {limit limit' : NestingLimit}

/-- The tree of a source text is made of names and operators. -/
theorem lexable_of_parse {source : String} {tree : Expr}
    (h : ((Parser.ofSource source).parse limit).1 = some tree) :
    tree.Lexable ∧ tree.bare = tree := by
  obtain ⟨hspells, -, -⟩ := sentence_eq_ok_iff.1 (Parser.sentence_of_parse h)
  refine ⟨hspells.lexable fun token hmem => ⟨?_, fun hoperator => ?_⟩, hspells.bare_eq⟩
  · exact Cursor.isName_text _ token hmem
  · exact Cursor.text_eq_wording _ token hmem (.inl hoperator)

/-- The kinds and texts of the tokens of a source text are those of its tree, and the end. -/
theorem lexical_of_parse {source : String} {tree : Expr}
    (h : ((Parser.ofSource source).parse limit).1 = some tree) :
    (tokenize source).map Token.lexical = tree.flatten ++ [(.endOfInput, "")] := by
  rw [(flatten_of_parse h).2.1, dropLast_tokenize, tokenize_eq, List.map_append]
  rfl

/-- Tokens with the same kinds and texts make the same tree, up to their places. -/
theorem unplaced_eq_of_parse {source other : String} {tree tree' : Expr}
    (h : ((Parser.ofSource source).parse limit).1 = some tree)
    (h' : ((Parser.ofSource other).parse limit').1 = some tree')
    (hflatten : tree.flatten = tree'.flatten) : tree.unplaced = tree'.unplaced := by
  obtain ⟨-, hnormal, hnesting⟩ := sentence_eq_ok_iff.1 (Parser.sentence_of_parse h)
  obtain ⟨hspells', hnormal', hnesting'⟩ := sentence_eq_ok_iff.1 (Parser.sentence_of_parse h')
  obtain ⟨hlexable, hbare⟩ := lexable_of_parse h
  have htokens : (Parser.ofSource other).unread.map Token.lexical = tree.flatten := by
    rw [hflatten, (flatten_of_parse h').2.1, dropLast_tokenize]
  -- The tree made again of the other tokens is what is read there, within the larger limit.
  obtain ⟨parsed, hparsed⟩ := exists_remakes hlexable htokens
  have hread := sentence_eq_ok_iff.2 ⟨hparsed.spells, hparsed.normal hnormal,
    hparsed.nesting_eq ▸ Nat.le_trans hnesting (Nat.le_max_left limit.count limit'.count)⟩
  have hread' := sentence_eq_ok_iff.2 ⟨hspells', hnormal',
    Nat.le_trans hnesting' (Nat.le_max_right limit.count limit'.count)⟩
  obtain rfl : tree' = parsed := Except.ok.inj (hread'.symm.trans hread)
  rw [hparsed.unplaced_eq, hbare]

end Limit

/-- The rendered form of a tree identifies the expression: for two source texts that are parsed, it
is the same exactly if the tokens have the same kinds and texts in the same order. -/
theorem render_eq_iff {limit limit' : NestingLimit} {source other : String} {tree tree' : Expr}
    (h : ((Parser.ofSource source).parse limit).1 = some tree)
    (h' : ((Parser.ofSource other).parse limit').1 = some tree') :
    tree.render "" = tree'.render "" ↔
      (tokenize source).map Token.lexical = (tokenize other).map Token.lexical := by
  obtain ⟨hlexable, hbare⟩ := lexable_of_parse h
  obtain ⟨hlexable', hbare'⟩ := lexable_of_parse h'
  rw [lexical_of_parse h, lexical_of_parse h', List.append_cancel_right_eq]
  constructor
  · intro hrender
    have hlines : (tree.bare.render "").toList ++ [] = (tree'.bare.render "").toList ++ [] := by
      rw [hbare, hbare', hrender]
    exact (Expr.render_inj hlexable hlexable' hlines).1
  · intro hflatten
    rw [← Expr.render_unplaced, unplaced_eq_of_parse h h' hflatten, Expr.render_unplaced]

/-- The blanks and the line break do not show. -/
theorem render_eq_iff_spaced :
    ∃ tree tree', ((Parser.ofSource "a<<(b+c)").parse .usual).1 = some tree ∧
      ((Parser.ofSource "a <<\n (b + c )").parse .usual).1 = some tree' ∧
      tree.render "" = tree'.render "" ∧ tree ≠ tree' := by
  obtain ⟨tree, htree⟩ := Option.isSome_iff_exists.1
    (by decide +kernel : ((Parser.ofSource "a<<(b+c)").parse .usual).1.isSome = true)
  obtain ⟨tree', htree'⟩ := Option.isSome_iff_exists.1
    (by decide +kernel : ((Parser.ofSource "a <<\n (b + c )").parse .usual).1.isSome = true)
  have htokens : (tokenize "a<<(b+c)").map Token.lexical =
      (tokenize "a <<\n (b + c )").map Token.lexical := by decide +kernel
  have hplaces : ((Parser.ofSource "a<<(b+c)").parse .usual).1 ≠
      ((Parser.ofSource "a <<\n (b + c )").parse .usual).1 := by decide +kernel
  rw [htree, htree'] at hplaces
  exact ⟨tree, tree', htree, htree', (render_eq_iff htree htree').2 htokens,
    fun heq => hplaces (congrArg some heq)⟩

end GrammarWorkbench.Expression
