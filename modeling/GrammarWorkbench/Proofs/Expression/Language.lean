import Mathlib.Data.List.Infix
import GrammarWorkbench.Expression.Parser
import GrammarWorkbench.Grammar.ShiftExpression
import GrammarWorkbench.Proofs.Expression.Phrases
import GrammarWorkbench.Proofs.Grammar.Denotation

/-!
# The language of shift expressions

The parser reads layers of operators by loops, while the grammar of shift expressions is
left-recursive. Both describe the same token sequences: those that spell a normal tree.

For the grammar this is shown in both directions. Let a terminal stand for one token of its kind,
and the symbol of a layer for the tokens of the trees of that layer. Every production respects this
(`spelled_of_denotes`), so that a derivation of a word can be taken back to a tree; and a tree of a
layer tells how to derive its word (`Spells.derives`). The sentences of the grammar therefore are
the token sequences of normal trees (`isSentence_iff`), and these the parser accepts, up to the
depth of parentheses it allows.
-/

set_option autoImplicit false

namespace GrammarWorkbench.Expression

open Grammar (Symbol Production Denotes denotes_singleton)

open Grammar.ShiftExpression (E T F token)

/-! ## Sentences of the grammar -/

/-- The terminal of the grammar that a kind of token stands for. The end of the input and a
character that starts no token stand for none. -/
def TokenKind.terminal? : TokenKind → Option Symbol
  | identifier => some (token "id")
  | plus => some (token "+")
  | minus => some (token "-")
  | shiftLeft => some (token "<<")
  | shiftRight => some (token ">>")
  | openParen => some (token "(")
  | closeParen => some (token ")")
  | endOfInput | invalid => none

/-- Every one of some tokens stands for a terminal, and the terminals make up a word. -/
def IsWord (tokens : List Token) (word : List Symbol) : Prop :=
  tokens.map (fun token => token.kind.terminal?) = word.map some

/-- Some tokens are a sentence: the start symbol of the grammar derives the word of their
terminals. -/
def IsSentence (tokens : List Token) : Prop :=
  ∃ word, IsWord tokens word ∧
    Grammar.shiftExpression.Derives [Grammar.shiftExpression.start] word

theorem IsWord.append {before after : List Token} {left right : List Symbol}
    (hbefore : IsWord before left) (hafter : IsWord after right) :
    IsWord (before ++ after) (left ++ right) := by
  rw [IsWord, List.map_append, List.map_append, hbefore, hafter]

theorem IsWord.singleton {token : Token} {symbol : Symbol}
    (h : token.kind.terminal? = some symbol) : IsWord [token] [symbol] := by
  rw [IsWord, List.map_singleton, List.map_singleton, h]

theorem TokenKind.isTerminal_of_terminal? {kind : TokenKind} {symbol : Symbol}
    (h : kind.terminal? = some symbol) : symbol.isTerminal = true := by
  cases kind <;> cases h <;> rfl

/-- A terminal stands for the tokens of one kind. -/
theorem TokenKind.terminal?_inj {kind other : TokenKind} {symbol : Symbol}
    (h : kind.terminal? = some symbol) (hother : other.terminal? = some symbol) :
    kind = other := by
  have heq : kind.terminal? = other.terminal? := h.trans hother.symm
  cases kind <;> cases other <;> first | rfl | exact absurd heq (by decide) | cases h

/-! ## From derivations to trees -/

/-- The non-terminal of a layer. -/
def layerSymbol : Nat → Symbol
  | 0 => F
  | 1 => T
  | _ => E

theorem layerSymbol_isTerminal (layer : Nat) : (layerSymbol layer).isTerminal = false := by
  unfold layerSymbol
  split <;> rfl

/-- Different non-terminals belong to the layers from zero to two. -/
theorem layerSymbol_inj {layer other : Nat} (h : layerSymbol layer = layerSymbol other) :
    layer = other ∨ 2 ≤ layer ∧ 2 ≤ other := by
  have hET : E ≠ T := by decide
  have hEF : E ≠ F := by decide
  have hTF : T ≠ F := by decide
  match layer, other with
  | 0, 0 => exact .inl rfl
  | 1, 1 => exact .inl rfl
  | _ + 2, _ + 2 => exact .inr ⟨Nat.le_add_left 2 _, Nat.le_add_left 2 _⟩
  | 0, 1 => exact absurd h.symm hTF
  | 0, _ + 2 => exact absurd h.symm hEF
  | 1, 0 => exact absurd h hTF
  | 1, _ + 2 => exact absurd h.symm hET
  | _ + 2, 0 => exact absurd h hEF
  | _ + 2, 1 => exact absurd h hET

/-- The tokens that a symbol stands for: one token for a terminal, the tokens of a tree of a layer
for its non-terminal. -/
def Spelled (symbol : Symbol) (tokens : List Token) : Prop :=
  (∃ token, tokens = [token] ∧ token.kind.terminal? = some symbol) ∨
    ∃ layer tree, symbol = layerSymbol layer ∧ Phrased layer tree tokens

theorem spelled_layerSymbol {layer : Nat} {tokens : List Token} :
    Spelled (layerSymbol layer) tokens ↔ ∃ tree, Phrased layer tree tokens := by
  constructor
  · rintro (⟨token, -, hterminal⟩ | ⟨other, tree, hother, htree⟩)
    · have hkind := TokenKind.isTerminal_of_terminal? hterminal
      rw [layerSymbol_isTerminal] at hkind
      cases hkind
    · -- From layer two on all layers have the same symbol, and the same trees.
      refine ⟨tree, htree.spells, htree.normal, ?_⟩
      have hrank := htree.rank_le
      have htop := tree.rank_le_two
      rcases layerSymbol_inj hother with rfl | ⟨hlayer, -⟩
      · exact hrank
      · exact Nat.le_trans htop hlayer
  · rintro ⟨tree, htree⟩
    exact .inr ⟨layer, tree, rfl, htree⟩

theorem spelled_terminal {kind : TokenKind} {symbol : Symbol}
    (hkind : kind.terminal? = some symbol) {tokens : List Token} (h : Spelled symbol tokens) :
    ∃ token, tokens = [token] ∧ token.kind = kind := by
  rcases h with ⟨token, rfl, hterminal⟩ | ⟨layer, tree, rfl, -⟩
  · exact ⟨token, rfl, TokenKind.terminal?_inj hterminal hkind⟩
  · have hterminal := TokenKind.isTerminal_of_terminal? hkind
    rw [layerSymbol_isTerminal] at hterminal
    cases hterminal

/-- A word stands for the tokens it was made of. -/
theorem denotes_word {tokens : List Token} {word : List Symbol} (h : IsWord tokens word) :
    Denotes Spelled word tokens := by
  induction word generalizing tokens with
  | nil => exact List.map_eq_nil_iff.1 h
  | cons symbol word ih =>
      obtain ⟨first, rest, rfl, hfirst, hrest⟩ := List.map_eq_cons_iff.1 h
      exact ⟨[first], rest, rfl, .inl ⟨first, rfl, hfirst⟩, ih hrest⟩

/-- The production for an operator of a layer respects what its symbols stand for. -/
theorem spelled_operator {layer : Nat} {kind : TokenKind} {symbol : Symbol}
    (hkind : kind.terminal? = some symbol) (hoperator : kind.isOperator = true)
    (hrank : kind.rank = layer + 1) {tokens : List Token}
    (h : Denotes Spelled [layerSymbol (layer + 1), symbol, layerSymbol layer] tokens) :
    Spelled (layerSymbol (layer + 1)) tokens := by
  obtain ⟨before, _, rfl, hbefore, middle, after, rfl, hmiddle, hafter⟩ := h
  obtain ⟨left, hleft⟩ := spelled_layerSymbol.1 hbefore
  obtain ⟨operator, rfl, rfl⟩ := spelled_terminal hkind hmiddle
  obtain ⟨right, hright⟩ := spelled_layerSymbol.1 (denotes_singleton.1 hafter)
  exact spelled_layerSymbol.2 ⟨_, .binary hoperator hrank hleft hright⟩

/-- A tree of a layer is a tree of the next one. -/
theorem spelled_unit {layer : Nat} {tokens : List Token}
    (h : Denotes Spelled [layerSymbol layer] tokens) :
    Spelled (layerSymbol (layer + 1)) tokens := by
  obtain ⟨tree, htree⟩ := spelled_layerSymbol.1 (denotes_singleton.1 h)
  exact spelled_layerSymbol.2 ⟨tree, htree.mono (Nat.le_succ layer)⟩

/-- Every production of the grammar respects what its symbols stand for. -/
theorem spelled_of_denotes (production : Production)
    (hproduction : production ∈ Grammar.shiftExpression.productions) (tokens : List Token)
    (h : Denotes Spelled production.rhs tokens) : Spelled production.lhs tokens := by
  simp only [Grammar.shiftExpression, Grammar.ShiftExpression.productions, List.mem_cons,
    List.not_mem_nil, or_false] at hproduction
  -- One case for each production: four operators, two units, parentheses and names.
  rcases hproduction with rfl | rfl | rfl | rfl | rfl | rfl | rfl | rfl
  · have hkind : TokenKind.shiftLeft.terminal? = some (token "<<") := rfl
    exact spelled_operator hkind rfl rfl h
  · have hkind : TokenKind.shiftRight.terminal? = some (token ">>") := rfl
    exact spelled_operator hkind rfl rfl h
  · exact @spelled_unit 1 _ h
  · have hkind : TokenKind.plus.terminal? = some (token "+") := rfl
    exact spelled_operator hkind rfl rfl h
  · have hkind : TokenKind.minus.terminal? = some (token "-") := rfl
    exact spelled_operator hkind rfl rfl h
  · exact @spelled_unit 0 _ h
  · obtain ⟨first, _, rfl, hfirst, between, last, rfl, hbetween, hlast⟩ := h
    have hopenKind : TokenKind.openParen.terminal? = some (token "(") := rfl
    have hcloseKind : TokenKind.closeParen.terminal? = some (token ")") := rfl
    obtain ⟨opening, rfl, hopening⟩ := spelled_terminal hopenKind hfirst
    obtain ⟨closing, rfl, hclosing⟩ := spelled_terminal hcloseKind (denotes_singleton.1 hlast)
    obtain ⟨inner, hinner⟩ := (@spelled_layerSymbol 2 _).1 hbetween
    exact (@spelled_layerSymbol 0 _).2 ⟨_, .paren hopening hclosing hinner⟩
  · have hkind : TokenKind.identifier.terminal? = some (token "id") := rfl
    obtain ⟨name, rfl, hname⟩ := spelled_terminal hkind (denotes_singleton.1 h)
    exact (@spelled_layerSymbol 0 _).2 ⟨_, .ident hname⟩

/-! ## From trees to derivations -/

/-- The symbol of a layer derives the symbols of the layers below. -/
theorem derives_layerSymbol {layer upper : Nat} (h : layer ≤ upper) :
    Grammar.shiftExpression.Derives [layerSymbol upper] [layerSymbol layer] := by
  induction upper, h using Nat.le_induction with
  | base => exact .refl
  | succ upper _ ih =>
      refine .trans ?_ ih
      match upper with
      | 0 =>
          have hmem : ⟨T, [F]⟩ ∈ Grammar.shiftExpression.productions := by decide
          exact .single (.of_mem hmem)
      | 1 =>
          have hmem : ⟨E, [T]⟩ ∈ Grammar.shiftExpression.productions := by decide
          exact .single (.of_mem hmem)
      | _ + 2 => exact .refl

/-- Every operator of a layer has its production. -/
theorem operator_production {kind : TokenKind} {layer : Nat} (h : kind.isOperator = true)
    (hrank : kind.rank = layer + 1) :
    ∃ symbol, kind.terminal? = some symbol ∧
      ⟨layerSymbol (layer + 1), [layerSymbol (layer + 1), symbol, layerSymbol layer]⟩ ∈
        Grammar.shiftExpression.productions := by
  cases kind <;> first | exact absurd h (by decide) | cases hrank; exact ⟨_, rfl, by decide⟩

/-- The symbol of a layer derives the word of every tree of the layer. -/
theorem Spells.derives {tree : Expr} {tokens : List Token} (h : Spells tree tokens)
    (hnormal : tree.Normal) {layer : Nat} (hrank : tree.rank ≤ layer) :
    ∃ word, IsWord tokens word ∧ Grammar.shiftExpression.Derives [layerSymbol layer] word := by
  -- Every case derives from the symbol of the rank first; unit productions lead down to it.
  induction h generalizing layer with
  | @ident name hkind =>
      have hmem : ⟨F, [token "id"]⟩ ∈ Grammar.shiftExpression.productions := by decide
      have hterminal : name.kind.terminal? = some (token "id") := by rw [hkind]; rfl
      exact ⟨_, .singleton hterminal,
        (derives_layerSymbol (Nat.zero_le layer)).trans (.single (.of_mem hmem))⟩
  | @binary left right operator before after hoperator hleft hright ihleft ihright =>
      obtain ⟨hnormalLeft, hnormalRight, hrankLeft, hrankRight⟩ :=
        (Expr.normal_binary_iff hoperator).1 hnormal
      obtain ⟨below, hbelow⟩ := Nat.exists_eq_succ_of_ne_zero
        (Nat.ne_of_gt (TokenKind.one_le_rank operator.kind))
      rw [Expr.rank] at hrank
      rw [hbelow] at hrankLeft hrankRight hrank
      obtain ⟨first, hfirst, hderivesFirst⟩ := ihleft hnormalLeft hrankLeft
      obtain ⟨last, hlast, hderivesLast⟩ := ihright hnormalRight (Nat.le_of_lt_succ hrankRight)
      obtain ⟨symbol, hsymbol, hmem⟩ := operator_production hoperator hbelow
      refine ⟨first ++ ([symbol] ++ last), hfirst.append (.append (.singleton hsymbol) hlast), ?_⟩
      have hoperands : Grammar.shiftExpression.Derives
          ([layerSymbol (below + 1)] ++ ([symbol] ++ [layerSymbol below]))
          (first ++ ([symbol] ++ last)) :=
        .append hderivesFirst (.append .refl hderivesLast)
      exact (derives_layerSymbol hrank).trans (Grammar.Derives.of_production hmem hoperands)
  | @paren inner opening closing between hopening hclosing hinner ih =>
      obtain ⟨word, hword, hderives⟩ := ih hnormal inner.rank_le_two
      have hmem : ⟨F, [token "(", E, token ")"]⟩ ∈ Grammar.shiftExpression.productions := by
        decide
      have hfirst : opening.kind.terminal? = some (token "(") := by rw [hopening]; rfl
      have hlast : closing.kind.terminal? = some (token ")") := by rw [hclosing]; rfl
      have hopen : IsWord [opening] [token "("] := .singleton hfirst
      have hclose : IsWord [closing] [token ")"] := .singleton hlast
      refine ⟨[token "("] ++ word ++ [token ")"], (hopen.append hword).append hclose, ?_⟩
      have hinside : Grammar.shiftExpression.Derives [token "(", E, token ")"]
          ([token "("] ++ word ++ [token ")"]) :=
        hderives.context [token "("] [token ")"]
      exact (derives_layerSymbol (Nat.zero_le layer)).trans
        (Grammar.Derives.of_production hmem hinside)

/-- The sentences of the grammar are the token sequences that spell a normal tree. -/
theorem isSentence_iff {tokens : List Token} :
    IsSentence tokens ↔ ∃ tree, Spells tree tokens ∧ tree.Normal := by
  constructor
  · rintro ⟨word, hword, hderives⟩
    have hstart := hderives.denotes spelled_of_denotes (denotes_word hword)
    obtain ⟨tree, htree⟩ := (@spelled_layerSymbol 2 _).1 (denotes_singleton.1 hstart)
    exact ⟨tree, htree.spells, htree.normal⟩
  · rintro ⟨tree, hspells, hnormal⟩
    exact hspells.derives hnormal tree.rank_le_two

/-! ## The depth of parentheses -/

/-- How many tokens are of a kind. -/
def kindCount (kind : TokenKind) (tokens : List Token) : Nat :=
  tokens.countP fun token => token.kind = kind

@[simp] theorem kindCount_append {kind : TokenKind} {before after : List Token} :
    kindCount kind (before ++ after) = kindCount kind before + kindCount kind after :=
  List.countP_append

@[simp] theorem kindCount_cons {kind : TokenKind} {token : Token} {tokens : List Token} :
    kindCount kind (token :: tokens) =
      kindCount kind tokens + if token.kind = kind then 1 else 0 := by
  simp [kindCount, List.countP_cons]

@[simp] theorem kindCount_nil {kind : TokenKind} : kindCount kind [] = 0 :=
  rfl

/-- Nowhere are more than `limit` parentheses open: no front of the tokens opens over `limit` more
parentheses than it closes. -/
def NestsWithin (limit : Nat) (tokens : List Token) : Prop :=
  ∀ front ∈ tokens.inits, kindCount .openParen front ≤ kindCount .closeParen front + limit

instance (limit : Nat) (tokens : List Token) : Decidable (NestsWithin limit tokens) :=
  inferInstanceAs (Decidable (∀ front ∈ tokens.inits, _))

theorem NestsWithin.front {limit : Nat} {before after : List Token}
    (h : NestsWithin limit (before ++ after)) :
    kindCount .openParen before ≤ kindCount .closeParen before + limit :=
  h before ((List.mem_inits _ _).2 (List.prefix_append before after))

theorem NestsWithin.of_append {limit : Nat} {before after : List Token}
    (h : NestsWithin limit (before ++ after)) : NestsWithin limit before := by
  intro front hfront
  obtain ⟨rest, rfl⟩ := (List.mem_inits _ _).1 hfront
  rw [List.append_assoc] at h
  exact h.front

namespace Spells

variable {tree : Expr} {tokens : List Token}

/-- The tokens of a tree close all parentheses they open. -/
theorem kindCount_parens (h : Spells tree tokens) :
    kindCount .openParen tokens = kindCount .closeParen tokens := by
  induction h with
  | ident hkind => simp [hkind]
  | binary hoperator _ _ ihleft ihright =>
      obtain ⟨hopen, hclose⟩ := TokenKind.ne_paren hoperator
      simp [hopen, hclose, ihleft, ihright]
  | paren hopening hclosing _ ih =>
      simp [hopening, hclosing, ih]

/-- Some front of the tokens of a tree ends inside its innermost parentheses. -/
theorem exists_deepest (h : Spells tree tokens) :
    ∃ front back, tokens = front ++ back ∧
      kindCount .openParen front = kindCount .closeParen front + tree.nesting := by
  induction h with
  | ident => exact ⟨[], _, rfl, rfl⟩
  | @binary left right operator before after hoperator hleft hright ihleft ihright =>
      obtain ⟨frontLeft, backLeft, rfl, hfrontLeft⟩ := ihleft
      obtain ⟨frontRight, backRight, rfl, hfrontRight⟩ := ihright
      rcases Nat.le_total right.nesting left.nesting with hle | hle
      · refine ⟨frontLeft, backLeft ++ operator :: (frontRight ++ backRight), by simp, ?_⟩
        rw [Expr.nesting, Nat.max_eq_left hle, hfrontLeft]
      · -- The left operand closes what it opens, so it adds nothing to the depth on the right.
        have hbalanced := hleft.kindCount_parens
        obtain ⟨hopen, hclose⟩ := TokenKind.ne_paren hoperator
        refine ⟨frontLeft ++ backLeft ++ operator :: frontRight, backRight, by simp, ?_⟩
        simp only [kindCount_append, kindCount_cons, if_neg hopen, if_neg hclose, hfrontRight,
          Expr.nesting, Nat.max_eq_right hle] at hbalanced ⊢
        omega
  | @paren inner opening closing between hopening hclosing _ ih =>
      obtain ⟨front, back, rfl, hfront⟩ := ih
      refine ⟨opening :: front, back ++ [closing], by simp, ?_⟩
      simp [hopening, hfront, Expr.nesting, Nat.add_assoc]

theorem nesting_le (h : Spells tree tokens) {limit : Nat} (hnests : NestsWithin limit tokens) :
    tree.nesting ≤ limit := by
  obtain ⟨front, back, rfl, hfront⟩ := h.exists_deepest
  have hle := hnests.front
  omega

end Spells

/-! ## What the parser accepts -/

section Limit

variable {limit : NestingLimit}

namespace Parser

/-- A parser that reads a whole sentence hands back the tree of its tokens and records nothing. -/
theorem parse_of_ok {parser : Parser} {tree : Expr}
    (h : sentence limit.count parser.unread = .ok tree) :
    parser.parse limit = (some tree, parser.moveTo []) := by
  rw [parse, h]

/-- A parser that cannot read its tokens as a sentence hands back nothing and records an error. -/
theorem parse_of_error {parser : Parser} {failure : Failure}
    (h : sentence limit.count parser.unread = .error failure) :
    (parser.parse limit).1 = none ∧
      (parser.parse limit).2.errors = parser.errors ++ [parser.errorOf failure] := by
  rw [parse, h]
  exact ⟨rfl, rfl⟩

/-- A tree that a parser hands back was read as a sentence. -/
theorem sentence_of_parse {parser : Parser} {tree : Expr}
    (h : (parser.parse limit).1 = some tree) :
    sentence limit.count parser.unread = .ok tree := by
  cases hread : sentence limit.count parser.unread with
  | error failure =>
      rw [(parse_of_error hread).1] at h
      cases h
  | ok parsed =>
      rw [parse_of_ok hread] at h
      cases h
      rfl

end Parser

end Limit

/-- The tokens of a source text are those a parser starts with, and the end token. -/
theorem tokenize_eq (source : String) :
    tokenize source = (Parser.ofSource source).unread ++ [(Parser.ofSource source).stop] :=
  rfl

theorem dropLast_tokenize (source : String) :
    (tokenize source).dropLast = (Parser.ofSource source).unread := by
  rw [tokenize_eq, List.dropLast_concat]

/-- The parser accepts exactly the sentences of the grammar, for source texts with at most a
hundred parentheses open at once. A text that is not a sentence gives no tree and one error. -/
theorem parse_iff_isSentence (limit : NestingLimit) (source : String)
    (hnests : NestsWithin 100 (tokenize source)) :
    ((∃ tree, ((Parser.ofSource source).parse limit).1 = some tree) ∧
        ((Parser.ofSource source).parse limit).2.errors = [] ↔
      IsSentence (tokenize source).dropLast) ∧
    (¬ IsSentence (tokenize source).dropLast →
      ((Parser.ofSource source).parse limit).1 = none ∧
        ∃ error, ((Parser.ofSource source).parse limit).2.errors = [error]) := by
  rw [dropLast_tokenize]
  rw [tokenize_eq] at hnests
  cases hread : sentence limit.count (Parser.ofSource source).unread with
  | ok tree =>
      have hparse := Parser.parse_of_ok hread
      obtain ⟨hspells, hnormal, -⟩ := sentence_eq_ok_iff.1 hread
      have hsentence : IsSentence (Parser.ofSource source).unread :=
        isSentence_iff.2 ⟨tree, hspells, hnormal⟩
      refine ⟨iff_of_true ⟨⟨tree, ?_⟩, ?_⟩ hsentence, fun hnot => absurd hsentence hnot⟩
      · rw [hparse]
      · rw [hparse]
        rfl
  | error failure =>
      -- A sentence would have been read: its parentheses are within what the parser allows.
      obtain ⟨hnone, herrors⟩ := Parser.parse_of_error hread
      have hnot : ¬ IsSentence (Parser.ofSource source).unread := by
        intro hsentence
        obtain ⟨tree, hspells, hnormal⟩ := isSentence_iff.1 hsentence
        have hnesting : tree.nesting ≤ limit.count :=
          Nat.le_trans (hspells.nesting_le hnests.of_append) limit.hundred_le
        rw [sentence_eq_ok_iff.2 ⟨hspells, hnormal, hnesting⟩] at hread
        cases hread
      refine ⟨iff_of_false ?_ hnot, fun _ => ⟨hnone, _, herrors⟩⟩
      rintro ⟨⟨tree, htree⟩, -⟩
      rw [hnone] at htree
      cases htree

/-- The hypothesis on parentheses holds of this text, which is a sentence. -/
theorem parse_iff_isSentence_shift :
    NestsWithin 100 (tokenize "a << (b + c)") ∧
      (((∃ tree, ((Parser.ofSource "a << (b + c)").parse .usual).1 = some tree) ∧
          ((Parser.ofSource "a << (b + c)").parse .usual).2.errors = []) ↔
        IsSentence (tokenize "a << (b + c)").dropLast) := by
  have hnests : NestsWithin 100 (tokenize "a << (b + c)") := by decide +kernel
  exact ⟨hnests, (parse_iff_isSentence .usual _ hnests).1⟩

end GrammarWorkbench.Expression
