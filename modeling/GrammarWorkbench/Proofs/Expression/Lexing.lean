import Mathlib.Data.List.TakeWhile
import GrammarWorkbench.Expression.Cursor
import GrammarWorkbench.Proofs.Expression.Spelling

/-!
# Reading spaced tokens back

A text reads back if its characters, before a blank or at the end of a source text, are read as one
token of a given kind (`ReadsBack`). Names do, and so do operators and parentheses. Texts that read
back, with single blanks between them, are scanned as exactly these tokens (`scan_spaced`).
-/

set_option autoImplicit false

namespace GrammarWorkbench.Expression

/-! ## One round of scanning -/

namespace Cursor

variable {cursor : Cursor}

theorem scan_of_none (h : Lexeme.read? cursor.skipGap.rest = none) : cursor.scan.1 = [] := by
  rw [scan]
  split
  next => rfl
  next lexeme hread =>
    rw [h] at hread
    cases hread

theorem scan_of_some {lexeme : Lexeme} (h : Lexeme.read? cursor.skipGap.rest = some lexeme) :
    cursor.scan.1 =
      cursor.skipGap.token lexeme :: (cursor.skipGap.past lexeme).scan.1 := by
  rw [scan]
  split
  next hread =>
    rw [h] at hread
    cases hread
  next lexeme' hread =>
    rw [h] at hread
    cases hread
    rfl

/-- What holds of the token of every lexeme holds of all scanned tokens. -/
theorem forall_mem_scan {property : Token → Prop}
    (h : ∀ (cursor : Cursor) (cs : List Char) (lexeme : Lexeme),
      Lexeme.read? cs = some lexeme → property (cursor.token lexeme))
    (cursor : Cursor) : ∀ token ∈ cursor.scan.1, property token := by
  induction cursor using scan.induct with
  | case1 cursor hread =>
      rw [scan_of_none hread]
      intro token hmem
      cases hmem
  | case2 cursor lexeme hread _ _ _ _ ih =>
      rw [scan_of_some hread]
      intro token hmem
      rcases List.mem_cons.1 hmem with rfl | hlater
      · exact h _ _ _ hread
      · exact ih token hlater

/-- Nothing is skipped before a character that belongs to no gap. -/
theorem skipFrom_rest {cs : List Char} (h : ∀ c ∈ cs.head?, isGap c = false)
    (offset line column : Nat) : (skipFrom cs offset line column).rest = cs := by
  cases cs with
  | nil => rfl
  | cons c rest =>
      have hgap : isGap c = false := h c rfl
      have hline : c ≠ '\n' := by
        rintro rfl
        cases hgap
      rw [skipFrom, if_neg hline, if_neg (by simp [hgap])]

/-- One blank is skipped. -/
theorem skipFrom_blank {cs : List Char} (h : ∀ c ∈ cs.head?, isGap c = false)
    (offset line column : Nat) : (skipFrom (' ' :: cs) offset line column).rest = cs := by
  rw [skipFrom, if_neg (by decide), if_pos (by decide), skipFrom_rest h]

end Cursor

/-! ## What a lexeme is made of -/

theorem singleKind?_wording {c : Char} {kind : TokenKind} (h : singleKind? c = some kind) :
    kind.wording.toList = [c] := by
  rw [singleKind?] at h
  repeat' split at h
  all_goals cases h <;> simp_all [TokenKind.wording]

theorem doubleKind?_wording {c : Char} {kind : TokenKind} (h : doubleKind? c = some kind) :
    kind.wording.toList = [c, c] := by
  rw [doubleKind?] at h
  repeat' split at h
  all_goals cases h <;> simp_all [TokenKind.wording]

theorem doubleKind?_isShift {c : Char} {kind : TokenKind} (h : doubleKind? c = some kind) :
    kind.isShift = true := by
  rw [doubleKind?] at h
  repeat' split at h
  all_goals cases h <;> rfl

/-- A lexeme is one of the characters that make a token, a character doubled, a name, or a
character that starts no token. -/
theorem Lexeme.read?_eq_some {c : Char} {cs : List Char} {lexeme : Lexeme}
    (h : Lexeme.read? (c :: cs) = some lexeme) :
    (∃ kind, singleKind? c = some kind ∧ lexeme = ⟨kind, [c], cs⟩) ∨
      (∃ kind rest, doubleKind? c = some kind ∧ cs = c :: rest ∧ lexeme = ⟨kind, [c, c], rest⟩) ∨
      (Text.isLetter c = true ∧
        lexeme = ⟨.identifier, c :: cs.takeWhile isNameChar, cs.dropWhile isNameChar⟩) ∨
      lexeme = ⟨.invalid, [c], cs⟩ := by
  cases hsingle : singleKind? c with
  | some kind =>
      simp only [Lexeme.read?, hsingle] at h
      cases h
      exact .inl ⟨kind, rfl, rfl⟩
  | none =>
      cases hdouble : doubleKind? c with
      | some kind =>
          cases cs with
          | nil =>
              simp only [Lexeme.read?, hsingle, hdouble] at h
              cases h
              exact .inr (.inr (.inr rfl))
          | cons d rest =>
              simp only [Lexeme.read?, hsingle, hdouble] at h
              split at h
              next hd =>
                cases h
                exact .inr (.inl ⟨kind, rest, rfl, by rw [hd], rfl⟩)
              next =>
                cases h
                exact .inr (.inr (.inr rfl))
      | none =>
          simp only [Lexeme.read?, hsingle, hdouble] at h
          split at h
          next hletter =>
            cases h
            exact .inr (.inr (.inl ⟨hletter, rfl⟩))
          next =>
            cases h
            exact .inr (.inr (.inr rfl))

/-- Operators and parentheses have the texts of their kinds. -/
theorem Lexeme.text_eq_wording {cs : List Char} {lexeme : Lexeme}
    (h : Lexeme.read? cs = some lexeme)
    (hkind : lexeme.kind.isOperator = true ∨ lexeme.kind.isParen = true) :
    lexeme.text = lexeme.kind.wording.toList := by
  cases cs with
  | nil => cases h
  | cons c cs =>
      rcases Lexeme.read?_eq_some h with
        ⟨kind, hsingle, rfl⟩ | ⟨kind, rest, hdouble, -, rfl⟩ | ⟨-, rfl⟩ | rfl
      · exact (singleKind?_wording hsingle).symm
      · exact (doubleKind?_wording hdouble).symm
      · rcases hkind with hoperator | hparen
        · cases hoperator
        · cases hparen
      · rcases hkind with hoperator | hparen
        · cases hoperator
        · cases hparen

theorem singleKind?_ne_endOfInput {c : Char} {kind : TokenKind} (h : singleKind? c = some kind) :
    kind ≠ .endOfInput := by
  rw [singleKind?] at h
  repeat' split at h
  all_goals cases h <;> simp

/-- No lexeme is an end token. -/
theorem Lexeme.kind_ne_endOfInput {cs : List Char} {lexeme : Lexeme}
    (h : Lexeme.read? cs = some lexeme) : lexeme.kind ≠ .endOfInput := by
  cases cs with
  | nil => cases h
  | cons c cs =>
      rcases Lexeme.read?_eq_some h with
        ⟨kind, hkind, rfl⟩ | ⟨kind, rest, hkind, -, rfl⟩ | ⟨-, rfl⟩ | rfl
      · exact singleKind?_ne_endOfInput hkind
      · have hshift := doubleKind?_isShift hkind
        rintro rfl
        cases hshift
      · simp
      · simp

/-- Operators and parentheses among the tokens of a text have the texts of their kinds. -/
theorem Cursor.text_eq_wording (cursor : Cursor) :
    ∀ token ∈ cursor.scan.1, token.kind.isOperator = true ∨ token.kind.isParen = true →
      token.text = token.kind.wording := by
  apply forall_mem_scan
  intro start cs lexeme hlexeme hkind
  rw [token, Lexeme.text_eq_wording hlexeme hkind, String.ofList_toList]

/-- The only tokens of the kinds of parentheses are the parentheses. -/
theorem Cursor.text_of_paren (cursor : Cursor) :
    ∀ token ∈ cursor.scan.1, (token.kind = .openParen → token.text = "(") ∧
      (token.kind = .closeParen → token.text = ")") := by
  intro token hmem
  have htext := cursor.text_eq_wording token hmem
  constructor
  · intro hkind
    rw [hkind] at htext
    exact htext (.inr rfl)
  · intro hkind
    rw [hkind] at htext
    exact htext (.inr rfl)

/-- No token before the end is an end token. -/
theorem Cursor.kind_ne_endOfInput (cursor : Cursor) :
    ∀ token ∈ cursor.scan.1, token.kind ≠ .endOfInput :=
  forall_mem_scan (fun _ _ _ => Lexeme.kind_ne_endOfInput) cursor

/-! ## Texts that read back -/

/-- A text is read as one token of a kind before a blank and at the end. -/
structure ReadsBack (kind : TokenKind) (text : List Char) : Prop where
  head (c : Char) (h : c ∈ text.head?) : isGap c = false
  read (rest : List Char) (h : ∀ c ∈ rest.head?, c = ' ') :
    Lexeme.read? (text ++ rest) = some ⟨kind, text, rest⟩

/-- Whether a text is a name: a letter, and characters that a name goes on with. -/
def isName : List Char → Bool
  | [] => false
  | c :: rest => Text.isLetter c && rest.all isNameChar

/-- Identifiers among the tokens of a text are names. -/
theorem Lexeme.isName_text {cs : List Char} {lexeme : Lexeme} (h : Lexeme.read? cs = some lexeme)
    (hkind : lexeme.kind = .identifier) : isName lexeme.text = true := by
  cases cs with
  | nil => cases h
  | cons c cs =>
      rcases Lexeme.read?_eq_some h with
        ⟨kind, hsingle, rfl⟩ | ⟨kind, rest, hdouble, -, rfl⟩ | ⟨hletter, rfl⟩ | rfl
      · cases hkind
        exact absurd (singleKind?_wording hsingle) (by simp [TokenKind.wording])
      · have hshift := doubleKind?_isShift hdouble
        cases hkind
        cases hshift
      · rw [isName, hletter, Bool.true_and]
        exact List.all_eq_true.2 fun c hc => List.mem_takeWhile_imp hc
      · cases hkind

theorem Cursor.isName_text (cursor : Cursor) :
    ∀ token ∈ cursor.scan.1, token.kind = .identifier → isName token.text.toList = true := by
  apply forall_mem_scan
  intro start cs lexeme hlexeme hkind
  rw [token, String.toList_ofList]
  exact Lexeme.isName_text hlexeme hkind

/-- No letter is a gap or a character of an operator or a parenthesis. -/
theorem kinds_of_isLetter {c : Char} (h : Text.isLetter c = true) :
    isGap c = false ∧ singleKind? c = none ∧ doubleKind? c = none := by
  have hne : ∀ d, Text.isLetter d = false → c ≠ d := by
    rintro d hd rfl
    rw [h] at hd
    cases hd
  refine ⟨?_, ?_, ?_⟩
  · simp [isGap, hne ' ' (by decide), hne '\t' (by decide), hne '\n' (by decide)]
  · simp [singleKind?, hne '(' (by decide), hne ')' (by decide), hne '+' (by decide),
      hne '-' (by decide)]
  · simp [doubleKind?, hne '<' (by decide), hne '>' (by decide)]

/-- After a letter the longest name is read. -/
theorem Lexeme.read?_of_isLetter {c : Char} (h : Text.isLetter c = true) (cs : List Char) :
    Lexeme.read? (c :: cs) =
      some ⟨.identifier, c :: cs.takeWhile isNameChar, cs.dropWhile isNameChar⟩ := by
  obtain ⟨-, hsingle, hdouble⟩ := kinds_of_isLetter h
  simp [Lexeme.read?, hsingle, hdouble, h]

theorem ReadsBack.name {text : List Char} (h : isName text = true) :
    ReadsBack .identifier text := by
  cases text with
  | nil => cases h
  | cons c cs =>
      rw [isName, Bool.and_eq_true, List.all_eq_true] at h
      obtain ⟨hletter, hcs⟩ := h
      obtain ⟨hgap, hsingle, hdouble⟩ := kinds_of_isLetter hletter
      constructor
      case head =>
        intro d hd
        cases hd
        exact hgap
      case read =>
        intro rest hrest
        -- The blank after the name is the first character that the name does not go on with.
        have hstop : rest.takeWhile isNameChar = [] ∧ rest.dropWhile isNameChar = rest := by
          cases rest with
          | nil => exact ⟨rfl, rfl⟩
          | cons d later =>
              obtain rfl : d = ' ' := hrest d rfl
              exact ⟨rfl, rfl⟩
        rw [List.cons_append, Lexeme.read?_of_isLetter hletter,
          List.takeWhile_append_of_pos hcs, List.dropWhile_append_of_pos hcs, hstop.1, hstop.2,
          List.append_nil]

theorem ReadsBack.wording {kind : TokenKind}
    (h : kind.isOperator = true ∨ kind.isParen = true) :
    ReadsBack kind kind.wording.toList := by
  constructor
  case head =>
    intro c hc
    cases kind <;> cases hc <;> rfl
  case read =>
    intro rest _
    cases kind <;> first | rfl | exact absurd h (by decide)

/-! ## Spaced texts -/

/-- The characters of some texts, with single blanks between them. -/
def spaced (pieces : List (TokenKind × String)) : List Char :=
  [' '].intercalate (pieces.map fun piece => piece.2.toList)

theorem spaced_cons (piece next : TokenKind × String) (pieces : List (TokenKind × String)) :
    spaced (piece :: next :: pieces) = piece.2.toList ++ ' ' :: spaced (next :: pieces) := by
  simp [spaced, List.intercalate_cons_cons]

/-- What reads back does not start with a gap, whatever follows it. -/
theorem ReadsBack.head_append {kind : TokenKind} {text : List Char} (h : ReadsBack kind text)
    (rest : List Char) : ∀ c ∈ (text ++ rest).head?, isGap c = false := by
  cases text with
  | nil =>
      have hread := h.read [] nofun
      cases hread
  | cons c cs =>
      intro d hd
      exact h.head d hd

section Spaced

variable {pieces : List (TokenKind × String)}

theorem spaced_head (h : ∀ piece ∈ pieces, ReadsBack piece.1 piece.2.toList) :
    ∀ c ∈ (spaced pieces).head?, isGap c = false := by
  cases pieces with
  | nil => exact nofun
  | cons piece pieces =>
      have hpiece := h piece List.mem_cons_self
      cases pieces with
      | nil =>
          have hhead := hpiece.head_append []
          rw [List.append_nil] at hhead
          simpa [spaced] using hhead
      | cons next pieces =>
          rw [spaced_cons]
          exact hpiece.head_append _

/-- Texts that read back, with single blanks between them, are scanned as these texts. -/
theorem Cursor.scan_spaced (h : ∀ piece ∈ pieces, ReadsBack piece.1 piece.2.toList)
    {cursor : Cursor} (hrest : cursor.skipGap.rest = spaced pieces) :
    cursor.scan.1.map Token.lexical = pieces := by
  induction pieces generalizing cursor with
  | nil =>
      rw [scan_of_none (by rw [hrest]; rfl)]
      rfl
  | cons piece pieces ih =>
      have hpiece := h piece List.mem_cons_self
      have hpieces : ∀ next ∈ pieces, ReadsBack next.1 next.2.toList :=
        fun next hnext => h next (List.mem_cons_of_mem piece hnext)
      -- After the first text comes the end or a blank, and behind it the other texts.
      obtain ⟨tail, htail, hblank, hskip⟩ : ∃ tail,
          spaced (piece :: pieces) = piece.2.toList ++ tail ∧ (∀ c ∈ tail.head?, c = ' ') ∧
          ∀ offset line column, (skipFrom tail offset line column).rest = spaced pieces := by
        cases pieces with
        | nil => exact ⟨[], by simp [spaced], nofun, fun _ _ _ => rfl⟩
        | cons next pieces =>
            refine ⟨' ' :: spaced (next :: pieces), spaced_cons piece next pieces, ?_, ?_⟩
            · intro c hc
              cases hc
              rfl
            · exact skipFrom_blank (spaced_head hpieces)
      rw [htail] at hrest
      have hread := hpiece.read tail hblank
      rw [← hrest] at hread
      have hlater : (cursor.skipGap.past ⟨piece.1, piece.2.toList, tail⟩).skipGap.rest =
          spaced pieces := hskip _ _ _
      rw [scan_of_some hread, List.map_cons, ih hpieces hlater]
      simp [Token.lexical, token]

end Spaced

/-- A source text of spaced texts that read back is scanned as these texts. -/
theorem scan_intercalate {pieces : List (TokenKind × String)}
    (h : ∀ piece ∈ pieces, ReadsBack piece.1 piece.2.toList) :
    (Cursor.mk (String.intercalate " " (pieces.map Prod.snd)).toList 0 1 1).scan.1.map
      Token.lexical = pieces := by
  have htext : (String.intercalate " " (pieces.map Prod.snd)).toList = spaced pieces := by
    rw [String.toList_intercalate, List.map_map]
    rfl
  rw [htext]
  exact Cursor.scan_spaced h (Cursor.skipFrom_rest (spaced_head h) 0 1 1)

end GrammarWorkbench.Expression
