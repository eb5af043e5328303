import GrammarWorkbench.Proofs.Expression.Places

/-!
# How a source text is taken apart

A split of a text alternates gaps and token texts. The text of a token fits what follows it if it is
an operator or a parenthesis, a name that does not go on, or a single character that starts no token
(`Fits`). Every text has exactly one split in which all gaps are gaps and all token texts fit, and
its tokens, each with the line and the column of the place where it starts, are the tokens of the
text (`tokenize_exact`).
-/

set_option autoImplicit false

namespace GrammarWorkbench.Expression

/-! ## Token texts -/

/-- What the text of a token of a kind may be, in front of the rest of a source text. -/
inductive Fits : TokenKind → List Char → List Char → Prop
  /-- An operator or a parenthesis. -/
  | fixed {kind : TokenKind} (h : kind.isOperator = true ∨ kind.isParen = true)
      (rest : List Char) : Fits kind kind.wording.toList rest
  /-- A letter and characters that a name goes on with, and no more of them behind it. -/
  | name {text rest : List Char} (hname : isName text = true)
      (hend : ∀ c ∈ rest.head?, isNameChar c = false) : Fits .identifier text rest
  /-- A character that starts no token. Half of a shift does so only if the other half follows. -/
  | invalid {c : Char} {rest : List Char} (hletter : Text.isLetter c = false)
      (hgap : isGap c = false) (hmark : c ∉ ['(', ')', '+', '-'])
      (hhalf : c ∈ ['<', '>'] → rest.head? ≠ some c) : Fits .invalid [c] rest

/-- The text of a token has a first character, which belongs to no gap. -/
theorem Fits.head {kind : TokenKind} {text rest : List Char} (h : Fits kind text rest) :
    ∃ c cs, text = c :: cs ∧ isGap c = false := by
  cases h with
  | @fixed kind h rest => cases kind <;> exact ⟨_, _, rfl, rfl⟩
  | @name text rest hname hend =>
      cases text with
      | nil => cases hname
      | cons c cs =>
          rw [isName, Bool.and_eq_true] at hname
          exact ⟨c, cs, rfl, (kinds_of_isLetter hname.1).1⟩
  | invalid hletter hgap hmark hhalf => exact ⟨_, _, rfl, hgap⟩

theorem Fits.text_ne_nil {kind : TokenKind} {text rest : List Char} (h : Fits kind text rest) :
    text ≠ [] := by
  obtain ⟨c, cs, rfl, -⟩ := h.head
  exact List.cons_ne_nil c cs

/-- A text that fits does not start with a gap. -/
theorem Fits.head_append {kind : TokenKind} {text rest : List Char} (h : Fits kind text rest) :
    ∀ c ∈ (text ++ rest).head?, isGap c = false := by
  obtain ⟨c, cs, rfl, hgap⟩ := h.head
  intro d hd
  cases hd
  exact hgap

theorem singleKind?_eq_none {c : Char} : singleKind? c = none ↔ c ∉ ['(', ')', '+', '-'] := by
  simp only [singleKind?]
  repeat' split
  all_goals simp_all

theorem doubleKind?_eq_none {c : Char} : doubleKind? c = none ↔ c ∉ ['<', '>'] := by
  simp only [doubleKind?]
  repeat' split
  all_goals simp_all

theorem fits_of_singleKind? {c : Char} {kind : TokenKind} (h : singleKind? c = some kind)
    (rest : List Char) : Fits kind [c] rest := by
  simp only [singleKind?] at h
  repeat' split at h
  all_goals cases h <;> subst c <;> exact .fixed (by decide) rest

theorem fits_of_doubleKind? {c : Char} {kind : TokenKind} (h : doubleKind? c = some kind)
    (rest : List Char) : Fits kind [c, c] rest := by
  simp only [doubleKind?] at h
  repeat' split at h
  all_goals cases h <;> subst c <;> exact .fixed (by decide) rest

/-- A text that fits is read as the token it is the text of. -/
theorem Fits.read? {kind : TokenKind} {text rest : List Char} (h : Fits kind text rest) :
    Lexeme.read? (text ++ rest) = some ⟨kind, text, rest⟩ := by
  cases h with
  | @fixed kind h rest =>
      cases kind <;> first | rfl | exact absurd h (by decide)
  | @name text rest hname hend =>
      cases text with
      | nil => cases hname
      | cons c cs =>
          rw [isName, Bool.and_eq_true, List.all_eq_true] at hname
          obtain ⟨hletter, hcs⟩ := hname
          have hstop : rest.takeWhile isNameChar = [] ∧ rest.dropWhile isNameChar = rest := by
            cases rest with
            | nil => exact ⟨rfl, rfl⟩
            | cons d later => simp [hend d rfl]
          rw [List.cons_append, Lexeme.read?_of_isLetter hletter,
            List.takeWhile_append_of_pos hcs, List.dropWhile_append_of_pos hcs, hstop.1, hstop.2,
            List.append_nil]
  | @invalid c rest hletter hgap hmark hhalf =>
      have hsingle := singleKind?_eq_none.2 hmark
      cases hdouble : doubleKind? c with
      | none => simp [Lexeme.read?, hsingle, hdouble, hletter]
      | some kind =>
          have hmem : c ∈ ['<', '>'] := by
            by_contra hother
            rw [doubleKind?_eq_none.2 hother] at hdouble
            cases hdouble
          have hnext := hhalf hmem
          cases rest with
          | nil => simp [Lexeme.read?, hsingle, hdouble]
          | cons d later =>
              have hd : d ≠ c := by simpa using hnext
              simp [Lexeme.read?, hsingle, hdouble, hd]

/-- What is read at a character that belongs to no gap fits what follows it. -/
theorem fits_of_read? {c : Char} {cs : List Char} {lexeme : Lexeme} (hgap : isGap c = false)
    (h : Lexeme.read? (c :: cs) = some lexeme) : Fits lexeme.kind lexeme.text lexeme.rest := by
  cases hsingle : singleKind? c with
  | some kind =>
      simp only [Lexeme.read?, hsingle] at h
      cases h
      exact fits_of_singleKind? hsingle cs
  | none =>
      have hmark := singleKind?_eq_none.1 hsingle
      cases hdouble : doubleKind? c with
      | none =>
          simp only [Lexeme.read?, hsingle, hdouble] at h
          have hwhole := doubleKind?_eq_none.1 hdouble
          split at h
          next hletter =>
            cases h
            exact .name (by simp [isName, hletter]) (head?_dropWhile_eq_false isNameChar cs)
          next hletter =>
            cases h
            refine .invalid (Bool.not_eq_true _ ▸ hletter) hgap hmark ?_
            intro hhalf
            exact absurd hhalf hwhole
      | some kind =>
          have hletter : Text.isLetter c = false := by
            rw [Bool.eq_false_iff]
            intro hletter
            rw [(kinds_of_isLetter hletter).2.2] at hdouble
            cases hdouble
          cases cs with
          | nil =>
              simp only [Lexeme.read?, hsingle, hdouble] at h
              cases h
              refine .invalid hletter hgap hmark ?_
              intro _ hnext
              cases hnext
          | cons d later =>
              simp only [Lexeme.read?, hsingle, hdouble] at h
              split at h
              next hd =>
                cases h
                exact fits_of_doubleKind? hdouble later
              next hd =>
                cases h
                exact .invalid hletter hgap hmark fun _ hnext => hd (Option.some.inj hnext)

theorem Fits.newline_notMem {kind : TokenKind} {text rest : List Char} (h : Fits kind text rest) :
    '\n' ∉ text :=
  Cursor.newline_notMem h.head_append h.read?

/-! ## Splits -/

/-- A text taken apart: a gap at the end, or a gap and the text of a token before the rest. -/
inductive Split where
  | last (gap : List Char)
  | piece (gap : List Char) (kind : TokenKind) (text : List Char) (rest : Split)

namespace Split

/-- The text that is taken apart. -/
def chars : Split → List Char
  | last gap => gap
  | piece gap _ text rest => gap ++ (text ++ rest.chars)

/-- All gaps consist of blanks, tabs and line breaks, and every token text fits what follows it. -/
def Sound : Split → Prop
  | last gap => ∀ c ∈ gap, isGap c = true
  | piece gap kind text rest =>
    (∀ c ∈ gap, isGap c = true) ∧ Fits kind text rest.chars ∧ rest.Sound

/-- The tokens of a split behind some characters, each at the place where its text starts, and the
end token at the end of the text. -/
def tokens (before : List Char) : Split → List Token
  | last gap => [⟨.endOfInput, "", lineAfter (before ++ gap), columnAfter (before ++ gap)⟩]
  | piece gap kind text rest =>
    ⟨kind, String.ofList text, lineAfter (before ++ gap), columnAfter (before ++ gap)⟩ ::
      rest.tokens (before ++ gap ++ text)

/-- Every text can be taken apart. -/
theorem exists_sound (cs : List Char) : ∃ split : Split, split.chars = cs ∧ split.Sound := by
  induction hlength : cs.length using Nat.strong_induction_on generalizing cs with
  | h length ih =>
  subst hlength
  obtain ⟨gap, rest, rfl, hgap, hrest, -⟩ := Cursor.exists_skipGap_behind [] cs
  cases rest with
  | nil => exact ⟨last gap, by simp [chars], hgap⟩
  | cons c rest =>
      cases hread : Lexeme.read? (c :: rest) with
      | none => exact absurd (Lexeme.read?_eq_none.1 hread) (List.cons_ne_nil c rest)
      | some lexeme =>
          have hfits := fits_of_read? (hrest c rfl) hread
          have htext := Lexeme.text_append_rest hread
          have hlength := Lexeme.rest_length_lt hread
          have hshorter : lexeme.rest.length < (gap ++ c :: rest).length := by
            rw [List.length_append]
            omega
          obtain ⟨split, hchars, hsound⟩ := ih _ hshorter _ rfl
          rw [← hchars] at htext hfits
          exact ⟨piece gap lexeme.kind lexeme.text split, by rw [chars, htext], hgap, hfits, hsound⟩

/-- A text has no second split. -/
theorem Sound.unique {split other : Split} (hsplit : split.Sound) (hother : other.Sound)
    (h : split.chars = other.chars) : split = other := by
  induction split generalizing other with
  | last gap =>
      cases other with
      | last gap' => exact congrArg last h
      | piece gap' kind' text' rest' =>
          obtain ⟨hgap', hfits', -⟩ := hother
          have hsame := append_inj_of_head hsplit (by simp) hgap' hfits'.head_append
            ((List.append_nil gap).trans h)
          exact absurd hsame.2.symm (by simp [hfits'.text_ne_nil])
  | piece gap kind text rest ih =>
      obtain ⟨hgap, hfits, hrest⟩ := hsplit
      cases other with
      | last gap' =>
          have hsame := append_inj_of_head hgap hfits.head_append hother (by simp)
            (h.trans (List.append_nil gap').symm)
          exact absurd hsame.2 (by simp [hfits.text_ne_nil])
      | piece gap' kind' text' rest' =>
          obtain ⟨hgap', hfits', hrest'⟩ := hother
          obtain ⟨rfl, htexts⟩ :=
            append_inj_of_head hgap hfits.head_append hgap' hfits'.head_append h
          -- Both token texts are read at the same place of the text, so they are the same.
          have hread := hfits.read?
          rw [htexts, hfits'.read?, Option.some.injEq, Lexeme.mk.injEq] at hread
          obtain ⟨rfl, rfl, hchars⟩ := hread
          rw [ih hrest hrest' hchars.symm]

/-- The tokens of a split are those of its text. -/
theorem Sound.tokens_behind {split : Split} (h : split.Sound) (before : List Char) :
    (Cursor.behind before split.chars).tokens = split.tokens before := by
  induction split generalizing before with
  | last gap =>
      have hnone : ∀ c ∈ ([] : List Char).head?, isGap c = false := nofun
      have hskip := Cursor.skipGap_behind h hnone before
      rw [List.append_nil] at hskip
      rw [chars, Cursor.tokens_of_none (by rw [hskip]; rfl), hskip]
      rfl
  | piece gap kind text rest ih =>
      obtain ⟨hgap, hfits, hrest⟩ := h
      have hskip := Cursor.skipGap_behind hgap hfits.head_append before
      have hread : Lexeme.read?
          (Cursor.behind before (piece gap kind text rest).chars).skipGap.rest =
            some ⟨kind, text, rest.chars⟩ := by
        rw [chars, hskip]
        exact hfits.read?
      rw [Cursor.tokens_of_some hread, chars, hskip, Cursor.past_behind hfits.newline_notMem,
        ih hrest]
      rfl

end Split

/-! ## The tokens of a source text -/

theorem tokenize_eq_tokens (source : String) :
    tokenize source = (Cursor.behind [] source.toList).tokens :=
  rfl

/-- Before the end token there is no other one, and every token has a text. -/
theorem kind_and_text_of_mem_scan (cursor : Cursor) :
    ∀ token ∈ cursor.scan.1, token.kind ≠ .endOfInput ∧ token.text ≠ "" := by
  apply Cursor.forall_mem_scan
  intro cursor cs lexeme hread
  refine ⟨Lexeme.kind_ne_endOfInput hread, ?_⟩
  rw [Cursor.token, ← String.toList_inj.ne, String.toList_ofList]
  exact Lexeme.text_ne_nil hread

/-- A source text can be taken apart into gaps and texts of tokens in exactly one way, and the
tokens of the text are those of this split, each at the line and the column of its first character.
The last of them, and no other, is the end token. -/
theorem tokenize_exact (source : String) :
    ∃ split : Split,
      (∀ other : Split, other.chars = source.toList ∧ other.Sound ↔ other = split) ∧
      tokenize source = split.tokens [] ∧
      ∃ tokens stop, tokenize source = tokens ++ [stop] ∧ stop.kind = .endOfInput ∧
        ∀ token ∈ tokens, token.kind ≠ .endOfInput ∧ token.text ≠ "" := by
  obtain ⟨split, hchars, hsound⟩ := Split.exists_sound source.toList
  refine ⟨split, ?_, ?_, _, _, rfl, rfl, kind_and_text_of_mem_scan _⟩
  · intro other
    constructor
    · rintro ⟨hother, hotherSound⟩
      exact hotherSound.unique hsound (hother.trans hchars.symm)
    · rintro rfl
      exact ⟨hchars, hsound⟩
  · rw [tokenize_eq_tokens, ← hchars, hsound.tokens_behind]

/-- In an odd run of half shifts the last one is left over. -/
example : tokenize "a_1<<<\n 2" =
    [⟨.identifier, "a_1", 1, 1⟩, ⟨.shiftLeft, "<<", 1, 4⟩, ⟨.invalid, "<", 1, 6⟩,
      ⟨.invalid, "2", 2, 2⟩, ⟨.endOfInput, "", 2, 3⟩] := by decide +kernel

end GrammarWorkbench.Expression
