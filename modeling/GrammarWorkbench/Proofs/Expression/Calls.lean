import Mathlib.Data.List.Nodup
import GrammarWorkbench.Proofs.Expression.Misfit
import GrammarWorkbench.Proofs.Expression.Positions
import GrammarWorkbench.Proofs.Expression.Readings

/-!
# A parser in use

A parser can be called for a sentence, for a phrase or for a token of a kind, as often as one likes
and in any order, also after errors: each call starts where the one before has come to a halt.
Whatever was called, the token at hand is the one that the scanner has read last, and it stands in
the tokens of the source text. A call never goes back, a tree that it hands out is made of exactly
the tokens passed meanwhile, and an error is recorded only for a sentence that cannot be read
(`calls_keep_step`).

All this is shown for a parser over the list of tokens (`Parser.exists_takes`), with which the
parser that reads from a scanner stays in step (`StreamParser.InStep.afterCalls`).
-/

set_option autoImplicit false

namespace GrammarWorkbench.Expression

/-! ## Calls -/

/-- What a parser can be called for. -/
inductive Call where
  | parse
  | expression
  | term
  | factor
  | consume (kind : TokenKind)
  deriving DecidableEq

/-- How a call ends: with a tree, with a token, with nothing or with an error that is raised. -/
inductive Outcome where
  | tree (tree : Expr)
  | token (token : Token)
  | nothing
  | raised (error : SyntaxError)
  deriving DecidableEq

namespace Outcome

/-- How reading a sentence ends. -/
def ofSentence : Option Expr → Outcome
  | some result => .tree result
  | none => .nothing

/-- How reading a phrase ends. -/
def ofPhrase : Except SyntaxError Expr → Outcome
  | .ok result => .tree result
  | .error error => .raised error

/-- How taking a token ends. -/
def ofToken : Except SyntaxError Token → Outcome
  | .ok result => .token result
  | .error error => .raised error

end Outcome

/-- How a call ends for a parser over a list, and the parser after it. -/
def Parser.perform (limit : NestingLimit) (parser : Parser) : Call → Outcome × Parser
  | .parse => Prod.map .ofSentence id (parser.parse limit)
  | .expression => Prod.map .ofPhrase id (parser.readExpression limit)
  | .term => Prod.map .ofPhrase id (parser.readTerm limit)
  | .factor => Prod.map .ofPhrase id (parser.readFactor limit)
  | .consume kind => Prod.map .ofToken id (parser.consume kind)

namespace StreamParser

/-- How a call ends, and the parser after it. -/
def perform (limit : NestingLimit) (parser : StreamParser) : Call → Outcome × StreamParser
  | .parse => Prod.map .ofSentence id (parser.parse limit)
  | .expression => Prod.map .ofPhrase id ((readExpression limit).run.run parser)
  | .term => Prod.map .ofPhrase id ((readTerm limit).run.run parser)
  | .factor => Prod.map .ofPhrase id ((readFactor limit).run.run parser)
  | .consume kind => Prod.map .ofToken id ((StreamParser.consume kind).run.run parser)

/-- The parser after some calls, one after the other. -/
def afterCalls (limit : NestingLimit) (parser : StreamParser) (calls : List Call) : StreamParser :=
  calls.foldl (fun parser call => (parser.perform limit call).2) parser

/-! ## In step -/

section Steps

variable {limit : NestingLimit} {stream : StreamParser} {parser : Parser}

theorem Ends.map {α : Type} {reading : Reading α} {outcome : Except SyntaxError α × Parser}
    (h : Ends reading stream outcome) (how : Except SyntaxError α → Outcome) :
    (Prod.map how id (reading.run.run stream)).1 = (Prod.map how id outcome).1 ∧
      (Prod.map how id (reading.run.run stream)).2.InStep (Prod.map how id outcome).2 := by
  obtain ⟨moved, hrun, hmoved⟩ := h
  rw [hrun]
  exact ⟨rfl, hmoved⟩

/-- A call ends in the same way for parsers that are in step, and keeps them in step. -/
theorem InStep.perform (h : stream.InStep parser) (call : Call) :
    (stream.perform limit call).1 = (parser.perform limit call).1 ∧
      (stream.perform limit call).2.InStep (parser.perform limit call).2 := by
  have hfactor := follows_factor limit.count
  cases call with
  | parse =>
      obtain ⟨hresult, hstep⟩ := h.parse limit
      exact ⟨congrArg Outcome.ofSentence hresult, hstep⟩
  | expression => exact (follows_expression hfactor stream parser h).map _
  | term => exact (follows_term hfactor stream parser h).map _
  | factor => exact (hfactor stream parser h).map _
  | consume kind => exact (ends_consume h kind).map _

end Steps

end StreamParser

/-! ## What a call takes -/

/-- No contiguous stretch of tokens opens over `limit` more parentheses than it closes. -/
def StretchesNestWithin (limit : Nat) (tokens : List Token) : Prop :=
  ∀ back ∈ tokens.tails, NestsWithin limit back

instance (limit : Nat) (tokens : List Token) : Decidable (StretchesNestWithin limit tokens) :=
  inferInstanceAs (Decidable (∀ back ∈ tokens.tails, _))

/-- Where a reading comes to a halt it has read the tokens before. -/
theorem HaltsIn.exists_used {allowance : Nat} {due : Bool} {tokens : List Token} {failure : Failure}
    (h : HaltsIn allowance due tokens failure) : ∃ used, tokens = used ++ failure.unread := by
  obtain ⟨used, -, hused, -⟩ := h
  exact ⟨used, hused⟩

/-- Within a hundred open parentheses no reading comes to a halt because of the depth. -/
theorem HaltsIn.fault_ne_tooDeep {limit : NestingLimit} {tokens after : List Token}
    {failure : Failure} (h : HaltsIn limit.count true tokens failure)
    (hnests : NestsWithin 100 (tokens ++ after)) :
    failure.fault ≠ .tooDeep := by
  obtain ⟨used, pending, hused, hafter, hhalts⟩ := h
  intro hfault
  obtain ⟨rfl, opening, later, hunread, hopen⟩ := hhalts.opening_of_tooDeep hfault
  rw [hused, hunread] at hnests
  exact not_opened_limit limit hnests hafter hopen rfl

/-- A tree has at least one token. -/
theorem Spells.length_pos {tree : Expr} {tokens : List Token} (h : Spells tree tokens) :
    0 < tokens.length := by
  cases h with
  | ident => exact Nat.zero_lt_one
  | binary =>
      rw [List.length_append]
      exact Nat.add_pos_right _ (Nat.succ_pos _)
  | paren => exact Nat.succ_pos _

namespace Parser

/-- A call takes some tokens from a parser. A tree that it hands out is spelled by them, and if it
ends with nothing an error is recorded. None of its errors is about the depth. -/
inductive Takes (parser : Parser) (taken : List Token) : Outcome → Parser → Prop
  | tree {tree : Expr} {rest : List Token} (hunread : parser.unread = taken ++ rest)
      (hspells : Spells tree taken) : Takes parser taken (.tree tree) (parser.moveTo rest)
  | token {token : Token} {rest : List Token} (hunread : parser.unread = taken ++ rest) :
      Takes parser taken (.token token) (parser.moveTo rest)
  | nothing {error : SyntaxError} {rest : List Token} (hunread : parser.unread = taken ++ rest)
      (hfault : error.fault ≠ .tooDeep) :
      Takes parser taken .nothing
        { parser.moveTo rest with errors := parser.errors ++ [error] }
  | raised {error : SyntaxError} {rest : List Token} (hunread : parser.unread = taken ++ rest)
      (hfault : error.fault ≠ .tooDeep) : Takes parser taken (.raised error) (parser.moveTo rest)

section Takes

variable {parser after : Parser} {taken : List Token} {outcome : Outcome}

theorem Takes.unread_eq (h : parser.Takes taken outcome after) :
    parser.unread = taken ++ after.unread := by
  cases h <;> assumption

theorem Takes.stop_eq (h : parser.Takes taken outcome after) : after.stop = parser.stop := by
  cases h <;> rfl

theorem Takes.spells {tree : Expr} (h : parser.Takes taken (.tree tree) after) :
    Spells tree taken := by
  cases h
  assumption

theorem Takes.recorded (h : parser.Takes taken .nothing after) :
    ∃ error : SyntaxError, error.fault ≠ .tooDeep ∧ after.errors = parser.errors ++ [error] := by
  cases h with
  | nothing _ hfault => exact ⟨_, hfault, rfl⟩

theorem Takes.unrecorded (h : parser.Takes taken outcome after) (hother : outcome ≠ .nothing) :
    after.errors = parser.errors := by
  cases h with
  | nothing => exact absurd rfl hother
  | _ => rfl

theorem Takes.shallow {error : SyntaxError} (h : parser.Takes taken (.raised error) after) :
    error.fault ≠ .tooDeep := by
  cases h
  assumption

end Takes

variable {limit : NestingLimit} {parser : Parser} {phrase : Phrase} {layer : Nat}

theorem takes_phrase (hreads : Reads layer limit.count phrase)
    (hfails : FailsInPlace limit.count phrase)
    (hnests : NestsWithin 100 (parser.unread ++ [parser.stop])) :
    ∃ taken, parser.Takes taken (.ofPhrase (parser.read phrase).1) (parser.read phrase).2 := by
  cases hphrase : phrase parser.unread with
  | ok result =>
      obtain ⟨tree, rest⟩ := result
      obtain ⟨taken, hunread, hphrased, -⟩ := hreads.sound hphrase
      rw [read_of_ok hphrase]
      exact ⟨taken, .tree hunread hphrased.spells⟩
  | error failure =>
      have hhalts := hfails _ _ hphrase
      obtain ⟨taken, hunread⟩ := hhalts.exists_used
      rw [read_of_error hphrase]
      exact ⟨taken, .raised hunread (hhalts.fault_ne_tooDeep hnests)⟩

theorem takes_sentence (hnests : NestsWithin 100 (parser.unread ++ [parser.stop])) :
    ∃ taken, parser.Takes taken (.ofSentence (parser.parse limit).1) (parser.parse limit).2 := by
  cases hread : sentence limit.count parser.unread with
  | ok tree =>
      rw [parse, hread]
      exact ⟨parser.unread, .tree (List.append_nil _).symm (sentence_eq_ok_iff.1 hread).1⟩
  | error failure =>
      obtain ⟨taken, pending, hunread, hafter, ⟨hfault, hhalts⟩ | ⟨hfault, -⟩⟩ :=
        sentence_halts hread
      · have hplace : HaltsIn limit.count true parser.unread failure :=
          ⟨taken, pending, hunread, hafter, hhalts⟩
        exact absurd hfault (hplace.fault_ne_tooDeep hnests)
      · rw [parse, hread]
        exact ⟨taken, .nothing hunread hfault⟩

theorem takes_token (kind : TokenKind) :
    ∃ taken, parser.Takes taken (.ofToken (parser.consume kind).1) (parser.consume kind).2 := by
  rw [consume]
  split
  next hkind =>
    cases hunread : parser.unread with
    | nil => exact ⟨[], .token hunread⟩
    | cons token later => exact ⟨[token], .token hunread⟩
  next => exact ⟨[], .raised rfl (by simp)⟩

/-- Every call takes some tokens. -/
theorem exists_takes (hnests : NestsWithin 100 (parser.unread ++ [parser.stop])) (call : Call) :
    ∃ taken, parser.Takes taken (parser.perform limit call).1 (parser.perform limit call).2 := by
  have hreads := reads_factor limit.count
  have hfails := failsInPlace_factor limit.count
  cases call with
  | parse => exact takes_sentence hnests
  | expression =>
      apply takes_phrase (reads_expression hreads)
      · exact failsInPlace_expression hfails
      · exact hnests
  | term =>
      apply takes_phrase (reads_term hreads)
      · exact failsInPlace_term hfails
      · exact hnests
  | factor => exact takes_phrase hreads hfails hnests
  | consume kind => exact takes_token kind

end Parser

/-! ## Places -/

/-- No token stands before itself. -/
theorem Token.Precedes.ne {token later : Token} (h : token.Precedes later) : token ≠ later := by
  rintro rfl
  rcases h with hline | ⟨-, hcolumn⟩
  · exact absurd hline (Int.lt_irrefl _)
  · exact absurd hcolumn (Int.lt_irrefl _)

/-- No token of a source text stands in two places. -/
theorem nodup_tokenize (source : String) : (tokenize source).Nodup := by
  have hscanned : (Parser.ofSource source).unread.Nodup :=
    (Cursor.scan_inOrder (Scanner.startOf source.toList)).2.imp Token.Precedes.ne
  have hend : (Parser.ofSource source).stop ∉ (Parser.ofSource source).unread := by
    intro hmem
    exact Parser.kind_ne_endOfInput source _ hmem rfl
  rw [tokenize_eq, ← List.concat_eq_append]
  exact List.Nodup.concat hend hscanned

/-- Some tokens of a source text have been read, and the others are still unread. -/
structure Parser.HasRead (parser : Parser) (source : String) (used : List Token) : Prop where
  unread_eq : (ofSource source).unread = used ++ parser.unread
  stop_eq : (ofSource source).stop = parser.stop

namespace Parser

variable {parser after : Parser} {source : String} {used taken : List Token} {outcome : Outcome}

theorem hasRead_ofSource (source : String) : (ofSource source).HasRead source [] :=
  ⟨rfl, rfl⟩

theorem HasRead.tokenize_eq (h : parser.HasRead source used) :
    tokenize source = used ++ (parser.unread ++ [parser.stop]) := by
  rw [Expression.tokenize_eq, h.unread_eq, h.stop_eq, List.append_assoc]

/-- What holds of all stretches of the tokens holds of those that are unread. -/
theorem HasRead.nestsWithin {limit : Nat} (h : parser.HasRead source used)
    (hnests : StretchesNestWithin limit (tokenize source)) :
    NestsWithin limit (parser.unread ++ [parser.stop]) := by
  apply hnests
  rw [h.tokenize_eq, List.mem_tails]
  exact List.suffix_append used _

theorem HasRead.takes (h : parser.HasRead source used) (htakes : parser.Takes taken outcome after) :
    after.HasRead source (used ++ taken) := by
  constructor
  · rw [h.unread_eq, htakes.unread_eq, List.append_assoc]
  · rw [h.stop_eq, htakes.stop_eq]

end Parser

namespace StreamParser

/-- The place of a parser among some tokens: that of the token at hand. -/
def place (tokens : List Token) (parser : StreamParser) : Nat :=
  tokens.idxOf parser.current

/-- The tokens from a place on, up to another place and without the token there. -/
def passed (tokens : List Token) (first last : Nat) : List Token :=
  (tokens.drop first).take (last - first)

/-- What a call does to a parser among the tokens of its text. -/
structure Keeps (before : StreamParser) (tokens : List Token) (call : Call) (outcome : Outcome)
    (after : StreamParser) : Prop where
  /-- The parser does not go back. -/
  place_le : before.place tokens ≤ after.place tokens
  /-- A tree is made of the tokens passed, at least one, and the end token is not among them. -/
  tree : ∀ tree, outcome = .tree tree →
    before.place tokens < after.place tokens ∧
      tree.flatten = (passed tokens (before.place tokens) (after.place tokens)).map Token.lexical ∧
      ∀ token ∈ passed tokens (before.place tokens) (after.place tokens), token.kind ≠ .endOfInput
  /-- A token that is not there leaves everything as it was. -/
  refused : ∀ kind error, call = .consume kind → outcome = .raised error → after = before
  /-- One error is recorded for a sentence that cannot be read. -/
  recorded : outcome = .nothing → call = .parse ∧
    ∃ error : SyntaxError, error.fault ≠ .tooDeep ∧ after.errors = before.errors ++ [error]
  /-- No other error is recorded. -/
  unrecorded : outcome ≠ .nothing → after.errors = before.errors
  /-- The limit for parentheses is not met. -/
  shallow : ∀ error, outcome = .raised error → error.fault ≠ .tooDeep

section Keeps

variable {limit : NestingLimit} {source : String} {stream : StreamParser} {parser : Parser}
  {used : List Token}

/-- A parser stands behind the tokens that have been read. -/
theorem InStep.place_eq (hstep : stream.InStep parser) (hread : parser.HasRead source used) :
    (tokenize source)[used.length]? = some stream.current ∧
      stream.place (tokenize source) = used.length := by
  obtain ⟨rest, hrest⟩ := parser.current_moveTo parser.unread
  have htokens : tokenize source = used ++ stream.current :: rest := by
    rw [hread.tokenize_eq, hstep.current]
    exact congrArg _ hrest
  have hnodup := nodup_tokenize source
  rw [htokens] at hnodup
  -- The token at hand does not occur earlier, so its first occurrence is behind the tokens read.
  have hnew : stream.current ∉ used := by
    intro hmem
    exact (List.nodup_append.1 hnodup).2.2 _ hmem _ List.mem_cons_self rfl
  constructor
  · rw [htokens, List.getElem?_append_right (Nat.le_refl _), Nat.sub_self, List.getElem?_cons_zero]
  · rw [place, htokens, List.idxOf_append_of_notMem hnew, List.idxOf_cons_self, Nat.add_zero]

/-- Only a call for a sentence ends with nothing. -/
theorem eq_parse_of_nothing {call : Call} (h : (stream.perform limit call).1 = .nothing) :
    call = .parse := by
  have hphrase : ∀ result, Outcome.ofPhrase result ≠ .nothing := by
    intro result
    cases result <;> exact nofun
  have htoken : ∀ result, Outcome.ofToken result ≠ .nothing := by
    intro result
    cases result <;> exact nofun
  cases call with
  | parse => rfl
  | expression => exact absurd h (hphrase _)
  | term => exact absurd h (hphrase _)
  | factor => exact absurd h (hphrase _)
  | consume kind => exact absurd h (htoken _)

/-- A token that is refused changes nothing. -/
theorem perform_consume_of_raised {kind : TokenKind} {error : SyntaxError}
    (h : (stream.perform limit (.consume kind)).1 = .raised error) :
    (stream.perform limit (.consume kind)).2 = stream := by
  rw [perform, run_consume] at h ⊢
  split at h
  next => cases h
  next hkind => rw [if_neg hkind]; rfl

theorem passed_append (used taken rest : List Token) :
    passed (used ++ (taken ++ rest)) used.length (used ++ taken).length = taken := by
  rw [passed, List.drop_left, List.length_append, Nat.add_sub_cancel_left, List.take_left]

/-- What a call does, wherever earlier calls have left the parser. -/
theorem InStep.keeps (hstep : stream.InStep parser) (hread : parser.HasRead source used)
    (hnests : StretchesNestWithin 100 (tokenize source)) (call : Call) :
    stream.Keeps (tokenize source) call (stream.perform limit call).1
      (stream.perform limit call).2 := by
  obtain ⟨taken, htakes⟩ := parser.exists_takes (hread.nestsWithin hnests) call
  obtain ⟨houtcome, hstepAfter⟩ := hstep.perform call
  have hreadAfter := hread.takes htakes
  -- The places before and after are the numbers of tokens read, so these were passed in between.
  have hplace := (hstep.place_eq hread).2
  have hplaceAfter := (hstepAfter.place_eq hreadAfter).2
  have hpassed : passed (tokenize source) used.length (used ++ taken).length = taken := by
    rw [hread.tokenize_eq, htakes.unread_eq, List.append_assoc, passed_append]
  rw [← houtcome] at htakes
  constructor
  case place_le =>
    rw [hplace, hplaceAfter, List.length_append]
    exact Nat.le_add_right _ _
  case tree =>
    intro tree htree
    rw [htree] at htakes
    have hspells := htakes.spells
    have hsource : ∀ token ∈ taken, token ∈ (Parser.ofSource source).unread := by
      intro token hmem
      rw [hreadAfter.unread_eq]
      exact List.mem_append_left _ (List.mem_append_right _ hmem)
    rw [hplace, hplaceAfter, hpassed]
    refine ⟨?_, ?_, ?_⟩
    · rw [List.length_append]
      exact Nat.lt_add_of_pos_right hspells.length_pos
    · apply hspells.flatten_eq
      intro token hmem
      exact Cursor.text_of_paren _ token (hsource token hmem)
    · intro token hmem
      exact Parser.kind_ne_endOfInput source token (hsource token hmem)
  case refused =>
    rintro kind error rfl hraised
    exact perform_consume_of_raised hraised
  case recorded =>
    intro hnothing
    rw [hnothing] at htakes
    obtain ⟨error, hfault, herrors⟩ := htakes.recorded
    refine ⟨eq_parse_of_nothing hnothing, error, hfault, ?_⟩
    rw [hstepAfter.errors_eq, herrors, hstep.errors_eq]
  case unrecorded =>
    intro hother
    rw [hstepAfter.errors_eq, htakes.unrecorded hother, hstep.errors_eq]
  case shallow =>
    intro error hraised
    rw [hraised] at htakes
    exact htakes.shallow

/-- Wherever a parser in step is, it is in step again after any calls. -/
theorem InStep.afterCalls (hstep : stream.InStep parser) (hread : parser.HasRead source used)
    (hnests : StretchesNestWithin 100 (tokenize source)) (calls : List Call) :
    ∃ (last : Parser) (read : List Token),
      (stream.afterCalls limit calls).InStep last ∧ last.HasRead source read := by
  -- Induction on the calls; both parsers and the tokens read so far change with each.
  induction calls generalizing stream parser used with
  | nil => exact ⟨parser, used, hstep, hread⟩
  | cons call later ih =>
      obtain ⟨taken, htakes⟩ := parser.exists_takes (hread.nestsWithin hnests) call
      exact ih (hstep.perform call).2 (hread.takes htakes)

end Keeps

end StreamParser

/-- After any calls, whatever their outcomes, a parser has the token at hand that its scanner has
read last, and this token stands in the source text at the place of the parser; and every further
call keeps to the tokens of the text. -/
theorem calls_keep_step (limit : NestingLimit) (source : String)
    (hnests : StretchesNestWithin 100 (tokenize source)) (calls : List Call) (call : Call) :
    let parser := (StreamParser.ofSource source).afterCalls limit calls
    parser.current = parser.scanner.current ∧
      (tokenize source)[parser.place (tokenize source)]? = some parser.current ∧
      parser.Keeps (tokenize source) call (parser.perform limit call).1
        (parser.perform limit call).2 := by
  intro parser
  obtain ⟨last, read, hstep, hread⟩ := (StreamParser.inStep_ofSource source).afterCalls
    (Parser.hasRead_ofSource source) hnests calls
  obtain ⟨hcurrent, hplace⟩ := hstep.place_eq hread
  refine ⟨hstep.current_eq, ?_, hstep.keeps hread hnests call⟩
  rw [hplace]
  exact hcurrent

/-- Behind a complete expression the reading of this text comes to a halt. The error is recorded,
the token there is no operator, and it can be read as a term. -/
theorem calls_keep_step_resumed :
    let parser := (StreamParser.ofSource "a << (b) c").afterCalls .usual [.parse, .consume .plus]
    StretchesNestWithin 100 (tokenize "a << (b) c") ∧
      parser.errors.map SyntaxError.message =
        ["Error at line 1, column 10: Expected end of input, but found: c"] ∧
      (tokenize "a << (b) c")[parser.place (tokenize "a << (b) c")]? =
        some ⟨.identifier, "c", 1, 10⟩ ∧
      parser.Keeps (tokenize "a << (b) c") .term
        (.tree (.ident "c" (some ⟨.identifier, "c", 1, 10⟩) none))
        (parser.perform .usual .term).2 := by
  intro parser
  have hnests : StretchesNestWithin 100 (tokenize "a << (b) c") := by decide +kernel
  obtain ⟨-, hplace, hkeeps⟩ :=
    calls_keep_step .usual "a << (b) c" hnests [.parse, .consume .plus] .term
  have hcurrent : parser.current = ⟨.identifier, "c", 1, 10⟩ := by decide +kernel
  have houtcome : (parser.perform .usual .term).1 =
      .tree (.ident "c" (some ⟨.identifier, "c", 1, 10⟩) none) := by decide +kernel
  refine ⟨hnests, by decide +kernel, ?_, ?_⟩
  · rw [← hcurrent]
    exact hplace
  · rw [← houtcome]
    exact hkeeps

end GrammarWorkbench.Expression
