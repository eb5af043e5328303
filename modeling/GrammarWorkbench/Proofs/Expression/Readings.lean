import GrammarWorkbench.Expression.StreamParser
import GrammarWorkbench.Proofs.Expression.Phrases
import GrammarWorkbench.Proofs.Expression.Pointer

/-!
# Stream parsers read what parsers over lists read

A stream parser is in step with a parser over a list of tokens if its scanner faces the tokens that
are unread in the list, and both have the same token at hand and the same errors (`InStep`). A
reading follows a phrase if it ends with the result of the phrase and keeps the two in step, whether
the phrase fits or not (`Follows`). Chains of operators and the layers of the grammar follow their
phrases, so that a stream parser reads what the parser reads that it is in step with.
-/

set_option autoImplicit false

namespace GrammarWorkbench.Expression

/-- There are no more tokens than characters. -/
theorem Cursor.length_scan_le (cursor : Cursor) : cursor.scan.1.length ≤ cursor.rest.length := by
  induction cursor using scan.induct with
  | case1 cursor hread =>
      rw [scan_of_none hread]
      exact Nat.zero_le _
  | case2 cursor lexeme hread hfewer _ _ _ ih =>
      rw [scan_of_some hread, List.length_cons]
      exact Nat.lt_of_le_of_lt ih hfewer

namespace Parser

variable {parser : Parser} {phrase phrase' : Phrase} {tokens rest : List Token} {tree : Expr}
  {failure : Failure}

theorem unread_moveTo : (parser.moveTo tokens).unread = tokens :=
  rfl

theorem read_of_ok (h : phrase parser.unread = .ok (tree, rest)) :
    parser.read phrase = (.ok tree, parser.moveTo rest) := by
  rw [read, h]

theorem read_of_error (h : phrase parser.unread = .error failure) :
    parser.read phrase = (.error (parser.errorOf failure), parser.moveTo failure.unread) := by
  rw [read, h]

/-- A phrase that goes on as another one does from some tokens is read as that one from there. -/
theorem read_moveTo (h : phrase parser.unread = phrase' tokens) :
    (parser.moveTo tokens).read phrase' = parser.read phrase := by
  rw [read, read, h]
  rfl

end Parser

namespace StreamParser

/-! ## In step -/

/-- A stream parser is in step with a parser over a list of tokens. -/
structure InStep (stream : StreamParser) (parser : Parser) : Prop where
  current_eq : stream.current = stream.scanner.current
  faces : ∃ stop : Cursor, parser.stop = stop.endToken ∧ stream.scanner.Faces parser.unread stop
  errors_eq : stream.errors = parser.errors

theorem inStep_ofSource (source : String) : (ofSource source).InStep (Parser.ofSource source) :=
  ⟨rfl, ⟨_, rfl, Scanner.faces_readFrom source.toList (Scanner.startOf source.toList)⟩, rfl⟩

namespace InStep

variable {stream : StreamParser} {parser : Parser}

/-- Both have the same token at hand. -/
theorem current (h : stream.InStep parser) : stream.current = parser.current := by
  obtain ⟨stop, hstop, hfaces⟩ := h.faces
  rw [h.current_eq, hfaces.current_eq, Parser.current, hstop]

theorem current_of_cons {token : Token} {later : List Token} (h : stream.InStep parser)
    (hunread : parser.unread = token :: later) : stream.current = token := by
  rw [h.current, Parser.current, hunread, List.headD_cons]

/-- At the end of the input the end token is at hand. -/
theorem kind_of_nil (h : stream.InStep parser) (hunread : parser.unread = []) :
    stream.current.kind = .endOfInput := by
  obtain ⟨stop, hstop, -⟩ := h.faces
  rw [h.current, Parser.current, hunread, List.headD_nil, hstop]
  rfl

/-- No unread token is an end token. -/
theorem kind_ne_endOfInput (h : stream.InStep parser) :
    ∀ token ∈ parser.unread, token.kind ≠ .endOfInput := by
  obtain ⟨stop, -, cursor, hscan, -⟩ := h.faces
  have hunread : parser.unread = cursor.scan.1 := by rw [hscan]
  rw [hunread]
  exact cursor.kind_ne_endOfInput

/-- Moving on leaves out the token at hand, unless that is the end token. -/
theorem advance (h : stream.InStep parser) :
    stream.advance.InStep (parser.moveTo parser.unread.tail) := by
  obtain ⟨stop, hstop, hfaces⟩ := h.faces
  refine ⟨rfl, ⟨stop, hstop, ?_⟩, h.errors_eq⟩
  change stream.scanner.next.Faces parser.unread.tail stop
  cases hunread : parser.unread with
  | nil =>
      rw [hunread] at hfaces
      rw [hfaces.eq_of_nil.2]
      exact hfaces
  | cons token later =>
      rw [hunread] at hfaces
      exact hfaces.next

/-- There is at most one token at hand and one for every character that is still to be scanned. -/
theorem length_unread_le (h : stream.InStep parser) :
    parser.unread.length ≤ stream.scanner.cursor.rest.length + 1 := by
  obtain ⟨stop, -, cursor, hscan, hnext⟩ := h.faces
  cases hunread : parser.unread with
  | nil => exact Nat.zero_le _
  | cons token later =>
      rw [hunread] at hscan
      obtain ⟨after, hafter, hlater⟩ := Cursor.next_of_scan_cons hscan
      rw [hafter] at hnext
      obtain ⟨-, rfl⟩ := Prod.mk.inj hnext
      have hlength := Cursor.length_scan_le stream.scanner.cursor
      rw [hlater] at hlength
      exact Nat.succ_le_succ hlength

end InStep

/-! ## Readings -/

section Readings

variable {α β : Type} {reading : Reading α} {next : α → Reading β} {stream : StreamParser}
  {parser : Parser} {value : α} {outcome : Except SyntaxError β × Parser} {error : SyntaxError}

/-- A reading has an outcome: it ends with the result of the outcome, in step with its parser. -/
def Ends (reading : Reading α) (stream : StreamParser) (outcome : Except SyntaxError α × Parser) :
    Prop :=
  ∃ moved : StreamParser, reading.run.run stream = (outcome.1, moved) ∧ moved.InStep outcome.2

/-- One reading after another: the second one starts where the first one has ended, and an error of
the first one is the end. -/
theorem run_bind (reading : Reading α) (next : α → Reading β) (stream : StreamParser) :
    (reading >>= next).run.run stream =
      match reading.run.run stream with
      | (.ok value, moved) => (next value).run.run moved
      | (.error error, moved) => (.error error, moved) := by
  rcases hreading : reading.run.run stream with ⟨_ | value, moved⟩ <;>
    simp only [ExceptT.run_bind, StateT.run_bind, hreading] <;> rfl

/-- Looking at the parser changes nothing. -/
theorem run_get (next : StreamParser → Reading β) (stream : StreamParser) :
    (get >>= next).run.run stream = (next stream).run.run stream :=
  rfl

theorem Ends.pure (h : stream.InStep parser) (value : α) :
    Ends (pure value) stream (.ok value, parser) :=
  ⟨stream, rfl, h⟩

theorem Ends.throw (h : stream.InStep parser) (error : SyntaxError) :
    Ends (throw error : Reading α) stream (.error error, parser) :=
  ⟨stream, rfl, h⟩

theorem Ends.get {next : StreamParser → Reading β} (h : Ends (next stream) stream outcome) :
    Ends (get >>= next) stream outcome := by
  rw [Ends, run_get]
  exact h

theorem Ends.bind_ok (h : Ends reading stream (.ok value, parser))
    (hnext : ∀ moved : StreamParser, moved.InStep parser → Ends (next value) moved outcome) :
    Ends (reading >>= next) stream outcome := by
  obtain ⟨moved, hfirst, hmoved⟩ := h
  obtain ⟨last, hlast, hparser⟩ := hnext moved hmoved
  refine ⟨last, ?_, hparser⟩
  rw [run_bind, hfirst]
  exact hlast

theorem Ends.bind_error (h : Ends reading stream (.error error, parser)) :
    Ends (reading >>= next) stream (.error error, parser) := by
  obtain ⟨moved, hfirst, hparser⟩ := h
  refine ⟨moved, ?_, hparser⟩
  rw [run_bind, hfirst]

end Readings

/-! ## Taking tokens -/

section Taking

variable {stream : StreamParser} {parser : Parser}

/-- A token of the kind is taken, and otherwise nothing is changed. -/
theorem run_consume (kind : TokenKind) (stream : StreamParser) :
    (consume kind).run.run stream =
      if stream.current.kind = kind then (.ok stream.current, stream.advance)
      else (.error ⟨.kindExpected kind, stream.current⟩, stream) := by
  rw [consume, run_get]
  split
  next => rfl
  next => rfl

theorem ends_consume (h : stream.InStep parser) (kind : TokenKind) :
    Ends (consume kind) stream (parser.consume kind) := by
  rw [Ends, run_consume, h.current, Parser.consume]
  split
  next => exact ⟨stream.advance, rfl, h.advance⟩
  next => exact ⟨stream, rfl, h⟩

/-- Taking the first unread token. -/
theorem InStep.take {token : Token} {later : List Token} {kind : TokenKind}
    (h : stream.InStep parser) (hunread : parser.unread = token :: later)
    (hkind : token.kind = kind) :
    Ends (consume kind) stream (.ok token, parser.moveTo later) := by
  have hcurrent : parser.current = token := by rw [Parser.current, hunread, List.headD_cons]
  have htake := ends_consume h kind
  rw [Parser.consume, hcurrent, if_pos hkind, hunread, List.tail_cons] at htake
  exact htake

end Taking

/-! ## Phrases -/

/-- A reading follows a phrase: it ends as the phrase does, in step with the parser that has read
the phrase. -/
def Follows (reading : Reading Expr) (phrase : Phrase) : Prop :=
  ∀ (stream : StreamParser) (parser : Parser), stream.InStep parser →
    Ends reading stream (parser.read phrase)

/-- Ending without taking a token, as a phrase does. -/
theorem InStep.stay {stream : StreamParser} {parser : Parser} {phrase : Phrase} {tree : Expr}
    (h : stream.InStep parser) (hread : phrase parser.unread = .ok (tree, parser.unread)) :
    Ends (pure tree) stream (parser.read phrase) := by
  rw [Parser.read_of_ok hread]
  exact Ends.pure h tree

/-- Refusing the token at hand, as a phrase does. -/
theorem InStep.refuse {stream : StreamParser} {parser : Parser} {phrase : Phrase} {fault : Fault}
    (h : stream.InStep parser) (hread : phrase parser.unread = .error ⟨fault, parser.unread⟩) :
    Ends (throw ⟨fault, stream.current⟩) stream (parser.read phrase) := by
  rw [Parser.read_of_error hread, h.current]
  exact Ends.throw h _

/-- What comes after a reading that follows a phrase: nothing if the phrase fails, and otherwise
something that starts behind the phrase. -/
theorem Follows.bind {α : Type} {reading : Reading Expr} {phrase : Phrase}
    {next : Expr → Reading α} {stream : StreamParser} {parser : Parser}
    {outcome : Except SyntaxError α × Parser} (hfollows : Follows reading phrase)
    (h : stream.InStep parser)
    (hfails : ∀ failure, phrase parser.unread = .error failure →
      outcome = (.error (parser.errorOf failure), parser.moveTo failure.unread))
    (hfits : ∀ tree rest, phrase parser.unread = .ok (tree, rest) →
      ∀ moved : StreamParser, moved.InStep (parser.moveTo rest) → Ends (next tree) moved outcome) :
    Ends (reading >>= next) stream outcome := by
  have hreading := hfollows stream parser h
  cases hphrase : phrase parser.unread with
  | error failure =>
      rw [Parser.read_of_error hphrase] at hreading
      rw [hfails failure hphrase]
      exact hreading.bind_error
  | ok taken =>
      obtain ⟨tree, rest⟩ := taken
      rw [Parser.read_of_ok hphrase] at hreading
      exact hreading.bind_ok (hfits tree rest hphrase)

section Chain

variable {layer allowance : Nat} {isOperator : TokenKind → Bool} {operand : Reading Expr}
  {phrase : Phrase}

theorem Follows.foldOperators (hfollows : Follows operand phrase)
    (hend : isOperator .endOfInput = false) (rounds : Nat) (left : Expr) :
    Follows (foldOperators isOperator operand rounds left)
      (Expression.foldOperators isOperator phrase rounds left) := by
  -- Induction on the rounds; the tree so far changes with each round.
  induction rounds generalizing left with
  | zero =>
      intro stream parser h
      exact Ends.pure h left
  | succ rounds ih =>
      intro stream parser h
      rw [StreamParser.foldOperators]
      apply Ends.get
      cases hunread : parser.unread with
      | nil =>
          have hnone : ¬ isOperator stream.current.kind = true := by
            rw [h.kind_of_nil hunread, hend]
            exact Bool.false_ne_true
          rw [if_neg hnone]
          apply h.stay
          rw [hunread]
          rfl
      | cons token later =>
          rw [h.current_of_cons hunread]
          by_cases hkind : isOperator token.kind = true
          · rw [if_pos hkind]
            apply (h.take hunread rfl).bind_ok
            intro moved hmoved
            apply hfollows.bind hmoved
            · intro failure hphrase
              apply Parser.read_of_error
              rw [Parser.unread_moveTo] at hphrase
              rw [hunread, Expression.foldOperators, if_pos hkind, hphrase]
            · intro right rest hphrase moved' hmoved'
              have hread : Expression.foldOperators isOperator phrase (rounds + 1) left
                  parser.unread = Expression.foldOperators isOperator phrase rounds
                    (.binary left token right none) rest := by
                rw [Parser.unread_moveTo] at hphrase
                rw [hunread, Expression.foldOperators, if_pos hkind, hphrase]
              rw [← Parser.read_moveTo hread]
              exact ih _ moved' _ hmoved'
          · rw [if_neg hkind]
            apply h.stay
            rw [hunread, Expression.foldOperators, if_neg hkind]

theorem Follows.chain (hfollows : Follows operand phrase) (hreads : Reads layer allowance phrase)
    (hend : isOperator .endOfInput = false) :
    Follows (chain isOperator operand) (Expression.chain isOperator phrase) := by
  intro stream parser h
  apply hfollows.bind h
  · intro failure hphrase
    apply Parser.read_of_error
    rw [Expression.chain, hphrase]
  · intro left rest hphrase moved hmoved
    have hread : Expression.chain isOperator phrase parser.unread =
        Expression.foldOperators isOperator phrase rest.length left rest := by
      rw [Expression.chain, hphrase]
    -- The stream parser has a round for every character left, the phrase one for every token.
    have hlength : rest.length ≤ moved.scanner.cursor.rest.length + 1 := hmoved.length_unread_le
    rw [foldOperators_rounds hreads (Nat.le_refl rest.length) hlength] at hread
    rw [← Parser.read_moveTo hread]
    apply Ends.get
    exact hfollows.foldOperators hend _ left moved _ hmoved

end Chain

/-! ## The layers of the grammar -/

section Layers

variable {allowance : Nat}

theorem follows_term (h : Follows (factor allowance) (Expression.factor allowance)) :
    Follows (termOf (factor allowance)) (term allowance) :=
  h.chain (reads_factor allowance) rfl

theorem follows_expression (h : Follows (factor allowance) (Expression.factor allowance)) :
    Follows (expressionOf (factor allowance)) (expression allowance) :=
  (follows_term h).chain (reads_term (reads_factor allowance)) rfl

theorem follows_closeParen (inner : Expr) :
    Follows (closeParen inner) (Expression.closeParen inner) := by
  intro stream parser h
  rw [closeParen]
  apply Ends.get
  cases hunread : parser.unread with
  | nil =>
      have hkind : ¬ stream.current.kind = .closeParen := by
        rw [h.kind_of_nil hunread]
        exact nofun
      rw [if_neg hkind]
      apply h.refuse
      rw [hunread, Expression.closeParen]
  | cons token later =>
      by_cases hkind : token.kind = .closeParen
      · have hread : Expression.closeParen inner parser.unread =
            .ok (.paren inner none, later) := by
          rw [hunread, Expression.closeParen, if_pos hkind]
        rw [Parser.read_of_ok hread, h.current_of_cons hunread, if_pos hkind]
        apply (h.take hunread hkind).bind_ok
        intro moved hmoved
        exact Ends.pure hmoved _
      · have hcurrent : ¬ stream.current.kind = .closeParen := by
          rwa [h.current_of_cons hunread]
        rw [if_neg hcurrent]
        apply h.refuse
        rw [hunread, Expression.closeParen, if_neg hkind]

/-- A factor, over a reading for the expression between parentheses, if there may be one. -/
theorem follows_operandOf {inner? : Option (Reading Expr)}
    (hnone : inner? = none → allowance = 0)
    (hsome : ∀ reading, inner? = some reading →
      ∃ below, allowance = below + 1 ∧ Follows reading (expression below)) :
    Follows (operandOf inner?) (Expression.factor allowance) := by
  intro stream parser h
  rw [operandOf]
  apply Ends.get
  -- Both decide by the kind of the token at hand, which is the end token where none is unread.
  cases hunread : parser.unread with
  | nil =>
      have hkind := h.kind_of_nil hunread
      simp only [hkind]
      apply h.refuse
      rw [hunread, Expression.factor.eq_def]
  | cons token later =>
      have hcurrent := h.current_of_cons hunread
      have hkind : stream.current.kind = token.kind := by rw [hcurrent]
      cases htoken : token.kind with
      | identifier =>
          simp only [hkind, htoken]
          have hread : Expression.factor allowance parser.unread =
              .ok (.ident token.text (some token) none, later) := by
            rw [hunread, Expression.factor.eq_def]
            simp only [htoken]
          rw [Parser.read_of_ok hread]
          apply (h.take hunread htoken).bind_ok
          intro moved hmoved
          exact Ends.pure hmoved _
      | openParen =>
          simp only [hkind, htoken]
          cases hinner : inner? with
          | none =>
              apply h.refuse
              rw [hunread, Expression.factor.eq_def]
              obtain rfl := hnone hinner
              simp only [htoken]
          | some reading =>
              obtain ⟨below, rfl, hreading⟩ := hsome reading hinner
              apply (h.take hunread htoken).bind_ok
              intro moved hmoved
              apply hreading.bind hmoved
              · intro failure hphrase
                apply Parser.read_of_error
                rw [Parser.unread_moveTo, expression] at hphrase
                rw [hunread, Expression.factor.eq_def]
                simp only [htoken, hphrase]
              · intro inner rest hphrase moved' hmoved'
                have hread : Expression.factor (below + 1) parser.unread =
                    Expression.closeParen inner rest := by
                  rw [Parser.unread_moveTo, expression] at hphrase
                  rw [hunread, Expression.factor.eq_def]
                  simp only [htoken, hphrase]
                rw [← Parser.read_moveTo hread]
                exact follows_closeParen inner moved' _ hmoved'
      | _ =>
          simp only [hkind, htoken]
          apply h.refuse
          rw [hunread, Expression.factor.eq_def]
          simp only [htoken]

theorem follows_factor (allowance : Nat) :
    Follows (factor allowance) (Expression.factor allowance) := by
  induction allowance with
  | zero => exact follows_operandOf (fun _ => rfl) nofun
  | succ allowance ih =>
      apply follows_operandOf
      · exact nofun
      · intro reading hreading
        cases hreading
        exact ⟨allowance, rfl, follows_expression ih⟩

/-- A sentence as a phrase, with nothing left behind it. -/
def sentencePhrase (limit : NestingLimit) : Phrase := fun tokens =>
  (sentence limit.count tokens).map fun tree => (tree, [])

theorem follows_readSentence (limit : NestingLimit) :
    Follows (readSentence limit) (sentencePhrase limit) := by
  intro stream parser h
  apply (follows_expression (follows_factor limit.count)).bind h
  · intro failure hphrase
    apply Parser.read_of_error
    rw [sentencePhrase, sentence, hphrase]
    rfl
  · intro tree rest hphrase moved hmoved
    apply Ends.get
    cases rest with
    | nil =>
        have hread : sentencePhrase limit parser.unread = .ok (tree, []) := by
          rw [sentencePhrase, sentence, hphrase]
          rfl
        rw [if_pos (hmoved.kind_of_nil rfl), Parser.read_of_ok hread]
        exact Ends.pure hmoved tree
    | cons token later =>
        have hread :
            sentencePhrase limit parser.unread = .error ⟨.endExpected, token :: later⟩ := by
          rw [sentencePhrase, sentence, hphrase]
          rfl
        have hkind : ¬ moved.current.kind = .endOfInput := by
          rw [hmoved.current_of_cons rfl]
          exact hmoved.kind_ne_endOfInput token List.mem_cons_self
        rw [if_neg hkind, Parser.read_of_error hread, hmoved.current]
        exact Ends.throw hmoved _

/-- A sentence is read as it is from a list, and the errors are the same. -/
theorem InStep.parse {stream : StreamParser} {parser : Parser} (h : stream.InStep parser)
    (limit : NestingLimit) :
    (stream.parse limit).1 = (parser.parse limit).1 ∧
      (stream.parse limit).2.InStep (parser.parse limit).2 := by
  obtain ⟨moved, hrun, hmoved⟩ := follows_readSentence limit stream parser h
  cases hsentence : sentence limit.count parser.unread with
  | error failure =>
      have hread : sentencePhrase limit parser.unread = .error failure := by
        rw [sentencePhrase, hsentence]
        rfl
      rw [Parser.read_of_error hread] at hrun hmoved
      rw [StreamParser.parse, hrun, Parser.parse, hsentence]
      refine ⟨rfl, hmoved.current_eq, hmoved.faces, ?_⟩
      exact congrArg (fun errors => errors ++ [parser.errorOf failure]) hmoved.errors_eq
  | ok tree =>
      have hread : sentencePhrase limit parser.unread = .ok (tree, []) := by
        rw [sentencePhrase, hsentence]
        rfl
      rw [Parser.read_of_ok hread] at hrun hmoved
      rw [StreamParser.parse, hrun, Parser.parse, hsentence]
      exact ⟨rfl, hmoved⟩

end Layers

end StreamParser

end GrammarWorkbench.Expression
