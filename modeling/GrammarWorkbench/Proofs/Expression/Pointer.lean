import Mathlib.Logic.Function.Iterate
import GrammarWorkbench.Proofs.Expression.Places

/-!
# A scanner is a pointer into the tokens of its text

A session is a scanner in use: it is moved token by token, read through as a whole, and walked by
traversals that share its cursor. A pointer is a place in a fixed list of tokens, with a traversal
that shares this place. Whatever is done with a session in whatever order, it hands out the same
tokens as a pointer into the tokens of the source text, and the scanner is in the state that a fresh
one reaches by moving on to the place of the pointer (`session_is_pointer`).
-/

set_option autoImplicit false

namespace GrammarWorkbench.Expression

/-! ## Moving a scanner on -/

namespace Cursor

variable {cursor stop : Cursor} {token : Token} {later : List Token}

/-- Where tokens are left, the next one is the first of them, and the others are left then. -/
theorem next_of_scan_cons (h : cursor.scan = (token :: later, stop)) :
    ∃ after, cursor.next = (token, after) ∧ after.scan = (later, stop) := by
  cases hread : Lexeme.read? cursor.skipGap.rest with
  | none =>
      rw [scan_eq_of_none hread] at h
      cases h
  | some lexeme =>
      rw [scan_eq_of_some hread] at h
      cases h
      exact ⟨_, next_of_some hread, rfl⟩

/-- Where no tokens are left, the end token is read again and again. -/
theorem next_of_scan_nil (h : cursor.scan = ([], stop)) :
    cursor.next = (stop.endToken, stop) ∧ stop.next = (stop.endToken, stop) := by
  cases hread : Lexeme.read? cursor.skipGap.rest with
  | none =>
      have hnext := next_of_none hread
      have hend := Lexeme.read?_eq_none.1 hread
      rw [scan_eq_of_none hread] at h
      obtain rfl : cursor.skipGap = stop := (Prod.mk.inj h).2
      refine ⟨hnext, ?_⟩
      generalize cursor.skipGap = stop at hend ⊢
      obtain ⟨rest, offset, line, column⟩ := stop
      cases hend
      rfl
  | some lexeme =>
      rw [scan_eq_of_some hread] at h
      cases h

end Cursor

namespace Scanner

variable {scanner : Scanner} {stop : Cursor} {token : Token} {unread later : List Token}

/-- The token read last and the place reached are those of a cursor that is followed by some tokens
and the end of the text. -/
def Faces (scanner : Scanner) (unread : List Token) (stop : Cursor) : Prop :=
  ∃ cursor : Cursor, cursor.scan = (unread, stop) ∧
    cursor.next = (scanner.current, scanner.cursor)

theorem faces_readFrom (source : List Char) (cursor : Cursor) :
    (readFrom source cursor).Faces cursor.scan.1 cursor.scan.2 :=
  ⟨cursor, rfl, rfl⟩

/-- The token read last is the first of the tokens, or the end token. -/
theorem Faces.current_eq (h : scanner.Faces unread stop) :
    scanner.current = unread.headD stop.endToken := by
  obtain ⟨cursor, hscan, hnext⟩ := h
  cases unread with
  | nil =>
      rw [(Cursor.next_of_scan_nil hscan).1] at hnext
      exact (Prod.mk.inj hnext).1.symm
  | cons token later =>
      obtain ⟨after, hafter, -⟩ := Cursor.next_of_scan_cons hscan
      rw [hafter] at hnext
      exact (Prod.mk.inj hnext).1.symm

/-- Moving on leaves out the first token. -/
theorem Faces.next (h : scanner.Faces (token :: later) stop) : scanner.next.Faces later stop := by
  obtain ⟨cursor, hscan, hnext⟩ := h
  obtain ⟨after, hafter, hlater⟩ := Cursor.next_of_scan_cons hscan
  rw [hafter] at hnext
  obtain rfl := (Prod.mk.inj hnext).2
  exact ⟨scanner.cursor, hlater, rfl⟩

/-- At the end of the text the scanner does not move any more. -/
theorem Faces.eq_of_nil (h : scanner.Faces [] stop) :
    scanner = ⟨scanner.source, stop, stop.endToken⟩ ∧ scanner.next = scanner := by
  obtain ⟨cursor, hscan, hnext⟩ := h
  obtain ⟨hhere, hagain⟩ := Cursor.next_of_scan_nil hscan
  obtain ⟨source, place, current⟩ := scanner
  rw [hhere] at hnext
  obtain ⟨rfl, rfl⟩ := Prod.mk.inj hnext
  refine ⟨rfl, ?_⟩
  rw [Scanner.next, readFrom, hagain]

/-- The scanner that has read the token at a place of the tokens of a source text. -/
def atPlace (source : String) (place : Nat) : Scanner :=
  Scanner.next^[place] (ofSource source)

theorem next_atPlace (source : String) (place : Nat) :
    (atPlace source place).next = atPlace source (place + 1) :=
  (Function.iterate_succ_apply' Scanner.next place (ofSource source)).symm

theorem source_atPlace (source : String) (place : Nat) :
    (atPlace source place).source = source.toList := by
  induction place with
  | zero => rfl
  | succ place ih =>
      rw [← next_atPlace]
      exact ih

theorem placedIn_atPlace (source : String) (place : Nat) :
    (atPlace source place).cursor.PlacedIn source.toList := by
  induction place with
  | zero => exact (Cursor.placedIn_startOf source.toList).next
  | succ place ih =>
      rw [← next_atPlace]
      exact ih.next

theorem tokenize_eq_scan (source : String) :
    tokenize source =
      (startOf source.toList).scan.1 ++ [(startOf source.toList).scan.2.endToken] :=
  rfl

/-- The place of the end token. -/
def lastPlace (source : String) : Nat :=
  (startOf source.toList).scan.1.length

theorem length_tokenize (source : String) : (tokenize source).length = lastPlace source + 1 := by
  rw [tokenize_eq_scan, List.length_append, List.length_singleton, lastPlace]

theorem faces_atPlace {source : String} {place : Nat} (h : place ≤ lastPlace source) :
    (atPlace source place).Faces ((startOf source.toList).scan.1.drop place)
      (startOf source.toList).scan.2 := by
  induction place with
  | zero => exact faces_readFrom source.toList (startOf source.toList)
  | succ place ih =>
      have hfaces := ih (Nat.le_of_succ_le h)
      rw [List.drop_eq_getElem_cons h] at hfaces
      rw [← next_atPlace]
      exact hfaces.next

/-- A scanner at a place has read the token there. -/
theorem getElem?_tokenize {source : String} {place : Nat} (h : place ≤ lastPlace source) :
    (tokenize source)[place]? = some (atPlace source place).current := by
  rw [(faces_atPlace h).current_eq, tokenize_eq_scan]
  rcases Nat.lt_or_eq_of_le h with hlt | rfl
  · rw [lastPlace] at hlt
    rw [List.getElem?_append_left hlt, List.drop_eq_getElem_cons hlt, List.headD_cons,
      List.getElem?_eq_getElem hlt]
  · rw [lastPlace, List.drop_length, List.headD_nil, List.getElem?_concat_length]

/-- The end token stands at the last place only. -/
theorem kind_current_atPlace {source : String} {place : Nat} (h : place ≤ lastPlace source) :
    (atPlace source place).current.kind = .endOfInput ↔ place = lastPlace source := by
  rw [(faces_atPlace h).current_eq]
  rcases Nat.lt_or_eq_of_le h with hlt | rfl
  · rw [lastPlace] at hlt ⊢
    rw [List.drop_eq_getElem_cons hlt, List.headD_cons]
    have hkind := Cursor.kind_ne_endOfInput _ _ (List.getElem_mem hlt)
    exact iff_of_false hkind (Nat.ne_of_lt hlt)
  · rw [lastPlace, List.drop_length, List.headD_nil]
    exact iff_of_true rfl rfl

theorem faces_nil_atPlace (source : String) :
    (atPlace source (lastPlace source)).Faces [] (startOf source.toList).scan.2 := by
  have hfaces := faces_atPlace (Nat.le_refl (lastPlace source))
  rwa [lastPlace, List.drop_length] at hfaces

/-- A scanner at the end token does not move any more. -/
theorem next_atPlace_lastPlace (source : String) :
    (atPlace source (lastPlace source)).next = atPlace source (lastPlace source) :=
  (faces_nil_atPlace source).eq_of_nil.2

/-- Reading the whole text gives its tokens and leads to the end token, from every place. -/
theorem readAll_atPlace (source : String) (place : Nat) :
    (atPlace source place).readAll = (tokenize source, atPlace source (lastPlace source)) := by
  have hlast := (faces_nil_atPlace source).eq_of_nil.1
  rw [source_atPlace] at hlast
  rw [readAll, source_atPlace, hlast, tokenize_eq_scan]

theorem restart_atPlace (source : String) (place : Nat) :
    (atPlace source place).restart = atPlace source 0 := by
  rw [restart, source_atPlace]
  rfl

end Scanner

/-! ## Sessions -/

/-- What can be done with a scanner in use. -/
inductive Operation where
  | next
  | readAll
  | startTraversal
  | stepTraversal
  deriving DecidableEq

/-- A scanner in use, with the traversal that was started last. -/
structure Session where
  scanner : Scanner
  traversal : Option Traversal := none

namespace Session

/-- A session with a new scanner. -/
def ofSource (source : String) : Session :=
  { scanner := .ofSource source }

/-- The tokens that an operation hands out, and the session after it. -/
def perform (session : Session) : Operation → List Token × Session
  | .next =>
    ([session.scanner.next.current], { session with scanner := session.scanner.next })
  | .readAll => (session.scanner.readAll.1, { session with scanner := session.scanner.readAll.2 })
  | .startTraversal => ([], { session with traversal := some .fresh })
  | .stepTraversal =>
    match session.traversal with
    | none => ([], session)
    | some traversal =>
      let (token, traversal, scanner) := session.scanner.traverse traversal
      (token.toList, ⟨scanner, some traversal⟩)

end Session

/-! ## Pointers -/

/-- A place in a list of tokens, with the traversal that was started last. -/
structure Pointer where
  place : Nat := 0
  traversal : Option Traversal := none

namespace Pointer

/-- Whether there is an end token at a place. -/
def isEnd (tokens : List Token) (place : Nat) : Bool :=
  tokens[place]?.any fun token => token.kind = .endOfInput

/-- The place after a place; the end token is the last one. -/
def following (tokens : List Token) (place : Nat) : Nat :=
  if isEnd tokens place then place else place + 1

/-- A step of a traversal hands out the token at a place. The end token is the last one that it
hands out. -/
def handOut (tokens : List Token) (place : Nat) : List Token × Pointer :=
  (tokens[place]?.toList, ⟨place, some (if isEnd tokens place then .finished else .underWay)⟩)

/-- The tokens that an operation hands out, and the pointer after it. -/
def perform (tokens : List Token) (pointer : Pointer) : Operation → List Token × Pointer
  | .next =>
    let place := following tokens pointer.place
    (tokens[place]?.toList, { pointer with place })
  | .readAll => (tokens, { pointer with place := tokens.length - 1 })
  | .startTraversal => ([], { pointer with traversal := some .fresh })
  | .stepTraversal =>
    match pointer.traversal with
    | some .fresh => handOut tokens 0
    | some .underWay => handOut tokens (following tokens pointer.place)
    | some .finished => ([], pointer)
    | none => ([], pointer)

end Pointer

/-! ## Runs -/

section Run

variable {State Other : Type}

/-- What operations hand out one after the other, and the state after them. -/
def runOperations (perform : State → Operation → List Token × State) :
    State → List Operation → List (List Token) × State
  | state, [] => ([], state)
  | state, operation :: later =>
    let (handed, state) := perform state operation
    let (rest, state) := runOperations perform state later
    (handed :: rest, state)

/-- States whose operations hand out the same and keep them related hand out the same in every
run. -/
theorem runOperations_related {perform : State → Operation → List Token × State}
    {perform' : Other → Operation → List Token × Other} {Related : State → Other → Prop}
    (hstep : ∀ state other operation, Related state other →
      (perform state operation).1 = (perform' other operation).1 ∧
        Related (perform state operation).2 (perform' other operation).2)
    {state : State} {other : Other} (h : Related state other) (operations : List Operation) :
    (runOperations perform state operations).1 = (runOperations perform' other operations).1 ∧
      Related (runOperations perform state operations).2
        (runOperations perform' other operations).2 := by
  induction operations generalizing state other with
  | nil => exact ⟨rfl, h⟩
  | cons operation later ih =>
      obtain ⟨hhanded, hafter⟩ := hstep state other operation h
      obtain ⟨hrest, hlast⟩ := ih hafter
      refine ⟨?_, hlast⟩
      rw [runOperations, runOperations]
      simp only [hhanded, hrest]

end Run

/-! ## Sessions follow pointers -/

section Follows

variable {source : String} {place : Nat}

/-- Whether the token at a place is the end token can be seen from a scanner there. -/
theorem isEnd_tokenize (h : place ≤ Scanner.lastPlace source) :
    Pointer.isEnd (tokenize source) place =
      decide ((Scanner.atPlace source place).current.kind = .endOfInput) := by
  rw [Pointer.isEnd, Scanner.getElem?_tokenize h]
  rfl

/-- Moving a scanner on leads to the following place. -/
theorem next_atPlace_eq (h : place ≤ Scanner.lastPlace source) :
    (Scanner.atPlace source place).next =
        .atPlace source (Pointer.following (tokenize source) place) ∧
      Pointer.following (tokenize source) place ≤ Scanner.lastPlace source := by
  rw [Pointer.following, isEnd_tokenize h]
  simp only [decide_eq_true_eq, Scanner.kind_current_atPlace h]
  split
  next hlast =>
    subst hlast
    exact ⟨Scanner.next_atPlace_lastPlace source, h⟩
  next hlast => exact ⟨Scanner.next_atPlace source place, by omega⟩

/-- A session follows a pointer: its scanner is at the place of the pointer, and both have the same
traversal. -/
structure Session.Follows (source : String) (session : Session) (pointer : Pointer) : Prop where
  scanner_eq : session.scanner = .atPlace source pointer.place
  place_le : pointer.place ≤ Scanner.lastPlace source
  traversal_eq : session.traversal = pointer.traversal

/-- Handing out the token at a place keeps a session with its scanner there behind the pointer. -/
theorem Session.follows_handOut (h : place ≤ Scanner.lastPlace source) :
    let stepped := (Scanner.atPlace source place).stepped
    stepped.1.toList = (Pointer.handOut (tokenize source) place).1 ∧
      Session.Follows source ⟨stepped.2.2, some stepped.2.1⟩
        (Pointer.handOut (tokenize source) place).2 := by
  refine ⟨?_, rfl, h, ?_⟩
  · rw [Pointer.handOut, Scanner.getElem?_tokenize h]
    rfl
  · simp only [Pointer.handOut, isEnd_tokenize h, Scanner.stepped, decide_eq_true_eq]

/-- An operation hands out the same tokens from a session and from the pointer it follows, and the
session follows the pointer after it. -/
theorem Session.Follows.perform {session : Session} {pointer : Pointer}
    (h : session.Follows source pointer) (operation : Operation) :
    (session.perform operation).1 = (pointer.perform (tokenize source) operation).1 ∧
      (session.perform operation).2.Follows source
        (pointer.perform (tokenize source) operation).2 := by
  obtain ⟨scanner, traversal⟩ := session
  obtain ⟨place, traversal'⟩ := pointer
  obtain ⟨hscanner, hplace, htraversal⟩ := h
  dsimp only at hscanner hplace htraversal
  subst hscanner htraversal
  obtain ⟨hnext, hfollowing⟩ := next_atPlace_eq hplace
  cases operation with
  | next =>
      simp only [Session.perform, Pointer.perform, hnext, Scanner.getElem?_tokenize hfollowing]
      exact ⟨rfl, rfl, hfollowing, rfl⟩
  | readAll =>
      simp only [Session.perform, Pointer.perform, Scanner.readAll_atPlace,
        Scanner.length_tokenize, Nat.add_sub_cancel]
      exact ⟨trivial, rfl, Nat.le_refl _, rfl⟩
  | startTraversal => exact ⟨rfl, rfl, hplace, rfl⟩
  | stepTraversal =>
      cases traversal with
      | none => exact ⟨rfl, rfl, hplace, rfl⟩
      | some traversal =>
          cases traversal with
          | fresh =>
              have hfirst := Session.follows_handOut (Nat.zero_le (Scanner.lastPlace source))
              rw [← Scanner.restart_atPlace source place] at hfirst
              exact hfirst
          | underWay =>
              have hlater := Session.follows_handOut hfollowing
              rw [← hnext] at hlater
              exact hlater
          | finished => exact ⟨rfl, rfl, hplace, rfl⟩

end Follows

/-- Whatever is done with a session, it hands out the tokens that a pointer into the tokens of the
source text hands out; the scanner has then read the token at the place of the pointer and is in
the state that a new scanner reaches there, and its line and column are those after the characters
before its offset. -/
theorem session_is_pointer (source : String) (operations : List Operation) :
    ∃ handed session pointer,
      runOperations Session.perform (.ofSource source) operations = (handed, session) ∧
      runOperations (Pointer.perform (tokenize source)) {} operations = (handed, pointer) ∧
      session.traversal = pointer.traversal ∧
      session.scanner = Scanner.next^[pointer.place] (.ofSource source) ∧
      (tokenize source)[pointer.place]? = some session.scanner.current ∧
      session.scanner.cursor.offset ≤ source.toList.length ∧
      session.scanner.cursor.line =
        lineAfter (source.toList.take session.scanner.cursor.offset) ∧
      session.scanner.cursor.column =
        columnAfter (source.toList.take session.scanner.cursor.offset) := by
  have hstart : (Session.ofSource source).Follows source {} := ⟨rfl, Nat.zero_le _, rfl⟩
  have hstep : ∀ (session : Session) (pointer : Pointer) (operation : Operation),
      session.Follows source pointer →
        (session.perform operation).1 = (pointer.perform (tokenize source) operation).1 ∧
          (session.perform operation).2.Follows source
            (pointer.perform (tokenize source) operation).2 :=
    fun _ _ operation h => h.perform operation
  obtain ⟨hhanded, hscanner, hplace, htraversal⟩ := runOperations_related hstep hstart operations
  refine ⟨_, _, _, rfl, Prod.ext hhanded.symm rfl, htraversal, hscanner, ?_, ?_⟩
  · rw [hscanner]
    exact Scanner.getElem?_tokenize hplace
  · rw [hscanner]
    obtain ⟨hoffset, -, hline, hcolumn⟩ :=
      (Scanner.placedIn_atPlace source _).line_and_column
    exact ⟨hoffset, hline, hcolumn⟩

end GrammarWorkbench.Expression
