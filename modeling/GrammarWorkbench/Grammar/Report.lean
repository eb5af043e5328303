import GrammarWorkbench.Grammar.ShiftExpression
import GrammarWorkbench.Grammar.Solution

/-!
# Reports on grammars

A report shows the productions of a grammar and its FIRST and FOLLOW sets as texts, each set under
a label such as `FIRST(E)`, and compares them with expected ones if there are any.
-/

set_option autoImplicit false

namespace GrammarWorkbench.Grammar

/-- Why there is no report. In which order names are compared is not settled; the names in a clash
are the first neighbours in the order of the declarations. -/
inductive ReportError where
  | noFollowSet (symbol : Symbol)
  | unwritableName (name : Name)
  | incomparableNames (clash : Name.Clash)
  | unjoinedName (name : Name)
  deriving DecidableEq

/-- The text of an error. Of sorted names that are to be joined, the first one is not a text if any
of them is not. -/
def ReportError.message : ReportError → String
  | noFollowSet symbol => symbol.display
  | unwritableName name => "__str__ returned non-string (type " ++ name.kindName ++ ")"
  | incomparableNames clash => clash.message
  | unjoinedName name =>
    "sequence item 0: expected str instance, " ++ name.kindName ++ " found"

/-- A name as an item of a set. -/
def itemText (name : Name) : Except ReportError String :=
  match name with
  | .text value => .ok value
  | _ => .error (.unjoinedName name)

/-- A set as text, its members in order. -/
def membersText (set : List Symbol) : Except ReportError String := do
  let sorted ← (Name.sort (set.map Symbol.name)).mapError .incomparableNames
  match ← sorted.mapM itemText with
  | [] => .ok "\x7b \x7d"
  | texts => .ok ("\x7b " ++ String.intercalate ", " texts ++ " \x7d")

/-- The label of the set of a non-terminal. -/
def setLabel (kind : String) (symbol : Symbol) : String :=
  kind ++ "(" ++ symbol.name.mention ++ ")"

/-- The sets of a map as texts under their labels, in the order of the names. -/
def SetMap.labelled (sets : SetMap) (kind : String) :
    Except ReportError (List (String × String)) := do
  let sorted ← sets.sorted.mapError .incomparableNames
  List.mapM (fun entry => do
    let text ← membersText entry.2
    .ok (setLabel kind entry.1, text)) sorted

/-- The productions and the sets of a grammar as texts, with the expected sets. -/
structure Report where
  productions : List String
  firstSets : List (String × String)
  followSets : List (String × String)
  expectedFirst : List (String × String)
  expectedFollow : List (String × String)

namespace Report

/-- Whether sets agree with all expected ones. -/
def agrees (sets expected : List (String × String)) : Bool :=
  expected.all fun entry => sets.lookup entry.1 = some entry.2

/-- Whether the sets are the expected ones; there is no answer if nothing is expected. -/
def matchesExpected (report : Report) : Option Bool :=
  if report.expectedFirst.isEmpty && report.expectedFollow.isEmpty then none
  else
    some (agrees report.firstSets report.expectedFirst &&
      agrees report.followSets report.expectedFollow)

/-- The report on a solved grammar. -/
def ofSolution (solution : Solution) (expectedFirst expectedFollow : List (String × String)) :
    Except ReportError Report := do
  let productions ← solution.grammar.productionTexts.mapError .unwritableName
  let firstSets ← solution.displayedFirst.labelled "FIRST"
  let followSets ← solution.follow.labelled "FOLLOW"
  .ok { productions, firstSets, followSets, expectedFirst, expectedFollow }

/-- The report on a grammar, and the solution behind it. -/
def ofGrammar (grammar : Grammar) (expectedFirst expectedFollow : List (String × String)) :
    Except ReportError (Report × Solution) :=
  match solve grammar false with
  | .error symbol => .error (.noFollowSet symbol)
  | .ok solution =>
    match ofSolution solution expectedFirst expectedFollow with
    | .error error => .error error
    | .ok report => .ok (report, solution)

end Report

namespace ShiftExpression

/-- The FIRST sets known for shift expressions. -/
def knownFirst : List (String × String) :=
  [("FIRST(F)", "\x7b (, id \x7d"),
    ("FIRST(T)", "\x7b (, id \x7d"),
    ("FIRST(E)", "\x7b (, id \x7d")]

/-- The FOLLOW sets known for shift expressions. -/
def knownFollow : List (String × String) :=
  [("FOLLOW(E)", "\x7b $, ), <<, >> \x7d"),
    ("FOLLOW(T)", "\x7b $, ), +, -, <<, >> \x7d"),
    ("FOLLOW(F)", "\x7b $, ), +, -, <<, >> \x7d")]

/-- The report on the grammar of shift expressions, compared with the known sets. -/
def report : Except ReportError (Report × Solution) :=
  Report.ofGrammar shiftExpression knownFirst knownFollow

end ShiftExpression

end GrammarWorkbench.Grammar
