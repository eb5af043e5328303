import GrammarWorkbench.Typing.Analyzer

/-!
# The typing rules

In an environment that gives every name a type, each tree has one type, and its root is reported or
not. The rules for an operator look at its text and at the types of its operands only
(`OperatorRule`); a name has the type of the environment, and parentheses change nothing
(`HasType`). The rules determine the type and the report, which can be worked out by recursion
(`hasType_iff`).
-/

set_option autoImplicit false

namespace GrammarWorkbench.Typing

open GrammarWorkbench.Expression (Expr Token Binding)

/-! ## Operators -/

/-- The operator is `<<` or `>>`. -/
def IsShift (operator : String) : Prop :=
  operator = "<<" ∨ operator = ">>"

/-- The operator is `+` or `-`. -/
def IsAdditive (operator : String) : Prop :=
  operator = "+" ∨ operator = "-"

/-- The type is one of the two numeric types. -/
def IsNumeric (type : String) : Prop :=
  type = intType ∨ type = floatType

/-- Neither operand is in error or of unknown type. -/
def AreKnown (left right : String) : Prop :=
  (left ≠ errorType ∧ right ≠ errorType) ∧ left ≠ unknownType ∧ right ≠ unknownType

/-- The type of an operator between operands of given types, and what is reported of it. -/
inductive OperatorRule (operator left right : String) : String → Option TypeFault → Prop
  | passedOn (h : left = errorType ∨ right = errorType) :
      OperatorRule operator left right errorType none
  | unknown (herror : left ≠ errorType ∧ right ≠ errorType)
      (h : left = unknownType ∨ right = unknownType) :
      OperatorRule operator left right errorType (some (.unknownOperands left right))
  | shift (hoperator : IsShift operator) (hleft : left = intType) (hright : right = intType) :
      OperatorRule operator left right intType none
  | shiftMismatch (hoperator : IsShift operator) (hknown : AreKnown left right)
      (h : ¬ (left = intType ∧ right = intType)) :
      OperatorRule operator left right errorType (some (.integersExpected left right))
  | sum (hoperator : IsAdditive operator) (hleft : left = intType) (hright : right = intType) :
      OperatorRule operator left right intType none
  | widened (hoperator : IsAdditive operator) (hleft : IsNumeric left) (hright : IsNumeric right)
      (h : ¬ (left = intType ∧ right = intType)) :
      OperatorRule operator left right floatType none
  | sumMismatch (hoperator : IsAdditive operator) (hknown : AreKnown left right)
      (h : ¬ (IsNumeric left ∧ IsNumeric right)) :
      OperatorRule operator left right errorType (some (.numbersExpected left right))
  | unsupported (hshift : ¬ IsShift operator) (hadditive : ¬ IsAdditive operator)
      (hknown : AreKnown left right) :
      OperatorRule operator left right errorType (some .unsupportedOperator)

/-- The type and the fault that an analysis finds for an operator. -/
def verdict (operator left right : String) : String × Option TypeFault :=
  match operatorType operator left right with
  | .ok type => (type, none)
  | .error fault => (errorType, some fault)

theorem isShiftOperator_iff {operator : String} :
    isShiftOperator operator = true ↔ IsShift operator := by
  simp [isShiftOperator, IsShift]

theorem isAdditiveOperator_iff {operator : String} :
    isAdditiveOperator operator = true ↔ IsAdditive operator := by
  simp [isAdditiveOperator, IsAdditive]

theorem isNumericType_iff {type : String} : isNumericType type = true ↔ IsNumeric type := by
  simp [isNumericType, IsNumeric]

theorem IsAdditive.isShiftOperator_eq_false {operator : String} (h : IsAdditive operator) :
    isShiftOperator operator = false := by
  rcases h with rfl | rfl <;> rfl

/-- An operator between known operands is judged by its text. -/
theorem verdict_of_areKnown {operator left right : String} (h : AreKnown left right) :
    verdict operator left right =
      if isShiftOperator operator then
        if left = intType ∧ right = intType then (intType, none)
        else (errorType, some (.integersExpected left right))
      else if isAdditiveOperator operator then
        if isNumericType left ∧ isNumericType right then
          (if left = intType ∧ right = intType then intType else floatType, none)
        else (errorType, some (.numbersExpected left right))
      else (errorType, some .unsupportedOperator) := by
  obtain ⟨⟨hleft, hright⟩, hleft', hright'⟩ := h
  simp only [verdict, operatorType, hleft, hright, hleft', hright', decide_false, Bool.or_self,
    Bool.false_eq_true, if_false, Bool.and_eq_true, decide_eq_true_eq]
  repeat' split
  all_goals first | rfl | simp_all

/-- Numeric types are known. -/
theorem areKnown_of_isNumeric {left right : String} (hleft : IsNumeric left)
    (hright : IsNumeric right) : AreKnown left right := by
  unfold AreKnown
  rcases hleft with rfl | rfl <;> rcases hright with rfl | rfl <;> decide

/-- What a rule says is what the analysis finds. -/
theorem OperatorRule.verdict_eq {operator left right type : String} {fault : Option TypeFault}
    (h : OperatorRule operator left right type fault) :
    verdict operator left right = (type, fault) := by
  cases h with
  | passedOn h => simp [verdict, operatorType, h]
  | unknown herror h => simp [verdict, operatorType, herror, h]
  | shift hoperator hleft hright =>
      rw [verdict_of_areKnown (areKnown_of_isNumeric (.inl hleft) (.inl hright)),
        if_pos (isShiftOperator_iff.2 hoperator), if_pos ⟨hleft, hright⟩]
  | shiftMismatch hoperator hknown h =>
      rw [verdict_of_areKnown hknown, if_pos (isShiftOperator_iff.2 hoperator), if_neg h]
  | sum hoperator hleft hright =>
      rw [verdict_of_areKnown (areKnown_of_isNumeric (.inl hleft) (.inl hright)),
        hoperator.isShiftOperator_eq_false]
      simp [isAdditiveOperator_iff.2 hoperator, isNumericType_iff, IsNumeric, hleft, hright]
  | widened hoperator hleft hright h =>
      rw [verdict_of_areKnown (areKnown_of_isNumeric hleft hright),
        hoperator.isShiftOperator_eq_false]
      simp [isAdditiveOperator_iff.2 hoperator, isNumericType_iff, hleft, hright, h]
  | sumMismatch hoperator hknown h =>
      rw [verdict_of_areKnown hknown, hoperator.isShiftOperator_eq_false]
      simp [isAdditiveOperator_iff.2 hoperator, isNumericType_iff, h]
  | unsupported hshift hadditive hknown =>
      rw [← isShiftOperator_iff] at hshift
      rw [← isAdditiveOperator_iff] at hadditive
      rw [verdict_of_areKnown hknown, if_neg hshift, if_neg hadditive]

/-- For every operator and all types of its operands there is a rule. -/
theorem operatorRule_verdict (operator left right : String) :
    OperatorRule operator left right (verdict operator left right).1
      (verdict operator left right).2 := by
  by_cases herror : left = errorType ∨ right = errorType
  · rw [(OperatorRule.passedOn herror).verdict_eq]
    exact .passedOn herror
  rw [not_or] at herror
  by_cases hunknown : left = unknownType ∨ right = unknownType
  · rw [(OperatorRule.unknown herror hunknown).verdict_eq]
    exact .unknown herror hunknown
  have hknown : AreKnown left right := ⟨herror, not_or.1 hunknown⟩
  rw [verdict_of_areKnown hknown]
  split
  next hshift =>
    rw [isShiftOperator_iff] at hshift
    split
    next hints => exact .shift hshift hints.1 hints.2
    next hints => exact .shiftMismatch hshift hknown hints
  next hshift =>
    rw [isShiftOperator_iff] at hshift
    split
    next hadditive =>
      rw [isAdditiveOperator_iff] at hadditive
      split
      next hnumeric =>
        rw [isNumericType_iff, isNumericType_iff] at hnumeric
        split
        next hints => exact .sum hadditive hints.1 hints.2
        next hints => exact .widened hadditive hnumeric.1 hnumeric.2 hints
      next hnumeric =>
        rw [isNumericType_iff, isNumericType_iff] at hnumeric
        exact .sumMismatch hadditive hknown hnumeric
    next hadditive =>
      rw [isAdditiveOperator_iff] at hadditive
      exact .unsupported hshift hadditive hknown

/-! ## Trees -/

/-- A tree has a type in an environment, and its root is reported or not. -/
inductive HasType (env : String → String) : Expr → String → Option Diagnostic → Prop
  | ident {name : String} {token : Option Token} {binding : Option Binding} :
      HasType env (.ident name token binding) (env name) none
  | paren {inner : Expr} {noted : Option String} {type : String}
      {reported : Option Diagnostic} (hinner : HasType env inner type reported) :
      HasType env (.paren inner noted) type none
  | binary {left right : Expr} {operator : Token} {noted : Option String}
      {leftType rightType type : String} {leftReported rightReported : Option Diagnostic}
      {fault : Option TypeFault} (hleft : HasType env left leftType leftReported)
      (hright : HasType env right rightType rightReported)
      (hrule : OperatorRule operator.text leftType rightType type fault) :
      HasType env (.binary left operator right noted) type
        (fault.map fun fault => ⟨fault, operator⟩)

/-- The type of a tree, worked out from the operands up. -/
def typeOf (env : String → String) : Expr → String
  | .ident name _ _ => env name
  | .paren inner _ => typeOf env inner
  | .binary left operator right _ =>
    (verdict operator.text (typeOf env left) (typeOf env right)).1

/-- What is reported of the root of a tree. -/
def report (env : String → String) : Expr → Option Diagnostic
  | .binary left operator right _ =>
    (verdict operator.text (typeOf env left) (typeOf env right)).2.map
      fun fault => ⟨fault, operator⟩
  | _ => none

/-- The rules determine the type of a tree and what is reported of its root. -/
theorem hasType_iff {env : String → String} {tree : Expr} {type : String}
    {reported : Option Diagnostic} :
    HasType env tree type reported ↔ typeOf env tree = type ∧ report env tree = reported := by
  constructor
  · intro h
    induction h with
    | ident => exact ⟨rfl, rfl⟩
    | paren _ ih => exact ⟨ih.1, rfl⟩
    | binary _ _ hrule ihleft ihright =>
        rw [typeOf, report, ihleft.1, ihright.1, hrule.verdict_eq]
        exact ⟨rfl, rfl⟩
  · rintro ⟨rfl, rfl⟩
    induction tree with
    | ident => exact .ident
    | paren _ _ ih => exact .paren ih
    | binary _ _ _ _ ihleft ihright =>
        exact .binary ihleft ihright (operatorRule_verdict _ _ _)

end GrammarWorkbench.Typing
