import GrammarWorkbench.Typing.Analyzer

/-!
# Drafts of trees

A tree put together by hand may have blanks: places where a subtree is still missing. There is no
typing rule for a blank and no text for it either, so only a complete draft can be analyzed or
shown.
-/

set_option autoImplicit false

namespace GrammarWorkbench.Typing

open GrammarWorkbench.Expression (Expr Token)

/-- A tree that may have blanks. -/
inductive Draft where
  | ident (name : String) (token : Option Token)
  | binary (left : Draft) (operator : Token) (right : Draft)
  | paren (inner : Draft)
  | blank

namespace Draft

/-- The tree of a draft without blanks. -/
def complete? : Draft → Option Expr
  | ident name token => some (.ident name token none)
  | binary left operator right => do
    let left ← left.complete?
    let right ← right.complete?
    some (.binary left operator right none)
  | paren inner => do
    let inner ← inner.complete?
    some (.paren inner none)
  | blank => none

/-- The message for a draft with a blank that was to be analyzed. -/
def blankMessage : String :=
  "No semantic rule for node kind None"

end Draft

end GrammarWorkbench.Typing
