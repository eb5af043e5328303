/-!
# Options of rendered output

The names that pages give to their tables and error blocks, whether pages carry their own styles,
and whether graphs leave types out.
-/

set_option autoImplicit false

namespace GrammarWorkbench.Markup

/-- How pages and graphs are rendered. The class names are inserted as they are. -/
structure Options where
  tableClasses : String := "first-follow-table"
  errorClasses : String := "error-message"
  inlineStyles : Bool := true
  compact : Bool := false
  deriving DecidableEq

/-- Lines joined by line breaks. -/
def joinLines (lines : List String) : String :=
  String.intercalate "\n" lines

/-- The block that styles stand in. -/
def Options.styled (options : Options) (styles : String) (lines : List String) : List String :=
  if options.inlineStyles then styles :: lines else lines

end GrammarWorkbench.Markup
