import GrammarWorkbench.Text.Integer
import GrammarWorkbench.Text.Quoted
import GrammarWorkbench.Text.UpperCase
import GrammarWorkbench.Typing.Analyzer

/-!
# Settings from the environment

The variables whose names start with `GRAMMAR_ANALYZER_` set up the analysis and the service; a
variable that is not there leaves a setting at its default.
-/

set_option autoImplicit false

namespace GrammarWorkbench.Settings

/-- Variables with their values. -/
abbrev Environment := List (String × String)

/-- The full name of a variable. -/
def fullName (name : String) : String :=
  "GRAMMAR_ANALYZER_" ++ name

/-- The value of a variable. -/
def value? (environment : Environment) (name : String) : Option String :=
  environment.lookup (fullName name)

/-- The value of a variable, or a default. -/
def valueOr (environment : Environment) (name fallback : String) : String :=
  (value? environment name).getD fallback

/-- The settings of the analysis. -/
def analysis (environment : Environment) : Typing.Settings :=
  let defaults : Typing.Settings := {}
  { defaultType := valueOr environment "DEFAULT_TYPE" defaults.defaultType
    globalScope := valueOr environment "GLOBAL_SCOPE" defaults.globalScope }

/-- The settings of the service. -/
structure Service where
  host : String := "127.0.0.1"
  portNumber : Int := 5000
  debug : Bool := false
  logLevel : String := "INFO"
  deriving DecidableEq

/-- A value that gives no `portNumber`, since it is no whole number. -/
structure PortNumberError where
  value : String
  deriving DecidableEq

/-- The text of the error. -/
def PortNumberError.message (error : PortNumberError) : String :=
  "Invalid " ++ fullName "PORT" ++ " value: " ++ Text.quoted error.value

/-- Whether a value switches something on. Only the letters from `A` to `Z` are read in lower case,
since no other letter becomes one of these words. -/
def isOn (value : String) : Bool :=
  ["1", "true", "yes", "on"].contains (String.ofList ((Text.trim value).toList.map Char.toLower))

/-- The `portNumber`, or the value that gives none. -/
def portNumber (environment : Environment) : Except PortNumberError Int :=
  match value? environment "PORT" with
  | none => .ok ({} : Service).portNumber
  | some value =>
    match Text.integer? value with
    | some n => .ok n
    | none => .error ⟨value⟩

/-- The settings of the service. -/
def service (environment : Environment) : Except PortNumberError Service := do
  let portNumber ← portNumber environment
  let defaults : Service := {}
  .ok {
    host := valueOr environment "HOST" defaults.host
    portNumber
    debug := ((value? environment "DEBUG").map isOn).getD defaults.debug
    logLevel := Text.toUpper (valueOr environment "LOG_LEVEL" defaults.logLevel) }

end GrammarWorkbench.Settings
