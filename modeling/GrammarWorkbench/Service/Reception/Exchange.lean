import GrammarWorkbench.Service.Reception.Routing
import GrammarWorkbench.Settings

/-!
# Exchanges

The service as it receives requests for paths with text bodies. It is set up from the environment.
-/

set_option autoImplicit false

namespace GrammarWorkbench.Service

/-- The service in an environment. -/
def Server.standard (limit : Expression.NestingLimit) (environment : Settings.Environment) :
    Server Request where
  destination := Request.destination
  sent? := Request.json?
  limit := limit
  settings := Settings.analysis environment

/-- What comes of a request: a response, or the fault that keeps it from being made. -/
def exchange (limit : Expression.NestingLimit) (environment : Settings.Environment)
    (request : Request) : Except Fault Response :=
  match request.fault? with
  | some fault => .error fault
  | none => .ok ((Server.standard limit environment).respond request)

end GrammarWorkbench.Service
