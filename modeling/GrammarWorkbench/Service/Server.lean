import GrammarWorkbench.Service.Answer

/-!
# Servers

The service has three endpoints. How requests are received is left to what surrounds it: that tells
where a request leads, and which JSON value its body holds. A server is the service together with
such surroundings.
-/

set_option autoImplicit false

namespace GrammarWorkbench.Service

/-- The endpoints of the service: the report, the sets of a sent grammar, and the analysis of a sent
expression. -/
inductive Endpoint where
  | report
  | sets
  | analysis
  deriving DecidableEq

/-- Where a request leads: to an endpoint, to an endpoint whose answer is sent without its value, or
elsewhere, where it is answered with a status. -/
inductive Destination where
  | endpoint (endpoint : Endpoint)
  | head (endpoint : Endpoint)
  | elsewhere (status : Nat)
  deriving DecidableEq

/-- The service with its settings, and with what it is told about requests: where they lead, and the
values in their bodies. A body without a value counts as `null`, and a value that cannot be read,
since it is nested too deeply, is missing. -/
structure Server (Request : Type) where
  destination : Request → Destination
  sent? : Request → Option Json
  limit : Expression.NestingLimit
  settings : Typing.Settings

namespace Server

variable {Request : Type}

/-- The answer to a sent value; a value that cannot be read makes the request fail. -/
def answerSent (answer : Json → Response) : Option Json → Response
  | none => failure
  | some sent => answer sent

/-- The answer of an endpoint. -/
def answer (server : Server Request) (request : Request) : Endpoint → Response
  | .report => indexReport
  | .sets => answerSent firstFollow (server.sent? request)
  | .analysis => answerSent (analyzeExpression server.limit server.settings) (server.sent? request)

/-- The response to a request. -/
def respond (server : Server Request) (request : Request) : Response :=
  match server.destination request with
  | .endpoint endpoint => server.answer request endpoint
  | .head endpoint => { server.answer request endpoint with json := none }
  | .elsewhere status => { status }

end Server

end GrammarWorkbench.Service
