import GrammarWorkbench.Service.Reception.Message
import GrammarWorkbench.Service.Server

/-!
# Routes

The places under which the service is reached, the methods that each of them has, and the way from a
request to one of them. Slashes at the front of a path do not count beyond the first. A path that
leads somewhere only after slashes inside it are merged, or after a missing slash is put in, is
answered with a redirection. The service has to be addressed by the name of a host.
-/

set_option autoImplicit false

namespace GrammarWorkbench.Service

/-- The places under which the service is reached: those of its endpoints, and files under a
name. -/
inductive Place where
  | endpoint (endpoint : Endpoint)
  | file (name : List Char)
  deriving DecidableEq

namespace Place

/-- The methods of a place. Every place answers which methods it has. -/
def methods : Place → List String
  | endpoint .report | file _ => ["GET", "HEAD", "OPTIONS"]
  | endpoint .sets | endpoint .analysis => ["POST", "OPTIONS"]

/-- What stands before the name of a file. -/
def filePrefix : List Char := "/static/".toList

/-- A name of a file is not empty, does not start with a slash, and has no line break beyond its
first character. -/
def isFileName : List Char → Bool
  | [] => false
  | c :: rest => c ≠ '/' && rest.all (· ≠ '\n')

/-- The place at a path. -/
def ofPath? (path : List Char) : Option Place :=
  if path = ['/'] then some (endpoint .report)
  else if path = "/first-follow".toList then some (endpoint .sets)
  else if path = "/parser".toList then some (endpoint .analysis)
  else if filePrefix.isPrefixOf path && isFileName (path.drop filePrefix.length) then
    some (file (path.drop filePrefix.length))
  else none

end Place

/-- A path with one slash in the place of every run of slashes. -/
def mergeSlashes : List Char → List Char
  | [] => []
  | c :: rest =>
    if c = '/' ∧ rest.head? = some '/' then mergeSlashes rest else c :: mergeSlashes rest

namespace Request

/-- Where a request leads to at a place that has its method. The methods are not listed in the
response to a request for them. A response to a request for its head alone carries no value; that
request has to spell its method in upper case. There are no files. -/
def within (request : Request) : Place → Destination
  | .file _ => if request.verb = "OPTIONS" then .elsewhere 200 else .elsewhere 404
  | .endpoint endpoint =>
    if request.verb = "OPTIONS" then .elsewhere 200
    else if request.method = "HEAD" then .head endpoint
    else .endpoint endpoint

/-- The destination of a request at a place that is found for it, unless the place does not have the
method or the request asks for a lasting connection. -/
def admitted (request : Request) (place : Place) (destination : Destination) : Destination :=
  if request.verb ∉ place.methods then .elsewhere 405
  else if request.isSocket then .elsewhere 400
  else destination

/-- Whether the service is addressed by a name with labels of the right length. What stands before
the first colon counts, and that includes a user. -/
def namesHost (request : Request) : Bool :=
  HostName.allLabels HostName.fits (Authority.before ':' request.authority.normalText)

/-- Where a request leads. An empty path lacks the slash of the report; only a request that the
report would answer is sent on to it. -/
def destination (request : Request) : Destination :=
  if !request.namesHost then .elsewhere 400
  else
    match request.path with
    | [] =>
      match request.admitted (.endpoint .report) (.elsewhere 308) with
      | .elsewhere 308 => .elsewhere 308
      | _ => .elsewhere 404
    | c :: rest =>
      let path := '/' :: (c :: rest).dropWhile (· = '/')
      match Place.ofPath? path with
      | some place => request.admitted place (request.within place)
      | none =>
        match Place.ofPath? (mergeSlashes path) with
        | some place => request.admitted place (.elsewhere 308)
        | none => .elsewhere 404

end Request

end GrammarWorkbench.Service
