import GrammarWorkbench.Json.Reader
import GrammarWorkbench.Service.Reception.Reference
import GrammarWorkbench.Text.Blank
import GrammarWorkbench.Text.Encoding
import GrammarWorkbench.Text.UpperCase

/-!
# Requests

A request names a method and a place and may carry a body. The body of a request counts as JSON only
if its media type says so. A request whose place or media type is not well formed cannot be made.
-/

set_option autoImplicit false

namespace GrammarWorkbench.Service

/-- A request. -/
structure Request where
  method : String
  target : String
  body : String
  contentType : String

/-- How deep the lists and objects of a body may be nested. -/
def bodyNesting : Nat := 970

namespace Request

/-! ## The place -/

/-- The place that a request asks for. -/
def reference (request : Request) : Reference :=
  .read request.target.toList

/-- What remains of the place without scheme, authority and query, read as a reference. -/
def middle (request : Request) : Reference :=
  .read request.reference.path

/-- The path of what remains, read as a reference once more. -/
def inner (request : Request) : Reference :=
  .read request.middle.path

/-- The authority that a request is sent to. -/
def authority (request : Request) : Authority :=
  .read request.reference.authority

/-- Whether a request asks for a lasting connection instead of a response. -/
def isSocket (request : Request) : Bool :=
  request.reference.scheme = ['w', 's'] || request.reference.scheme = ['w', 's', 's']

/-- The path that a request asks for: the innermost reference in normal form; only then are codes
read. -/
def path (request : Request) : List Char :=
  Reference.decodePath request.inner.normalText

/-- The method in upper case. -/
def verb (request : Request) : String :=
  Text.toUpper request.method

/-! ## The body -/

/-- The characters around a media type: blanks and tabs. -/
def isPadding (c : Char) : Bool :=
  c = ' ' || c = '\t'

/-- The media type: what stands before the parameters, with the letters from `A` to `Z` in
lower case. -/
def mediaType (request : Request) : List Char :=
  (Text.trimBy isPadding (request.contentType.toList.takeWhile (· ≠ ';'))).map Char.toLower

/-- Whether the media type is that of JSON or of a format built on it. -/
def isJson (request : Request) : Bool :=
  request.mediaType = "application/json".toList ||
    ("application/".toList.isPrefixOf request.mediaType &&
      "+json".toList.isSuffixOf request.mediaType)

/-- The text of the body, in the encoding that its bytes show. -/
def bodyText? (request : Request) : Option String :=
  Text.textOfBytes? request.body.toUTF8.toList

/-- The JSON value of the body; without one it is as if `null` had been sent. There is no answer
when the value is nested too deeply. -/
def json? (request : Request) : Option Json :=
  match if request.isJson then request.bodyText? else none with
  | none => some .null
  | some text =>
    match Json.read bodyNesting text with
    | .ok value => some value
    | .error .malformed => some .null
    | .error .tooDeep => none

/-- A body with the media type of JSON is read in the encoding that it shows. -/
theorem json?_eq_some {request : Request} {text : String} {value : Json}
    (hjson : request.isJson = true) (htext : request.bodyText? = some text)
    (hread : Json.read bodyNesting text = .ok value) : request.json? = some value := by
  rw [json?, if_pos hjson, htext]
  simp only [hread]

/-! ## What is wrong -/

/-- The references that a request is taken apart into. -/
def references (request : Request) : List Reference :=
  [request.reference, request.middle, request.inner]

/-- Whether the authorities of a request are well formed as texts. -/
def hasWellFormedAuthorities (request : Request) : Bool :=
  request.references.all fun reference => Authority.isWellFormed reference.authority

/-- A header has no line breaks. -/
def hasHeaders (request : Request) : Bool :=
  !request.contentType.toList.any fun c => c = '\r' || c = '\n'

/-- Why a request cannot be made. The texts of all authorities come first, then the parts of the
innermost one, then those of the outermost one and its normal form, and then the headers. -/
def fault? (request : Request) : Option Fault :=
  if !request.hasWellFormedAuthorities then some .malformed
  else
    ((Authority.read request.inner.authority).fault?.or request.authority.fault?).or
      (if Authority.isWellFormed request.authority.normalText && request.hasHeaders then none
        else some .malformed)

end Request

end GrammarWorkbench.Service
