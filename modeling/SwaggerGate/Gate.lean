import SwaggerGate.Config
import SwaggerGate.Json.Bytes
import SwaggerGate.Publication
import SwaggerGate.Validation

/-! The gate in front of an application. A request passes if it is marked as validated or
if it is valid, and then it is marked; any other is refused with its first issue. -/
namespace SwaggerGate

/-- A request as a server hands it over: its path decoded, its query and body raw. -/
structure HttpRequest where
  method : String
  path : String
  query : List UInt8 := []
  headers : List (String × String) := []
  body : List UInt8 := []
  /-- The mark of a validated request; null if it has none. -/
  mark : Value := .null
  /-- The path parameters that the route has captured. -/
  pathParams : List (Atom × Value) := []
deriving Repr

namespace HttpRequest

/-- The first content type among the headers. -/
def contentType (r : HttpRequest) : String :=
  match r.headers.find? fun header => Text.lower header.1 == "content-type" with
  | some header => header.2
  | none => ""

/-- Whether a content type says that a body is JSON. -/
def isJsonType (contentType : String) : Bool :=
  let media := (Text.strip (Text.cut ';' contentType.toList).1).map Text.lowerAscii
  media = "application/json".toList || "+json".toList.isSuffixOf media

/-- The decoded body: null if it is empty or its type is not JSON, none if it is not valid JSON. -/
def decodedBody? (r : HttpRequest) : Except Fault (Option Value) :=
  if r.body.isEmpty || !isJsonType r.contentType then .ok (some .null)
  else match Json.readBytes r.body with
    | .ok body => .ok (some body)
    | .error .tooDeep => .error .endless
    | .error _ => .ok none

/-- The query as text: each byte is the character of its number. -/
def queryText (r : HttpRequest) : List Char := r.query.map fun b => Char.ofNat b.toNat

/-- The request to validate, with its decoded body. -/
def request (r : HttpRequest) (body : Value) : Request :=
  { method := r.method
    segments := splitPath r.path
    params := Entries.putAll (Query.decode (Url.queryPairs r.queryText)) r.pathParams
    body }

/-- How a path stands inside a URL: with escapes for what would end it. -/
def escapedPathChar (c : Char) : List Char :=
  if c = '?' then ['%', '3', 'F']
  else if c = '#' then ['%', '2', '3']
  else if c = '\\' then ['%', '5', 'C']
  else if c = '\t' ∨ c = '\r' ∨ c = '\n' then []
  else [c]

/-- The path of a request's URL; unless it is empty, it starts with a slash. -/
def urlPath (r : HttpRequest) : String :=
  let path := r.path.toList.flatMap escapedPathChar
  String.ofList (if r.path = "" ∨ r.path.toList.head? = some '/' then path else '/' :: path)

end HttpRequest

/-- What a gate does with a request. -/
inductive Reply where
  /-- The application is invoked, and sees the request under this mark. -/
  | forwarded (mark : Value)
  | refused (status : Int) (issue : Issue)
deriving DecidableEq, Repr

structure Gate where
  failureStatus : Int := 400
  /-- The registry to validate against, if not the one of the process. -/
  registry : Option Registry := none
deriving Repr

namespace Gate

def malformedBody : Issue := ⟨"Request body is not valid JSON.", "#"⟩

/-- A refusal, if its issue can be written. -/
def refuse (status : Int) (issue : Issue) : Except Fault Reply :=
  if Text.hasSurrogate issue.message || Text.hasSurrogate issue.path then .error .unencodable
  else .ok (.refused status issue)

/-- The reply to a validated request. -/
def reply (gate : Gate) (r : HttpRequest) : Outcome → Except Fault Reply
  | .ok => .ok (.forwarded (.bool true))
  | .notFound => refuse 404 ⟨Outcome.notFoundMessage, r.urlPath⟩
  | .invalid issue | .several issue _ _ _ => refuse gate.failureStatus issue

def answer (gate : Gate) (current : Registry) (r : HttpRequest) : Except Fault Reply :=
  if r.mark.isTruthy then .ok (.forwarded r.mark)
  else do
    match ← r.decodedBody? with
    | none => refuse gate.failureStatus malformedBody
    | some body => gate.reply r (← Validation.validate (gate.registry.getD current) (r.request body))

/-- What happens to a gate and the process that it is in. -/
inductive Event where
  | change (event : Publication.Event)
  | request (r : HttpRequest)

/-- The answers to the requests among events, in order, each against the registry that is
current at its time. -/
def answers (files : Files) (gate : Gate) (current : Registry) : List Event → List (Except Fault Reply)
  | [] => []
  | .change event :: rest => answers files gate (Publication.step files current event) rest
  | .request r :: rest => gate.answer current r :: answers files gate current rest

/-- Installs the documents of a configuration and sets a gate before the application. -/
def setUp (files : Files) (current : Registry) (config : Config) : Except CompileFailure (Gate × Registry) :=
  (Publication.install files current config.sources).map fun registry =>
    ({ failureStatus := config.failureStatus }, registry)

end Gate
end SwaggerGate
