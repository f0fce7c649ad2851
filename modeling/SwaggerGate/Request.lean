import SwaggerGate.Url
import SwaggerGate.Url.Query
import SwaggerGate.Value

/-! Requests as the validator sees them: path segments and parameters. A parameter name
with brackets, such as `filter[route]`, addresses a nested value; `tags[]` collects a list. -/
namespace SwaggerGate

/-- The non-empty pieces of a path or path template between slashes. -/
def splitPath (path : String) : List String :=
  ((Text.splitOn '/' path.toList).filter (!·.isEmpty)).map String.ofList

namespace Query

/-- The bracketed keys of a text, given what stands since a bracket was opened, in reverse.
A bracket inside brackets starts anew. -/
def bracketKeys : Option (List Char) → List Char → List (List Char)
  | _, [] => []
  | pending, c :: rest =>
    if c = '[' then bracketKeys (some []) rest
    else if c = ']' then
      match pending with
      | some key => key.reverse :: bracketKeys none rest
      | none => bracketKeys none rest
    else bracketKeys (pending.map (c :: ·)) rest

/-- The keys that a parameter name addresses, outermost first; never empty. -/
def keys (name : String) : List String :=
  match Text.cut '[' name.toList with
  | ([], _) | (_, none) => [name]
  | (root, some rest) => String.ofList root :: (bracketKeys (some []) rest).map String.ofList

/-- Writes a value at nested keys. A single empty key after a key appends to a list; what
stands in the way of a list or an object is replaced. -/
def assign : List String → String → List (Atom × Value) → List (Atom × Value)
  | [], _, target => target
  | [key], value, target => Entries.put (.text key) (.text value) target
  | key :: next :: more, value, target =>
    if next = "" ∧ more = [] then
      let items := match target.lookup (.text key) with
        | some (.list items) => items
        | _ => []
      Entries.put (.text key) (.list (items ++ [.text value])) target
    else
      let child := match target.lookup (.text key) with
        | some (.obj fields) => fields
        | _ => []
      Entries.put (.text key) (.obj (assign (next :: more) value child)) target

/-- The nested parameters that pairs of names and values write, in order. -/
def decode (pairs : List (String × String)) : List (Atom × Value) :=
  pairs.foldl (fun target pair => assign (keys pair.1) pair.2 target) []

/-- Walks keys into a value; an empty key ends the walk, a null or absent entry finds nothing. -/
def find? : List String → Value → Option Value
  | [], value => some value
  | key :: rest, value =>
    if key = "" then some value
    else match value with
      | .obj fields => match fields.lookup (.text key) with
        | none | some .null => none
        | some inner => find? rest inner
      | _ => none

/-- The parameter of a name, if it is there and not null. -/
def lookup? (params : List (Atom × Value)) (name : String) : Option Value :=
  find? (keys name) (.obj params)

end Query

/-- A request with its path already cut into segments; a null body is a missing one. -/
structure Request where
  method : String
  segments : List String
  params : List (Atom × Value) := []
  body : Value := .null

namespace Request

def path (request : Request) : String := "/" ++ String.intercalate "/" request.segments

/-- Reads a request off a URL: segments are cut before they are decoded, and path
parameters stand over query parameters. None if the URL is malformed. -/
def ofUrl? (method url : String) (body : Value) (pathParams : List (Atom × Value)) : Option Request :=
  (Url.split? url.toList).map fun parts =>
    { method
      segments := (splitPath (String.ofList parts.path)).map fun segment =>
        String.ofList (Url.percentDecode segment.toList)
      params := Entries.putAll (Query.decode (Url.queryPairs parts.query)) pathParams
      body }

end Request
end SwaggerGate
