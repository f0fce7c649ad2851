import SwaggerGate.Registry
import SwaggerGate.Text.Split
import SwaggerGate.Value

/-! Routing of requests: the first operation of the registry whose base path leads the
segments and whose template covers the rest. -/
namespace SwaggerGate.Routing

/-- The segments after a base path, if they start with it. -/
def stripBase (segments base : List String) : Option (List String) :=
  if segments.take base.length = base then some (segments.drop base.length) else none

/-- Whether segments fit a template one by one; a wildcard fits any segment. -/
def fits : List String → List String → Bool
  | [], [] => true
  | expected :: template, actual :: segments =>
    (isWildcard expected || expected == actual) && fits template segments
  | _, _ => false

/-- Whether an operation answers a method and path. -/
def answers (o : Operation) (verb : String) (segments : List String) : Bool :=
  match stripBase segments o.baseSegments with
  | some rest => fits (o.method.name :: o.templateSegments) (verb :: rest)
  | none => false

/-- The first operation of a registry that answers a request. -/
def route (registry : Registry) (method : String) (segments : List String) : Option Operation :=
  registry.operations.find? fun o => answers o (Text.lower method) segments

/-- The name between the braces of a capturing template segment. -/
def captureName? (segment : String) : Option String :=
  match segment.toList with
  | '\x7b' :: rest => match rest.getLast? with
    | some '\x7d' => some (String.ofList rest.dropLast)
    | _ => none
  | _ => none

/-- The segments of a request that the template's names capture; a name given twice takes
the later one. -/
def captures (o : Operation) (segments : List String) : List (Atom × Value) :=
  let rest := (stripBase segments o.baseSegments).getD []
  Entries.ofList ((o.templateSegments.zip rest).filterMap fun (template, actual) =>
    (captureName? template).map fun name => (.text name, .text actual))

end SwaggerGate.Routing
