import SwaggerGate.Schema.Dialect
import SwaggerGate.Value.Container

/-! Schemas as resources: data read in a dialect, with the identifier that it gives itself,
the anchors that it declares, and the schemas right inside it. -/
namespace SwaggerGate.Schema

structure Resource where
  dialect : Dialect
  contents : Value
deriving DecidableEq, Repr

/-- A named place in a resource; a dynamic one can be taken over by a resource around. -/
structure Anchor where
  resource : Resource
  isDynamic : Bool
deriving DecidableEq, Repr

/-- Drops the number signs at the end of an address. -/
def withoutEmptyFragment (address : String) : String :=
  String.ofList (address.toList.reverse.dropWhile (· == '#')).reverse

namespace Resource

/-- The keyword under which a dialect's schemas give their identifier. -/
def idKey (dialect : Dialect) : String := if dialect.rank ≤ 4 then "id" else "$id"

/-- The identifier of an object; in the earlier dialects one beside a reference does not
count, nor one that is only a fragment. -/
def idOfFields (dialect : Dialect) (fields : List (Atom × Value)) : Except Fault (Option String) :=
  if dialect.refHidesSiblings && (fields.lookup (.text "$ref")).isSome then .ok none
  else match fields.lookup (.text (idKey dialect)) with
    | none | some .null => .ok none
    | some (.text id) =>
      if dialect.refHidesSiblings && id.toList.head? == some '#' then .ok none
      else .ok (some (withoutEmptyFragment id))
    | some (.atom (.bytes _)) => .error .wrongArgument
    | some _ => .error .notAnObject

/-- The identifier that a resource gives itself. -/
def id? (r : Resource) : Except Fault (Option String) :=
  match r.contents with
  | .obj fields => idOfFields r.dialect fields
  | .bool _ => if r.dialect.rank ≤ 4 then .error .wrongArgument else .ok none
  | v => do
    if r.dialect.refHidesSiblings then
      if ← v.holds (.text "$ref") then return none
    throw .notAnObject

/-- A name of an anchor must be something that can be a key; only texts are ever looked up. -/
private def nameOf (v : Value) : Except Fault (Option String) :=
  match v with
  | .text name => .ok (some name)
  | v => if v.isKey then .ok none else .error .wrongArgument

private def named (r : Resource) (key : String) (isDynamic : Bool) (fields : List (Atom × Value)) :
    Except Fault (List (String × Anchor)) :=
  match fields.lookup (.text key) with
  | none | some .null => .ok []
  | some v => (nameOf v).map fun name => name.toList.map fun name => (name, ⟨r, isDynamic⟩)

/-- The anchor that an identifier is which is only a fragment. -/
private def fragmentAnchor (r : Resource) (fields : List (Atom × Value)) : Except Fault (List (String × Anchor)) :=
  match fields.lookup (.text (idKey r.dialect)) with
  | none => .ok []
  | some (.text id) => .ok (match id.toList with
    | '#' :: name => [(String.ofList name, ⟨r, false⟩)]
    | _ => [])
  | some (.atom (.bytes _)) => .error .wrongArgument
  | some _ => .error .notAnObject

/-- The anchors that a resource declares. -/
def anchors (r : Resource) : Except Fault (List (String × Anchor)) :=
  match r.contents with
  | .obj fields => match r.dialect with
    | .draft2020 => do return (← named r "$anchor" false fields) ++ (← named r "$dynamicAnchor" true fields)
    | .draft2019 => named r "$anchor" false fields
    | _ => fragmentAnchor r fields
  | .bool _ => if r.dialect.rank ≤ 4 then .error .notAnObject else .ok []
  | _ => .error .notAnObject

/-- The keywords whose argument is a schema. -/
def schemaKeywords : Dialect → List String
  | .draft3 => []
  | .draft4 => ["not"]
  | .draft6 => ["additionalItems", "additionalProperties", "contains", "not", "propertyNames"]
  | .draft7 => ["additionalItems", "additionalProperties", "contains", "else", "if", "not", "propertyNames", "then"]
  | .draft2019 => ["additionalItems", "additionalProperties", "contains", "contentSchema", "else", "if", "not",
      "propertyNames", "then", "unevaluatedItems", "unevaluatedProperties"]
  | .draft2020 => ["additionalProperties", "contains", "contentSchema", "else", "if", "items", "not",
      "propertyNames", "then", "unevaluatedItems", "unevaluatedProperties"]

/-- The keywords whose argument is a list of schemas. -/
def listKeywords : Dialect → List String
  | .draft3 => ["extends"]
  | .draft2020 => ["allOf", "anyOf", "oneOf", "prefixItems"]
  | _ => ["allOf", "anyOf", "oneOf"]

/-- The keywords whose argument maps names to schemas. -/
def mapKeywords (dialect : Dialect) : List String :=
  if dialect.rank ≤ 7 then ["definitions", "patternProperties", "properties"]
  else ["$defs", "definitions", "dependentSchemas", "patternProperties", "properties"]

/-- The schemas of several keywords that are given. -/
private def gather (fields : List (Atom × Value)) (found : Value → Except Fault (List Value))
    (keywords : List String) : Except Fault (List Value) := do
  return (← (keywords.filterMap fun k => fields.lookup (.text k)).mapM found).flatten

private def valuesOf (v : Value) : Except Fault (List Value) := do return (← v.entries).map Prod.snd

/-- The schemas under `items`, which is one schema or a sequence of them. -/
private def itemSchemas (v : Value) : Except Fault (List Value) :=
  match v with
  | .null => .ok []
  | .list _ | .pair .. | .text _ | .atom (.bytes _) => v.members
  | v => .ok [v]

/-- The schemas under `dependencies`; none count unless the first is an object. -/
private def dependencySchemas (v : Value) : Except Fault (List Value) :=
  match v with
  | .null => .ok []
  | v => do
    match ← valuesOf v with
    | .obj fields :: rest => return .obj fields :: rest
    | _ => return []

private def objectOnly (v : Value) : Except Fault (List Value) :=
  match v with
  | .obj fields => .ok [.obj fields]
  | _ => .ok []

/-- The data of the schemas right inside a resource. -/
def inner (r : Resource) : Except Fault (List Value) :=
  match r.contents with
  | .obj fields => do
    let gather := gather fields
    let schemas ← gather (fun v => .ok [v]) (schemaKeywords r.dialect)
    let listed ← gather Value.members (listKeywords r.dialect)
    let mapped ← gather valuesOf (mapKeywords r.dialect)
    let items ← if r.dialect = .draft2020 then pure [] else gather itemSchemas ["items"]
    let dependencies ← if 8 ≤ r.dialect.rank then pure [] else gather dependencySchemas ["dependencies"]
    let additional ← if 4 < r.dialect.rank then pure []
      else gather objectOnly ["additionalItems", "additionalProperties"]
    return schemas ++ listed ++ mapped ++ items ++ dependencies ++ additional
  | _ => .ok []

/-- The dialect of a schema inside a resource: the one whose very address it names, or else
that of the resource. -/
def dialectInside (r : Resource) (contents : Value) : Except Fault Dialect :=
  match contents with
  | .obj fields => match fields.lookup (.text "$schema") with
    | none | some .null => .ok r.dialect
    | some (.text address) => .ok ((Dialect.addressed? (withoutEmptyFragment address)).getD r.dialect)
    | some (.atom (.bytes _)) => .error .wrongArgument
    | some _ => .error .notAnObject
  | _ => .ok r.dialect

/-- The resources right inside a resource. -/
def subresources (r : Resource) : Except Fault (List Resource) := do
  (← r.inner).mapM fun contents => return ⟨← r.dialectInside contents, contents⟩

end Resource
end SwaggerGate.Schema
