import SwaggerGate.Merge
import SwaggerGate.Registry
import SwaggerGate.Request
import SwaggerGate.Schema.Inline
import SwaggerGate.Schema.WellFormed

/-! Compilation of merged documents. Parameters are looked up and shared ones overridden,
references inlined, and for each operation one object schema is built for its body and one
for a payload in which all parameters are properties. -/
namespace SwaggerGate.Compile

/-- A result that may meet a fault, within a compilation. -/
def orFault {α : Type} : Except Fault α → Except CompileFailure α
  | .ok a => .ok a
  | .error fault => .error (.fault fault)

/-- How messages name an operation that is being compiled. -/
def placeOf (method : Method) (template : String) : String := Text.upper method.name ++ " " ++ template

/-- The parameter that an entry stands for: itself, or the shared one that it refers to. -/
def lookUp (shared : List (String × Parameter)) (place : String) (p : Parameter) :
    Except CompileFailure Parameter := do
  let found ← match p.ref with
    | none => pure p
    | some ref => do
      let name ← Schema.refName "parameters" ref
      match shared.lookup name with
      | none => CompileError.fail (.noParameter ref place name)
      | some q => if q.ref.isSome then CompileError.fail (.parameterIsRef name) else pure q
  if found.name = "" ∨ found.location = none then CompileError.fail (.incompleteParameter place) else return found

/-- Name and location, by which one parameter overrides another. -/
def identity (p : Parameter) : String × Option Location := (p.name, p.location)

/-- Own parameters after the shared ones that they do not override. -/
def override (shared own : List Parameter) : List Parameter :=
  (shared.filter fun p => !(own.map identity).contains (identity p)) ++ own

/-- The parameters of an operation: those of the path that its own do not override, then
its own. -/
def effectiveParameters (merged : Merged) (place : String) (path : PathItem) (endpoint : Endpoint) :
    Except CompileFailure (List Parameter) := do
  let shared ← path.parameters.mapM (lookUp merged.parameters place)
  let own ← endpoint.parameters.mapM (lookUp merged.parameters place)
  return override shared own

/-- The schema of a parameter as a property. -/
def propertySchema : Items → Value
  | ⟨type, enum, items, _, _⟩ => .record <|
    [("type", .text type.name)]
      ++ (match enum with
        | some members => [("enum", .list members)]
        | none => [])
      ++ (match items with
        | some inner => [("items", propertySchema inner)]
        | none => [])

/-- What a body schema declares. -/
structure BodyPart where
  properties : List (Atom × Value)
  required : List Value
  /-- The names of the definitions that the schema still refers to. -/
  kept : List String

/-- The entry of a schema, unless it is nothing or empty. -/
def given? (schema : Value) (name : String) : Option Value := (schema.field? name).filter Value.isTruthy

/-- The properties and required names of a body parameter's schema, references inlined. -/
def bodyPart (definitions : Definitions) (schema : List (Atom × Value)) : Except CompileFailure BodyPart := do
  let (inlined, kept) ← Schema.inline definitions (.obj schema)
  let properties ← match given? inlined "properties" with
    | none => pure []
    | some v => orFault v.entries
  let required ← match given? inlined "required" with
    | none => pure []
    | some v => orFault v.members
  return ⟨properties, required, kept⟩

/-- The object schema under construction for bodies, and the one for payloads. -/
structure Draft where
  properties : List (Atom × Value) := []
  required : List Value := []
  payloadProperties : List (Atom × Value) := []
  payloadRequired : List Value := []
  kept : List String := []

/-- Adds the members of a list that are not there yet. -/
def addMissing (members more : List Value) : List Value :=
  more.foldl (fun known v => if known.any v.same then known else known ++ [v]) members

/-- Adds an entry whose key is new. -/
def addProperty (properties : List (Atom × Value)) (name : Atom) (schema : Value) : List (Atom × Value) :=
  if (entryOf? properties name).isSome then properties else properties ++ [(name, schema)]

/-- Adds the entries of a list whose keys are new. -/
def addProperties (properties more : List (Atom × Value)) : List (Atom × Value) :=
  more.foldl (fun known entry => addProperty known entry.1 entry.2) properties

/-- Adds what one parameter declares; first declarations of a property count. -/
def Draft.add (definitions : Definitions) (draft : Draft) (p : Parameter) : Except CompileFailure Draft :=
  match p.location, p.type with
  | some .body, _ => do
    let part ← bodyPart definitions (p.schema.getD [])
    return { properties := addProperties draft.properties part.properties
             required := addMissing draft.required part.required
             payloadProperties := addProperties draft.payloadProperties part.properties
             payloadRequired := addMissing draft.payloadRequired part.required
             kept := draft.kept ++ part.kept }
  | _, none | _, some .file => .ok draft
  | _, some type =>
    let schema := propertySchema { type, enum := p.enum, items := p.items }
    .ok { draft with
      payloadProperties := addProperty draft.payloadProperties (.text p.name) schema
      payloadRequired := if p.required then addMissing draft.payloadRequired [.text p.name]
        else draft.payloadRequired }

/-- An object schema; empty lists of required names and of definitions are left out. -/
def objectSchema (properties : List (Atom × Value)) (required : List Value)
    (definitions : List (String × Value)) : Value :=
  .record <| [("type", .text "object"), ("properties", .obj properties)]
    ++ (if required.isEmpty then [] else [("required", .list required)])
    ++ (if definitions.isEmpty then [] else [("definitions", .record definitions)])

/-- Passes a schema on if it is well formed. -/
def checked (place : String) (schema : Value) : Except CompileFailure Value :=
  do if ← orFault (Schema.isWellFormed schema) then return schema else CompileError.fail (.invalidSchema place)

/-- The texts among some values. -/
def textsOf (values : List Value) : List String :=
  values.filterMap fun
    | .text s => some s
    | _ => none

def operation (merged : Merged) (template : String) (method : Method) (basePath : Option String)
    (parameters : List Parameter) : Except CompileFailure Operation := do
  let draft ← parameters.foldlM (Draft.add merged.definitions) {}
  let definitions ← Schema.embedded merged.definitions draft.kept
  let key := method.name ++ template
  let bodySchema ← checked key (objectSchema draft.properties draft.required definitions)
  let payloadSchema ← checked key (objectSchema draft.payloadProperties draft.payloadRequired definitions)
  return {
    method, template, basePath
    templateSegments := splitPath template
    baseSegments := splitPath (basePath.getD "")
    properties := draft.properties
    required := textsOf draft.required
    parameters
    bodyRequired := parameters.any fun p => p.location == some .body && p.required
    bodySchema, payloadSchema }

/-- One method of one path of merged documents, to be compiled. -/
structure Task where
  template : String
  basePath : Option String
  path : PathItem
  method : Method
  endpoint : Endpoint

def Task.place (task : Task) : String := placeOf task.method task.template

/-- What there is to compile, in the order of paths and methods. -/
def tasks (merged : Merged) : List Task :=
  merged.paths.flatMap fun (template, basePath, path) =>
    path.endpoints.map fun (method, endpoint) => { template, basePath, path, method, endpoint }

def compileTask (merged : Merged) (task : Task) : Except CompileFailure Operation := do
  let parameters ← effectiveParameters merged task.place task.path task.endpoint
  operation merged task.template task.method task.basePath parameters

/-- All operations of merged documents, in the order of paths and methods. -/
def operations (merged : Merged) : Except CompileFailure (List Operation) :=
  (tasks merged).mapM (compileTask merged)

/-- Compiles documents in order into a registry. -/
def registry (documents : List Document) : Except CompileFailure Registry := do
  return Registry.ofOperations (← operations (Merged.ofDocuments documents))

/-- The schema of one definition by itself, with the definitions that it still refers to. -/
def model (definitions : Definitions) (name : String) : Except CompileFailure Value := do
  let root := Value.record [("$ref", .text (Schema.definitionRef name))]
  let (schema, kept) ← Schema.inline definitions root
  let bodies ← Schema.embedded definitions kept
  let schema := match schema with
    | .obj fields =>
      if bodies.isEmpty then schema else .obj (Entries.put (.text "definitions") (.record bodies) fields)
    | schema => schema
  checked ("#/definitions/" ++ name) schema

end SwaggerGate.Compile
