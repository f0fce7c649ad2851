import SwaggerGate.Schema.Checker

/-! The items and properties of data that the keywords of a schema evaluate, those of the
schemas that apply to the same data included. -/
namespace SwaggerGate.Schema

/-- The texts among the keys of an object. -/
def namesOf (fields : List (Atom × Value)) : List String :=
  fields.filterMap fun f => match f.1 with
    | .text name => some name
    | _ => none

/-- A bound on how far references and schemas may nest. -/
def nestingLimit : Nat := 490

section Evaluated

variable {α : Type} (check : Checker)

/-- A collection of what a schema evaluates, in a context. -/
abbrev Collector (α : Type) := Context → (schema : Value) → Except Fault (List α)

/-- What the schema of a reference evaluates. -/
private def throughReference (collect : Collector α) (context : Context) (ref : Value) : Except Fault (List α) :=
  match ref with
  | .null => .ok []
  | .text r => do
    let target ← context.scope.lookUp r
    let dialect ← Dialect.ofSchema context.dialect target.contents
    collect { context with dialect, scope := target.scope } target.contents
  | .atom (.bytes _) => .error .wrongArgument
  | _ => .error .notAnObject

/-- What the schemas of the references beside other keywords evaluate. -/
private def throughReferences (collect : Collector α) (context : Context) (latest : Bool)
    (fields : List (Atom × Value)) : Except Fault (List α) := do
  let found ← throughReference collect context ((argument? fields "$ref").getD .null)
  if latest then return found ++ (← throughReference collect context ((argument? fields "$dynamicRef").getD .null))
  if (argument? fields "$recursiveRef").isNone then return found
  let target ← context.scope.lookUpRecursive
  let dialect ← Dialect.ofSchema context.dialect target.contents
  return found ++ (← collect { context with dialect, scope := target.scope } target.contents)

/-- What the branch of a condition that applies evaluates. -/
private def throughCondition (collect : Collector α) (context : Context) (fields : List (Atom × Value)) (data : Value) :
    Except Fault (List α) := do
  let branch (name : String) : Except Fault (List α) :=
    match argument? fields name with
    | some schema => collect context schema
    | none => .ok []
  match argument? fields "if" with
  | none => return []
  | some condition =>
    if ← isValid check context condition data then return (← collect context condition) ++ (← branch "then")
    else branch "else"

/-- What the schemas evaluate that data passes, among those that are to hold all, one or some. -/
private def throughLists (collect : Collector α) (context : Context) (fields : List (Atom × Value)) (data : Value) :
    Except Fault (List α) := do
  let schemas ← (["allOf", "oneOf", "anyOf"].filterMap (argument? fields)).mapM Value.members
  return (← schemas.flatten.mapM fun schema => do
    if ← (descend check { context with firstOnly := true } schema data).holds then collect context schema else return []).flatten

/-- The indexes of the items that pass a schema. -/
private def passing (context : Context) (schema : Value) (items : List Value) : Except Fault (List Nat) := do
  return (← items.zipIdx.filterM fun (v, _) => isValid check context schema v).map Prod.snd

/-- The indexes of the items that a schema evaluates; `latest` for the newest dialect. -/
def evaluatedItems (latest : Bool) (items : List Value) : Nat → Collector Nat
  | 0, _, _ => .error .endless
  | depth + 1, context, schema =>
    let collect := evaluatedItems latest items depth
    let everything := List.range items.length
    match schema with
    | .bool _ => .ok []
    | .obj fields => do
      let data := Value.list items
      if latest && (argument? fields "items").isSome then return everything
      let referred ← throughReferences collect context latest fields
      let leading ← if latest then pure (argument? fields "prefixItems") else pure (argument? fields "items")
      if !latest then
        match leading with
        | some (.obj _) => return everything
        | some _ => if (argument? fields "additionalItems").isSome then return everything
        | none => pure ()
      let leading ← match leading with
        | some v => do pure (List.range (← v.size))
        | none => pure []
      let chosen ← throughCondition check collect context fields data
      let passed ← (["contains", "unevaluatedItems"].filterMap (argument? fields)).mapM fun s =>
        passing check context s items
      return referred ++ leading ++ chosen ++ passed.flatten ++ (← throughLists check collect context fields data)
    | _ => .error .notAnObject
termination_by structural depth => depth

/-- The names among some that are declared by a keyword of an older dialect. -/
private def declared (fields : List (Atom × Value)) (names : List String) (keyword : String) : List String :=
  match argument? fields keyword with
  | some (.bool true) => names
  | some (.obj known) => (namesOf known).filter names.contains
  | _ => []

/-- The names of the properties whose values pass the schema under a keyword. -/
private def accepted (context : Context) (fields properties : List (Atom × Value)) (keyword : String) :
    Except Fault (List String) :=
  match argument? fields keyword with
  | none | some .null => .ok []
  | some schema => do return namesOf (← properties.filterM fun f => (descend check { context with firstOnly := true } schema f.2).holds)

/-- The names that a pattern of `patternProperties` is found in. -/
private def patterned (fields : List (Atom × Value)) (names : List String) : Except Fault (List String) :=
  match argument? fields "patternProperties" with
  | none => .ok []
  | some patterns => names.filterM fun name => do return (← (← patterns.members).mapM (patternHolds · name)).any id

/-- The names of the properties that a schema evaluates; `latest` for the newest dialect. -/
def evaluatedProperties (latest : Bool) (properties : List (Atom × Value)) : Nat → Collector String
  | 0, _, _ => .error .endless
  | depth + 1, context, schema =>
    let collect := evaluatedProperties latest properties depth
    let names := namesOf properties
    match schema with
    | .bool _ => .ok []
    | .obj fields => do
      let data := Value.obj properties
      let referred ← throughReferences collect context latest fields
      let own ←
        if latest then do
          let known := match argument? fields "properties" with
            | some (.obj known) => (namesOf known).filter names.contains
            | _ => []
          pure (known ++ (← accepted check context fields properties "additionalProperties")
            ++ (← accepted check context fields properties "unevaluatedProperties"))
        else pure (["properties", "additionalProperties", "unevaluatedProperties"].flatMap (declared fields names))
      let patterned ← patterned fields names
      let dependent ← match argument? fields "dependentSchemas" with
        | none => pure []
        | some v => do
          let wanted := (← v.entries).filter fun f => (properties.lookup f.1).isSome
          pure (← wanted.mapM fun f => collect context f.2).flatten
      let listed ← throughLists check collect context fields data
      return referred ++ own ++ patterned ++ dependent ++ listed ++ (← throughCondition check collect context fields data)
    | _ => .error .notAnObject
termination_by structural depth => depth

end Evaluated

end SwaggerGate.Schema
