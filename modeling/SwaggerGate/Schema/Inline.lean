import SwaggerGate.CompileError
import SwaggerGate.Document
import SwaggerGate.Pointer

/-! Inlining of references to definitions. A reference is replaced by the definition that
it names, inlined in turn; one that leads back into a definition being inlined stays, and
that definition is embedded beside the schema. A schema that is part of itself has no
inlined form, unless only as data. -/
namespace SwaggerGate

namespace Schema

/-- The name that a local pointer into a section refers to. -/
def refName (section_ ref : String) : Except CompileFailure String :=
  let lead := "#/" ++ section_ ++ "/"
  if lead.toList.isPrefixOf ref.toList then
    let token := ref.toList.drop lead.length
    if token.contains '/' then CompileError.fail (.unsupportedRef ref section_)
    else .ok (String.ofList (Pointer.unescapeChars token))
  else CompileError.fail (.unsupportedRef ref section_)

def definitionRef (name : String) : String := "#/definitions/" ++ Pointer.escape name

/-- A schema with its references inlined, and the names of the definitions that it still
refers to, each as often as a reference to it stays. -/
abbrev Inlined := Value × List String

/-- Keys whose values are data and no schemas. -/
def isLiteralKey (key : Atom) : Bool :=
  ["enum", "default", "example", "examples", "x-example"].any fun name => key = .text name

/-- Keys whose values map names to schemas. -/
def isSchemaMapKey (key : Atom) : Bool := key = .text "properties" || key = .text "patternProperties"

section Substitute

variable (replace : String → Except CompileFailure Inlined)

mutual
/-- Replaces every reference of a schema; `inMap` tells whether the keys of an object are
names of schemas and not keywords. -/
def substitute (inMap : Bool) : Value → Except CompileFailure Inlined
  | .atom a => .ok (.atom a, [])
  | .set members => .ok (.set members, [])
  | .pair a b => .ok (.pair a b, [])
  | .loop .. => .error (.fault .endless)
  | .list items => do
    let (items, kept) ← substituteItems items
    return (.list items, kept)
  | .obj fields =>
    match if inMap then none else fields.lookup (.text "$ref") with
    | some (.text ref) => replace ref
    | _ => do
      let (fields, kept) ← if inMap then substituteSchemas fields else substituteFields fields
      return (.obj fields, kept)
def substituteItems : List Value → Except CompileFailure (List Value × List String)
  | [] => .ok ([], [])
  | v :: rest => do
    let (v, kept) ← substitute false v
    let (rest, more) ← substituteItems rest
    return (v :: rest, kept ++ more)
/-- The values of an object whose keys are names. -/
def substituteSchemas : List (Atom × Value) → Except CompileFailure (List (Atom × Value) × List String)
  | [] => .ok ([], [])
  | (name, v) :: rest => do
    let (v, kept) ← substitute false v
    let (rest, more) ← substituteSchemas rest
    return ((name, v) :: rest, kept ++ more)
/-- The values of an object whose keys are keywords. -/
def substituteFields : List (Atom × Value) → Except CompileFailure (List (Atom × Value) × List String)
  | [] => .ok ([], [])
  | (key, v) :: rest => do
    let (v, kept) ← if isLiteralKey key then .ok (v, []) else substitute (isSchemaMapKey key) v
    let (rest, more) ← substituteFields rest
    return ((key, v) :: rest, kept ++ more)
end

@[simp] theorem substitute_atom (inMap : Bool) (a : Atom) : substitute replace inMap (.atom a) = .ok (.atom a, []) := by
  rw [substitute]

end Substitute

/-- The definition that a reference names. -/
def definition (definitions : Definitions) (ref : String) : Except CompileFailure (String × Value) := do
  let name ← refName "definitions" ref
  match definitions.lookup name with
  | some body => return (name, body)
  | none => CompileError.fail (.noDefinition ref name)

/-- Inlines within a number of nested references. `stack` holds the names of the definitions
being inlined; a reference to one of them stays. -/
def inlineWithin (definitions : Definitions) : Nat → List String → Value → Except CompileFailure Inlined
  | depth, stack, schema => substitute (fun ref => do
      let (name, body) ← definition definitions ref
      if stack.contains name then return (.record [("$ref", .text (definitionRef name))], [name])
      match depth with
      | 0 => return (.record [("$ref", .text (definitionRef name))], [name])
      | depth + 1 => inlineWithin definitions depth (name :: stack) body) false schema
termination_by structural depth => depth

/-- Inlines every reference of a schema, inside the definitions of a stack. References nest
no deeper than there are definitions. -/
def inlineFrom (definitions : Definitions) (stack : List String) (schema : Value) : Except CompileFailure Inlined :=
  inlineWithin definitions definitions.length stack schema

def inline (definitions : Definitions) (schema : Value) : Except CompileFailure Inlined :=
  inlineFrom definitions [] schema

/-- The inlined bodies of pending definitions and of all that these still refer to. -/
def embedWithin (definitions : Definitions) : Nat → List String → List (String × Value) →
    Except CompileFailure (List (String × Value))
  | 0, _, done => .ok done
  | n + 1, pending, done =>
    match pending.find? fun name => (done.lookup name).isNone with
    | none => .ok done
    | some name => do
      let (schema, kept) ← inlineFrom definitions [name] ((definitions.lookup name).getD .null)
      embedWithin definitions n (pending ++ kept) (done ++ [(name, schema)])

/-- The bodies of the definitions that an inlined schema still refers to, closed under
such references. -/
def embedded (definitions : Definitions) (kept : List String) : Except CompileFailure (List (String × Value)) :=
  embedWithin definitions definitions.length kept []

end Schema
end SwaggerGate
