import SwaggerGate.Pointer
import SwaggerGate.Schema.Library
import SwaggerGate.Text.Numeral
import SwaggerGate.Url.Percent

/-! Scopes of references. A scope holds the address that references are relative to, the
library that they are looked up in, and the addresses that it was reached through. -/
namespace SwaggerGate.Schema

structure Scope where
  base : String := ""
  library : Library := {}
  /-- The addresses on the way to this scope, the latest first. -/
  trail : List String := []
deriving Repr

/-- What a reference leads to, and the scope of the references in it. -/
structure Target where
  contents : Value
  scope : Scope
deriving Repr

namespace Scope

/-- The scope of a root resource: its own address, with the resource in the library. -/
def ofRoot (library : Library) (root : Resource) : Except Fault Scope := do
  let address := (← root.id?).getD ""
  return { base := address, library := library.addRoot address root }

/-- The scope inside a resource: an identifier of the resource's own is a new base. -/
def inside (scope : Scope) (r : Resource) : Except Fault Scope := do
  match ← r.id? with
  | some id => return { scope with base := ← joined scope.base id }
  | none => return scope

/-- The scope at another address, with the way to it. -/
def moved (scope : Scope) (address : String) (library : Library) : Scope :=
  let leaves := scope.base != "" && (scope.trail.isEmpty || address != scope.base)
  { base := address, library, trail := if leaves then scope.base :: scope.trail else scope.trail }

/-- The keywords that a pointer passes on its way from schema to schema in one step. -/
def stepKeywords (dialect : Dialect) : List String :=
  Resource.schemaKeywords dialect ++ (if dialect.rank ≤ 4 then ["additionalItems", "additionalProperties"] else [])

/-- Whether steps of a pointer, since it last passed a schema, lead to a schema. A step into
a list has no name. -/
def leadToSchema (dialect : Dialect) (contents : Value) : List (Option String) → Bool
  | [] => true
  | step :: rest =>
    let isOneOf (names : List String) : Bool := step.any names.contains
    let isObject := match contents with
      | .obj _ => true
      | _ => false
    if isObject && (isOneOf (if dialect.rank ≤ 7 then ["items", "dependencies"]
        else if dialect = .draft2019 then ["items"] else [])) then true
    else if isOneOf (stepKeywords dialect) then leadToSchema dialect contents rest
    else if isOneOf (Resource.listKeywords dialect ++ Resource.mapKeywords dialect) then
      match rest with
      | [] => false
      | _ :: rest => leadToSchema dialect contents rest
    else false

/-- A member of a sequence by its index; a negative one counts from the end. -/
private def memberAt (items : List Value) (token : String) : Except Fault Value :=
  match Text.integer? token.toList with
  | none => .error .unconvertible
  | some i =>
    let index := if i < 0 then i + items.length else i
    match if index < 0 then none else items[index.toNat]? with
    | some v => .ok v
    | none => .error .unknownPlace

/-- One step of a pointer: what it leads to, and its name unless it is an index. -/
def step (contents : Value) (token : String) : Except Fault (Value × Option String) :=
  match contents with
  | .obj fields =>
    let name := Pointer.unescape token
    match fields.lookup (.text name) with
    | some v => .ok (v, some name)
    | none => .error .unknownPlace
  | .list _ | .pair .. | .text _ | .atom (.bytes _) => do
    return (← memberAt (← contents.members) token, none)
  | _ => .error .wrongArgument

/-- Follows the tokens of a pointer; each schema on the way is entered. -/
def follow (dialect : Dialect) (passed : List (Option String)) (scope : Scope) (contents : Value) :
    List String → Except Fault Target
  | [] => .ok ⟨contents, scope⟩
  | token :: rest => do
    let (contents, name) ← step contents token
    let passed := passed ++ [name]
    if leadToSchema dialect contents passed then
      match ← (Resource.mk dialect contents).id? with
      | some id => follow dialect [] { scope with base := ← joined scope.base id } contents rest
      | none => follow dialect passed scope contents rest
    else follow dialect passed scope contents rest

/-- The resource of the outermost address on a trail that declares a dynamic anchor. -/
private def outermost (library : Library) (name : String) (innermost : Resource) :
    List String → Except Fault Resource
  | [] => .ok innermost
  | address :: rest =>
    match library.anchor address name with
    | .ok (a, _) => outermost library name (if a.isDynamic then a.resource else innermost) rest
    | .error .unknownAnchor => outermost library name innermost rest
    | .error fault => .error fault

/-- What a reference leads to: a resource, a part of it by a pointer, or an anchor in it. -/
def lookUp (scope : Scope) (reference : String) : Except Fault Target := do
  let (address, fragment) ← match reference.toList with
    | '#' :: fragment => pure (scope.base, fragment)
    | _ => match Url.cutFragment? (← joined scope.base reference).toList with
      | some (address, fragment) => pure (String.ofList address, fragment)
      | none => throw .malformedUrl
  match ← scope.library.find? address with
  | none => throw .unknownResource
  | some (r, library) =>
    let here := scope.moved address library
    match fragment with
    | [] => return ⟨r.contents, here⟩
    | '/' :: pointer =>
      follow r.dialect [] here r.contents ((Text.splitOn '/' (Url.percentDecode pointer)).map String.ofList)
    | name =>
      let (a, library) ← library.anchor address (String.ofList name)
      let here := scope.moved address library
      if a.isDynamic then
        let found ← outermost library (String.ofList name) a.resource here.trail
        return ⟨found.contents, ← here.inside found⟩
      else return ⟨a.resource.contents, here⟩

private def isRecursive (v : Value) : Bool := (v.field? "$recursiveAnchor").any Value.isTruthy

/-- Goes outward along a trail as long as the resources are recursive. -/
private def recursiveAlong (scope : Scope) (found : Target) : List String → Except Fault Target
  | [] => .ok found
  | address :: rest => do
    let next ← scope.lookUp address
    if isRecursive next.contents then recursiveAlong scope next rest else return found

/-- What a recursive reference leads to: the root, or the outermost of the recursive
resources that this one was reached through. -/
def lookUpRecursive (scope : Scope) : Except Fault Target := do
  let found ← scope.lookUp "#"
  if isRecursive found.contents then recursiveAlong scope found scope.trail else return found

end Scope
end SwaggerGate.Schema
