import SwaggerGate.Pattern.Read
import SwaggerGate.Pattern.Search
import SwaggerGate.Schema.Report
import SwaggerGate.Schema.Scope

/-! What a keyword may ask of the check that it is part of: the check of a part of the data
by a schema inside its own, or by the schema that a reference leads to. -/
namespace SwaggerGate.Schema

/-- Where a schema stands: its dialect, and the scope of its references. -/
structure Context where
  dialect : Dialect
  scope : Scope
  /-- Whether `format` is checked. -/
  checksFormats : Bool := false
  /-- Whether the check may end at its first violation. -/
  firstOnly : Bool := false
deriving Repr

/-- Reports about all members of a list, as far as the context asks for them. -/
def Context.each {α : Type} (context : Context) (report : α → Report) (items : List α) : Report :=
  Report.each context.firstOnly report items

/-- A check of data against a schema in its context. The first dialect, that of the schema
around, says whether a reference hides the keywords beside it. -/
abbrev Checker := (around : Dialect) → Context → (schema data : Value) → Report

/-- The part of a schema under a keyword, if it is given. -/
def argument? (fields : List (Atom × Value)) (name : String) : Option Value := fields.lookup (.text name)

/-- The pattern that an argument writes. -/
def patternOf (argument : Value) : Except Fault Pattern.Node :=
  match argument with
  | .text p => match Pattern.read p with
    | .ok pattern => .ok pattern
    | .error .tooLarge => .error .outOfRange
    | .error .longCount => .error .longInteger
    | .error .conflictingFlags => .error .conflictingFlags
    | .error .malformed => .error .badPattern
  | _ => .error .wrongArgument

/-- Whether a pattern is found in a text. -/
def patternHolds (argument : Value) (text : String) : Except Fault Bool :=
  (patternOf argument).map fun pattern => Pattern.search pattern text

section Parts

variable (check : Checker) (context : Context)

/-- The check by a schema, with the scope of its references already known. -/
def checkIn (scope : Scope) (schema data : Value) : Report :=
  match schema with
  | .bool true => .ok
  | .bool false => .violation (.neverValid data)
  | _ => .attempt (Dialect.ofSchema context.dialect schema) fun dialect =>
    check context.dialect { context with dialect, scope } schema data

/-- The check by a schema inside the present one. -/
def descend (schema data : Value) : Report :=
  match schema with
  | .bool _ => checkIn check context context.scope schema data
  | _ => .attempt (context.scope.inside ⟨context.dialect, schema⟩) fun scope =>
    checkIn check context scope schema data

/-- The check of a part of the data, one step inside, by a schema inside the present one.
A schema that allows nothing is violated by the whole, so no step leads to its violation. -/
def descendInto (step : Step) (schema part : Value) : Report :=
  match schema with
  | .bool _ => descend check context schema part
  | _ => (descend check context schema part).under step

/-- Whether data passes a schema inside the present one, in the present scope. -/
def isValid (schema data : Value) : Except Fault Bool :=
  match schema with
  | .bool b => .ok b
  | _ => do
    let dialect ← Dialect.ofSchema context.dialect schema
    (check dialect { context with dialect, firstOnly := true } schema data).holds

/-- The check by the schema that a reference leads to. -/
def reference (ref data : Value) : Report :=
  match ref with
  | .text r => .attempt ((context.scope.lookUp r).mapError Fault.ofLookUp) fun target => checkIn check context target.scope target.contents data
  | .atom (.bytes _) => .stop .wrongArgument
  | _ => .stop .notAnObject

def recursiveReference (data : Value) : Report :=
  .attempt context.scope.lookUpRecursive fun target => checkIn check context target.scope target.contents data

end Parts

end SwaggerGate.Schema
