import SwaggerGate.Fault
import SwaggerGate.Schema.Keyword
import SwaggerGate.Text.Split
import SwaggerGate.Url
import SwaggerGate.Value

/-! Dialects of JSON Schema. A schema can name its dialect by address; inside it that
dialect's keywords and types count. -/
namespace SwaggerGate.Schema

inductive Dialect where
  | draft3 | draft4 | draft6 | draft7 | draft2019 | draft2020
deriving DecidableEq, Repr

namespace Dialect

def all : List Dialect := [.draft3, .draft4, .draft6, .draft7, .draft2019, .draft2020]

/-- Where the addresses of the dialects lie. -/
def host : String := "//json-schema.org/"

def site : String := "http:" ++ host

def secureSite : String := "https:" ++ host

def address : Dialect → String
  | .draft3 => site ++ "draft-03/schema"
  | .draft4 => site ++ "draft-04/schema"
  | .draft6 => site ++ "draft-06/schema"
  | .draft7 => site ++ "draft-07/schema"
  | .draft2019 => secureSite ++ "draft/2019-09/schema"
  | .draft2020 => secureSite ++ "draft/2020-12/schema"

def addressed? (address : String) : Option Dialect := all.find? (·.address == address)

/-- Dialects in the order of their age. -/
def rank : Dialect → Nat
  | .draft3 => 3
  | .draft4 => 4
  | .draft6 => 6
  | .draft7 => 7
  | .draft2019 => 8
  | .draft2020 => 9

/-- The oldest and the newest dialect that know a keyword. -/
def span : Keyword → Dialect × Dialect
  | .ref | .additionalProperties | .enum | .format | .items | .maxItems | .maxLength | .maximum | .minItems
  | .minLength | .minimum | .pattern | .patternProperties | .properties | .type | .uniqueItems =>
    (.draft3, .draft2020)
  | .disallow | .divisibleBy | .extending => (.draft3, .draft3)
  | .dependencies => (.draft3, .draft7)
  | .additionalItems => (.draft3, .draft2019)
  | .allOf | .anyOf | .maxProperties | .minProperties | .multipleOf | .not | .oneOf | .required =>
    (.draft4, .draft2020)
  | .const | .contains | .exclusiveMaximum | .exclusiveMinimum | .propertyNames => (.draft6, .draft2020)
  | .condition => (.draft7, .draft2020)
  | .recursiveRef => (.draft2019, .draft2019)
  | .dependentRequired | .dependentSchemas | .unevaluatedItems | .unevaluatedProperties => (.draft2019, .draft2020)
  | .dynamicRef | .prefixItems => (.draft2020, .draft2020)

def knows (dialect : Dialect) (keyword : Keyword) : Bool :=
  (span keyword).1.rank ≤ dialect.rank && dialect.rank ≤ (span keyword).2.rank

/-- The keyword of a name, if the dialect has it. -/
def keyword? (dialect : Dialect) (name : String) : Option Keyword := (Keyword.named? name).filter dialect.knows

/-- The type of a name, if the dialect has it. -/
def type? (dialect : Dialect) (name : String) : Option DataType :=
  (DataType.named? name).filter fun t => t != .any || dialect == .draft3

/-- Whether a reference hides the keywords beside it. -/
def refHidesSiblings (dialect : Dialect) : Bool := dialect.rank ≤ 7

/-- Whether a value has a type. Integers are numbers, booleans are neither; a number without
a fraction is an integer in the later dialects. -/
def hasType (dialect : Dialect) : DataType → Value → Bool
  | .any, _ => true
  | .null, .null => true
  | .boolean, .bool _ => true
  | .integer, .int _ => true
  | .integer, .float x => 6 ≤ dialect.rank && x.integer?.isSome
  | .number, .int _ => true
  | .number, .float _ => true
  | .string, .text _ => true
  | .array, .list _ => true
  | .object, .obj _ => true
  | _, _ => false

/-- The dialect that a `$schema` entry names, or else another one. -/
def named (other : Dialect) : Value → Except Fault Dialect
  | .text address => match Url.split? address.toList with
    | some url => .ok ((addressed? (String.ofList url.text)).getD other)
    | none => .error .malformedUrl
  | .atom (.bytes b) => if b.all (· < 128) then .ok other else .error .notUtf8
  | .list _ | .obj _ | .set _ => .error .wrongArgument
  | v => if v.isTruthy then .error .notAnObject else .ok other

/-- The dialect of a schema: the one that it names, or else that of the schema around it. -/
def ofSchema (around : Dialect) : Value → Except Fault Dialect
  | .obj fields => match fields.lookup (.text "$schema") with
    | some v => named around v
    | none => .ok around
  | .bool _ => .ok around
  | .text s => if Text.occursIn "$schema".toList s.toList then .error .wrongArgument else .ok around
  | .list items => if items.contains (.text "$schema") then .error .wrongArgument else .ok around
  | .set members => if members.contains (.text "$schema") then .error .wrongArgument else .ok around
  | .pair a b => if [a, b].contains (.text "$schema") then .error .wrongArgument else .ok around
  | _ => .error .wrongArgument

end Dialect
end SwaggerGate.Schema
