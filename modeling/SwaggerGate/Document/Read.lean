import SwaggerGate.Document
import SwaggerGate.Document.Reading

/-! Reading a description document off decoded data. Fields have a name and an alias, and
the name wins where both are given; entries that no field claims are kept. -/
namespace SwaggerGate

open Reading (Place)

namespace Items

private def known : List String := ["type", "enum", "items", "collection_format", "collectionFormat"]

/-- How deeply element descriptors may nest. -/
def nestingLimit : Nat := 255

/-- Reads an element descriptor inside others, within a bound on their nesting. None may be
part of itself. -/
def readWithin : Nat → (around : List Value) → Place → Value → Reading Items
  | 0, _, place, _ => Reading.defect place .recursive {}
  | nesting + 1, around, place, v =>
    if around.contains v then Reading.defect place .recursive {}
    else Reading.object (fun place fields =>
      let type := Reading.field (Reading.choice ParamType.all ParamType.name .string) place "type" "type" .string fields
      let enum := Reading.field (Reading.optional Reading.items) place "enum" "enum" none fields
      let inner := Reading.field (Reading.optional (readWithin nesting (v :: around))) place "items" "items" none fields
      let format := Reading.field Reading.string place "collectionFormat" "collection_format" "csv" fields
      let extra := Reading.extras place known fields
      { value := { type := type.value, enum := enum.value, items := inner.value,
                   collectionFormat := format.value, extra := extra.value }
        defects := type.defects ++ enum.defects ++ inner.defects ++ format.defects ++ extra.defects }) {} place v

/-- Reads an element descriptor. -/
def read (place : Place) (v : Value) : Reading Items := readWithin nestingLimit [] place v

end Items

namespace Parameter

private def known : List String :=
  ["name", "location", "in", "type", "required", "enum", "items", "collection_format", "collectionFormat",
    "body_schema", "schema", "ref", "$ref"]

def readFields (place : Place) (fields : List (Atom × Value)) : Reading Parameter :=
    let name := Reading.field Reading.string place "name" "name" "" fields
    let location := Reading.field (Reading.optional (Reading.choice Location.all Location.name .path))
      place "in" "location" none fields
    let type := Reading.field (Reading.optional (Reading.choice ParamType.all ParamType.name .string))
      place "type" "type" none fields
    let required := Reading.field Reading.truth place "required" "required" false fields
    let enum := Reading.field (Reading.optional Reading.items) place "enum" "enum" none fields
    let items := Reading.field (Reading.optional Items.read) place "items" "items" none fields
    let format := Reading.field Reading.string place "collectionFormat" "collection_format" "csv" fields
    let schema := Reading.field (Reading.optional Reading.fields) place "schema" "body_schema" none fields
    let ref := Reading.field (Reading.optional Reading.string) place "$ref" "ref" none fields
    let extra := Reading.extras place known fields
    { value := { name := name.value, location := location.value, type := type.value,
                 required := required.value, enum := enum.value, items := items.value,
                 collectionFormat := format.value, schema := schema.value, ref := ref.value,
                 extra := extra.value }
      defects := name.defects ++ location.defects ++ type.defects ++ required.defects ++ enum.defects
        ++ items.defects ++ format.defects ++ schema.defects ++ ref.defects ++ extra.defects }

def read (place : Place) (v : Value) : Reading Parameter := Reading.object readFields {} place v

end Parameter

def Endpoint.read (place : Place) (v : Value) : Reading Endpoint :=
  Reading.object (fun place fields =>
    let parameters := Reading.field (Reading.list Parameter.read) place "parameters" "parameters" [] fields
    let extra := Reading.extras place ["parameters"] fields
    ⟨{ parameters := parameters.value, extra := extra.value }, parameters.defects ++ extra.defects⟩) {} place v

/-- Reads the methods that a path declares, in the order of all methods. -/
def PathItem.readEndpoints (place : Place) (fields : List (Atom × Value)) : Reading (List (Method × Endpoint)) :=
  let readings := Method.all.filterMap fun method =>
    match fields.lookup (.text method.name) with
    | none | some .null => none
    | some v => some (method, Endpoint.read (place ++ [method.name]) v)
  ⟨readings.map fun r => (r.1, r.2.value), readings.flatMap fun r => r.2.defects⟩

def PathItem.read (place : Place) (v : Value) : Reading PathItem :=
  Reading.object (fun place fields =>
    let parameters := Reading.field (Reading.list Parameter.read) place "parameters" "parameters" [] fields
    let endpoints := readEndpoints place fields
    let extra := Reading.extras place ("parameters" :: Method.all.map Method.name) fields
    ⟨{ parameters := parameters.value, endpoints := endpoints.value, extra := extra.value },
      parameters.defects ++ endpoints.defects ++ extra.defects⟩) {} place v

namespace Document

private def known : List String := ["base_path", "basePath", "paths", "definitions", "parameters"]

/-- Reads the schema of a definition. -/
def schema (place : Place) (v : Value) : Reading Value := (Reading.fields place v).map .obj

def read (v : Value) : Reading Document :=
  Reading.object (fun place fields =>
    let basePath := Reading.field (Reading.optional Reading.string) place "basePath" "base_path" none fields
    let paths := Reading.field (Reading.table PathItem.read) place "paths" "paths" [] fields
    let definitions := Reading.field (Reading.table schema) place "definitions" "definitions" [] fields
    let parameters := Reading.field (Reading.table Parameter.read) place "parameters" "parameters" [] fields
    let extra := Reading.extras place known fields
    { value := { basePath := basePath.value, paths := paths.value, definitions := definitions.value,
                 parameters := parameters.value, extra := extra.value }
      defects := basePath.defects ++ paths.defects ++ definitions.defects ++ parameters.defects
        ++ extra.defects }) {} [] v

/-- The document that data describes, or every defect of the data. -/
def ofValue (data : Value) : Except (List Defect) Document := (read data).result

end Document
end SwaggerGate
