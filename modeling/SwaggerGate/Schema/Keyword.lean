/-! The keywords and type names of JSON Schema that checks know, in any of its dialects. -/
namespace SwaggerGate.Schema

inductive Keyword where
  | ref | dynamicRef | recursiveRef | additionalItems | additionalProperties | allOf | anyOf | const | contains
  | dependencies | dependentRequired | dependentSchemas | disallow | divisibleBy | enum | exclusiveMaximum
  | exclusiveMinimum | extending | format | condition | items | maxItems | maxLength | maxProperties | maximum
  | minItems | minLength | minProperties | minimum | multipleOf | not | oneOf | pattern | patternProperties
  | prefixItems | properties | propertyNames | required | type | unevaluatedItems | unevaluatedProperties
  | uniqueItems
deriving DecidableEq, Repr

namespace Keyword

def all : List Keyword :=
  [.ref, .dynamicRef, .recursiveRef, .additionalItems, .additionalProperties, .allOf, .anyOf, .const, .contains,
    .dependencies, .dependentRequired, .dependentSchemas, .disallow, .divisibleBy, .enum, .exclusiveMaximum,
    .exclusiveMinimum, .extending, .format, .condition, .items, .maxItems, .maxLength, .maxProperties, .maximum,
    .minItems, .minLength, .minProperties, .minimum, .multipleOf, .not, .oneOf, .pattern, .patternProperties,
    .prefixItems, .properties, .propertyNames, .required, .type, .unevaluatedItems, .unevaluatedProperties,
    .uniqueItems]

def name : Keyword → String
  | .ref => "$ref"
  | .dynamicRef => "$dynamicRef"
  | .recursiveRef => "$recursiveRef"
  | .additionalItems => "additionalItems"
  | .additionalProperties => "additionalProperties"
  | .allOf => "allOf"
  | .anyOf => "anyOf"
  | .const => "const"
  | .contains => "contains"
  | .dependencies => "dependencies"
  | .dependentRequired => "dependentRequired"
  | .dependentSchemas => "dependentSchemas"
  | .disallow => "disallow"
  | .divisibleBy => "divisibleBy"
  | .enum => "enum"
  | .exclusiveMaximum => "exclusiveMaximum"
  | .exclusiveMinimum => "exclusiveMinimum"
  | .extending => "extends"
  | .format => "format"
  | .condition => "if"
  | .items => "items"
  | .maxItems => "maxItems"
  | .maxLength => "maxLength"
  | .maxProperties => "maxProperties"
  | .maximum => "maximum"
  | .minItems => "minItems"
  | .minLength => "minLength"
  | .minProperties => "minProperties"
  | .minimum => "minimum"
  | .multipleOf => "multipleOf"
  | .not => "not"
  | .oneOf => "oneOf"
  | .pattern => "pattern"
  | .patternProperties => "patternProperties"
  | .prefixItems => "prefixItems"
  | .properties => "properties"
  | .propertyNames => "propertyNames"
  | .required => "required"
  | .type => "type"
  | .unevaluatedItems => "unevaluatedItems"
  | .unevaluatedProperties => "unevaluatedProperties"
  | .uniqueItems => "uniqueItems"

def named? (text : String) : Option Keyword := all.find? (·.name == text)

end Keyword

inductive DataType where
  | any | array | boolean | integer | null | number | object | string
deriving DecidableEq, Repr

namespace DataType

def all : List DataType := [.any, .array, .boolean, .integer, .null, .number, .object, .string]

def name : DataType → String
  | .any => "any"
  | .array => "array"
  | .boolean => "boolean"
  | .integer => "integer"
  | .null => "null"
  | .number => "number"
  | .object => "object"
  | .string => "string"

def named? (text : String) : Option DataType := all.find? (·.name == text)

end DataType

end SwaggerGate.Schema
