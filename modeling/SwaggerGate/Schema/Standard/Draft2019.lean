import SwaggerGate.Schema.Standard.Term

/-! The schema of schemas of the edition of September 2019, with a part for each vocabulary. -/
namespace SwaggerGate.Schema.Standard

def draft2019 : Value := .record
  [("$schema", .text Dialect.draft2019.address),
   ("$id", .text Dialect.draft2019.address),
   ("$recursiveAnchor", .bool true),
   ("title", .text "Core and Validation specifications meta-schema"),
   ("allOf", .list [ref "meta/core", ref "meta/applicator", ref "meta/validation", ref "meta/meta-data",
    ref "meta/format", ref "meta/content"]),
   ("type", .texts ["object", "boolean"]),
   ("properties", .record [
    ("definitions", typed "object" [("additionalProperties", recursiveRef), ("default", .obj [])]),
    ("dependencies", typed "object" [
      ("additionalProperties", .record [
        ("anyOf", .list [recursiveRef, ref "meta/validation#/$defs/stringArray"])])])])]

def core2019 : Value := .record
  [("$schema", .text Dialect.draft2019.address),
   ("$id", .text (part2019 "core")),
   ("$recursiveAnchor", .bool true),
   ("title", .text "Core vocabulary meta-schema"),
   ("type", .texts ["object", "boolean"]),
   ("properties", .record [
    ("$id", typed "string" [("format", .text "uri-reference"), ("pattern", .text "^[^#]*#?$")]),
    ("$schema", typed "string" [("format", .text "uri")]),
    ("$anchor", typed "string" [("pattern", .text "^[A-Za-z][-A-Za-z0-9.:_]*$")]),
    ("$ref", typed "string" [("format", .text "uri-reference")]),
    ("$recursiveRef", typed "string" [("format", .text "uri-reference")]),
    ("$recursiveAnchor", typed "boolean" [("default", .bool false)]),
    ("$vocabulary", typed "object" [("propertyNames", typed "string" [("format", .text "uri")]),
      ("additionalProperties", typed "boolean" [])]), ("$comment", typed "string" []),
    ("$defs", typed "object" [("additionalProperties", recursiveRef), ("default", .obj [])])])]

def applicator2019 : Value := .record
  [("$schema", .text Dialect.draft2019.address),
   ("$id", .text (part2019 "applicator")),
   ("$recursiveAnchor", .bool true),
   ("title", .text "Applicator vocabulary meta-schema"),
   ("type", .texts ["object", "boolean"]),
   ("properties", .record [("additionalItems", recursiveRef), ("unevaluatedItems", recursiveRef),
    ("items", .record [("anyOf", .list [recursiveRef, ref "#/$defs/schemaArray"])]), ("contains", recursiveRef),
    ("additionalProperties", recursiveRef), ("unevaluatedProperties", recursiveRef),
    ("properties", typed "object" [("additionalProperties", recursiveRef), ("default", .obj [])]),
    ("patternProperties", typed "object" [("additionalProperties", recursiveRef),
      ("propertyNames", .record [("format", .text "regex")]), ("default", .obj [])]),
    ("dependentSchemas", typed "object" [("additionalProperties", recursiveRef)]),
    ("propertyNames", recursiveRef), ("if", recursiveRef), ("then", recursiveRef), ("else", recursiveRef),
    ("allOf", ref "#/$defs/schemaArray"), ("anyOf", ref "#/$defs/schemaArray"),
    ("oneOf", ref "#/$defs/schemaArray"), ("not", recursiveRef)]),
   ("$defs", .record [("schemaArray", typed "array" [("minItems", .int 1), ("items", recursiveRef)])])]

def validation2019 : Value := .record
  [("$schema", .text Dialect.draft2019.address),
   ("$id", .text (part2019 "validation")),
   ("$recursiveAnchor", .bool true),
   ("title", .text "Validation vocabulary meta-schema"),
   ("type", .texts ["object", "boolean"]),
   ("properties", .record [("multipleOf", typed "number" [("exclusiveMinimum", .int 0)]),
    ("maximum", typed "number" []), ("exclusiveMaximum", typed "number" []), ("minimum", typed "number" []),
    ("exclusiveMinimum", typed "number" []), ("maxLength", ref "#/$defs/nonNegativeInteger"),
    ("minLength", ref "#/$defs/nonNegativeIntegerDefault0"),
    ("pattern", typed "string" [("format", .text "regex")]), ("maxItems", ref "#/$defs/nonNegativeInteger"),
    ("minItems", ref "#/$defs/nonNegativeIntegerDefault0"),
    ("uniqueItems", typed "boolean" [("default", .bool false)]),
    ("maxContains", ref "#/$defs/nonNegativeInteger"),
    ("minContains", .record [("$ref", .text "#/$defs/nonNegativeInteger"), ("default", .int 1)]),
    ("maxProperties", ref "#/$defs/nonNegativeInteger"),
    ("minProperties", ref "#/$defs/nonNegativeIntegerDefault0"), ("required", ref "#/$defs/stringArray"),
    ("dependentRequired", typed "object" [("additionalProperties", ref "#/$defs/stringArray")]),
    ("const", .bool true), ("enum", typed "array" [("items", .bool true)]),
    ("type", .record [
      ("anyOf", .list [ref "#/$defs/simpleTypes",
        typed "array" [("items", ref "#/$defs/simpleTypes"), ("minItems", .int 1), ("uniqueItems", .bool true)]])])]),
   ("$defs", .record [("nonNegativeInteger", typed "integer" [("minimum", .int 0)]),
    ("nonNegativeIntegerDefault0", .record [("$ref", .text "#/$defs/nonNegativeInteger"), ("default", .int 0)]),
    ("simpleTypes", .record [
      ("enum", .texts ["array", "boolean", "integer", "null", "number", "object", "string"])]),
    ("stringArray", typed "array" [("items", typed "string" []), ("uniqueItems", .bool true),
      ("default", .list [])])])]

def metaData2019 : Value := .record
  [("$schema", .text Dialect.draft2019.address),
   ("$id", .text (part2019 "meta-data")),
   ("$recursiveAnchor", .bool true),
   ("title", .text "Meta-data vocabulary meta-schema"),
   ("type", .texts ["object", "boolean"]),
   ("properties", .record [("title", typed "string" []), ("description", typed "string" []),
    ("default", .bool true), ("deprecated", typed "boolean" [("default", .bool false)]),
    ("readOnly", typed "boolean" [("default", .bool false)]),
    ("writeOnly", typed "boolean" [("default", .bool false)]),
    ("examples", typed "array" [("items", .bool true)])])]

def format2019 : Value := .record
  [("$schema", .text Dialect.draft2019.address),
   ("$id", .text (part2019 "format")),
   ("$recursiveAnchor", .bool true),
   ("title", .text "Format vocabulary meta-schema"),
   ("type", .texts ["object", "boolean"]),
   ("properties", .record [("format", typed "string" [])])]

def content2019 : Value := .record
  [("$schema", .text Dialect.draft2019.address),
   ("$id", .text (part2019 "content")),
   ("$recursiveAnchor", .bool true),
   ("title", .text "Content vocabulary meta-schema"),
   ("type", .texts ["object", "boolean"]),
   ("properties", .record [("contentMediaType", typed "string" []), ("contentEncoding", typed "string" []),
    ("contentSchema", recursiveRef)])]

end SwaggerGate.Schema.Standard
