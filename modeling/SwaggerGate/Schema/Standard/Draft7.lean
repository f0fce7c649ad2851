import SwaggerGate.Schema.Standard.Term

/-! The schema of schemas of draft 7. -/
namespace SwaggerGate.Schema.Standard

def draft7 : Value := .record
  [("$schema", .text (Dialect.draft7.address ++ "#")),
   ("$id", .text (Dialect.draft7.address ++ "#")),
   ("title", .text "Core schema meta-schema"),
   ("definitions", .record [("schemaArray", typed "array" [("minItems", .int 1), ("items", ref "#")]),
    ("nonNegativeInteger", typed "integer" [("minimum", .int 0)]),
    ("nonNegativeIntegerDefault0", .record [
      ("allOf", .list [ref "#/definitions/nonNegativeInteger", .record [("default", .int 0)]])]),
    ("simpleTypes", .record [
      ("enum", .texts ["array", "boolean", "integer", "null", "number", "object", "string"])]),
    ("stringArray", typed "array" [("items", typed "string" []), ("uniqueItems", .bool true),
      ("default", .list [])])]),
   ("type", .texts ["object", "boolean"]),
   ("properties", .record [("$id", typed "string" [("format", .text "uri-reference")]),
    ("$schema", typed "string" [("format", .text "uri")]),
    ("$ref", typed "string" [("format", .text "uri-reference")]), ("$comment", typed "string" []),
    ("title", typed "string" []), ("description", typed "string" []), ("default", .bool true),
    ("readOnly", typed "boolean" [("default", .bool false)]),
    ("examples", typed "array" [("items", .bool true)]),
    ("multipleOf", typed "number" [("exclusiveMinimum", .int 0)]), ("maximum", typed "number" []),
    ("exclusiveMaximum", typed "number" []), ("minimum", typed "number" []),
    ("exclusiveMinimum", typed "number" []), ("maxLength", ref "#/definitions/nonNegativeInteger"),
    ("minLength", ref "#/definitions/nonNegativeIntegerDefault0"),
    ("pattern", typed "string" [("format", .text "regex")]), ("additionalItems", ref "#"),
    ("items", .record [("anyOf", .list [ref "#", ref "#/definitions/schemaArray"]), ("default", .bool true)]),
    ("maxItems", ref "#/definitions/nonNegativeInteger"),
    ("minItems", ref "#/definitions/nonNegativeIntegerDefault0"),
    ("uniqueItems", typed "boolean" [("default", .bool false)]), ("contains", ref "#"),
    ("maxProperties", ref "#/definitions/nonNegativeInteger"),
    ("minProperties", ref "#/definitions/nonNegativeIntegerDefault0"),
    ("required", ref "#/definitions/stringArray"), ("additionalProperties", ref "#"),
    ("definitions", typed "object" [("additionalProperties", ref "#"), ("default", .obj [])]),
    ("properties", typed "object" [("additionalProperties", ref "#"), ("default", .obj [])]),
    ("patternProperties", typed "object" [("additionalProperties", ref "#"),
      ("propertyNames", .record [("format", .text "regex")]), ("default", .obj [])]),
    ("dependencies", typed "object" [
      ("additionalProperties", .record [("anyOf", .list [ref "#", ref "#/definitions/stringArray"])])]),
    ("propertyNames", ref "#"), ("const", .bool true), ("enum", typed "array" [("items", .bool true)]),
    ("type", .record [
      ("anyOf", .list [ref "#/definitions/simpleTypes",
        typed "array" [("items", ref "#/definitions/simpleTypes"), ("minItems", .int 1), ("uniqueItems", .bool true)]])]),
    ("format", typed "string" []), ("contentMediaType", typed "string" []),
    ("contentEncoding", typed "string" []), ("if", ref "#"), ("then", ref "#"), ("else", ref "#"),
    ("allOf", ref "#/definitions/schemaArray"), ("anyOf", ref "#/definitions/schemaArray"),
    ("oneOf", ref "#/definitions/schemaArray"), ("not", ref "#")]),
   ("default", .bool true)]

end SwaggerGate.Schema.Standard
