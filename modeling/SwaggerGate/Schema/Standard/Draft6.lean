import SwaggerGate.Schema.Standard.Term

/-! The schema of schemas of draft 6. -/
namespace SwaggerGate.Schema.Standard

def draft6 : Value := .record
  [("$schema", .text (Dialect.draft6.address ++ "#")),
   ("$id", .text (Dialect.draft6.address ++ "#")),
   ("title", .text "Core schema meta-schema"),
   ("definitions", .record [("schemaArray", typed "array" [("minItems", .int 1), ("items", ref "#")]),
    ("nonNegativeInteger", typed "integer" [("minimum", .int 0)]),
    ("nonNegativeIntegerDefault0", .record [
      ("allOf", .list [ref "#/definitions/nonNegativeInteger", .record [("default", .int 0)]])]),
    ("simpleTypes", .record [
      ("enum", .texts ["array", "boolean", "integer", "null", "number", "object", "string"])]),
    ("stringArray", typed "array" [("items", typed "string" []), ("uniqueItems", .bool true),
      ("default", .list [])])]),
   ("type", .texts ["object", "boolean"]),
   ("properties", .record [("$id", typed "string" [("format", .text "uri-reference")]),
    ("$schema", typed "string" [("format", .text "uri")]),
    ("$ref", typed "string" [("format", .text "uri-reference")]), ("title", typed "string" []),
    ("description", typed "string" []), ("default", .obj []), ("examples", typed "array" [("items", .obj [])]),
    ("multipleOf", typed "number" [("exclusiveMinimum", .int 0)]), ("maximum", typed "number" []),
    ("exclusiveMaximum", typed "number" []), ("minimum", typed "number" []),
    ("exclusiveMinimum", typed "number" []), ("maxLength", ref "#/definitions/nonNegativeInteger"),
    ("minLength", ref "#/definitions/nonNegativeIntegerDefault0"),
    ("pattern", typed "string" [("format", .text "regex")]), ("additionalItems", ref "#"),
    ("items", .record [("anyOf", .list [ref "#", ref "#/definitions/schemaArray"]), ("default", .obj [])]),
    ("maxItems", ref "#/definitions/nonNegativeInteger"),
    ("minItems", ref "#/definitions/nonNegativeIntegerDefault0"),
    ("uniqueItems", typed "boolean" [("default", .bool false)]), ("contains", ref "#"),
    ("maxProperties", ref "#/definitions/nonNegativeInteger"),
    ("minProperties", ref "#/definitions/nonNegativeIntegerDefault0"),
    ("required", ref "#/definitions/stringArray"), ("additionalProperties", ref "#"),
    ("definitions", typed "object" [("additionalProperties", ref "#"), ("default", .obj [])]),
    ("properties", typed "object" [("additionalProperties", ref "#"), ("default", .obj [])]),
    ("patternProperties", typed "object" [("additionalProperties", ref "#"), ("default", .obj [])]),
    ("dependencies", typed "object" [
      ("additionalProperties", .record [("anyOf", .list [ref "#", ref "#/definitions/stringArray"])])]),
    ("propertyNames", ref "#"), ("const", .obj []),
    ("enum", typed "array" [("minItems", .int 1), ("uniqueItems", .bool true)]),
    ("type", .record [
      ("anyOf", .list [ref "#/definitions/simpleTypes",
        typed "array" [("items", ref "#/definitions/simpleTypes"), ("minItems", .int 1), ("uniqueItems", .bool true)]])]),
    ("format", typed "string" []), ("allOf", ref "#/definitions/schemaArray"),
    ("anyOf", ref "#/definitions/schemaArray"), ("oneOf", ref "#/definitions/schemaArray"), ("not", ref "#")]),
   ("default", .obj [])]

end SwaggerGate.Schema.Standard
