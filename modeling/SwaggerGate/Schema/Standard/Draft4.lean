import SwaggerGate.Schema.Standard.Term

/-! The schema of schemas of draft 4. -/
namespace SwaggerGate.Schema.Standard

def draft4 : Value := .record
  [("id", .text (Dialect.draft4.address ++ "#")),
   ("$schema", .text (Dialect.draft4.address ++ "#")),
   ("description", .text "Core schema meta-schema"),
   ("definitions", .record [("schemaArray", typed "array" [("minItems", .int 1), ("items", ref "#")]),
    ("positiveInteger", typed "integer" [("minimum", .int 0)]),
    ("positiveIntegerDefault0", .record [
      ("allOf", .list [ref "#/definitions/positiveInteger", .record [("default", .int 0)]])]),
    ("simpleTypes", .record [
      ("enum", .texts ["array", "boolean", "integer", "null", "number", "object", "string"])]),
    ("stringArray", typed "array" [("items", typed "string" []), ("minItems", .int 1),
      ("uniqueItems", .bool true)])]),
   ("type", .text "object"),
   ("properties", .record [("id", typed "string" []), ("$schema", typed "string" []),
    ("title", typed "string" []), ("description", typed "string" []), ("default", .obj []),
    ("multipleOf", typed "number" [("minimum", .int 0), ("exclusiveMinimum", .bool true)]),
    ("maximum", typed "number" []), ("exclusiveMaximum", typed "boolean" []), ("minimum", typed "number" []),
    ("exclusiveMinimum", typed "boolean" []), ("maxLength", ref "#/definitions/positiveInteger"),
    ("minLength", ref "#/definitions/positiveIntegerDefault0"),
    ("pattern", typed "string" [("format", .text "regex")]),
    ("additionalItems", .record [("anyOf", .list [typed "boolean" [], ref "#"]), ("default", .obj [])]),
    ("items", .record [("anyOf", .list [ref "#", ref "#/definitions/schemaArray"]), ("default", .obj [])]),
    ("maxItems", ref "#/definitions/positiveInteger"),
    ("minItems", ref "#/definitions/positiveIntegerDefault0"),
    ("uniqueItems", typed "boolean" [("default", .bool false)]),
    ("maxProperties", ref "#/definitions/positiveInteger"),
    ("minProperties", ref "#/definitions/positiveIntegerDefault0"),
    ("required", ref "#/definitions/stringArray"),
    ("additionalProperties", .record [("anyOf", .list [typed "boolean" [], ref "#"]), ("default", .obj [])]),
    ("definitions", typed "object" [("additionalProperties", ref "#"), ("default", .obj [])]),
    ("properties", typed "object" [("additionalProperties", ref "#"), ("default", .obj [])]),
    ("patternProperties", typed "object" [("additionalProperties", ref "#"), ("default", .obj [])]),
    ("dependencies", typed "object" [
      ("additionalProperties", .record [("anyOf", .list [ref "#", ref "#/definitions/stringArray"])])]),
    ("enum", typed "array" [("minItems", .int 1), ("uniqueItems", .bool true)]),
    ("type", .record [
      ("anyOf", .list [ref "#/definitions/simpleTypes",
        typed "array" [("items", ref "#/definitions/simpleTypes"), ("minItems", .int 1), ("uniqueItems", .bool true)]])]),
    ("format", typed "string" []), ("allOf", ref "#/definitions/schemaArray"),
    ("anyOf", ref "#/definitions/schemaArray"), ("oneOf", ref "#/definitions/schemaArray"), ("not", ref "#")]),
   ("dependencies", .record [("exclusiveMaximum", .texts ["maximum"]),
    ("exclusiveMinimum", .texts ["minimum"])]),
   ("default", .obj [])]

end SwaggerGate.Schema.Standard
