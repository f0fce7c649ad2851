import SwaggerGate.Schema.Standard.Term

/-! The schema of schemas of draft 3. -/
namespace SwaggerGate.Schema.Standard

def draft3 : Value := .record
  [("$schema", .text (Dialect.draft3.address ++ "#")),
   ("id", .text (Dialect.draft3.address ++ "#")),
   ("type", .text "object"),
   ("properties", .record [
    ("type", .record [("type", .texts ["string", "array"]),
      ("items", .record [("type", .list [.text "string", ref "#"])]), ("uniqueItems", .bool true),
      ("default", .text "any")]),
    ("properties", typed "object" [
      ("additionalProperties", .record [("$ref", .text "#"), ("type", .text "object")]), ("default", .obj [])]),
    ("patternProperties", typed "object" [("additionalProperties", ref "#"), ("default", .obj [])]),
    ("additionalProperties", .record [("type", .list [ref "#", .text "boolean"]), ("default", .obj [])]),
    ("items", .record [("type", .list [ref "#", .text "array"]), ("items", ref "#"), ("default", .obj [])]),
    ("additionalItems", .record [("type", .list [ref "#", .text "boolean"]), ("default", .obj [])]),
    ("required", typed "boolean" [("default", .bool false)]),
    ("dependencies", typed "object" [
      ("additionalProperties", .record [("type", .list [.text "string", .text "array", ref "#"]),
        ("items", typed "string" [])]), ("default", .obj [])]), ("minimum", typed "number" []),
    ("maximum", typed "number" []), ("exclusiveMinimum", typed "boolean" [("default", .bool false)]),
    ("exclusiveMaximum", typed "boolean" [("default", .bool false)]),
    ("minItems", typed "integer" [("minimum", .int 0), ("default", .int 0)]),
    ("maxItems", typed "integer" [("minimum", .int 0)]),
    ("uniqueItems", typed "boolean" [("default", .bool false)]),
    ("pattern", typed "string" [("format", .text "regex")]),
    ("minLength", typed "integer" [("minimum", .int 0), ("default", .int 0)]),
    ("maxLength", typed "integer" []),
    ("enum", typed "array" [("minItems", .int 1), ("uniqueItems", .bool true)]), ("default", typed "any" []),
    ("title", typed "string" []), ("description", typed "string" []), ("format", typed "string" []),
    ("divisibleBy", typed "number" [("minimum", .int 0), ("exclusiveMinimum", .bool true),
      ("default", .int 1)]),
    ("disallow", .record [("type", .texts ["string", "array"]),
      ("items", .record [("type", .list [.text "string", ref "#"])]), ("uniqueItems", .bool true)]),
    ("extends", .record [("type", .list [ref "#", .text "array"]), ("items", ref "#"), ("default", .obj [])]),
    ("id", typed "string" []), ("$ref", typed "string" []),
    ("$schema", typed "string" [("format", .text "uri")])]),
   ("dependencies", .record [("exclusiveMinimum", .text "minimum"), ("exclusiveMaximum", .text "maximum")]),
   ("default", .obj [])]

end SwaggerGate.Schema.Standard
