import SwaggerGate.Schema.Standard.Term

/-! The schema of schemas of the edition of December 2020, with a part for each vocabulary. -/
namespace SwaggerGate.Schema.Standard

def draft2020 : Value := .record
  [("$schema", .text Dialect.draft2020.address),
   ("$id", .text Dialect.draft2020.address),
   ("$dynamicAnchor", .text "meta"),
   ("title", .text "Core and Validation specifications meta-schema"),
   ("allOf", .list [ref "meta/core", ref "meta/applicator", ref "meta/unevaluated", ref "meta/validation",
    ref "meta/meta-data", ref "meta/format-annotation", ref "meta/content"]),
   ("type", .texts ["object", "boolean"]),
   ("properties", .record [
    ("definitions", typed "object" [("additionalProperties", dynamicRef), ("deprecated", .bool true),
      ("default", .obj [])]),
    ("dependencies", typed "object" [
      ("additionalProperties", .record [
        ("anyOf", .list [dynamicRef, ref "meta/validation#/$defs/stringArray"])]), ("deprecated", .bool true),
      ("default", .obj [])]),
    ("$recursiveAnchor", .record [("$ref", .text "meta/core#/$defs/anchorString"), ("deprecated", .bool true)]),
    ("$recursiveRef", .record [("$ref", .text "meta/core#/$defs/uriReferenceString"),
      ("deprecated", .bool true)])])]

def core2020 : Value := .record
  [("$schema", .text Dialect.draft2020.address),
   ("$id", .text (part2020 "core")),
   ("$dynamicAnchor", .text "meta"),
   ("title", .text "Core vocabulary meta-schema"),
   ("type", .texts ["object", "boolean"]),
   ("properties", .record [
    ("$id", .record [("$ref", .text "#/$defs/uriReferenceString"), ("pattern", .text "^[^#]*#?$")]),
    ("$schema", ref "#/$defs/uriString"), ("$ref", ref "#/$defs/uriReferenceString"),
    ("$anchor", ref "#/$defs/anchorString"), ("$dynamicRef", ref "#/$defs/uriReferenceString"),
    ("$dynamicAnchor", ref "#/$defs/anchorString"),
    ("$vocabulary", typed "object" [("propertyNames", ref "#/$defs/uriString"),
      ("additionalProperties", typed "boolean" [])]), ("$comment", typed "string" []),
    ("$defs", typed "object" [("additionalProperties", dynamicRef)])]),
   ("$defs", .record [("anchorString", typed "string" [("pattern", .text "^[A-Za-z_][-A-Za-z0-9._]*$")]),
    ("uriString", typed "string" [("format", .text "uri")]),
    ("uriReferenceString", typed "string" [("format", .text "uri-reference")])])]

def applicator2020 : Value := .record
  [("$schema", .text Dialect.draft2020.address),
   ("$id", .text (part2020 "applicator")),
   ("$dynamicAnchor", .text "meta"),
   ("title", .text "Applicator vocabulary meta-schema"),
   ("type", .texts ["object", "boolean"]),
   ("properties", .record [("prefixItems", ref "#/$defs/schemaArray"), ("items", dynamicRef),
    ("contains", dynamicRef), ("additionalProperties", dynamicRef),
    ("properties", typed "object" [("additionalProperties", dynamicRef), ("default", .obj [])]),
    ("patternProperties", typed "object" [("additionalProperties", dynamicRef),
      ("propertyNames", .record [("format", .text "regex")]), ("default", .obj [])]),
    ("dependentSchemas", typed "object" [("additionalProperties", dynamicRef), ("default", .obj [])]),
    ("propertyNames", dynamicRef), ("if", dynamicRef), ("then", dynamicRef), ("else", dynamicRef),
    ("allOf", ref "#/$defs/schemaArray"), ("anyOf", ref "#/$defs/schemaArray"),
    ("oneOf", ref "#/$defs/schemaArray"), ("not", dynamicRef)]),
   ("$defs", .record [("schemaArray", typed "array" [("minItems", .int 1), ("items", dynamicRef)])])]

def unevaluated2020 : Value := .record
  [("$schema", .text Dialect.draft2020.address),
   ("$id", .text (part2020 "unevaluated")),
   ("$dynamicAnchor", .text "meta"),
   ("title", .text "Unevaluated applicator vocabulary meta-schema"),
   ("type", .texts ["object", "boolean"]),
   ("properties", .record [("unevaluatedItems", dynamicRef), ("unevaluatedProperties", dynamicRef)])]

def validation2020 : Value := .record
  [("$schema", .text Dialect.draft2020.address),
   ("$id", .text (part2020 "validation")),
   ("$dynamicAnchor", .text "meta"),
   ("title", .text "Validation vocabulary meta-schema"),
   ("type", .texts ["object", "boolean"]),
   ("properties", .record [
    ("type", .record [
      ("anyOf", .list [ref "#/$defs/simpleTypes",
        typed "array" [("items", ref "#/$defs/simpleTypes"), ("minItems", .int 1), ("uniqueItems", .bool true)]])]),
    ("const", .bool true), ("enum", typed "array" [("items", .bool true)]),
    ("multipleOf", typed "number" [("exclusiveMinimum", .int 0)]), ("maximum", typed "number" []),
    ("exclusiveMaximum", typed "number" []), ("minimum", typed "number" []),
    ("exclusiveMinimum", typed "number" []), ("maxLength", ref "#/$defs/nonNegativeInteger"),
    ("minLength", ref "#/$defs/nonNegativeIntegerDefault0"),
    ("pattern", typed "string" [("format", .text "regex")]), ("maxItems", ref "#/$defs/nonNegativeInteger"),
    ("minItems", ref "#/$defs/nonNegativeIntegerDefault0"),
    ("uniqueItems", typed "boolean" [("default", .bool false)]),
    ("maxContains", ref "#/$defs/nonNegativeInteger"),
    ("minContains", .record [("$ref", .text "#/$defs/nonNegativeInteger"), ("default", .int 1)]),
    ("maxProperties", ref "#/$defs/nonNegativeInteger"),
    ("minProperties", ref "#/$defs/nonNegativeIntegerDefault0"), ("required", ref "#/$defs/stringArray"),
    ("dependentRequired", typed "object" [("additionalProperties", ref "#/$defs/stringArray")])]),
   ("$defs", .record [("nonNegativeInteger", typed "integer" [("minimum", .int 0)]),
    ("nonNegativeIntegerDefault0", .record [("$ref", .text "#/$defs/nonNegativeInteger"), ("default", .int 0)]),
    ("simpleTypes", .record [
      ("enum", .texts ["array", "boolean", "integer", "null", "number", "object", "string"])]),
    ("stringArray", typed "array" [("items", typed "string" []), ("uniqueItems", .bool true),
      ("default", .list [])])])]

def metaData2020 : Value := .record
  [("$schema", .text Dialect.draft2020.address),
   ("$id", .text (part2020 "meta-data")),
   ("$dynamicAnchor", .text "meta"),
   ("title", .text "Meta-data vocabulary meta-schema"),
   ("type", .texts ["object", "boolean"]),
   ("properties", .record [("title", typed "string" []), ("description", typed "string" []),
    ("default", .bool true), ("deprecated", typed "boolean" [("default", .bool false)]),
    ("readOnly", typed "boolean" [("default", .bool false)]),
    ("writeOnly", typed "boolean" [("default", .bool false)]),
    ("examples", typed "array" [("items", .bool true)])])]

def formatAnnotation2020 : Value := .record
  [("$schema", .text Dialect.draft2020.address),
   ("$id", .text (part2020 "format-annotation")),
   ("$dynamicAnchor", .text "meta"),
   ("title", .text "Format vocabulary meta-schema for annotation results"),
   ("type", .texts ["object", "boolean"]),
   ("properties", .record [("format", typed "string" [])])]

def formatAssertion2020 : Value := .record
  [("$schema", .text Dialect.draft2020.address),
   ("$id", .text (part2020 "format-assertion")),
   ("$dynamicAnchor", .text "meta"),
   ("title", .text "Format vocabulary meta-schema for assertion results"),
   ("type", .texts ["object", "boolean"]),
   ("properties", .record [("format", typed "string" [])])]

def content2020 : Value := .record
  [("$schema", .text Dialect.draft2020.address),
   ("$id", .text (part2020 "content")),
   ("$dynamicAnchor", .text "meta"),
   ("title", .text "Content vocabulary meta-schema"),
   ("type", .texts ["object", "boolean"]),
   ("properties", .record [("contentEncoding", typed "string" []), ("contentMediaType", typed "string" []),
    ("contentSchema", dynamicRef)])]

end SwaggerGate.Schema.Standard
