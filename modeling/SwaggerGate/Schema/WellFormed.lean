import SwaggerGate.Schema.Check

/-! Well-formed schemas of draft 4: those that pass the schema of schemas, in which patterns
are checked to be patterns. -/
namespace SwaggerGate.Schema

/-- The report on a schema as data of the schema of schemas. -/
def wellFormedness (schema : Value) : Report := checkRoot true Standard.draft4 schema

/-- Whether a value is a well-formed schema; a fault before the first violation decides. -/
def isWellFormed (schema : Value) : Except Fault Bool := (wellFormedness schema).holds

end SwaggerGate.Schema
