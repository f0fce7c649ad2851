import SwaggerGate.Yaml.Build

/-! Reading a text as the data of its single document. -/
namespace SwaggerGate.Yaml

/-- The data of a text of one document; no document is null. -/
def read (text : List Char) : Except Error Value := do
  match ← Graph.ofScanned? (scan text) with
  | some graph => graph.value
  | none => return .null

end SwaggerGate.Yaml
