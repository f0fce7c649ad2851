import SwaggerGate.Body
import SwaggerGate.Schema.Nullable
import SwaggerGate.Source

/-! Validation of response data against the models of merged documents. Nullable types are
widened first; each model is compiled on first use and kept. -/
namespace SwaggerGate

/-- What ends a response validation without an outcome. -/
inductive ResponseFailure where
  | compile (failure : CompileFailure)
  | fault (fault : Fault)
deriving DecidableEq, Repr

structure ResponseValidator where
  definitions : Definitions
  /-- The models compiled so far. -/
  compiled : List (String × Value) := []

namespace ResponseValidator

def widened (definitions : Definitions) : Except Fault Definitions :=
  definitions.mapM fun d => do return (d.1, ← Schema.widenNullable d.2)

def ofDocuments (documents : List Document) : Except Fault ResponseValidator := do
  return { definitions := ← widened (Merged.ofDocuments documents).definitions }

/-- The validator for the models of sources. -/
def ofSources (files : Files) (sources : List Source) : Except ResponseFailure ResponseValidator := do
  let documents ← (Source.documents files sources).mapError .compile
  (ofDocuments documents).mapError .fault

/-- The schema of a model, and the validator that keeps it. A failure is not kept. -/
def model (validator : ResponseValidator) (name : String) :
    Except CompileFailure (Value × ResponseValidator) :=
  match validator.compiled.lookup name with
  | some schema => .ok (schema, validator)
  | none => (Compile.model validator.definitions name).map fun schema =>
    (schema, { validator with compiled := Entries.put name schema validator.compiled })

def placeOf (name : String) : String := "#/definitions/" ++ name

/-- Validates data against a model, and gives the validator for later calls. -/
def validate (validator : ResponseValidator) (name : String) (data : Value) :
    Except ResponseFailure Outcome × ResponseValidator :=
  match validator.model name with
  | .error failure => (.error (.compile failure), validator)
  | .ok (schema, validator) => match Body.issues schema data with
    | .error fault => (.error (.fault fault), validator)
    | .ok issues => (.ok (Outcome.ofIssues (placeOf name) issues), validator)

/-- The complaint about data that does not conform: every issue on a line, then the data. -/
def complaint (name : String) (outcome : Outcome) (data : Value) : String :=
  String.intercalate "\n" <|
    ["Response JSON does not conform to swagger schema from " ++ placeOf name ++ "."]
      ++ outcome.issues.map (fun issue => "At " ++ issue.path ++ ": " ++ issue.message)
      ++ [Json.blockText 0 data]

end ResponseValidator

/-- Validates data against a model of sources, by a validator of its own. -/
def validateResponse (files : Files) (sources : List Source) (name : String) (data : Value) :
    Except ResponseFailure Outcome := do
  let validator ← ResponseValidator.ofSources files sources
  (validator.validate name data).1

end SwaggerGate
