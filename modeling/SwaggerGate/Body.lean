import SwaggerGate.Operation
import SwaggerGate.Outcome
import SwaggerGate.Schema.Check

/-! Body validation. Every violation is an issue, except that of several missing properties
of one place only the first is reported, and its message names them all. A violation
without a message ends the validation, as a fault of the check does. -/
namespace SwaggerGate.Body

def issueOf (v : Schema.Violation) : Except Fault Issue := do return ⟨← v.cause.message, Pointer.text v.path⟩

def isMissing : Schema.Cause → Bool
  | .required .. => true
  | _ => false

/-- The issues of violations, given the places whose missing properties are reported. -/
def issuesAfter (reported : List String) : List Schema.Violation → Except Fault (List Issue)
  | [] => .ok []
  | v :: rest => do
    let place := Pointer.text v.path
    if isMissing v.cause then
      if reported.contains place then issuesAfter reported rest
      else return (← issueOf v) :: (← issuesAfter (place :: reported) rest)
    else return (← issueOf v) :: (← issuesAfter reported rest)

/-- All issues of data under a schema. -/
def issues (schema data : Value) : Except Fault (List Issue) := do
  let report := Schema.check schema data
  let issues ← issuesAfter [] report.violations
  match report.fault with
  | some fault => throw fault
  | none => return issues

/-- Validates a body; a missing one passes unless it is required, and then it is checked
as an empty object. -/
def validate (o : Operation) (body : Value) : Except Fault Outcome :=
  if body = .null ∧ o.bodyRequired = false then .ok .ok
  else
    let data := if body = .null then .obj [] else body
    (issues o.bodySchema data).map (Outcome.ofIssues o.key)

/-- Validates typed data against all parameters of an operation as properties. -/
def validatePayload (o : Operation) (payload : Value) : Except Fault Outcome :=
  (issues o.payloadSchema payload).map (Outcome.ofIssues o.key)

end SwaggerGate.Body
