import SwaggerGate.Body
import SwaggerGate.Parameters
import SwaggerGate.Routing

/-! Validation of requests: routing, then the body, then the parameters. -/
namespace SwaggerGate

/-- How far a request came. -/
inductive Verdict where
  | noOperation
  | bodyRejected (operation : Operation) (outcome : Outcome)
  | parametersRejected (operation : Operation) (outcome : Outcome)
  | accepted (operation : Operation)

namespace Verdict

def outcome : Verdict → Outcome
  | .noOperation => .notFound
  | .bodyRejected _ outcome | .parametersRejected _ outcome => outcome
  | .accepted _ => .ok

end Verdict

namespace Validation

/-- The parameters of a request to an operation: captured segments stand over what the
request sends under their names. -/
def parametersOf (o : Operation) (request : Request) : List (Atom × Value) :=
  Entries.putAll request.params (Routing.captures o request.segments)

def judge (registry : Registry) (request : Request) : Except Fault Verdict :=
  match Routing.route registry request.method request.segments with
  | none => .ok .noOperation
  | some o => do
    let body ← Body.validate o request.body
    if body ≠ .ok then return .bodyRejected o body
    let parameters ← Parameters.validate o.parameters (parametersOf o request)
    if parameters ≠ .ok then return .parametersRejected o parameters
    return .accepted o

def validate (registry : Registry) (request : Request) : Except Fault Outcome :=
  (judge registry request).map Verdict.outcome

/-- Validates typed data against the operation of a key. -/
def validatePayload (registry : Registry) (key : String) (payload : Value) : Except Fault Outcome :=
  match registry.get? key with
  | none => .ok .notFound
  | some o => Body.validatePayload o payload

end Validation
end SwaggerGate
