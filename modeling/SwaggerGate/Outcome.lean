import SwaggerGate.Text.Quoted
import SwaggerGate.Value

/-! Outcomes of validation. Every request has exactly one. -/
namespace SwaggerGate

/-- A message and the pointer of the place that it is about. -/
structure Issue where
  message : String
  path : String
deriving DecidableEq, Repr

inductive Outcome where
  | ok
  | notFound
  | invalid (issue : Issue)
  /-- Several issues at once; `first` leads and `second` stands for there being more. -/
  | several (first second : Issue) (more : List Issue) (operation : String)
deriving DecidableEq, Repr

namespace Outcome

def ofIssues (operation : String) : List Issue → Outcome
  | [] => .ok
  | [issue] => .invalid issue
  | first :: second :: more => .several first second more operation

def issues : Outcome → List Issue
  | .ok | .notFound => []
  | .invalid issue => [issue]
  | .several first second more _ => first :: second :: more

@[simp] theorem issues_ofIssues (operation : String) (issues : List Issue) :
    (ofIssues operation issues).issues = issues := by
  match issues with
  | [] | [_] | _ :: _ :: _ => rfl

def notFoundMessage : String := "API does not provide resource"

private def issueRecord (issue : Issue) : Value :=
  .record [("message", .text issue.message), ("path", .text issue.path)]

/-- The outcome as data. -/
def describe : Outcome → Value
  | .ok => .record [("status", .text "ok")]
  | .notFound => .record [("status", .text "not_found"), ("message", .text notFoundMessage)]
  | .invalid issue => .record [("status", .text "invalid"), ("errors", .list [issueRecord issue])]
  | .several first second more operation => .record
    [("status", .text "invalid"), ("operation", .text operation),
     ("errors", .list ((first :: second :: more).map issueRecord))]

private def issuePair (issue : Issue) : String :=
  "(" ++ Text.quoted issue.message ++ ", " ++ Text.quoted issue.path ++ ")"

/-- The outcome as a log names it. -/
def logText : Outcome → String
  | .ok => "Ok()"
  | .notFound => "ResourceNotFound()"
  | .invalid issue =>
    "Invalid(message=" ++ Text.quoted issue.message ++ ", path=" ++ Text.quoted issue.path ++ ")"
  | .several first second more operation =>
    "MultipleInvalid(errors=(" ++ String.intercalate ", " ((first :: second :: more).map issuePair)
      ++ "), operation_key=" ++ Text.quoted operation ++ ")"

end Outcome
end SwaggerGate
