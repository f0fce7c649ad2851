import SwaggerGate.Json.Write
import SwaggerGate.Pointer
import SwaggerGate.Value.Container

/-! Reports of a schema check: the violations found, in order, up to a fault if one stops
the check. Each violation is located by its path in the data. -/
namespace SwaggerGate.Schema

/-- What a value violates; the value is the one at the violation's place. -/
inductive Cause where
  | neverValid (found : Value)
  | type (expected found : Value)
  | required (missing names found : Value)
  | enum (members found : Value)
  | constant (expected : Value)
  | belowMinimum (found limit : Value) (exclusive : Bool)
  | aboveMaximum (found limit : Value) (exclusive : Bool)
  | notMultiple (found divisor : Value)
  | tooShort (found limit : Value)
  | tooLong (found limit : Value)
  | tooFewProperties (found limit : Value)
  | tooManyProperties (found limit : Value)
  | unmatched (found pattern : Value)
  | badFormat (found format : Value)
  | repeated (found : Value)
  | extraItems (items : List Value)
  /-- Items after the leading ones where none may follow. -/
  | surplusItems (leading : Nat) (items : List Value)
  | extraProperties (names : List String)
  | unmatchedProperties (names patterns : List String)
  | missingDependency (name dependent : Value)
  | noneValid (found : Value)
  | severalValid (found : Value) (schemas : List Value)
  | notAllowed (found schema : Value)
  | disallowed (kind found : Value)
  | noneContained (found : Value)
  | notContained (found : Value)
  | tooManyContained (limit : Value)
  | tooFewContained (limit : Value) (matched : Nat)
  | unevaluatedItems (items : List Value)
  /-- Properties that no keyword evaluates, where a schema or nothing at all is allowed. -/
  | unevaluatedProperties (names : List String) (bySchema : Bool)
deriving DecidableEq, Repr

/-- The values that a cause is told with. -/
def Cause.shown : Cause → List Value
  | .neverValid found | .repeated found | .noneValid found | .noneContained found | .notContained found => [found]
  | .type expected found => [expected, found]
  | .required missing _ _ => [missing]
  | .enum members found => [members, found]
  | .constant expected => [expected]
  | .belowMinimum found limit _ | .aboveMaximum found limit _ => [found, limit]
  | .notMultiple found divisor => [found, divisor]
  | .tooShort found _ | .tooLong found _ | .tooFewProperties found _ | .tooManyProperties found _ => [found]
  | .unmatched found pattern => [found, pattern]
  | .badFormat found format => [found, format]
  | .extraItems items | .surplusItems _ items | .unevaluatedItems items => items
  | .extraProperties _ | .unmatchedProperties .. | .unevaluatedProperties .. => []
  | .missingDependency name dependent => [name, dependent]
  | .severalValid found schemas => found :: schemas
  | .notAllowed found schema => [found, schema]
  | .disallowed kind found => [kind, found]
  | .tooManyContained limit | .tooFewContained limit _ => [limit]

structure Violation where
  path : List Step
  cause : Cause
deriving DecidableEq, Repr

structure Report where
  violations : List Violation := []
  fault : Option Fault := none
deriving DecidableEq, Repr

namespace Report

def ok : Report := {}

def stop (fault : Fault) : Report := { fault := some fault }

/-- One violation, unless a value that it is told with cannot be shown. -/
def violation (cause : Cause) : Report :=
  if cause.shown.all Value.isShowable then { violations := [⟨[], cause⟩] } else stop .longInteger

/-- One violation if a test fails. -/
def test (passed : Bool) (cause : Cause) : Report := if passed then ok else violation cause

/-- A report that needs something which may fail. -/
def attempt {α : Type} (need : Except Fault α) (report : α → Report) : Report :=
  match need with
  | .ok a => report a
  | .error fault => stop fault

/-- Relates a report about a part to the whole that the part is one step inside. -/
def under (step : Step) (r : Report) : Report :=
  { r with violations := r.violations.map fun v => { v with path := step :: v.path } }

/-- Reports about all members of a list, in order, up to the first fault, or where
`firstOnly` up to the first violation. -/
def each {α : Type} (firstOnly : Bool) (report : α → Report) : List α → Report
  | [] => ok
  | x :: rest =>
    let first := report x
    if first.fault.isSome || (firstOnly && !first.violations.isEmpty) then first
    else
      let more := each firstOnly report rest
      ⟨first.violations ++ more.violations, more.fault⟩

/-- Whether nothing is violated; the first violation decides before any later fault. -/
def holds (r : Report) : Except Fault Bool :=
  match r.violations, r.fault with
  | _ :: _, _ => .ok false
  | [], some fault => .error fault
  | [], none => .ok true

/-- Whether nothing is violated, with the whole check made before the answer. -/
def holdsThroughout (r : Report) : Except Fault Bool :=
  match r.fault with
  | some fault => .error fault
  | none => .ok r.violations.isEmpty

end Report

private def listed (parts : List String) : String := String.intercalate ", " parts

/-- Names in ascending order. -/
def sortedNames (names : List String) : List String := names.mergeSort fun a b => !Text.precedes b a

private def wereUnexpected (parts : List String) : String :=
  " (" ++ listed parts ++ (if parts.length = 1 then " was" else " were") ++ " unexpected)"

/-- A type name with its first letter in upper case. -/
def typeTitle (name : String) : String :=
  match name.toList with
  | c :: rest => String.ofList (Text.upperAscii c :: rest.map Text.lowerAscii)
  | [] => ""

def typeTitleOf (name : Value) : Except Fault String :=
  match name with
  | .text s => .ok (typeTitle s)
  | _ => .error .notAnObject

/-- The names of a type argument: one, or several. -/
def typeNames : Value → Except Fault (List Value)
  | .text s => .ok [.text s]
  | v => v.members

def textOf (name : Value) : Except Fault String :=
  match name with
  | .text s => .ok s
  | _ => .error .wrongArgument

/-- The names among some that an object does not have. -/
def missingNames (names : List Value) (object : Value) : Except Fault (List Value) :=
  names.filterM fun name => do return !(← object.holds name)

def missingMessage : List Value → Except Fault String
  | [name] => .ok ("Required property " ++ name.plainText ++ " was not present.")
  | names => do return "Required properties " ++ listed (← names.mapM textOf) ++ " were not present."

private def isNumber (limit : Value) (n : Int) : Bool :=
  limit.looseNumber?.any fun x => x.equal (.int n)

/-- The message of a cause; a keyword whose argument names nothing has none. -/
def Cause.message : Cause → Except Fault String
  | .neverValid found => .ok ("False schema does not allow " ++ found.display)
  | .type expected found => do
    let names ← (← typeNames expected).mapM typeTitleOf
    return "Type mismatch. Expected " ++ listed names ++ " but got " ++ found.kindName ++ "."
  | .required _ names found => do missingMessage (← missingNames (← names.members) found)
  | .enum _ found => .ok ("Value " ++ Json.lineText found ++ " is not allowed in enum.")
  | .constant expected => .ok (expected.display ++ " was expected")
  | .belowMinimum found limit exclusive =>
    .ok (found.display ++ (if exclusive then " is less than or equal to" else " is less than")
      ++ " the minimum of " ++ limit.display)
  | .aboveMaximum found limit exclusive =>
    .ok (found.display ++ (if exclusive then " is greater than or equal to" else " is greater than")
      ++ " the maximum of " ++ limit.display)
  | .notMultiple found divisor => .ok (found.display ++ " is not a multiple of " ++ divisor.display)
  | .tooShort found limit =>
    .ok (found.display ++ (if isNumber limit 1 then " should be non-empty" else " is too short"))
  | .tooLong found limit =>
    .ok (found.display ++ (if isNumber limit 0 then " is expected to be empty" else " is too long"))
  | .tooFewProperties found limit =>
    .ok (found.display ++ (if isNumber limit 1 then " should be non-empty" else " does not have enough properties"))
  | .tooManyProperties found limit =>
    .ok (found.display ++ (if isNumber limit 0 then " is expected to be empty" else " has too many properties"))
  | .unmatched found pattern => .ok (found.display ++ " does not match " ++ pattern.display)
  | .badFormat found format => .ok (found.display ++ " is not a " ++ format.display)
  | .repeated found => .ok (found.display ++ " has non-unique elements")
  | .extraItems items => .ok ("Additional items are not allowed" ++ wereUnexpected (items.map Value.display))
  | .surplusItems leading items =>
    let found := match items with
      | [item] => item
      | items => .list items
    .ok ("Expected at most " ++ Double.digitsText leading ++ (if leading = 1 then " item" else " items")
      ++ " but found " ++ Double.digitsText items.length ++ " extra: " ++ found.display)
  | .extraProperties names =>
    .ok ("Additional properties are not allowed" ++ wereUnexpected ((sortedNames names).map Text.quoted))
  | .unmatchedProperties names patterns =>
    .ok (listed ((sortedNames names).map Text.quoted) ++ (if names.length = 1 then " does" else " do")
      ++ " not match any of the regexes: " ++ listed ((sortedNames patterns).map Text.quoted))
  | .missingDependency name dependent => .ok (name.display ++ " is a dependency of " ++ dependent.display)
  | .noneValid found => .ok (found.display ++ " is not valid under any of the given schemas")
  | .severalValid found schemas =>
    .ok (found.display ++ " is valid under each of " ++ listed (schemas.map Value.display))
  | .notAllowed found schema => .ok (found.display ++ " should not be valid under " ++ schema.display)
  | .disallowed kind found => .ok (kind.display ++ " is disallowed for " ++ found.display)
  | .noneContained found => .ok ("None of " ++ found.display ++ " are valid under the given schema")
  | .notContained found => .ok (found.display ++ " does not contain items matching the given schema")
  | .tooManyContained limit =>
    .ok ("Too many items match the given schema (expected at most " ++ limit.display ++ ")")
  | .tooFewContained limit matched =>
    .ok ("Too few items match the given schema (expected at least " ++ limit.display ++ " but only "
      ++ Double.digitsText matched ++ " matched)")
  | .unevaluatedItems items => .ok ("Unevaluated items are not allowed" ++ wereUnexpected (items.map Value.display))
  | .unevaluatedProperties names bySchema =>
    if bySchema then
      .ok ("Unevaluated properties are not valid under the given schema" ++ wereUnexpected (names.map Text.quoted))
    else .ok ("Unevaluated properties are not allowed" ++ wereUnexpected ((sortedNames names).map Text.quoted))

end SwaggerGate.Schema
