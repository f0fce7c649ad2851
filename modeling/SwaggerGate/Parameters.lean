import SwaggerGate.Document
import SwaggerGate.Fault
import SwaggerGate.Json.Write
import SwaggerGate.Outcome
import SwaggerGate.Request
import SwaggerGate.Scalar

/-! Path and query parameters. They are checked in declaration order and the first issue
is the outcome. A value arrives as text; text is split at separators where an array is
declared, and a declared type holds if the text reads as that type. -/
namespace SwaggerGate.Parameters

/-- The text of a scalar; lists and objects have none. -/
def scalarText? : Value → Except Fault (Option String)
  | .text s => .ok (some s)
  | .bool b => .ok (some (if b then "true" else "false"))
  | .int n => if (Atom.int n).isShowable then .ok (some (intText n)) else .error .longInteger
  | .float x => .ok (some (x.text Double.plainWords))
  | _ => .ok none

def separator (format : String) : Char :=
  if format = "ssv" then ' ' else if format = "tsv" then '\t' else if format = "pipes" then '|' else ','

/-- The elements of a value that stands for an array, given its text. -/
def elements (format : String) (value : Value) (text : Option String) : List Value :=
  match value with
  | .list items => items
  | _ => match text with
    | some s => (Text.splitOn (separator format) s.toList).map fun piece => .text (String.ofList piece)
    | none => [value]

/-- Whether a text is that of a member; the members after such a one are not looked at. -/
def isMemberText (s : String) : List Value → Except Fault Bool
  | [] => .ok false
  | member :: rest => do if (← scalarText? member) == some s then return true else isMemberText s rest

/-- Whether a text is among the texts of an enumeration's scalars, if there is an
enumeration. -/
def enumHolds (enum : Option (List Value)) (text : Option String) : Except Fault Bool :=
  match enum, text with
  | none, _ => .ok true
  | some _, none => .ok false
  | some members, some s => isMemberText s members

def namePath (name : String) : String := "#/" ++ name

def mismatch (name expected : String) : Issue :=
  ⟨"Type mismatch. Expected " ++ expected ++ " but got String.", namePath name⟩

/-- The text of a value in a message: that of a scalar, or what is written of a structure. -/
def shownText (text : Option String) (value : Value) : Except Fault String :=
  match text with
  | some s => .ok s
  | none =>
    if !value.isShowable then .error .longInteger
    else if value.depth > Json.writingLimit then .error .endless
    else .ok (Json.lineText value)

def enumIssue (name : String) (text : Option String) (value : Value) : Except Fault Issue := do
  return ⟨"Value \"" ++ (← shownText text value) ++ "\" is not allowed in enum.", namePath name⟩

/-- Checks the text of a value as a scalar of a type; arrays are not scalars and always pass
here. -/
def scalarIssue? (name : String) (type : ParamType) (text : Option String) : Except Fault (Option Issue) :=
  match type with
  | .string | .file | .array => .ok none
  | .integer => match text.map Scalar.readInteger with
    | some (.value _) => .ok none
    | some .tooLong => .error .longInteger
    | _ => .ok (some (mismatch name "Integer"))
  | .number => match text.bind Scalar.number? with
    | some _ => .ok none
    | none => .ok (some (mismatch name "Number"))
  | .boolean => match text.bind Scalar.boolean? with
    | some _ => .ok none
    | none => .ok (some (mismatch name "Boolean"))

/-- The first issue that a check finds in a list. -/
def firstIssue {α : Type} (check : α → Except Fault (Option Issue)) : List α → Except Fault (Option Issue)
  | [] => .ok none
  | x :: rest => match check x with
    | .ok none => firstIssue check rest
    | found => found

/-- Checks a value as a string, which every value passes whose text can be made. -/
def anyIssue? (value : Value) : Except Fault (Option Issue) := (scalarText? value).map fun _ => none

/-- Checks one present value against a descriptor: its enumeration, then its type, then
its elements. Elements without a descriptor are strings. -/
def check (name : String) : Items → Value → Except Fault (Option Issue)
  | ⟨type, enum, items, format, _⟩, value => do
    let text ← scalarText? value
    if !(← enumHolds enum text) then return some (← enumIssue name text value)
    match type, items with
      | .array, some inner => firstIssue (check name inner) (elements format value text)
      | .array, none => firstIssue anyIssue? (elements format value text)
      | _, _ => scalarIssue? name type text

/-- The descriptor of a parameter that is validated: one in the path or query with a type. -/
def descriptor? (p : Parameter) : Option Items :=
  match p.location, p.type with
  | some .path, some type | some .query, some type =>
    some { type, enum := p.enum, items := p.items, collectionFormat := p.collectionFormat }
  | _, _ => none

def missingMessage (name : String) : String := "Required property " ++ name ++ " was not present."

def parameterIssue? (params : List (Atom × Value)) (p : Parameter) : Except Fault (Option Issue) :=
  match descriptor? p with
  | none => .ok none
  | some items => match Query.lookup? params p.name with
    | none => .ok (if p.required then some ⟨missingMessage p.name, "#"⟩ else none)
    | some value => check p.name items value

/-- Validates the parameters of an operation, in declaration order. -/
def validate (parameters : List Parameter) (params : List (Atom × Value)) : Except Fault Outcome :=
  (firstIssue (parameterIssue? params) parameters).map fun
    | none => .ok
    | some issue => .invalid issue

end SwaggerGate.Parameters
