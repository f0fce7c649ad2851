import SwaggerGate.Schema.Evaluated
import SwaggerGate.Schema.Standard

/-! Checks of data against a schema. Keywords run in the order in which the schema gives
them, in the dialect that holds there; a root schema is one of draft 4. Keywords that do not
concern the data's type pass. -/
namespace SwaggerGate.Schema

/-- Whether a number is a multiple of another. A float divisor divides as doubles do,
exactly where the quotient overflows; an integer divisor leaves an exact remainder. -/
def isMultiple (n divisor : Number) : Except Fault Bool :=
  match n, divisor with
  | .int a, .int b => if b = 0 then .error .divisionByZero else .ok (a % b == 0)
  | .float x, .int b => match Double.ofInt? b with
    | none => .error .outOfRange
    | some d =>
      if b = 0 then .error .divisionByZero
      else match x.ratio?, d.ratio? with
        | some (p, q), some (r, s) => .ok (p * s % (r * q) == 0)
        | _, _ => .ok false
  | n, .float d =>
    let dividend := match n with
      | .int a => Double.ofInt? a
      | .float x => some x
    match dividend with
    | none => .error .outOfRange
    | some x =>
      if d.ratio?.any fun r => r.1 = 0 then .error .divisionByZero
      else match x.div d with
        | .nan _ => .error .notANumber
        | .infinite _ => match x.ratio?, d.ratio? with
          | some (p, q), some (r, s) => .ok (p * s % (r * q) == 0)
          | _, _ => .error .outOfRange
        | quotient => .ok quotient.integer?.isSome

/-- A limit as a number; any other value cannot be compared with. -/
def limitOf (argument : Value) : Except Fault Number :=
  match argument.looseNumber? with
  | some n => .ok n
  | none => .error .wrongArgument

/-- A key as a step of a path. -/
def keyStep : Atom → Step
  | .text name => .key name
  | key => .key key.display

/-- The patterns of a schema's `patternProperties` as alternatives of one pattern. -/
def joinedPatterns (fields : List (Atom × Value)) : Except Fault String :=
  match argument? fields "patternProperties" with
  | none => .ok ""
  | some patterns => do
    let texts ← (← patterns.members).mapM fun
      | .text p => .ok p
      | _ => .error .wrongArgument
    return String.intercalate "|" texts

/-- The properties that neither `properties` nor a pattern of `patternProperties` covers, in
the order of the data. -/
def uncovered (fields properties : List (Atom × Value)) : Except Fault (List (Atom × Value)) := do
  let patterns ← joinedPatterns fields
  properties.filterM fun (key, _) => do
    let named ← match argument? fields "properties" with
      | some known => known.holds (.atom key)
      | none => pure false
    if named then return false
    match key with
    | .text name => return !(patterns != "" && (← patternHolds (.text patterns) name))
    | _ => return true

section Keywords

variable (check : Checker) (context : Context) (fields : List (Atom × Value))

def descendEach (schema : Value) (items : List (Value × Nat)) : Report :=
  context.each (fun (v, i) => descendInto check context (.index i) schema v) items

/-- Items one by one, each by the schema of its place. -/
def descendTuple (schemas items : List Value) : Report :=
  context.each (fun ((v, s), i) => descendInto check context (.index i) s v) (items.zip schemas).zipIdx

def itemsKeyword (argument : Value) (items : List Value) : Report :=
  let one := descendEach check context argument items.zipIdx
  let several : Report := .attempt argument.members fun schemas => descendTuple check context schemas items
  match context.dialect with
  | .draft3 | .draft4 => match argument with
    | .obj _ => one
    | _ => several
  | .draft2020 =>
    .attempt (((argument? fields "prefixItems").getD (.list [])).size) fun leading =>
      let rest := items.zipIdx.drop leading
      if rest.isEmpty then .ok
      else match argument with
        | .bool false => .violation (.surplusItems leading (rest.map Prod.fst))
        | _ => descendEach check context argument rest
  | _ => match argument with
    | .list _ => several
    | _ => one

def additionalItems (argument : Value) (items : List Value) : Report :=
  match argument? fields "items" with
  | none | some (.obj _) => .ok
  | some tuple => .attempt tuple.size fun covered => match argument with
    | .obj _ => descendEach check context argument (items.zipIdx.drop covered)
    | _ => .test (argument.isTruthy || items.length ≤ covered) (.extraItems (items.drop covered))

def additionalProperties (argument : Value) (properties : List (Atom × Value)) : Report :=
  .attempt (uncovered fields properties) fun extras => match argument with
    | .obj _ => context.each (fun f => descendInto check context (keyStep f.1) argument f.2) extras
    | _ =>
      let names := namesOf extras
      let cause := match argument? fields "patternProperties" with
        | some patterns => .unmatchedProperties names (match patterns with
          | .obj patterns => namesOf patterns
          | _ => [])
        | none => .extraProperties names
      .test (argument.isTruthy || extras.isEmpty) cause

/-- The first member of a list of schemas that data is valid under, and the later ones. -/
def firstValid (data : Value) : List Value → Except Fault (Option (Value × List Value))
  | [] => .ok none
  | s :: rest => do
    if ← (descend check { context with firstOnly := false } s data).holdsThroughout then return some (s, rest) else firstValid data rest

def anyOf (argument data : Value) : Report :=
  .attempt (argument.members >>= firstValid check context data) fun found => .test found.isSome (.noneValid data)

def oneOf (argument data : Value) : Report :=
  .attempt (argument.members >>= firstValid check context data) fun
    | none => .violation (.noneValid data)
    | some (first, rest) => .attempt (rest.filterM fun s => isValid check context s data) fun more =>
      .test more.isEmpty (.severalValid data (more ++ [first]))

def negation (schema data : Value) : Report :=
  .attempt (isValid check context schema data) fun valid => .test (!valid) (.notAllowed data schema)

def condition (argument data : Value) : Report :=
  .attempt (isValid check context argument data) fun valid =>
    match argument? fields (if valid then "then" else "else") with
    | some schema => descend check context schema data
    | none => .ok

/-- Whether a test holds of some member of a list; later members are not tested. -/
def anyHolds (test : Value → Except Fault Bool) : List Value → Except Fault Bool
  | [] => .ok false
  | v :: rest => do if ← test v then return true else anyHolds test rest

/-- The number of items that pass a test, on top of some; none as soon as they are more than
a limit allows. -/
private def countUpTo (most : Value) (test : Value → Except Fault Bool) (count : Nat) :
    List Value → Except Fault (Option Nat)
  | [] => .ok (some count)
  | v :: rest => do
    if ← test v then
      if (← limitOf most).lt (.int (count + 1)) then return none
      countUpTo most test (count + 1) rest
    else countUpTo most test count rest

def contains (argument : Value) (items : List Value) : Report :=
  let data := Value.list items
  let passes := isValid check context argument
  if context.dialect.rank ≤ 7 then
    .attempt (anyHolds passes items) fun found => .test found (.noneContained data)
  else
    let most := (argument? fields "maxContains").getD (.int items.length)
    let least := (argument? fields "minContains").getD (.int 1)
    .attempt (Dialect.ofSchema context.dialect argument) fun _ =>
      .attempt (countUpTo most passes 0 items) fun
        | none => .violation (.tooManyContained most)
        | some matched => .attempt (limitOf least) fun limit =>
          .test (!Number.lt (.int matched) limit)
            (if matched = 0 then .notContained data else .tooFewContained least matched)

/-- The members of a list of needed names that data does not have. -/
def missing (needed : List Value) (name : Atom) (data : Value) : Report :=
  context.each (fun each => .attempt (data.holds each) fun found =>
    .test found (.missingDependency each (.atom name))) needed

/-- Runs over the dependencies of the properties that data has. -/
def eachDependency (argument : Value) (properties : List (Atom × Value)) (report : Atom → Value → Report) :
    Report :=
  .attempt argument.entries fun dependencies => context.each (fun (name, dependency) =>
    if (entryOf? properties name).isSome then report name dependency else .ok) dependencies

def dependencies (argument : Value) (properties : List (Atom × Value)) : Report :=
  let data := Value.obj properties
  eachDependency context argument properties fun name dependency =>
    let several : Report := .attempt dependency.members fun needed => missing context needed name data
    if context.dialect = .draft3 then
      match dependency with
      | .obj _ => descend check context dependency data
      | .text _ => missing context [dependency] name data
      | _ => several
    else match dependency with
      | .list _ => several
      | _ => descend check context dependency data

def dependentRequired (argument : Value) (properties : List (Atom × Value)) : Report :=
  eachDependency context argument properties fun name dependency =>
    .attempt dependency.members fun needed => missing context needed name (.obj properties)

def dependentSchemas (argument : Value) (properties : List (Atom × Value)) : Report :=
  eachDependency context argument properties fun _ dependency => descend check context dependency (.obj properties)

def patternProperties (argument : Value) (properties : List (Atom × Value)) : Report :=
  .attempt argument.entries fun patterns => context.each (fun (pattern, schema) =>
    context.each (fun (key, v) => .attempt (patternHolds (.atom pattern) (Value.atom key).plainText) fun found =>
      if found then descendInto check context (keyStep key) schema v else .ok) properties) patterns

/-- A property that draft 3 requires by a mark in its schema. -/
def markedRequired (name : Atom) (schema data : Value) : Report :=
  .attempt schema.entries fun inner => match argument? inner "required" with
    | some mark =>
      if mark.isTruthy then (Report.violation (.required (.atom name) mark data)).under (.key "required") else .ok
    | none => .ok

def properties (argument : Value) (properties : List (Atom × Value)) : Report :=
  .attempt argument.entries fun schemas => context.each (fun (name, schema) => match entryOf? properties name with
    | some v => descendInto check context (keyStep name) schema v
    | none => if context.dialect = .draft3 then markedRequired name schema (.obj properties) else .ok) schemas

def propertyNames (argument : Value) (properties : List (Atom × Value)) : Report :=
  context.each (fun f => descend check context argument (.atom f.1)) properties

def required (argument data : Value) : Report :=
  .attempt argument.members fun names => context.each (fun name => .attempt (data.holds name) fun found =>
    .test found (.required name argument data)) names

/-- Whether data has a type that is given by name. -/
def hasNamedType (data : Value) (name : Value) : Except Fault Bool :=
  match name with
  | .text s => match context.dialect.type? s with
    | some t => .ok (context.dialect.hasType t data)
    | none => .error .unknownType
  | v => .error (if v.isKey then .unknownType else .wrongArgument)

/-- Whether data has a type of draft 3, which may be a schema. -/
private def hasTypeOrSchema (data : Value) (type : Value) : Except Fault Bool :=
  match type with
  | .obj _ => (descend check { context with firstOnly := false } type data).holdsThroughout
  | type => hasNamedType context data type

def typeKeyword (argument data : Value) : Report :=
  let test := if context.dialect = .draft3 then hasTypeOrSchema check context data else hasNamedType context data
  .attempt (typeNames argument >>= anyHolds test) fun passed => .test passed (.type argument data)

def disallow (argument data : Value) : Report :=
  .attempt (typeNames argument) fun types => context.each (fun type =>
    .attempt (isValid check context (.record [("type", .list [type])]) data) fun valid =>
      .test (!valid) (.disallowed type data)) types

def extending (argument data : Value) : Report :=
  match argument with
  | .obj _ => descend check context argument data
  | _ => .attempt argument.members fun schemas => context.each (fun s => descend check context s data) schemas

/-- A lower limit; in the earlier dialects a flag beside it makes it exclusive. -/
def minimum (argument data : Value) (n : Number) : Report :=
  let exclusive := context.dialect.rank ≤ 4 && (argument? fields "exclusiveMinimum").any Value.isTruthy
  .attempt (limitOf argument) fun limit =>
    .test (!(if exclusive then n.le limit else n.lt limit)) (.belowMinimum data argument exclusive)

/-- An upper limit; in the earlier dialects a flag beside it makes it exclusive. -/
def maximum (argument data : Value) (n : Number) : Report :=
  let exclusive := context.dialect.rank ≤ 4 && (argument? fields "exclusiveMaximum").any Value.isTruthy
  .attempt (limitOf argument) fun limit =>
    .test (!(if exclusive then limit.le n else limit.lt n)) (.aboveMaximum data argument exclusive)

/-- The check of a size against a lower limit. -/
def atLeast (size : Nat) (argument : Value) (cause : Cause) : Report :=
  .attempt (limitOf argument) fun limit => .test (!Number.lt (.int size) limit) cause

/-- The check of a size against an upper limit. -/
def atMost (size : Nat) (argument : Value) (cause : Cause) : Report :=
  .attempt (limitOf argument) fun limit => .test (!limit.lt (.int size)) cause

def unevaluatedItems (items : List Value) : Report :=
  let latest := context.dialect = .draft2020
  .attempt (Schema.evaluatedItems check latest items nestingLimit context (.obj fields)) fun evaluated =>
    let rest := (items.zipIdx.filter fun (_, i) => !evaluated.contains i).map Prod.fst
    .test rest.isEmpty (.unevaluatedItems rest)

/-- A name for every violation in the properties that no keyword evaluates. -/
private def violating (argument : Value) (properties : List (Atom × Value)) : Except Fault (List String) := do
  return (← properties.mapM fun (key, v) => do
    let report := descend check { context with firstOnly := false } argument v
    match report.fault with
    | some fault => throw fault
    | none => return report.violations.map fun _ => (Value.atom key).plainText).flatten

def unevaluatedProperties (argument : Value) (properties : List (Atom × Value)) : Report :=
  let latest := context.dialect = .draft2020
  .attempt (Schema.evaluatedProperties check latest properties nestingLimit context (.obj fields)) fun evaluated =>
    let rest := properties.filter fun f => !evaluated.contains (Value.atom f.1).plainText
    .attempt (violating check context argument rest) fun names =>
      .test names.isEmpty (.unevaluatedProperties names (argument ≠ .bool false))

/-- The check of one keyword. -/
def keyword (kind : Keyword) (argument data : Value) : Report :=
  match kind, data with
  | .ref, _ | .dynamicRef, _ => reference check context argument data
  | .recursiveRef, _ => recursiveReference check context data
  | .additionalItems, .list items => additionalItems check context fields argument items
  | .additionalProperties, .obj properties => additionalProperties check context fields argument properties
  | .allOf, _ => .attempt argument.members fun schemas => context.each (fun s => descend check context s data) schemas
  | .anyOf, _ => anyOf check context argument data
  | .condition, _ => condition check context fields argument data
  | .const, _ => .test (data.equal argument) (.constant argument)
  | .contains, .list items => contains check context fields argument items
  | .dependencies, .obj properties => dependencies check context argument properties
  | .dependentRequired, .obj properties => dependentRequired context argument properties
  | .dependentSchemas, .obj properties => dependentSchemas check context argument properties
  | .disallow, _ => disallow check context argument data
  | .enum, _ => .attempt argument.members fun members => .test (members.any fun m => m.equal data) (.enum argument data)
  | .exclusiveMaximum, _ => match Number.ofValue? data with
    | some n => .attempt (limitOf argument) fun limit => .test (!limit.le n) (.aboveMaximum data argument true)
    | none => .ok
  | .exclusiveMinimum, _ => match Number.ofValue? data with
    | some n => .attempt (limitOf argument) fun limit => .test (!n.le limit) (.belowMinimum data argument true)
    | none => .ok
  | .extending, _ => extending check context argument data
  | .format, .text _ =>
    if context.checksFormats && argument == .text "regex" then
      match patternOf data with
      | .error .badPattern => .violation (.badFormat data argument)
      | .error fault => .stop fault
      | .ok _ => .ok
    else .ok
  | .items, .list items => itemsKeyword check context fields argument items
  | .maxItems, .list items => atMost items.length argument (.tooLong data argument)
  | .maxLength, .text s => atMost s.length argument (.tooLong data argument)
  | .maxProperties, .obj properties => atMost properties.length argument (.tooManyProperties data argument)
  | .maximum, _ => match Number.ofValue? data with
    | some n => maximum context fields argument data n
    | none => .ok
  | .minItems, .list items => atLeast items.length argument (.tooShort data argument)
  | .minLength, .text s => atLeast s.length argument (.tooShort data argument)
  | .minProperties, .obj properties => atLeast properties.length argument (.tooFewProperties data argument)
  | .minimum, _ => match Number.ofValue? data with
    | some n => minimum context fields argument data n
    | none => .ok
  | .multipleOf, _ | .divisibleBy, _ => match Number.ofValue? data with
    | some n => .attempt (limitOf argument >>= isMultiple n) fun passed => .test passed (.notMultiple data argument)
    | none => .ok
  | .not, _ => negation check context argument data
  | .oneOf, _ => oneOf check context argument data
  | .pattern, .text s => .attempt (patternHolds argument s) fun found => .test found (.unmatched data argument)
  | .patternProperties, .obj properties => patternProperties check context argument properties
  | .prefixItems, .list items => .attempt argument.members fun schemas => descendTuple check context schemas items
  | .properties, .obj entries => properties check context argument entries
  | .propertyNames, .obj properties => propertyNames check context argument properties
  | .required, .obj _ => required context argument data
  | .type, _ => typeKeyword check context argument data
  | .unevaluatedItems, .list items => unevaluatedItems check context fields items
  | .unevaluatedProperties, .obj properties => unevaluatedProperties check context fields argument properties
  | .uniqueItems, .list items => .test (!argument.isTruthy || Value.distinct items) (.repeated data)
  | _, _ => .ok

end Keywords

/-- The keyword of a key, if the dialect has it. -/
def keywordOf? (dialect : Dialect) : Atom → Option Keyword
  | .text name => dialect.keyword? name
  | _ => none

/-- One level of a check: every keyword in order, or the reference alone where it hides them. -/
def checkLevel (check : Checker) : Checker := fun around context schema data =>
  match schema with
  | .obj fields =>
    let ref := if around.refHidesSiblings then (argument? fields "$ref").filter (· != .null) else none
    let applied := match ref with
      | some ref => [(.text "$ref", ref)]
      | none => fields
    context.each (fun (key, argument) => match keywordOf? context.dialect key with
      | some kind => keyword check context fields kind argument data
      | none => .ok) applied
  | .bool true => .ok
  | .bool false => .violation (.neverValid data)
  | _ => .stop .notAnObject

/-- The check with a bound on its levels; a check that needs more has no end. -/
def checkWithin : Nat → Checker
  | 0 => fun _ _ _ _ => .stop .endless
  | n + 1 => checkLevel (checkWithin n)

/-- The report on data checked against a root schema of draft 4. -/
def checkRoot (checksFormats : Bool) (schema data : Value) : Report :=
  .attempt (Scope.ofRoot Standard.library ⟨.draft4, schema⟩) fun scope =>
    checkWithin nestingLimit .draft4 { dialect := .draft4, scope, checksFormats } schema data

/-- The report on data checked against a schema. -/
def check (schema data : Value) : Report := checkRoot false schema data

end SwaggerGate.Schema
