import SwaggerGate.CommandLine.Usage
import SwaggerGate.Config
import SwaggerGate.Json.Read
import SwaggerGate.Json.Write
import SwaggerGate.Text.Lines
import SwaggerGate.Validation

/-! The command line. `check` compiles documents and lists their operations; `validate`
judges one request and prints its outcome as JSON. -/
namespace SwaggerGate.CommandLine

/-- What ends a command early. -/
inductive Failure where
  | usage (e : UsageError)
  | config (e : ConfigError)
  | compile (e : CompileError)
  | fault (f : Fault)
deriving DecidableEq, Repr

/-- What a command has written, text by text, and how it ended. -/
structure Report where
  output : List String := []
  log : List String := []
  failure : Option Failure := none
  /-- Whether the command says by its exit code that a request is not valid. -/
  rejected : Bool := false
deriving DecidableEq, Repr

def Report.exitCode (report : Report) : Nat :=
  match report.failure with
  | some (.usage _) => 2
  | some _ => 1
  | none => if report.rejected then 1 else 0

namespace Report

/-- The lines of the output. -/
def outputLines (report : Report) : List String := Text.linesOf report.output

/-- The lines of the log. -/
def logLines (report : Report) : List String := Text.linesOf report.log

/-- A report that ends at the first text of its output that cannot be written. -/
def written (report : Report) : Report :=
  if report.output.any Text.hasSurrogate then
    { report with output := report.output.takeWhile (!Text.hasSurrogate ·), failure := some (.fault .unencodable) }
  else report

end Report

private def failed (failure : Failure) : Report := { failure := some failure }

private def ofConfig : ConfigFailure → Failure
  | .error e => .config e
  | .fault f => .fault f

private def ofCompile : CompileFailure → Failure
  | .error e => .compile e
  | .fault f => .fault f

def help : Switch := { name := "--help", takesValue := false }

def verbose : Switch := { name := "--verbose", short := some 'v', takesValue := false }

def mainSwitches : List Switch := [verbose, help]

def checkSwitches : List Switch := [{ name := "--config" }, help]

def validateSwitches : List Switch :=
  [{ name := "--config" }, { name := "--method", short := some 'X' }, { name := "--path" },
    { name := "--query", short := some 'q' }, { name := "--body", short := some 'd' }, help]

def helpText : List String :=
  ["Usage: [-v] check [--config FILE] [DOC_PATHS]...",
    "       [-v] validate --path PATH [--config FILE] [-X METHOD] [-q NAME=VALUE]... [-d BODY] [DOC_PATHS]..."]

/-- Refuses a name that leads nowhere. -/
def existing (files : Files) (place name : String) : Except Failure PathName :=
  if name.toList.contains '\x00' then .error (.fault .unusableName)
  else if (files.find? name).isSome then .ok (PathName.ofText name)
  else .error (.usage (.badValue place ("Path " ++ Text.quoted name ++ " does not exist.")))

/-- The configuration file and the documents that the words of a command name. -/
structure Inputs where
  config : Option PathName
  documents : List PathName

def inputs (files : Files) (arguments : Arguments) : Except Failure Inputs := do
  let config ← (arguments.value? "--config").mapM (existing files "'--config'")
  let documents ← arguments.operands.mapM (existing files "'[DOC_PATHS]...'")
  return { config, documents }

/-- The documents on the command line, then those of the configuration; there must be one. -/
def sources (files : Files) (inputs : Inputs) : Except Failure (List Source) := do
  let listed ← match inputs.config with
    | none => pure []
    | some name => match Config.load files name with
      | .ok config => pure config.sources
      | .error failure => throw (ofConfig failure)
  let all := inputs.documents.map (fun p => Source.file p.text) ++ listed
  if all.isEmpty then throw (.usage .noDocuments) else return all

private def compilerLog (level text : String) : String :=
  level ++ ":swagger_validator.schema.compiler:" ++ text

/-- The log of a compilation: a line for each operation before the first failure, and one
at the end if there is none. -/
def compileLog (documents : List Document) : List String :=
  let merged := Merged.ofDocuments documents
  let compiled := ((Compile.tasks merged).map (Compile.compileTask merged)).map fun
    | .ok o => some ("Compiled operation " ++ o.key)
    | .error _ => none
  let lines := (compiled.takeWhile Option.isSome).filterMap fun line => line.map (compilerLog "DEBUG")
  match Compile.registry documents with
  | .ok registry => lines ++ [compilerLog "INFO" ("Compiled " ++ Double.digitsText registry.size
      ++ " operations from " ++ Double.digitsText documents.length ++ " documents")]
  | .error _ => lines

/-- Compiles sources, with the log if it is wanted. -/
def compile (files : Files) (verbose : Bool) (sources : List Source) : Except Failure Registry × List String :=
  match Source.documents files sources with
  | .error failure => (.error (ofCompile failure), [])
  | .ok documents =>
    ((Compile.registry documents).mapError ofCompile, if verbose then compileLog documents else [])

/-- How a listing shows an operation: its verb, and its path from the root. -/
def listing (o : Operation) : String :=
  "  " ++ Text.upper o.method.name ++ " " ++ o.basePath.getD "" ++ o.template

def check (files : Files) (verbose : Bool) (arguments : Arguments) : Report :=
  match inputs files arguments >>= sources files with
  | .error failure => failed failure
  | .ok sources =>
    let started := "Compiling " ++ Double.digitsText sources.length ++ " document(s)..."
    match compile files verbose sources with
    | (.error failure, log) => { output := [started], log, failure := some failure }
    | (.ok registry, log) =>
      { output := [started, "Found " ++ Double.digitsText registry.size ++ " operations."]
          ++ registry.operations.map listing
        log }

/-- A target with query options behind the query that it has. -/
def targetOf (path : String) (queries : List String) : String :=
  if queries.isEmpty then path
  else path ++ (if path.toList.contains '?' then "&" else "?") ++ String.intercalate "&" queries

/-- The body that an option gives as JSON. -/
def bodyOf (arguments : Arguments) : Except Failure Value :=
  match (arguments.value? "--body").map Json.read with
  | none => .ok .null
  | some (.ok body) => .ok body
  | some (.error .malformed) => .error (.usage (.badValue "--body" "not valid JSON"))
  | some (.error .longInteger) => .error (.fault .longInteger)
  | some (.error .tooDeep) => .error (.fault .endless)

/-- The request that the options of `validate` describe. -/
def requestOf (arguments : Arguments) (path : String) : Except Failure Request := do
  let queries := arguments.values "--query"
  match queries.find? fun pair => !pair.toList.contains '=' with
  | some pair => throw (.usage (.badValue "--query" ("expected NAME=VALUE, got " ++ Text.quoted pair)))
  | none => pure ()
  let body ← bodyOf arguments
  match Request.ofUrl? ((arguments.value? "--method").getD "GET") (targetOf path queries) body [] with
  | some request => return request
  | none => throw (.fault .malformedUrl)

private def judgeLog (text : String) : List String := ["DEBUG:swagger_validator.validation.facade:" ++ text]

/-- What the log says of a verdict. -/
def verdictLog (request : Request) : Verdict → List String
  | .noOperation => judgeLog ("No operation for " ++ request.method ++ " " ++ request.path)
  | .bodyRejected o outcome => judgeLog ("Body of " ++ o.key ++ " rejected: " ++ outcome.logText)
  | .parametersRejected o outcome => judgeLog ("Parameters of " ++ o.key ++ " rejected: " ++ outcome.logText)
  | .accepted _ => []

def validate (files : Files) (verbose : Bool) (arguments : Arguments) : Report :=
  match inputs files arguments, arguments.value? "--path" with
  | .error failure, _ => failed failure
  | .ok _, none => failed (.usage (.missingOption "--path"))
  | .ok inputs, some path => match sources files inputs with
    | .error failure => failed failure
    | .ok sources => match compile files verbose sources with
      | (.error failure, log) => { log, failure := some failure }
      | (.ok registry, log) => match requestOf arguments path with
        | .error failure => { log, failure := some failure }
        | .ok request => match Validation.judge registry request with
          | .error fault => { log, failure := some (.fault fault) }
          | .ok verdict =>
            { output := [Json.lineText verdict.outcome.describe]
              log := if verbose then log ++ verdictLog request verdict else log
              rejected := verdict.outcome ≠ .ok }

/-- A command: its name, its options, and what it does. -/
structure Command where
  name : String
  switches : List Switch
  run : Files → Bool → Arguments → Report

def commands : List Command := [⟨"check", checkSwitches, check⟩, ⟨"validate", validateSwitches, validate⟩]

/-- Why a word names no command: it may be an option after the end of options. -/
def unknownCommand (words : List String) (name : String) : Report :=
  match Arguments.read mainSwitches false words with
  | .error e => failed (.usage e)
  | .ok again =>
    if again.has help.name then { output := helpText }
    else failed (.usage (.noSuchCommand name (Text.closeMatches name (commands.map Command.name))))

/-- Runs the words of a command line. -/
def run (files : Files) (words : List String) : Report :=
  match Arguments.read mainSwitches false words with
  | .error e => failed (.usage e)
  | .ok arguments =>
    if arguments.has help.name then { output := helpText }
    else match arguments.operands with
      | [] => failed (.usage .missingCommand)
      | name :: rest => match commands.find? (·.name == name) with
        | none => unknownCommand arguments.operands name
        | some command => match Arguments.read command.switches true rest with
          | .error e => failed (.usage e)
          | .ok inner =>
            if inner.has help.name then { output := helpText }
            else (command.run files (arguments.has verbose.name) inner).written

end SwaggerGate.CommandLine
