import SwaggerGate.Compile
import SwaggerGate.Document.Read
import SwaggerGate.Files
import SwaggerGate.Yaml.Read

/-! Sources of documents: files, and data at hand. A file is read by its suffix, and every
kind by the same reader. -/
namespace SwaggerGate

inductive Source where
  | file (name : String)
  | data (value : Value)
deriving DecidableEq, Repr

namespace Source

private def fail {α : Type} (e : CompileError) : Except CompileFailure α := .error (.error e)

def suffixes : List String := [".json", ".yaml", ".yml"]

/-- The object that a file holds. -/
def load (files : Files) (name : PathName) : Except CompileFailure (List (Atom × Value)) :=
  if !suffixes.contains (Text.lower name.suffix) then fail (.unsupportedExtension name.suffix name.text)
  else match files.text name with
    | .error .unreadable => fail (.unreadable name.text)
    | .error (.fault fault) => .error (.fault fault)
    | .ok text => match Yaml.read text with
      | .error .malformed => fail (.unparsable name.text)
      | .error (.fault fault) => .error (.fault fault)
      | .ok (.obj fields) => .ok fields
      | .ok _ => fail (.notAMapping name.text)

/-- What messages call a source. -/
def origin : Source → String
  | .file name => name
  | .data _ => "<mapping>"

def value (files : Files) : Source → Except CompileFailure Value
  | .file name => (load files (PathName.ofText name)).map .obj
  | .data v => .ok v

def document (files : Files) (source : Source) : Except CompileFailure Document := do
  match Document.ofValue (← source.value files) with
  | .ok document => return document
  | .error defects => fail (.malformed source.origin defects)

/-- The documents of sources, in order. -/
def documents (files : Files) (sources : List Source) : Except CompileFailure (List Document) :=
  sources.mapM (document files)

/-- Compiles sources in order into a registry. -/
def registry (files : Files) (sources : List Source) : Except CompileFailure Registry := do
  Compile.registry (← documents files sources)

end Source
end SwaggerGate
