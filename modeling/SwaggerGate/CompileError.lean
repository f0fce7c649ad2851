import SwaggerGate.Document.Reading
import SwaggerGate.Fault
import SwaggerGate.Text.Quoted

/-! Errors of compilation, each with the names that its message needs. -/
namespace SwaggerGate

/-- What keeps a set of documents from being compiled. -/
inductive CompileError where
  | unsupportedExtension (suffix file : String)
  | unreadable (file : String)
  | unparsable (file : String)
  | notAMapping (file : String)
  | malformed (origin : String) (defects : List Defect)
  | unsupportedRef (ref section_ : String)
  | noDefinition (ref name : String)
  | noParameter (ref place name : String)
  | parameterIsRef (name : String)
  | incompleteParameter (place : String)
  | invalidSchema (place : String)
deriving DecidableEq, Repr

/-- The message of an error, without the details that a parser or a check would add. -/
def CompileError.message : CompileError → String
  | .unsupportedExtension suffix file =>
    "Unsupported document extension " ++ Text.quoted suffix ++ " for " ++ file ++ ". Use .json, .yaml or .yml"
  | .unreadable file => "Cannot read description document " ++ file
  | .unparsable file => "Failed to parse " ++ file
  | .notAMapping file => "Description document " ++ file ++ " must be a mapping"
  | .malformed origin _ => "Malformed description document " ++ origin
  | .unsupportedRef ref section_ =>
    "Unsupported $ref " ++ Text.quoted ref ++ "; expected #/" ++ section_ ++ "/<name>"
  | .noDefinition ref name =>
    "Unresolvable $ref " ++ Text.quoted ref ++ ": no definition named " ++ Text.quoted name
  | .noParameter ref place name =>
    "Unresolvable $ref " ++ Text.quoted ref ++ " in " ++ place ++ ": no parameter named " ++ Text.quoted name
  | .parameterIsRef name => "Parameter " ++ Text.quoted name ++ " must not itself be a $ref"
  | .incompleteParameter place => "Parameter in " ++ place ++ " is missing 'name' or 'in'"
  | .invalidSchema place => "Invalid schema for " ++ place

/-- What ends a compilation early: an error of the documents, or a fault. -/
inductive CompileFailure where
  | error (e : CompileError)
  | fault (f : Fault)
deriving DecidableEq, Repr

/-- Ends a compilation with an error of the documents. -/
def CompileError.fail {α : Type} (e : CompileError) : Except CompileFailure α := .error (.error e)

end SwaggerGate
