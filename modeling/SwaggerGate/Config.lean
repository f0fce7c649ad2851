import SwaggerGate.Document.Reading
import SwaggerGate.Scalar
import SwaggerGate.Source
import SwaggerGate.Text.Blank

/-! Configuration: which documents to compile and with which status to refuse a request.
Entries other than these two are ignored. -/
namespace SwaggerGate

structure Config where
  documents : List PathName := []
  failureStatus : Int := 400
deriving DecidableEq, Repr

/-- What keeps a configuration from being loaded. -/
inductive ConfigError where
  | unreadable (file : String)
  | unparsable (file : String)
  | invalid (file : String) (defects : List Defect)
deriving DecidableEq, Repr

def ConfigError.message : ConfigError → String
  | .unreadable file => "Cannot read config " ++ file
  | .unparsable file => "Failed to parse config " ++ file
  | .invalid file _ => "Invalid config " ++ file

inductive ConfigFailure where
  | error (e : ConfigError)
  | fault (f : Fault)
deriving DecidableEq, Repr

namespace Config

open Reading (Place)

def minStatus : Int := 400

def maxStatus : Int := 599

/-- What follows the zeros that a number starts with, and the low lines among them: more
digits, a number of its own, or a point, of which the last zero is then a part. Of nothing
but zeros the last is left. -/
def afterZeros (last : Char) : List Char → Option (List Char)
  | [] => some [last]
  | c :: rest =>
    if c = '0' ∨ c = '_' then afterZeros c rest
    else if Text.isAsciiDigit c ∨ c = '-' then some (c :: rest)
    else if c = '.' then some (last :: c :: rest)
    else none

def withoutZeros : List Char → Option (List Char)
  | '0' :: rest => afterZeros '0' rest
  | c :: rest => if Text.isAsciiDigit c then some (c :: rest) else none
  | [] => none

/-- A number without the zeros after its point, if nothing else follows the point. -/
def withoutFraction (cs : List Char) : List Char :=
  match Text.cut '.' cs with
  | (whole, some zeros) => if !zeros.isEmpty && zeros.all (· == '0') then whole else cs
  | (whole, none) => whole

/-- An integer written with blanks around it, a sign, zeros before its digits, single low
lines between them, and zeros after a point; zeros may also stand before the sign. -/
def integerText? (text : String) : Except DefectKind Int :=
  let body := Text.trim Text.isStandardBlank text.toList
  let (negative, unsigned) := Text.sign body
  match withoutZeros unsigned with
  | none => .error .noIntegerText
  | some rest =>
    let (digits, inner) := match withoutFraction rest with
      | '-' :: digits => (digits, true)
      | digits => (digits, false)
    let number := digits.filter (· != '_')
    if (negative && inner) || !Text.isSpacedDigits digits || (number.head? = some '0' && number.length ≠ 1) then
      .error .noIntegerText
    else if number.length > Text.maxIntegerDigits then .error .oversizedInteger
    else .ok (Text.signed (negative || inner) (Text.decimalNumber number))

/-- A whole number, or the defect that keeps a value from being one. -/
def integer (place : Place) : Value → Reading Int
  | .int n => Reading.pure n
  | .bool b => Reading.pure (if b then 1 else 0)
  | .float x => match x.ratio?, x.integer? with
    | _, some n =>
      if n.natAbs < 9223372036854775808 then Reading.pure n else Reading.defect place .oversizedInteger minStatus
    | some _, none => Reading.defect place .fractional minStatus
    | none, none => Reading.defect place .notFinite minStatus
  | v => match Reading.text? v with
    | some (.ok s) => match integerText? s with
      | .ok n => Reading.pure n
      | .error kind => Reading.defect place kind minStatus
    | some (.error ()) => Reading.defect place .noIntegerText minStatus
    | none => Reading.defect place .notInteger minStatus

def status (place : Place) (value : Value) : Reading Int :=
  let read := integer place value
  if !read.defects.isEmpty then read
  else if read.value < minStatus then Reading.defect place .tooSmall minStatus
  else if maxStatus < read.value then Reading.defect place .tooLarge minStatus
  else read

def pathName (place : Place) : Value → Reading PathName
  | .text s => Reading.pure (PathName.ofText s)
  | _ => Reading.defect place .notPathName {}

def read (v : Value) : Reading Config :=
  Reading.object (fun place fields =>
    let documents := Reading.field (Reading.list pathName) place "documents" "documents" [] fields
    let status := Reading.field status place "failure_status" "failure_status" 400 fields
    ⟨{ documents := documents.value, failureStatus := status.value }, documents.defects ++ status.defects⟩) {} [] v

/-- The configuration that data describes, or every defect of the data. -/
def ofValue (data : Value) : Except (List Defect) Config := (read data).result

/-- Loads a configuration file. Whatever is empty in it counts as no entries; documents
are found from the file's own directory. -/
def load (files : Files) (name : PathName) : Except ConfigFailure Config :=
  match files.text name with
  | .error .unreadable => .error (.error (.unreadable name.text))
  | .error (.fault fault) => .error (.fault fault)
  | .ok text => match Yaml.read text with
    | .error .malformed => .error (.error (.unparsable name.text))
    | .error (.fault fault) => .error (.fault fault)
    | .ok data => match ofValue (if data.isTruthy then data else .obj []) with
      | .error defects => .error (.error (.invalid name.text defects))
      | .ok config => .ok { config with documents := config.documents.map (PathName.under name.parent) }

/-- The documents of a configuration as sources. -/
def sources (config : Config) : List Source := config.documents.map fun p => .file p.text

end Config
end SwaggerGate
