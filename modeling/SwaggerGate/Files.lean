import SwaggerGate.Fault
import SwaggerGate.Text.Split
import SwaggerGate.Text.Utf8

/-! File names and what they lead to. A name is kept in its plain form: repeated slashes
and steps to the same place are gone, steps upward stay. -/
namespace SwaggerGate

structure PathName where
  /-- The slashes in front of an absolute name; two of them differ from one. -/
  lead : String := ""
  parts : List String := []
deriving DecidableEq, Repr

namespace PathName

private def leadOf : List Char → String
  | '/' :: '/' :: '/' :: _ => "/"
  | '/' :: '/' :: _ => "//"
  | '/' :: _ => "/"
  | _ => ""

def ofText (name : String) : PathName :=
  { lead := leadOf name.toList
    parts := ((Text.splitOn '/' name.toList).map String.ofList).filter fun part => part != "" && part != "." }

def isAbsolute (p : PathName) : Bool := p.lead != ""

def text (p : PathName) : String :=
  if p.lead = "" ∧ p.parts = [] then "." else p.lead ++ String.intercalate "/" p.parts

/-- The last point of a name and what follows it, unless the name starts or ends with it. -/
def suffix (p : PathName) : String :=
  let reversed := (p.parts.getLastD "").toList.reverse
  match Text.cut '.' reversed with
  | (ending, some stem) =>
    if ending.isEmpty || stem.isEmpty then "" else String.ofList ('.' :: ending.reverse)
  | _ => ""

def parent (p : PathName) : PathName := { p with parts := p.parts.dropLast }

/-- A name seen from a directory; an absolute name stays. -/
def under (directory p : PathName) : PathName :=
  if p.isAbsolute then p else { directory with parts := directory.parts ++ p.parts }

end PathName

/-- What a name can lead to. -/
inductive FileEntry where
  | file (bytes : List UInt8)
  | directory
deriving DecidableEq, Repr

/-- What every name leads to, at one moment. -/
structure Files where
  find? : String → Option FileEntry

namespace Files

/-- What the steps from one place to another lead to, among files known by their steps. -/
def entryAt (known : List (List String × List UInt8)) (steps : List String) : Option FileEntry :=
  match known.lookup steps with
  | some bytes => some (.file bytes)
  | none =>
    if steps = [] ∨ known.any (fun entry => steps.isPrefixOf entry.1) then some .directory else none

/-- What steps outside the known files lead to: upward there are only directories, and
nothing else is known. -/
def outside (steps : List String) : Option FileEntry :=
  if steps.all (· == "..") then some .directory else none

/-- Takes steps one by one; each starts from a directory. -/
def follow (known : List (List String × List UInt8)) : List String → List String → Option FileEntry
  | here, [] => entryAt known here
  | here, step :: rest =>
    if entryAt known here = some .directory then
      if step = ".." then
        if here = [] then outside rest else follow known here.dropLast rest
      else follow known (here ++ [step]) rest
    else none

/-- The files of a working directory that holds nothing else; their directories are there
too. A name that ends like a directory leads to none but directories. -/
def ofList (files : List (String × List UInt8)) : Files where
  find? name :=
    let known := files.map fun file => ((PathName.ofText file.1).parts, file.2)
    let path := PathName.ofText name
    let ending := ((Text.splitOn '/' name.toList).getLastD [])
    if name = "" then none
    else if path.isAbsolute then outside path.parts
    else match follow known [] path.parts with
      | some (.file bytes) => if ending = [] ∨ ending = ['.'] then none else some (.file bytes)
      | found => found

/-- Why a file has no text. -/
inductive TextFailure where
  | unreadable
  | fault (fault : Fault)
deriving DecidableEq, Repr

/-- Reads every line break as a line feed. -/
def plainBreaks : List Char → List Char
  | '\r' :: '\n' :: rest => '\n' :: plainBreaks rest
  | '\r' :: rest => '\n' :: plainBreaks rest
  | c :: rest => c :: plainBreaks rest
  | [] => []

/-- The text of a UTF-8 file. -/
def text (files : Files) (name : PathName) : Except TextFailure (List Char) :=
  if name.text.toList.contains '\x00' then .error (.fault .unusableName)
  else match files.find? name.text with
    | some (.file bytes) => match Text.Utf8.decode? bytes with
      | some cs => .ok (plainBreaks cs)
      | none => .error (.fault .notUtf8)
    | _ => .error .unreadable

end Files
end SwaggerGate
