import SwaggerGate.Text.Split
import SwaggerGate.Text.Utf8
import SwaggerGate.Value.Display
import SwaggerGate.Value.Loop

/-! Readings of data that go on after a defect. A reading holds what was read, with a
stand-in where a defect was met, and every defect with its location. Bytes read as the text
that they encode; sets and pairs read as lists of their members. -/
namespace SwaggerGate

/-- What can be wrong with one entry of a document or configuration. -/
inductive DefectKind where
  | notText
  /-- Bytes are no text in UTF-8. -/
  | notUtf8
  /-- Any object was needed. -/
  | notMapping
  /-- An object of known fields was needed. -/
  | notObject
  | notList
  /-- A text is none of the known ones. -/
  | notAChoice
  | notBoolean
  /-- A text or number does not stand for a truth value. -/
  | noBooleanWord
  /-- An entry that no field claims has a key that is not text. -/
  | keyNotText
  | notInteger
  | noIntegerText
  /-- A number or a text of one has too many digits. -/
  | oversizedInteger
  | fractional
  | notFinite
  | tooSmall
  | tooLarge
  | notPathName
  /-- A descriptor is part of itself, or nests too deeply. -/
  | recursive
deriving DecidableEq, Repr

structure Defect where
  location : List String
  kind : DefectKind
deriving DecidableEq, Repr

structure Reading (α : Type) where
  value : α
  defects : List Defect := []

namespace Reading

/-- Where a value is being read. -/
abbrev Place := List String

def pure {α : Type} (value : α) : Reading α := ⟨value, []⟩

def defect {α : Type} (place : Place) (kind : DefectKind) (standIn : α) : Reading α :=
  ⟨standIn, [⟨place, kind⟩]⟩

def map {α β : Type} (f : α → β) (r : Reading α) : Reading β := ⟨f r.value, r.defects⟩

def result {α : Type} (r : Reading α) : Except (List Defect) α :=
  if r.defects.isEmpty then .ok r.value else .error r.defects

/-- The text that a value writes, if it is one that may; bytes write one only in UTF-8. -/
def text? : Value → Option (Except Unit String)
  | .text s => some (.ok s)
  | .atom (.bytes b) => some (match Text.Utf8.decode? b with
    | some cs => .ok (String.ofList cs)
    | none => .error ())
  | _ => none

/-- The members of a value that may stand for a list, each a value of its own. -/
def members? : Value → Option (List Value)
  | .list items => some (Value.itemsOf items)
  | .pair a b => some [Value.closedBy (.pair a b) 0 a, Value.closedBy (.pair a b) 0 b]
  | .set members => some (members.map .atom)
  | _ => none

/-- Reads every member of a list, locating each by its index. -/
def each {α : Type} (read : Place → Value → Reading α) (place : Place) (items : List Value) : Reading (List α) :=
  let readings := items.mapIdx fun i item => read (place ++ [Double.digitsText i]) item
  ⟨readings.map (·.value), readings.flatMap (·.defects)⟩

/-- A key as a part of a location; booleans show as the numbers 0 and 1. -/
def keyPart : Atom → String
  | .text s => s
  | .bool b => if b then "1" else "0"
  | key => key.display

/-- Reads the entries of an object whose keys must be texts; of entries of one name the
last counts. -/
def entries {α : Type} (read : Place → Value → Reading α) (place : Place)
    (fields : List (Atom × Value)) : Reading (List (String × α)) :=
  let readings := fields.map fun (key, v) =>
    let here := place ++ [keyPart key]
    let inner := read here v
    let flawed (kind : DefectKind) : String × Reading α := ("", ⟨inner.value, ⟨here ++ ["[key]"], kind⟩ :: inner.defects⟩)
    match text? (.atom key) with
    | some (.ok name) => (name, inner)
    | some (.error ()) => flawed .notUtf8
    | none => flawed .notText
  ⟨Entries.ofList (readings.map fun r => (r.1, r.2.value)), readings.flatMap fun r => r.2.defects⟩

/-- The entry of a field, under its own name or else as it is usually written. -/
def fieldValue? (written name : String) (fields : List (Atom × Value)) : Option Value :=
  match fields.lookup (.text name) with
  | some v => some v
  | none => fields.lookup (.text written)

/-- Reads a field that may be absent; a defect is located by the usual name. -/
def field {α : Type} (read : Place → Value → Reading α) (place : Place) (written name : String)
    (absent : α) (fields : List (Atom × Value)) : Reading α :=
  match fieldValue? written name fields with
  | some v => read (place ++ [written]) v
  | none => pure absent

/-- The entries of an object other than its known fields; their keys must be texts. -/
def extras (place : Place) (known : List String) (fields : List (Atom × Value)) :
    Reading (List (String × Value)) :=
  let named := fields.map fun (key, v) => (text? (.atom key), key, v)
  ⟨Entries.ofList (named.filterMap fun
      | (some (.ok name), _, v) => if known.contains name then none else some (name, v)
      | _ => none),
    named.filterMap fun
      | (some (.ok _), _, _) => none
      | (_, key, _) => some ⟨place ++ [keyPart key], .keyNotText⟩⟩

def optional {α : Type} (read : Place → Value → Reading α) (place : Place) : Value → Reading (Option α)
  | .null => pure none
  | v => (read place v).map some

def string (place : Place) (v : Value) : Reading String :=
  match text? v with
  | some (.ok s) => pure s
  | some (.error ()) => defect place .notUtf8 ""
  | none => defect place .notText ""

def items (place : Place) (v : Value) : Reading (List Value) :=
  match members? v with
  | some members => pure members
  | none => defect place .notList []

def fields (place : Place) : Value → Reading (List (Atom × Value))
  | .obj fs => pure fs
  | _ => defect place .notMapping []

/-- Reads a list whose members are read alike. -/
def list {α : Type} (read : Place → Value → Reading α) (place : Place) (v : Value) : Reading (List α) :=
  match members? v with
  | some members => each read place members
  | none => defect place .notList []

/-- Reads an object whose entries are read alike. -/
def table {α : Type} (read : Place → Value → Reading α) (place : Place) : Value → Reading (List (String × α))
  | .obj fs => entries read place (Value.partsOf fs)
  | _ => defect place .notMapping []

/-- Reads an object of known fields by its entries, each a value of its own. -/
def object {α : Type} (read : Place → List (Atom × Value) → Reading α) (standIn : α) (place : Place) :
    Value → Reading α
  | .obj fs => read place (Value.partsOf fs)
  | _ => defect place .notObject standIn

def choice {α : Type} (all : List α) (name : α → String) (standIn : α) (place : Place) (v : Value) : Reading α :=
  match text? v with
  | some (.ok s) => match all.find? fun a => name a == s with
    | some a => pure a
    | none => defect place .notAChoice standIn
  | _ => defect place .notAChoice standIn

private def trueWords : List String := ["true", "t", "yes", "y", "on", "1"]

private def falseWords : List String := ["false", "f", "no", "n", "off", "0"]

/-- Whether an integer fits 64 bits with a sign. -/
def fitsWord (n : Int) : Bool := -9223372036854775808 ≤ n && n < 9223372036854775808

/-- Reads a truth value: a boolean, the number 0 or 1, or one of the usual words. -/
def truth (place : Place) : Value → Reading Bool
  | .bool b => pure b
  | .int n =>
    if n = 0 then pure false else if n = 1 then pure true
    else defect place (if fitsWord n then .noBooleanWord else .notBoolean) false
  | .float x => match x.integer? with
    | some 0 => pure false
    | some 1 => pure true
    | _ => defect place .notBoolean false
  | v => match text? v with
    | some (.ok s) =>
      if trueWords.contains (Text.lower s) then pure true
      else if falseWords.contains (Text.lower s) then pure false
      else defect place .noBooleanWord false
    | some (.error ()) => defect place .noBooleanWord false
    | none => defect place .notBoolean false

end Reading
end SwaggerGate
