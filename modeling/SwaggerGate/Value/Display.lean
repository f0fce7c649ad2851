import SwaggerGate.Double.Shortest
import SwaggerGate.Text.Quoted
import SwaggerGate.Value

/-! The text of a value inside a message: capitalised constants, shortest numbers,
quoted texts, and brackets around lists and objects in their order. A loop shows as an
ellipsis. An integer of too many digits has no text. -/
namespace SwaggerGate

/-- The least number of too many digits. -/
def integerBound : Nat := Nat.pow 10 Text.maxIntegerDigits

def intText (n : Int) : String :=
  if n < 0 then "-" ++ Double.digitsText n.natAbs else Double.digitsText n.natAbs

/-- A number with zeros before it up to a width. -/
def paddedText (width n : Nat) : String :=
  let digits := Double.digitsText n
  String.ofList (List.replicate (width - digits.length) '0') ++ digits

def Date.isoText (d : Date) : String :=
  paddedText 4 d.year ++ "-" ++ paddedText 2 d.month ++ "-" ++ paddedText 2 d.day

def Moment.isoText (t : Moment) : String :=
  t.date.isoText ++ "T" ++ paddedText 2 t.hour ++ ":" ++ paddedText 2 t.minute ++ ":"
    ++ paddedText 2 t.second
    ++ (if t.micro = 0 then "" else "." ++ paddedText 6 t.micro)
    ++ (match t.offset with
      | none => ""
      | some o => (if o < 0 then "-" else "+") ++ paddedText 2 (o.natAbs / 60) ++ ":"
        ++ paddedText 2 (o.natAbs % 60))

private def commaJoined (parts : List String) : String := String.intercalate ", " parts

def Date.display (d : Date) : String :=
  "datetime.date(" ++ commaJoined ([d.year, d.month, d.day].map Double.digitsText) ++ ")"

def Moment.display (t : Moment) : String :=
  let small := if t.micro ≠ 0 then [t.second, t.micro] else if t.second ≠ 0 then [t.second] else []
  let zone := match t.offset with
    | none => []
    | some 0 => ["tzinfo=datetime.timezone.utc"]
    | some o =>
      let days := if o < 0 then "days=-1, " else ""
      let seconds := intText (if o < 0 then (o + 1440) * 60 else o * 60)
      ["tzinfo=datetime.timezone(datetime.timedelta(" ++ days ++ "seconds=" ++ seconds ++ "))"]
  "datetime.datetime(" ++ commaJoined
    (([t.date.year, t.date.month, t.date.day, t.hour, t.minute] ++ small).map Double.digitsText ++ zone)
    ++ ")"

private def byteText (quote : Char) (b : UInt8) : List Char :=
  if b < 128 then Text.quotedChar quote (Char.ofNat b.toNat) else '\\' :: 'x' :: Text.hexText 2 b.toNat

/-- Bytes in quotes as a text of ASCII characters, after a mark. -/
def bytesText (bytes : List UInt8) : String :=
  let quote := Text.quoteFor (bytes.map fun b => Char.ofNat b.toNat)
  String.ofList ('b' :: quote :: bytes.flatMap (byteText quote) ++ [quote])

def Atom.display : Atom → String
  | .null => "None"
  | .bool b => if b then "True" else "False"
  | .int n => intText n
  | .float x => x.text Double.plainWords
  | .text s => Text.quoted s
  | .date d => d.display
  | .moment t => t.display
  | .bytes b => bytesText b

def Atom.isShowable : Atom → Bool
  | .int n => n.natAbs < integerBound
  | _ => true

namespace Value

mutual
def display : Value → String
  | .atom a => a.display
  | .list items => "[" ++ commaJoined (displayItems items) ++ "]"
  | .obj fields => "\x7b" ++ commaJoined (displayFields fields) ++ "\x7d"
  | .set [] => "set()"
  | .set members => "\x7b" ++ commaJoined (members.map Atom.display) ++ "\x7d"
  | .pair a b => "(" ++ display a ++ ", " ++ display b ++ ")"
  | .loop _ ofObject => if ofObject then "\x7b...\x7d" else "[...]"
def displayItems : List Value → List String
  | [] => []
  | v :: rest => display v :: displayItems rest
def displayFields : List (Atom × Value) → List String
  | [] => []
  | (k, v) :: rest => (k.display ++ ": " ++ display v) :: displayFields rest
end

mutual
/-- Whether every integer inside a value has a text. -/
def isShowable : Value → Bool
  | .atom a => a.isShowable
  | .list items => areShowable items
  | .obj fields => fieldsShowable fields
  | .set members => members.all Atom.isShowable
  | .pair a b => isShowable a && isShowable b
  | .loop .. => true
def areShowable : List Value → Bool
  | [] => true
  | v :: rest => isShowable v && areShowable rest
def fieldsShowable : List (Atom × Value) → Bool
  | [] => true
  | (k, v) :: rest => k.isShowable && isShowable v && fieldsShowable rest
end

/-- The text of a value by itself: a text as it is, a time in its usual form. -/
def plainText : Value → String
  | .text s => s
  | .atom (.date d) => d.isoText
  | .atom (.moment t) => String.ofList (t.isoText.toList.map fun c => if c = 'T' then ' ' else c)
  | v => v.display

/-- The name of a value's kind, capitalised for the kinds of JSON. -/
def kindName : Value → String
  | .atom .null => "Null"
  | .atom (.bool _) => "Boolean"
  | .atom (.int _) => "Integer"
  | .atom (.float _) => "Number"
  | .atom (.text _) => "String"
  | .atom (.date _) => "date"
  | .atom (.moment _) => "datetime"
  | .atom (.bytes _) => "bytes"
  | .list _ | .pair .. | .loop _ false => "Array"
  | .obj _ | .loop _ true => "Object"
  | .set _ => "set"

end Value
end SwaggerGate
