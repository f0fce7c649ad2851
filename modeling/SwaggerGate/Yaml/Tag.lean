import SwaggerGate.Text.Digits
import SwaggerGate.Text.Split

/-! Tags of nodes, and the tag that a plain scalar has by its form. -/
namespace SwaggerGate.Yaml

inductive Tag where
  | null | bool | int | float | binary | timestamp | omap | pairs | set | str | seq | map | merge | value
  | other (name : List Char)
deriving DecidableEq, Repr

namespace Tag

/-- What the addresses of the standard tags start with. -/
def standardLead : List Char := "tag:yaml.org,2002:".toList

def standard : List (String × Tag) :=
  [("null", .null), ("bool", .bool), ("int", .int), ("float", .float), ("binary", .binary),
    ("timestamp", .timestamp), ("omap", .omap), ("pairs", .pairs), ("set", .set), ("str", .str), ("seq", .seq),
    ("map", .map), ("merge", .merge), ("value", .value)]

def ofAddress (address : List Char) : Tag :=
  if standardLead.isPrefixOf address then
    (standard.lookup (String.ofList (address.drop standardLead.length))).getD (.other address)
  else .other address

end Tag

namespace Plain

/-- The three usual spellings of a word: small, capitalised and in capitals. -/
def spellings (word : String) : List (List Char) :=
  let cs := word.toList
  [cs, cs.take 1 |>.map Text.upperAscii |>.append (cs.drop 1), cs.map Text.upperAscii]

def isBool (cs : List Char) : Bool :=
  ["yes", "no", "true", "false", "on", "off"].any fun word => (spellings word).contains cs

def isNull (cs : List Char) : Bool := cs.isEmpty || cs == ['~'] || (spellings "null").contains cs

def dropSign : List Char → List Char
  | '-' :: rest => rest
  | '+' :: rest => rest
  | cs => cs

def digitOrLow (c : Char) : Bool := Text.isAsciiDigit c || c == '_'

/-- Digits with low lines among them, a digit first. -/
def isDigitRun (cs : List Char) : Bool := cs.head?.any Text.isAsciiDigit && cs.all digitOrLow

/-- A place of a sexagesimal number: one digit, or two below sixty. -/
def isSixtieth : List Char → Bool
  | [d] => Text.isAsciiDigit d
  | [t, d] => '0' ≤ t && t ≤ '5' && Text.isAsciiDigit d
  | _ => false

def isOctalOrLow (c : Char) : Bool := ('0' ≤ c && c ≤ '7') || c == '_'

def isInt (cs : List Char) : Bool :=
  match dropSign cs with
  | ['0'] => true
  | '0' :: 'b' :: rest => !rest.isEmpty && rest.all fun c => c == '0' || c == '1' || c == '_'
  | '0' :: 'x' :: rest => !rest.isEmpty && rest.all fun c => (Text.hexDigit? c).isSome || c == '_'
  | '0' :: rest => rest.all isOctalOrLow
  | body => match Text.splitOn ':' body with
    | whole :: places => isDigitRun whole && places.all isSixtieth
    | [] => false

/-- An exponent with its sign, or nothing. -/
def isExponent : List Char → Bool
  | [] => true
  | e :: sign :: digits =>
    (e == 'e' || e == 'E') && (sign == '+' || sign == '-') && !digits.isEmpty && digits.all Text.isAsciiDigit
  | _ => false

/-- What follows the point of a float: digits and low lines, then an exponent. -/
def isFraction (cs : List Char) : Bool := isExponent (cs.dropWhile digitOrLow)

def isSexagesimal (whole fraction : List Char) : Bool :=
  match Text.splitOn ':' whole with
  | first :: place :: places =>
    isDigitRun first && (place :: places).all isSixtieth && fraction.all digitOrLow
  | _ => false

def isFloat (cs : List Char) : Bool :=
  match cs with
  | '.' :: rest => (rest.head?.any Text.isAsciiDigit && isFraction rest)
    || (spellings "inf").contains rest || [['n', 'a', 'n'], ['N', 'a', 'N'], ['N', 'A', 'N']].contains rest
  | cs => match dropSign cs with
    | '.' :: rest => (spellings "inf").contains rest
    | body => match Text.cut '.' body with
      | (whole, some fraction) => (isDigitRun whole && isFraction fraction) || isSexagesimal whole fraction
      | _ => false

/-- The parts of a timestamp text. -/
structure Stamp where
  year : List Char
  month : List Char
  day : List Char
  /-- Hour, minute, second and the digits of a fraction. -/
  time : Option (List Char × List Char × List Char × List Char)
  /-- Sign, hours and minutes of an offset; no sign for the zero meridian. -/
  zone : Option (Option Char × List Char × List Char)
deriving DecidableEq, Repr

def digits (least most : Nat) (cs : List Char) : Option (List Char × List Char) :=
  let found := (cs.take most).takeWhile Text.isAsciiDigit
  if found.length < least then none else some (found, cs.drop found.length)

def mark (c : Char) : List Char → Option (List Char)
  | x :: rest => if x = c then some rest else none
  | [] => none

def zone? (cs : List Char) : Option (Option (Option Char × List Char × List Char)) :=
  match cs.dropWhile fun c => c == ' ' || c == '\t' with
  | [] => if cs.isEmpty then some none else none
  | ['Z'] => some (some (none, [], []))
  | sign :: rest =>
    if sign = '+' ∨ sign = '-' then do
      let (hours, rest) ← digits 1 2 rest
      match rest with
      | [] => return some (some sign, hours, [])
      | ':' :: rest =>
        let (minutes, rest) ← digits 2 2 rest
        if rest.isEmpty then return some (some sign, hours, minutes) else none
      | _ => none
    else none

/-- Reads a timestamp: a date, and a time of day with fraction and offset after a `T` or blanks. -/
def stamp? (cs : List Char) : Option Stamp := do
  let (year, rest) ← digits 4 4 cs
  let (month, rest) ← digits 1 2 (← mark '-' rest)
  let (day, rest) ← digits 1 2 (← mark '-' rest)
  if rest.isEmpty then return ⟨year, month, day, none, none⟩
  let after := match rest with
    | 'T' :: after | 't' :: after => some after
    | ' ' :: _ | '\t' :: _ => some (rest.dropWhile fun c => c == ' ' || c == '\t')
    | _ => none
  let (hour, rest) ← digits 1 2 (← after)
  let (minute, rest) ← digits 2 2 (← mark ':' rest)
  let (second, rest) ← digits 2 2 (← mark ':' rest)
  let (fraction, rest) := match rest with
    | '.' :: rest => (rest.takeWhile Text.isAsciiDigit, rest.dropWhile Text.isAsciiDigit)
    | rest => ([], rest)
  let zone ← zone? rest
  return ⟨year, month, day, some (hour, minute, second, fraction), zone⟩

/-- Whether a plain scalar is a timestamp; a date alone needs two digits for month and day. -/
def isTimestamp (cs : List Char) : Bool :=
  match stamp? cs with
  | some s => s.time.isSome || (s.month.length == 2 && s.day.length == 2)
  | none => false

/-- A text without the line feed that may end it; a line feed alone stays. -/
def withoutFinalBreak (cs : List Char) : List Char :=
  if cs.length > 1 ∧ cs.getLast? = some '\n' then cs.dropLast else cs

end Plain

/-- The tag of a scalar by its form. -/
def Tag.ofPlain (text : List Char) : Tag :=
  let cs := Plain.withoutFinalBreak text
  if Plain.isBool cs then .bool
  else if Plain.isFloat cs then .float
  else if Plain.isInt cs then .int
  else if cs = ['<', '<'] then .merge
  else if Plain.isNull cs then .null
  else if Plain.isTimestamp cs then .timestamp
  else if cs = ['='] then .value
  else .str

end SwaggerGate.Yaml
