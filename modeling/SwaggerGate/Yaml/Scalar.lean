import SwaggerGate.Text.Numeral
import SwaggerGate.Value
import SwaggerGate.Yaml.Tag
import SwaggerGate.Yaml.Token

/-! Scalars as atoms. A scalar is converted by its tag; low lines inside numbers do not
count, and numbers between colons are sexagesimal. -/
namespace SwaggerGate.Yaml

def fault {α : Type} (f : Fault) : Except Error α := .error (.fault f)

namespace Plain

def withoutLows (cs : List Char) : List Char := cs.filter (· != '_')

/-- A decimal integer with an optional sign, within the limit on digits. -/
def decimal (cs : List Char) : Except Error Int :=
  match Text.integer? cs with
  | some n => .ok n
  | none => fault .unconvertible

/-- The letter that may mark a base after a leading zero. -/
def baseMark (base : Nat) : Char := if base = 2 then 'b' else if base = 8 then 'o' else 'x'

/-- A number in a base that is a power of two, with an optional sign and mark. -/
def inBase (base : Nat) (cs : List Char) : Except Error Int :=
  let digit? (c : Char) : Option Nat := (Text.hexDigit? c).filter (· < base)
  let (negative, unsigned) := Text.sign (Text.numeral cs)
  let body := match unsigned with
    | '0' :: c :: rest => if Text.lowerAscii c = baseMark base then rest else '0' :: c :: rest
    | body => body
  if body.isEmpty then fault .unconvertible
  else match body.foldl (fun sum c => match sum, digit? c with
      | some n, some d => some (base * n + d)
      | _, _ => none) (some 0) with
    | some n => .ok (Text.signed negative n)
    | none => fault .unconvertible

/-- The integer of a text: binary after `0b`, hexadecimal after `0x`, octal after another
leading zero, sexagesimal between colons, else decimal. -/
def int (text : List Char) : Except Error Int := do
  let cs := withoutLows text
  let sign : Int := if cs.head? = some '-' then -1 else 1
  if cs.isEmpty then fault .emptyScalar
  else match dropSign cs with
    | [] => fault .emptyScalar
    | ['0'] => return 0
    | '0' :: 'b' :: rest => return sign * (← inBase 2 rest)
    | '0' :: 'x' :: rest => return sign * (← inBase 16 rest)
    | '0' :: rest => return sign * (← inBase 8 ('0' :: rest))
    | body =>
      if body.contains ':' then
        let places ← (Text.splitOn ':' body).mapM decimal
        return sign * places.foldl (fun sum place => 60 * sum + place) 0
      else return sign * (← decimal body)

/-- The exponent at the end of a float, or zero where nothing is left. -/
def exponent? : List Char → Option Int
  | [] => some 0
  | 'e' :: rest =>
    let (negative, digits) := Text.sign rest
    if !digits.isEmpty && digits.all Text.isAsciiDigit then some (Text.signed negative (Text.decimalNumber digits))
    else none
  | _ => none

/-- A float in decimal form, or a word for infinity or not-a-number. -/
def decimalFloat (mark : Nat) (text : List Char) : Except Error Double :=
  let (negative, body) := Text.sign (Text.numeral text)
  let word := String.ofList body
  if word = "inf" ∨ word = "infinity" then .ok (.infinite negative)
  else if word = "nan" then .ok (.nan mark)
  else
    let whole := body.takeWhile Text.isAsciiDigit
    let rest := body.dropWhile Text.isAsciiDigit
    let (fraction, rest) := match rest with
      | '.' :: rest => (rest.takeWhile Text.isAsciiDigit, rest.dropWhile Text.isAsciiDigit)
      | rest => ([], rest)
    match exponent? rest with
    | some e =>
      if whole.isEmpty && fraction.isEmpty then fault .unconvertible
      else .ok (Double.ofDecimal negative (Text.decimalNumber (whole ++ fraction)) (e - fraction.length))
    | none => fault .unconvertible

def withSign (negative : Bool) (x : Double) : Double := if negative then x.negate else x

/-- The sum of sexagesimal places, the last first, each weighed by a power of sixty. -/
def sexagesimal (weight : Nat) (sum : Double) : List Double → Except Error Double
  | [] => .ok sum
  | place :: places => match Double.ofInt? weight with
    | some w => sexagesimal (60 * weight) (sum.add (place.mul w)) places
    | none => fault .outOfRange

/-- The mark of the one not-a-number that has a word of its own. -/
def nanMark : Nat := 1

/-- The float of a text; `mark` is for a not-a-number that it computes. -/
def float (mark : Nat) (text : List Char) : Except Error Double := do
  let cs := (withoutLows text).map Text.lowerAscii
  let negative := cs.head? == some '-'
  let body := dropSign cs
  if cs.isEmpty then fault .emptyScalar
  else if body = ".inf".toList then return .infinite negative
  else if body = ".nan".toList then return .nan nanMark
  else if body.contains ':' then
    let places ← (Text.splitOn ':' body).mapM (decimalFloat mark)
    match ← sexagesimal 1 Double.zero places.reverse with
    | .nan _ => return .nan mark
    | x => return withSign negative x
  else return withSign negative (← decimalFloat mark body)

def trueWords : List (List Char) := ["yes".toList, "true".toList, "on".toList]

def falseWords : List (List Char) := ["no".toList, "false".toList, "off".toList]

def bool (text : List Char) : Except Error Bool :=
  let word := text.map Text.lowerAscii
  if trueWords.contains word then .ok true
  else if falseWords.contains word then .ok false
  else fault .unknownBoolean

def isLeap (year : Nat) : Bool := year % 4 == 0 && (year % 100 != 0 || year % 400 == 0)

def daysOf (year month : Nat) : Nat :=
  if month = 2 then (if isLeap year then 29 else 28)
  else if [4, 6, 9, 11].contains month then 30 else 31

def isDate (d : Date) : Bool :=
  1 ≤ d.year && 1 ≤ d.month && d.month ≤ 12 && 1 ≤ d.day && d.day ≤ daysOf d.year d.month

/-- Six digits of a fraction of a second, more cut off and fewer filled up. -/
def micros (digits : List Char) : Nat :=
  Text.decimalNumber ((digits ++ List.replicate 6 '0').take 6)

def timestamp (text : List Char) : Except Error Atom :=
  match stamp? (withoutFinalBreak text) with
  | none => fault .noTimestamp
  | some s =>
    let date : Date := ⟨Text.decimalNumber s.year, Text.decimalNumber s.month, Text.decimalNumber s.day⟩
    match s.time with
    | none => if isDate date then .ok (.date date) else fault .unconvertible
    | some (h, m, sec, fraction) =>
      let offset : Option Int := s.zone.map fun
        | (some sign, hours, minutes) =>
          let total : Int := 60 * Text.decimalNumber hours + Text.decimalNumber minutes
          if sign = '-' then -total else total
        | (none, _, _) => 0
      let t : Moment := ⟨date, Text.decimalNumber h, Text.decimalNumber m, Text.decimalNumber sec,
        micros fraction, offset⟩
      if isDate date && t.hour < 24 && t.minute < 60 && t.second < 60
          && offset.all (fun o => o.natAbs < 1440) then .ok (.moment t)
      else fault .unconvertible

def sextet? (c : Char) : Option Nat :=
  if 'A' ≤ c ∧ c ≤ 'Z' then some (c.toNat - 65)
  else if 'a' ≤ c ∧ c ≤ 'z' then some (c.toNat - 71)
  else if Text.isAsciiDigit c then some (c.toNat + 4)
  else if c = '+' then some 62
  else if c = '/' then some 63
  else none

/-- Decodes groups of four characters to three bytes: `place` counts the characters of the
group so far, `left` holds bits not yet in a byte, `pads` the padding at its end. Other
characters are passed over; nothing is read after a full group of padding. -/
def sextets (place left pads : Nat) : List Char → Except Error (List UInt8)
  | [] => if place = 0 then .ok [] else refuse
  | c :: rest =>
    if c = '=' then
      if 2 ≤ place ∧ place + pads + 1 ≥ 4 then .ok []
      else sextets place left (if 2 ≤ place then pads + 1 else pads) rest
    else match sextet? c with
      | none => sextets place left pads rest
      | some v =>
        match place with
        | 0 => sextets 1 v 0 rest
        | 1 => do return UInt8.ofNat (left * 4 + v / 16) :: (← sextets 2 (v % 16) 0 rest)
        | 2 => do return UInt8.ofNat (left * 16 + v / 4) :: (← sextets 3 (v % 4) 0 rest)
        | _ => do return UInt8.ofNat (left * 64 + v) :: (← sextets 0 0 0 rest)

def binary (text : List Char) : Except Error (List UInt8) := do
  ensure (text.all fun c => c.toNat < 128)
  sextets 0 0 0 text

end Plain

/-- A scalar's value, by its tag; `mark` tells a not-a-number from others. -/
def atomOf (tag : Tag) (mark : Nat) (text : List Char) : Except Error Atom :=
  match tag with
  | .null => .ok .null
  | .bool => (Plain.bool text).map .bool
  | .int => (Plain.int text).map .int
  | .float => (Plain.float mark text).map .float
  | .timestamp => Plain.timestamp text
  | .binary => (Plain.binary text).map .bytes
  | .str => .ok (.text (String.ofList text))
  | _ => refuse

end SwaggerGate.Yaml
