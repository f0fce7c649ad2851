import SwaggerGate.Text.CodePoint
import SwaggerGate.Text.Digits
import SwaggerGate.Value

/-! Reading JSON text. A number with a fraction or an exponent is a float, any other an
integer; `NaN`, `Infinity` and `-Infinity` are floats; of two equal keys the later value
stands at the earlier place. -/
namespace SwaggerGate.Json

inductive ReadError where
  | malformed
  /-- An integer of more digits than are converted. -/
  | longInteger
  /-- Arrays and objects nest too deeply. -/
  | tooDeep
deriving DecidableEq, Repr

def isSpace (c : Char) : Bool := c == ' ' || c == '\t' || c == '\n' || c == '\r'

def skipSpace (cs : List Char) : List Char := cs.dropWhile isSpace

def fourHex (cs : List Char) : Option Nat :=
  if (cs.take 4).length = 4 then Text.hexNumber? (cs.take 4) else none

def simpleEscape? (c : Char) : Option Char :=
  match c with
  | '"' => some '"'
  | '\\' => some '\\'
  | '/' => some '/'
  | 'b' => some '\x08'
  | 'f' => some '\x0c'
  | 'n' => some '\n'
  | 'r' => some '\r'
  | 't' => some '\t'
  | _ => none

/-- The low surrogate that an escape at the front stands for. -/
def lowAfter? : List Char → Option Nat
  | '\\' :: 'u' :: rest => (fourHex rest).filter Text.isLowSurrogate
  | _ => none

/-- Reads what follows the opening quote, with the text so far in reverse. -/
def stringBody : Nat → List Char → List Char → Except ReadError (String × List Char)
  | 0, _, _ => .error .malformed
  | _ + 1, done, '"' :: rest => .ok (String.ofList done.reverse, rest)
  | fuel + 1, done, '\\' :: 'u' :: rest =>
    match fourHex rest with
    | none => .error .malformed
    | some unit =>
      let after := rest.drop 4
      match lowAfter? after with
      | some low =>
        if Text.isHighSurrogate unit then
          stringBody fuel (Text.charOf (Text.joinSurrogates unit low) :: done) (after.drop 6)
        else stringBody fuel (Text.charOf unit :: done) after
      | none => stringBody fuel (Text.charOf unit :: done) after
  | fuel + 1, done, '\\' :: c :: rest =>
    match simpleEscape? c with
    | some e => stringBody fuel (e :: done) rest
    | none => .error .malformed
  | fuel + 1, done, c :: rest =>
    if c.toNat < 32 ∨ c = '\\' then .error .malformed else stringBody fuel (c :: done) rest
  | _ + 1, _, [] => .error .malformed

theorem stringBody_escape {fuel : Nat} {done rest : List Char} {c e : Char} (known : simpleEscape? c = some e) :
    stringBody (fuel + 1) done ('\\' :: c :: rest) = stringBody fuel (e :: done) rest := by
  rw [stringBody, known]
  rintro rfl
  cases known

def digitsOf (cs : List Char) : List Char × List Char :=
  (cs.takeWhile Text.isAsciiDigit, cs.dropWhile Text.isAsciiDigit)

/-- The fraction after a point, if there is one. -/
def fractionOf : List Char → List Char × List Char
  | '.' :: rest => match digitsOf rest with
    | ([], _) => ([], '.' :: rest)
    | found => found
  | cs => ([], cs)

/-- The exponent after an `e`, if there is one. -/
def exponentOf (cs : List Char) : Option Int × List Char :=
  match cs with
  | e :: rest =>
    if e = 'e' ∨ e = 'E' then
      let (negative, body) := match rest with
        | '-' :: body => (true, body)
        | '+' :: body => (false, body)
        | body => (false, body)
      match digitsOf body with
      | ([], _) => (none, cs)
      | (ds, after) =>
        let n : Int := Text.decimalNumber ds
        (some (if negative then -n else n), after)
    else (none, cs)
  | [] => (none, [])

/-- Reads a number whose sign has been taken. -/
def number (negative : Bool) (cs : List Char) : Except ReadError (Value × List Char) :=
  let (whole, rest) := match cs with
    | '0' :: rest => (['0'], rest)
    | cs => digitsOf cs
  if whole.isEmpty then .error .malformed else
  let (fraction, rest) := fractionOf rest
  let (exponent, rest) := exponentOf rest
  if fraction.isEmpty && exponent.isNone then
    if whole.length > Text.maxIntegerDigits then .error .longInteger
    else
      let n : Int := Text.decimalNumber whole
      .ok (.int (if negative then -n else n), rest)
  else
    let digits := Text.decimalNumber (whole ++ fraction)
    .ok (.float (Double.ofDecimal negative digits (exponent.getD 0 - fraction.length)), rest)

/-- Takes a word off the front. -/
def word? (w : String) (cs : List Char) : Option (List Char) :=
  if w.toList.isPrefixOf cs then some (cs.drop w.length) else none

def constant (cs : List Char) : Except ReadError (Value × List Char) :=
  let table : List (String × Value) :=
    [("null", .null), ("true", .bool true), ("false", .bool false), ("NaN", .float (.nan 0)),
     ("Infinity", .float (.infinite false)), ("-Infinity", .float (.infinite true))]
  match table.findSome? fun e => (word? e.1 cs).map fun rest => (e.2, rest) with
  | some found => .ok found
  | none => match cs with
    | '-' :: rest => number true rest
    | cs => number false cs

/-- How deep arrays and objects may nest. -/
def nestingLimit : Nat := 960

mutual
/-- Reads one value at the front, inside a number of arrays and objects. -/
def value : Nat → Nat → List Char → Except ReadError (Value × List Char)
  | 0, _, _ => .error .malformed
  | _ + 1, _, '\x22' :: rest => do
    let (s, rest) ← stringBody (rest.length + 1) [] rest
    return (.text s, rest)
  | fuel + 1, depth, '[' :: rest =>
    if depth = nestingLimit then .error .tooDeep else
    match skipSpace rest with
    | ']' :: rest => .ok (.list [], rest)
    | rest => do
      let (items, rest) ← members fuel (depth + 1) rest
      return (.list items, rest)
  | fuel + 1, depth, '\x7b' :: rest =>
    if depth = nestingLimit then .error .tooDeep else
    match skipSpace rest with
    | '\x7d' :: rest => .ok (.obj [], rest)
    | rest => do
      let (fields, rest) ← entries fuel (depth + 1) rest
      return (.obj (Entries.ofList fields), rest)
  | _ + 1, _, cs => constant cs
/-- Reads array members up to the closing bracket. -/
def members : Nat → Nat → List Char → Except ReadError (List Value × List Char)
  | 0, _, _ => .error .malformed
  | fuel + 1, depth, cs => do
    let (v, rest) ← value fuel depth cs
    match skipSpace rest with
    | ']' :: rest => return ([v], rest)
    | ',' :: rest =>
      let (more, rest) ← members fuel depth (skipSpace rest)
      return (v :: more, rest)
    | _ => .error .malformed
/-- Reads object entries up to the closing brace. -/
def entries : Nat → Nat → List Char → Except ReadError (List (Atom × Value) × List Char)
  | 0, _, _ => .error .malformed
  | fuel + 1, depth, cs => match cs with
    | '"' :: rest => do
      let (key, rest) ← stringBody (rest.length + 1) [] rest
      match skipSpace rest with
      | ':' :: rest =>
        let (v, rest) ← value fuel depth (skipSpace rest)
        match skipSpace rest with
        | '\x7d' :: rest => return ([(.text key, v)], rest)
        | ',' :: rest =>
          let (more, rest) ← entries fuel depth (skipSpace rest)
          return ((.text key, v) :: more, rest)
        | _ => .error .malformed
      | _ => .error .malformed
    | _ => .error .malformed
end

/-- Reads a whole text as one value. -/
def read (text : String) : Except ReadError Value := do
  let cs := text.toList
  let (v, rest) ← value (cs.length + 1) 0 (skipSpace cs)
  if (skipSpace rest).isEmpty then return v else .error .malformed

end SwaggerGate.Json
