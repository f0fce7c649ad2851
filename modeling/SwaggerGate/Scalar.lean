import SwaggerGate.Double
import SwaggerGate.Text.Digits

/-! Scalars written as text: integers are an optional sign and ASCII digits, numbers add a
fraction and an exponent, booleans are `true` and `false`. -/
namespace SwaggerGate.Scalar

def isDigits (cs : List Char) : Bool := !cs.isEmpty && cs.all Text.isAsciiDigit

/-- The outcome of reading an integer text. -/
inductive IntegerReading where
  | value (n : Int)
  /-- The text is an integer of too many digits to be converted. -/
  | tooLong
  | noInteger
deriving DecidableEq, Repr

def readInteger (text : String) : IntegerReading :=
  let (negative, digits) := Text.sign text.toList
  if !isDigits digits then .noInteger
  else if digits.length > Text.maxIntegerDigits then .tooLong
  else .value (Text.signed negative (Text.decimalNumber digits))

/-- The parts of a decimal number text. -/
structure NumberParts where
  negative : Bool
  whole : List Char
  fraction : List Char
  exponentNegative : Bool
  exponent : List Char
deriving DecidableEq, Repr

/-- The exponent at the end of a number text: nothing, or `e`, a sign and digits. -/
def exponentParts? : List Char → Option (Bool × List Char)
  | [] => some (false, [])
  | e :: rest =>
    let (negative, digits) := Text.sign rest
    if (e = 'e' ∨ e = 'E') ∧ isDigits digits then some (negative, digits) else none

def numberParts? (cs : List Char) : Option NumberParts :=
  let (negative, unsigned) := Text.sign cs
  let whole := unsigned.takeWhile Text.isAsciiDigit
  if whole.isEmpty then none
  else match unsigned.dropWhile Text.isAsciiDigit with
    | '.' :: rest =>
      let fraction := rest.takeWhile Text.isAsciiDigit
      if fraction.isEmpty then none
      else (exponentParts? (rest.dropWhile Text.isAsciiDigit)).map fun e =>
        ⟨negative, whole, fraction, e.1, e.2⟩
    | rest => (exponentParts? rest).map fun e => ⟨negative, whole, [], e.1, e.2⟩

def NumberParts.double (p : NumberParts) : Double :=
  let exponent : Int := Text.decimalNumber p.exponent
  Double.ofDecimal p.negative (Text.decimalNumber (p.whole ++ p.fraction))
    ((if p.exponentNegative then -exponent else exponent) - p.fraction.length)

def number? (text : String) : Option Double := (numberParts? text.toList).map NumberParts.double

def boolean? (text : String) : Option Bool :=
  if text = "true" then some true else if text = "false" then some false else none

end SwaggerGate.Scalar
