/-! ASCII digits and letters, and the numbers that digits write. -/
namespace SwaggerGate.Text

/-- The most digits of an integer that is converted from a text or to one. -/
def maxIntegerDigits : Nat := 4300

/-- The last `width` hexadecimal digits of a number, in lower case. -/
def hexText (width n : Nat) : List Char :=
  (List.range width).map fun i => Nat.digitChar (n >>> (4 * (width - 1 - i)) % 16)

/-- One hexadecimal digit in upper case. -/
def upperHexDigit (n : Nat) : Char :=
  if n < 10 then Char.ofNat ('0'.toNat + n) else Char.ofNat ('A'.toNat + (n - 10))

def hexDigit? (c : Char) : Option Nat :=
  if '0' ≤ c ∧ c ≤ '9' then some (c.toNat - '0'.toNat)
  else if 'a' ≤ c ∧ c ≤ 'f' then some (c.toNat - 'a'.toNat + 10)
  else if 'A' ≤ c ∧ c ≤ 'F' then some (c.toNat - 'A'.toNat + 10)
  else none

/-- The number that hexadecimal digits write; none if any is not such a digit. -/
def hexNumber? (cs : List Char) : Option Nat :=
  cs.foldl (fun sum c => match sum, hexDigit? c with
    | some n, some d => some (16 * n + d)
    | _, _ => none) (some 0)

def isAsciiDigit (c : Char) : Bool := '0' ≤ c && c ≤ '9'

/-- The number that decimal digits write. -/
def decimalNumber (cs : List Char) : Nat := cs.foldl (fun n c => 10 * n + (c.toNat - '0'.toNat)) 0

/-- Splits an optional sign off a number; true for a minus sign. -/
def sign : List Char → Bool × List Char
  | '-' :: rest => (true, rest)
  | '+' :: rest => (false, rest)
  | cs => (false, cs)

/-- A number with its sign. -/
def signed (negative : Bool) (n : Nat) : Int := if negative then -(n : Int) else n

/-- Digits with single low lines between them. -/
def isSpacedDigits : List Char → Bool
  | [] => false
  | [c] => isAsciiDigit c
  | c :: '_' :: rest => isAsciiDigit c && isSpacedDigits rest
  | c :: rest => isAsciiDigit c && isSpacedDigits rest

def isAsciiLetter (c : Char) : Bool := ('a' ≤ c && c ≤ 'z') || ('A' ≤ c && c ≤ 'Z')

def isAsciiAlphanumeric (c : Char) : Bool := isAsciiDigit c || isAsciiLetter c

end SwaggerGate.Text
