import SwaggerGate.Text.Digits
import SwaggerGate.Text.Word

/-! Numbers in running text. Blanks around a number are passed over, and a digit of any
script counts as the ASCII digit of its value. -/
namespace SwaggerGate.Text

/-- The value of a decimal digit of any script. -/
def digitValue? (c : Char) : Option Nat :=
  (digitRanges.find? fun range => range.1 ≤ c.toNat && c.toNat ≤ range.2).map fun range =>
    (c.toNat - range.1) % 10

/-- A character as it counts in a number. -/
def plainDigit (c : Char) : Char :=
  if c.toNat < 127 then c
  else if isStandardBlank c then ' '
  else match digitValue? c with
    | some d => Nat.digitChar d
    | none => c

/-- A number's characters without the blanks around them. -/
def numeral (cs : List Char) : List Char := trim isStandardBlank (cs.map plainDigit)

/-- A decimal integer with an optional sign and single low lines between its digits; one of
too many digits is none. -/
def integer? (cs : List Char) : Option Int :=
  let (negative, body) := sign (numeral cs)
  let digits := body.filter (· != '_')
  if isSpacedDigits body && digits.length ≤ maxIntegerDigits then
    some (signed negative (decimalNumber digits))
  else none

end SwaggerGate.Text
