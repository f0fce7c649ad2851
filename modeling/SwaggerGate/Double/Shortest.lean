import SwaggerGate.Double

/-! Shortest decimal text of a double. The digits are the fewest that read back as the
same number, the nearest such to it, an exact tie going to the even last digit. -/
namespace SwaggerGate.Double

/-- A decimal `digits · 10 ^ scale`. -/
structure Decimal where
  digits : Nat
  scale : Int
deriving DecidableEq, Repr

/-- The fraction `num / den · 10 ^ -scale`. -/
def onGrid (num den : Nat) : Int → Nat × Nat
  | .ofNat k => (num, den * Nat.pow 10 k)
  | .negSucc k => (num * Nat.pow 10 (k + 1), den)

/-- The least `p` with `num / den < 10 ^ p`, for a double's range. -/
def magnitude (num den : Nat) : Int :=
  if den ≤ num then decimalLength (num / den)
  else (decimalLength (num * Nat.pow 10 400 / den) : Int) - 400

/-- The reals that round to `mantissa · 2 ^ exponent`, as numbers of quarter units of
the last binary place; the ends belong to it exactly for an even mantissa. -/
structure Basin where
  low : Nat
  high : Nat
  closed : Bool

def basin (mantissa : Nat) (exponent : Int) : Basin :=
  { low := 4 * mantissa - (if mantissa = 1 <<< 52 ∧ exponent > -1074 then 1 else 2)
    high := 4 * mantissa + 2
    closed := mantissa % 2 == 0 }

/-- Whether `coefficient · 10 ^ scale` lies in the basin of `mantissa · 2 ^ exponent`. -/
def Basin.holds (b : Basin) (exponent scale : Int) (coefficient : Nat) : Bool :=
  let tens := onGrid coefficient 1 (-scale)
  let quarter := scaled 1 1 (2 - exponent)
  let value := tens.1 * quarter.2
  let low := b.low * quarter.1 * tens.2
  let high := b.high * quarter.1 * tens.2
  if b.closed then low ≤ value && value ≤ high else low < value && value < high

/-- The best decimal of a grid inside the basin, if the grid meets it. -/
def gridDecimal? (num den : Nat) (b : Basin) (exponent scale : Int) : Option Decimal :=
  let cell := onGrid num den scale
  let below := cell.1 / cell.2
  let twice := 2 * (cell.1 % cell.2)
  match b.holds exponent scale below, b.holds exponent scale (below + 1) with
  | false, false => none
  | true, false => some ⟨below, scale⟩
  | false, true => some ⟨below + 1, scale⟩
  | true, true =>
    let up := cell.2 < twice || (cell.2 == twice && below % 2 == 1)
    some ⟨if up then below + 1 else below, scale⟩

/-- The shortest decimal of a positive finite double: the first of the grids with
1, 2, … 17 digits that meets its basin. -/
def shortest (mantissa : Nat) (exponent : Int) : Decimal :=
  let value := scaled mantissa 1 (-exponent)
  let top := magnitude value.1 value.2
  let b := basin mantissa exponent
  ((List.range 17).findSome? fun n =>
    gridDecimal? value.1 value.2 b exponent (top - (n + 1 : Nat))).getD ⟨0, 0⟩

/-- How a number's decimal is laid out: positionally while its first digit stands for
`10 ^ least` to `10 ^ most`, else with an exponent of at least two digits. -/
structure Layout where
  least : Int
  most : Int

def layout : Layout := ⟨-4, 15⟩

def digitsText (n : Nat) : String := String.ofList (Nat.toDigits 10 n)

private def exponentText (e : Int) : String :=
  let size := digitsText e.natAbs
  (if e < 0 then "-" else "+") ++ (if size.length < 2 then "0" ++ size else size)

/-- Text of a positive decimal: a point always shows, with a zero after a whole number. -/
def Decimal.text (l : Layout) (d : Decimal) : String :=
  let digits := Nat.toDigits 10 d.digits
  let lead : Int := d.scale + digits.length - 1
  if l.least ≤ lead ∧ lead ≤ l.most then
    if lead < 0 then
      "0." ++ String.ofList (List.replicate (-lead - 1).toNat '0' ++ digits)
    else
      let whole := lead.toNat + 1
      if digits.length ≤ whole then
        String.ofList (digits ++ List.replicate (whole - digits.length) '0') ++ ".0"
      else String.ofList (digits.take whole) ++ "." ++ String.ofList (digits.drop whole)
  else
    String.ofList (digits.take 1)
      ++ (if digits.length = 1 then "" else "." ++ String.ofList (digits.drop 1))
      ++ "e" ++ exponentText lead

/-- Drops the zeros at the end of a decimal's digits. -/
def Decimal.trimmed (d : Decimal) : Decimal :=
  let zeros := ((Nat.toDigits 10 d.digits).reverse.takeWhile (· == '0')).length
  ⟨d.digits / Nat.pow 10 zeros, d.scale + zeros⟩

/-- Words for the numbers without digits. -/
structure Words where
  infinity : String
  nan : String

def text (words : Words) : Double → String
  | .finite negative m e =>
    (if negative then "-" else "") ++ (if m = 0 then "0.0" else (shortest m e).trimmed.text layout)
  | .infinite negative => (if negative then "-" else "") ++ words.infinity
  | .nan _ => words.nan

/-- The plain words `inf` and `nan`. -/
def plainWords : Words := ⟨"inf", "nan"⟩

end SwaggerGate.Double
