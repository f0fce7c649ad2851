/-! Binary floating point with 53-bit mantissas, held exactly. A finite number is
`± mantissa · 2 ^ exponent` in its one canonical form, so equal numbers of one sign
are equal terms; every operation rounds an exact fraction once. -/
namespace SwaggerGate

/-- A double: canonical finite numbers have `exponent = -1074` or a 53-bit mantissa. -/
inductive Double where
  | finite (negative : Bool) (mantissa : Nat) (exponent : Int)
  | infinite (negative : Bool)
  /-- Not-a-number; its mark tells one occurrence from another. -/
  | nan (mark : Nat)
deriving DecidableEq, Repr

namespace Double

def zero : Double := .finite false 0 (-1074)

def bitLength (n : Nat) : Nat := if n = 0 then 0 else n.log2 + 1

/-- The fraction `num / den · 2 ^ -shift`. -/
def scaled (num den : Nat) : Int → Nat × Nat
  | .ofNat k => (num, den <<< k)
  | .negSucc k => (num <<< (k + 1), den)

/-- The natural number nearest to a fraction; a half goes to the even neighbour. -/
def roundHalfEven (num den : Nat) : Nat :=
  let q := num / den
  let r := num % den
  if 2 * r < den then q else if den < 2 * r then q + 1 else q + q % 2

/-- The double nearest to a fraction, ties to the even mantissa. -/
def ofRatio (negative : Bool) (num den : Nat) : Double :=
  if num = 0 then .finite negative 0 (-1074) else
  let rough : Int := (bitLength num : Int) - bitLength den - 53
  let trial := scaled num den rough
  let exponent := max (if trial.1 / trial.2 < 1 <<< 53 then rough else rough + 1) (-1074)
  let exact := scaled num den exponent
  let mantissa := roundHalfEven exact.1 exact.2
  let carried := mantissa = 1 <<< 53
  let mantissa := if carried then 1 <<< 52 else mantissa
  let exponent := if carried then exponent + 1 else exponent
  if exponent > 971 then .infinite negative else .finite negative mantissa exponent

/-- The nearest double of an integer, unless that is out of range. -/
def ofInt? (n : Int) : Option Double :=
  match ofRatio (n < 0) n.natAbs 1 with
  | .infinite _ => none
  | x => some x

def decimalLength (n : Nat) : Nat := (Nat.toDigits 10 n).length

/-- The double nearest to `± digits · 10 ^ exponent`; far out of range it is decided by
the decimal length alone. -/
def ofDecimal (negative : Bool) (digits : Nat) (exponent : Int) : Double :=
  if digits = 0 then .finite negative 0 (-1074)
  else if (decimalLength digits : Int) + exponent > 310 then .infinite negative
  else if (decimalLength digits : Int) + exponent < -330 then .finite negative 0 (-1074)
  else match exponent with
    | .ofNat k => ofRatio negative (digits * Nat.pow 10 k) 1
    | .negSucc k => ofRatio negative digits (Nat.pow 10 (k + 1))

def isNegative : Double → Bool
  | .finite negative _ _ => negative
  | .infinite negative => negative
  | .nan _ => false

def negate : Double → Double
  | .finite negative m e => .finite (!negative) m e
  | .infinite negative => .infinite !negative
  | .nan mark => .nan mark

/-- The exact value of a finite double as numerator and denominator. -/
def ratio? : Double → Option (Int × Nat)
  | .finite negative m e =>
    let (num, den) := scaled m 1 (-e)
    some (if negative then -(num : Int) else num, den)
  | _ => none

/-- The integer that a finite double is, if it has no fraction. -/
def integer? (x : Double) : Option Int :=
  match x.ratio? with
  | some (num, den) => if num % (den : Int) = 0 then some (num / (den : Int)) else none
  | none => none

/-- Rounds an exact signed fraction; a zero takes the given sign. -/
def ofSigned (zeroNegative : Bool) (num : Int) (den : Nat) : Double :=
  ofRatio (if num = 0 then zeroNegative else num < 0) num.natAbs den

def add : Double → Double → Double
  | .nan _, _ | _, .nan _ => .nan 0
  | .infinite a, .infinite b => if a = b then .infinite a else .nan 0
  | .infinite a, _ => .infinite a
  | _, .infinite b => .infinite b
  | x, y =>
    match x.ratio?, y.ratio? with
    | some (a, b), some (c, d) => ofSigned (x.isNegative && y.isNegative) (a * d + c * b) (b * d)
    | _, _ => .nan 0

def mul : Double → Double → Double
  | .nan _, _ | _, .nan _ => .nan 0
  | x, y =>
    let negative := x.isNegative != y.isNegative
    match x.ratio?, y.ratio? with
    | some (a, b), some (c, d) => ofRatio negative (a * c).natAbs (b * d)
    | some (a, _), none => if a = 0 then .nan 0 else .infinite negative
    | none, some (c, _) => if c = 0 then .nan 0 else .infinite negative
    | none, none => .infinite negative

/-- Quotient by a divisor that is not zero. -/
def div : Double → Double → Double
  | .nan _, _ | _, .nan _ => .nan 0
  | x, y =>
    let negative := x.isNegative != y.isNegative
    match x.ratio?, y.ratio? with
    | some (a, b), some (c, d) => ofRatio negative (a.natAbs * d) (b * c.natAbs)
    | some _, none => .finite negative 0 (-1074)
    | none, some _ => .infinite negative
    | none, none => .nan 0

end Double
end SwaggerGate
