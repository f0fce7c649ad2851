import SwaggerGate.Json.Read

/-! The grammar of JSON texts. A value is held as it is written, with its layout and the
spelling of its scalars; it has a text, and the value that the text stands for. -/
namespace SwaggerGate.Json

/-- Blanks between the parts of a text. -/
structure Blanks where
  chars : List Char
  blank : chars.all isSpace = true

/-! ### Scalars -/

inductive Word where
  | null | true | false

def Word.text : Word → List Char
  | .null => ['n', 'u', 'l', 'l']
  | .true => ['t', 'r', 'u', 'e']
  | .false => ['f', 'a', 'l', 's', 'e']

def Word.atom : Word → Atom
  | .null => .null
  | .true => .bool Bool.true
  | .false => .bool Bool.false

/-- Digits, at least one. -/
def isDigits (cs : List Char) : Bool := !cs.isEmpty && cs.all Text.isAsciiDigit

structure Exponent where
  mark : Char
  /-- A sign, or nothing. -/
  sign : List Char
  digits : List Char
  isMark : mark = 'e' ∨ mark = 'E'
  isSign : sign = [] ∨ sign = ['+'] ∨ sign = ['-']
  decimal : isDigits digits = true

theorem isMark_lower : 'e' = 'e' ∨ 'e' = 'E' := .inl rfl

def Exponent.text (e : Exponent) : List Char := e.mark :: (e.sign ++ e.digits)

def Exponent.value (e : Exponent) : Int :=
  if e.sign = ['-'] then -(Text.decimalNumber e.digits : Int) else Text.decimalNumber e.digits

/-- A number as written: its digits before and after the point, and an exponent. No zero leads
other digits, and there is no point without digits after it. -/
structure Numeral where
  negative : Bool
  whole : List Char
  fraction : List Char
  exponent : Option Exponent
  decimal : isDigits whole = true
  unpadded : whole = ['0'] ∨ whole.head? ≠ some '0'
  fractional : fraction.all Text.isAsciiDigit = true

namespace Numeral

def signText (n : Numeral) : List Char := if n.negative then ['-'] else []

def fractionText (n : Numeral) : List Char := if n.fraction.isEmpty then [] else '.' :: n.fraction

def exponentText (n : Numeral) : List Char := (n.exponent.map Exponent.text).getD []

def unsigned (n : Numeral) : List Char := n.whole ++ (n.fractionText ++ n.exponentText)

def text (n : Numeral) : List Char := n.signText ++ n.unsigned

/-- Whether a number has neither a fraction nor an exponent. -/
def isWhole (n : Numeral) : Bool := n.fraction.isEmpty && n.exponent.isNone

def atom (n : Numeral) : Atom :=
  if n.isWhole then
    .int (if n.negative then -(Text.decimalNumber n.whole : Int) else Text.decimalNumber n.whole)
  else
    .float (Double.ofDecimal n.negative (Text.decimalNumber (n.whole ++ n.fraction))
      ((n.exponent.map Exponent.value).getD 0 - n.fraction.length))

end Numeral

/-- Whether a character stands for itself in a string. -/
def isRaw (c : Char) : Bool := 32 ≤ c.toNat && c != '"' && c != '\\'

/-- A part of a string: a character, an escape by a letter, or one by the code of a unit. -/
inductive Piece where
  | raw (c : Char) (plain : isRaw c = true)
  | escape (c e : Char) (known : simpleEscape? c = some e)
  | code (digits : List Char) (unit : Nat) (four : digits.length = 4) (hex : Text.hexNumber? digits = some unit)

namespace Piece

def text : Piece → List Char
  | raw c _ => [c]
  | escape c _ _ => ['\\', c]
  | code digits _ _ _ => '\\' :: 'u' :: digits

/-- The character that a piece stands for by itself. -/
def char : Piece → Char
  | raw c _ => c
  | escape _ e _ => e
  | code _ unit _ _ => Text.charOf unit

/-- Whether two pieces are the halves of one character. -/
def arePair : Piece → Piece → Bool
  | code _ high _ _, code _ low _ _ => Text.isHighSurrogate high && Text.isLowSurrogate low
  | _, _ => false

/-- The one character of two halves. -/
def joined : Piece → Piece → Char
  | code _ high _ _, code _ low _ _ => Text.charOf (Text.joinSurrogates high low)
  | first, _ => first.char

end Piece

/-- What pieces are written as. -/
def piecesText (pieces : List Piece) : List Char := pieces.flatMap Piece.text

/-- The characters that pieces stand for. -/
def chars : List Piece → List Char
  | [] => []
  | [p] => [p.char]
  | p :: q :: rest => if p.arePair q then p.joined q :: chars rest else p.char :: chars (q :: rest)

/-- A string with its quotes. -/
def quoted (pieces : List Piece) : List Char := '"' :: (piecesText pieces ++ ['"'])

/-! ### Values -/

/-- A key of an object, with the blanks around its colon. -/
structure Key where
  pieces : List Piece
  before : Blanks
  after : Blanks

def Key.text (k : Key) : List Char := quoted k.pieces ++ (k.before.chars ++ ':' :: k.after.chars)

def Key.atom (k : Key) : Atom := .text (String.ofList (chars k.pieces))

mutual
/-- A value as it is written. -/
inductive Written where
  | word (w : Word)
  | number (n : Numeral)
  | string (pieces : List Piece)
  | emptyArray (inside : Blanks)
  | array (lead : Blanks) (items : Elements)
  | emptyObject (inside : Blanks)
  | object (lead : Blanks) (members : Members)
/-- The items of an array, up to the closing bracket. -/
inductive Elements where
  | last (v : Written) (after : Blanks)
  | more (v : Written) (after lead : Blanks) (rest : Elements)
/-- The members of an object, up to the closing brace. -/
inductive Members where
  | last (key : Key) (v : Written) (after : Blanks)
  | more (key : Key) (v : Written) (after lead : Blanks) (rest : Members)
end

mutual
def Written.text : Written → List Char
  | .word w => w.text
  | .number n => n.text
  | .string pieces => quoted pieces
  | .emptyArray inside => '[' :: (inside.chars ++ [']'])
  | .array lead items => '[' :: (lead.chars ++ items.text)
  | .emptyObject inside => '\x7b' :: (inside.chars ++ ['\x7d'])
  | .object lead members => '\x7b' :: (lead.chars ++ members.text)
def Elements.text : Elements → List Char
  | .last v after => v.text ++ (after.chars ++ [']'])
  | .more v after lead rest => v.text ++ (after.chars ++ ',' :: (lead.chars ++ rest.text))
def Members.text : Members → List Char
  | .last key v after => key.text ++ (v.text ++ (after.chars ++ ['\x7d']))
  | .more key v after lead rest => key.text ++ (v.text ++ (after.chars ++ ',' :: (lead.chars ++ rest.text)))
end

mutual
/-- The value that is written; of members with one key the last counts, at the place of the
first. -/
def Written.value : Written → Value
  | .word w => .atom w.atom
  | .number n => .atom n.atom
  | .string pieces => .text (String.ofList (chars pieces))
  | .emptyArray _ => .list []
  | .array _ items => .list items.values
  | .emptyObject _ => .obj []
  | .object _ members => .obj (Entries.ofList members.entries)
def Elements.values : Elements → List Value
  | .last v _ => [v.value]
  | .more v _ _ rest => v.value :: rest.values
def Members.entries : Members → List (Atom × Value)
  | .last key v _ => [(key.atom, v.value)]
  | .more key v _ _ rest => (key.atom, v.value) :: rest.entries
end

mutual
/-- How deeply arrays and objects nest. -/
def Written.depth : Written → Nat
  | .word _ | .number _ | .string _ => 0
  | .emptyArray _ | .emptyObject _ => 1
  | .array _ items => items.depth + 1
  | .object _ members => members.depth + 1
def Elements.depth : Elements → Nat
  | .last v _ => v.depth
  | .more v _ _ rest => max v.depth rest.depth
def Members.depth : Members → Nat
  | .last _ v _ => v.depth
  | .more _ v _ _ rest => max v.depth rest.depth
end

mutual
/-- Whether no integer has more digits than are converted. -/
def Written.isShort : Written → Bool
  | .number n => !n.isWhole || n.whole.length ≤ Text.maxIntegerDigits
  | .array _ items => items.areShort
  | .object _ members => members.areShort
  | _ => true
def Elements.areShort : Elements → Bool
  | .last v _ => v.isShort
  | .more v _ _ rest => v.isShort && rest.areShort
def Members.areShort : Members → Bool
  | .last _ v _ => v.isShort
  | .more _ v _ _ rest => v.isShort && rest.areShort
end

/-- Whether a value is an object. -/
def Written.isObject : Written → Bool
  | .emptyObject _ | .object _ _ => true
  | _ => false

/-- A text of one value. -/
structure FullText where
  lead : Blanks
  root : Written
  trail : Blanks

def FullText.chars (t : FullText) : List Char := t.lead.chars ++ (t.root.text ++ t.trail.chars)

end SwaggerGate.Json
