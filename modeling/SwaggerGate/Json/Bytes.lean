import SwaggerGate.Json.Read
import SwaggerGate.Text.Utf8

/-! JSON from bytes. The encoding is told by a byte order mark, or else by the zeros among
the first four bytes; lone surrogates pass. -/
namespace SwaggerGate.Json

inductive Encoding where
  | utf8
  | utf16 (bigEndian : Bool)
  | utf32 (bigEndian : Bool)
deriving DecidableEq, Repr

/-- The encoding of a text, and its bytes after a byte order mark. -/
def encodingOf (bytes : List UInt8) : Encoding × List UInt8 :=
  match bytes with
  | 0x00 :: 0x00 :: 0xfe :: 0xff :: rest => (.utf32 true, rest)
  | 0xff :: 0xfe :: 0x00 :: 0x00 :: rest => (.utf32 false, rest)
  | 0xfe :: 0xff :: rest => (.utf16 true, rest)
  | 0xff :: 0xfe :: rest => (.utf16 false, rest)
  | 0xef :: 0xbb :: 0xbf :: rest => (.utf8, rest)
  | a :: b :: c :: d :: _ =>
    if a = 0 then (if b = 0 then .utf32 true else .utf16 true, bytes)
    else if b = 0 then (if c = 0 ∧ d = 0 then .utf32 false else .utf16 false, bytes)
    else (.utf8, bytes)
  | [a, b] => (if a = 0 then .utf16 true else if b = 0 then .utf16 false else .utf8, bytes)
  | _ => (.utf8, bytes)

/-- Units of two bytes; none if a byte is left over. -/
def units16? (bigEndian : Bool) : List UInt8 → Option (List Nat)
  | [] => some []
  | a :: b :: rest =>
    let unit := if bigEndian then 256 * a.toNat + b.toNat else 256 * b.toNat + a.toNat
    (units16? bigEndian rest).map (unit :: ·)
  | _ => none

/-- Units of four bytes; none if bytes are left over. -/
def units32? (bigEndian : Bool) : List UInt8 → Option (List Nat)
  | [] => some []
  | a :: b :: c :: d :: rest =>
    let digits := if bigEndian then [a, b, c, d] else [d, c, b, a]
    (units32? bigEndian rest).map (digits.foldl (fun n x => 256 * n + x.toNat) 0 :: ·)
  | _ => none

/-- Code points of units of two bytes: a high and a low surrogate are one. -/
def joinPairs : List Nat → List Nat
  | high :: low :: rest =>
    if Text.isHighSurrogate high && Text.isLowSurrogate low then
      Text.joinSurrogates high low :: joinPairs rest
    else high :: joinPairs (low :: rest)
  | units => units

def decodeBytes? (bytes : List UInt8) : Option (List Char) :=
  match encodingOf bytes with
  | (.utf8, rest) => (Text.Utf8.decodeFrom true none rest).mapM id
  | (.utf16 bigEndian, rest) => (units16? bigEndian rest).map fun units => (joinPairs units).map Text.charOf
  | (.utf32 bigEndian, rest) => (units32? bigEndian rest).bind fun units =>
    if units.all (· < 0x110000) then some (units.map Text.charOf) else none

/-- Reads bytes as one value. -/
def readBytes (bytes : List UInt8) : Except ReadError Value :=
  match decodeBytes? bytes with
  | some cs => read (String.ofList cs)
  | none => .error .malformed

end SwaggerGate.Json
