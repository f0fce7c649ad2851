import SwaggerGate.Text.CodePoint

/-! UTF-8. A decoder walks the bytes once; a sequence that breaks off or cannot start
counts as one fault, and the byte that broke it is read anew. -/
namespace SwaggerGate.Text.Utf8

/-- A sequence under way: bytes to come, the range of the next one, the bits so far. -/
structure Pending where
  missing : Nat
  low : Nat
  high : Nat
  code : Nat

/-- What a first byte starts. `surrogates` lets the three-byte forms of lone surrogates pass. -/
def start? (surrogates : Bool) (b : Nat) : Option Pending :=
  if b < 0xc2 then none
  else if b < 0xe0 then some ⟨1, 0x80, 0xbf, b - 0xc0⟩
  else if b = 0xe0 then some ⟨2, 0xa0, 0xbf, 0⟩
  else if b = 0xed then some ⟨2, 0x80, if surrogates then 0xbf else 0x9f, 0xd⟩
  else if b < 0xf0 then some ⟨2, 0x80, 0xbf, b - 0xe0⟩
  else if b = 0xf0 then some ⟨3, 0x90, 0xbf, 0⟩
  else if b < 0xf4 then some ⟨3, 0x80, 0xbf, b - 0xf0⟩
  else if b = 0xf4 then some ⟨3, 0x80, 0x8f, 4⟩
  else none

/-- Decodes with a sequence possibly under way; each fault shows as `none`. -/
def decodeFrom (surrogates : Bool) : Option Pending → List UInt8 → List (Option Char)
  | none, [] => []
  | some _, [] => [none]
  | pending, byte :: rest =>
    let b := byte.toNat
    let fresh (faults : List (Option Char)) : List (Option Char) :=
      if b < 0x80 then faults ++ some (charOf b) :: decodeFrom surrogates none rest
      else match start? surrogates b with
        | some p => faults ++ decodeFrom surrogates (some p) rest
        | none => faults ++ none :: decodeFrom surrogates none rest
    match pending with
    | none => fresh []
    | some p =>
      if p.low ≤ b ∧ b ≤ p.high then
        let code := p.code * 64 + (b - 0x80)
        if p.missing = 1 then some (charOf code) :: decodeFrom surrogates none rest
        else decodeFrom surrogates (some ⟨p.missing - 1, 0x80, 0xbf, code⟩) rest
      else fresh [none]

theorem decode_ascii {b : UInt8} (ascii : b.toNat < 0x80) (rest : List UInt8) :
    decodeFrom false none (b :: rest) = some (charOf b.toNat) :: decodeFrom false none rest := by
  simp [decodeFrom, ascii]

/-- Decodes well-formed bytes only. -/
def decode? (bytes : List UInt8) : Option (List Char) := (decodeFrom false none bytes).mapM id

/-- Decodes any bytes, each fault as the replacement character. -/
def decodeLossy (bytes : List UInt8) : List Char :=
  (decodeFrom false none bytes).map fun c => c.getD '\uFFFD'

def encode (cs : List Char) : List UInt8 := cs.flatMap String.utf8EncodeChar

end SwaggerGate.Text.Utf8
