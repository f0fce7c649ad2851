import SwaggerGate.Text.Digits
import SwaggerGate.Text.Utf8

/-! Percent-encoding. An escape of two hexadecimal digits stands for a byte, every other
character for its UTF-8 bytes; bytes that are no UTF-8 read as replacement characters. -/
namespace SwaggerGate.Url

/-- The bytes of a text with its escapes undone; an incomplete escape stays as it is. -/
def percentBytes : List Char → List UInt8
  | '%' :: a :: b :: rest =>
    match Text.hexDigit? a, Text.hexDigit? b with
    | some high, some low => UInt8.ofNat (16 * high + low) :: percentBytes rest
    | _, _ => String.utf8EncodeChar '%' ++ percentBytes (a :: b :: rest)
  | c :: rest => String.utf8EncodeChar c ++ percentBytes rest
  | [] => []

def percentDecode (cs : List Char) : List Char := Text.Utf8.decodeLossy (percentBytes cs)

/-- Characters that percent-encoding leaves alone. -/
def isUnreserved (c : Char) : Bool :=
  Text.isAsciiAlphanumeric c || c == '-' || c == '.' || c == '_' || c == '~'

def percentEncode (cs : List Char) : List Char :=
  cs.flatMap fun c =>
    if isUnreserved c then [c]
    else (String.utf8EncodeChar c).flatMap fun b =>
      ['%', Text.upperHexDigit (b.toNat / 16), Text.upperHexDigit (b.toNat % 16)]

end SwaggerGate.Url
