import SwaggerGate.Text.CodePoint
import SwaggerGate.Text.Digits
import SwaggerGate.Text.Printable

/-! Quoted text. Single quotes surround it unless it holds a single quote and no double
one; backslash escapes stand for the quote, the backslash, line controls and every
character that does not print. -/
namespace SwaggerGate.Text

/-- The escape of one character inside the given quotes. -/
def quotedChar (quote c : Char) : List Char :=
  if c = quote ∨ c = '\\' then ['\\', c]
  else if c = '\n' then ['\\', 'n']
  else if c = '\r' then ['\\', 'r']
  else if c = '\t' then ['\\', 't']
  else if isPrintable c then [c]
  else if c.toNat < 0x100 then '\\' :: 'x' :: hexText 2 c.toNat
  else if codePoint c < 0x10000 then '\\' :: 'u' :: hexText 4 (codePoint c)
  else '\\' :: 'U' :: hexText 8 c.toNat

def quoteFor (cs : List Char) : Char := if cs.contains '\'' && !cs.contains '"' then '"' else '\''

def quoted (s : String) : String :=
  let cs := s.toList
  let quote := quoteFor cs
  String.ofList (quote :: cs.flatMap (quotedChar quote) ++ [quote])

end SwaggerGate.Text
