import SwaggerGate.Text.Split
import SwaggerGate.Value.Display

/-! JSON pointers rooted at `#`. In a token `~` is written `~0` and `/` is written `~1`. -/
namespace SwaggerGate

/-- One step into a value. -/
inductive Step where
  | key (name : String)
  | index (i : Int)
deriving DecidableEq, Repr

namespace Pointer

def escapeChar (c : Char) : List Char :=
  if c = '~' then ['~', '0'] else if c = '/' then ['~', '1'] else [c]

def escapeChars (cs : List Char) : List Char := cs.flatMap escapeChar

/-- Reads `~1` as a slash, everywhere first. -/
def unescapeSlashes : List Char → List Char
  | '~' :: '1' :: rest => '/' :: unescapeSlashes rest
  | c :: rest => c :: unescapeSlashes rest
  | [] => []

def unescapeTildes : List Char → List Char
  | '~' :: '0' :: rest => '~' :: unescapeTildes rest
  | c :: rest => c :: unescapeTildes rest
  | [] => []

def unescapeChars (cs : List Char) : List Char := unescapeTildes (unescapeSlashes cs)

def escape (name : String) : String := String.ofList (escapeChars name.toList)

def unescape (token : String) : String := String.ofList (unescapeChars token.toList)

def stepText : Step → String
  | .key name => name
  | .index i => intText i

def text (path : List Step) : String := "#" ++ String.join (path.map fun s => "/" ++ escape (stepText s))

end Pointer
end SwaggerGate
