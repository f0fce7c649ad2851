/-! Code points of texts. A text may hold half of a surrogate pair on its own, which is no
character; it is held as one of the last characters of the code space, which are for
private use and stand for nothing else. -/
namespace SwaggerGate.Text

/-- The first character that stands for a lone surrogate. -/
def surrogateBase : Nat := 0x10f800

def isSurrogate (code : Nat) : Bool := 0xd800 ≤ code && code < 0xe000

/-- The character of a code point; a surrogate gets the one that stands for it. -/
def charOf (code : Nat) : Char :=
  if isSurrogate code then Char.ofNat (surrogateBase + (code - 0xd800)) else Char.ofNat code

/-- The code point that a character stands for. -/
def codePoint (c : Char) : Nat :=
  if surrogateBase ≤ c.toNat then c.toNat - surrogateBase + 0xd800 else c.toNat

/-- Whether a text holds a lone surrogate, which no encoding can write. -/
def hasSurrogate (s : String) : Bool := s.toList.any fun c => surrogateBase ≤ c.toNat

/-- Whether a text comes before another by code points. -/
def precedes (a b : String) : Bool := decide (a.toList.map codePoint < b.toList.map codePoint)

/-- A high and a low surrogate as one code point. -/
def joinSurrogates (high low : Nat) : Nat := 0x10000 + (high - 0xd800) * 0x400 + (low - 0xdc00)

def isHighSurrogate (code : Nat) : Bool := 0xd800 ≤ code && code < 0xdc00

def isLowSurrogate (code : Nat) : Bool := 0xdc00 ≤ code && code < 0xe000

end SwaggerGate.Text
