import SwaggerGate.Fault

/-! A place in a document text, and the characters that structure it. -/
namespace SwaggerGate.Yaml

/-- Why a text is no single well-formed document. -/
inductive Error where
  | malformed
  | fault (f : Fault)
deriving DecidableEq, Repr

/-- The rest of a text, with the line and column where it starts. -/
structure Cursor where
  rest : List Char
  index : Nat := 0
  line : Nat := 0
  column : Nat := 0
deriving DecidableEq, Repr

/-- Stands for the end of a text; no text holds it. -/
def endMark : Char := '\x00'

def isBreak (c : Char) : Bool := c == '\n' || c == '\r' || c == '\x85' || c == '\u2028' || c == '\u2029'

def isBreakOrEnd (c : Char) : Bool := c == endMark || isBreak c

def isGap (c : Char) : Bool := c == ' ' || c == '\t'

/-- Blanks, line breaks and the end. -/
def isGapOrEnd (c : Char) : Bool := isGap c || isBreakOrEnd c

def byteOrderMark : Char := '\uFEFF'

/-- Characters that a text may hold at all. -/
def isAllowed (c : Char) : Bool :=
  c == '\t' || c == '\n' || c == '\r' || c == '\x85' || (' ' ≤ c && c ≤ '~')
    || ('\xa0' ≤ c && c ≤ '\uFFFD') || 0x10000 ≤ c.toNat

namespace Cursor

/-- The character a number of places ahead, or the end mark. -/
def peek (c : Cursor) (ahead : Nat) : Char := (c.rest.drop ahead).headD endMark

def head (c : Cursor) : Char := c.rest.headD endMark

/-- Moves over one character. -/
def step (c : Cursor) : Cursor :=
  match c.rest with
  | [] => c
  | x :: rest =>
    if x = '\n' ∨ x = '\x85' ∨ x = '\u2028' ∨ x = '\u2029' ∨ (x = '\r' ∧ rest.head? ≠ some '\n') then
      { rest, index := c.index + 1, line := c.line + 1, column := 0 }
    else { rest, index := c.index + 1, line := c.line, column := if x = byteOrderMark then c.column else c.column + 1 }

def skip : Nat → Cursor → Cursor
  | 0, c => c
  | n + 1, c => skip n c.step

/-- The characters ahead up to the first that fails a test. -/
def run (c : Cursor) (test : Char → Bool) : List Char := c.rest.takeWhile test

def skipWhile (c : Cursor) (test : Char → Bool) : Cursor := c.skip (c.run test).length

/-- Takes a line break, if one is ahead, as what it stands for in a scalar. -/
def lineBreak (c : Cursor) : List Char × Cursor :=
  match c.head with
  | '\r' => (['\n'], if c.peek 1 = '\n' then c.skip 2 else c.skip 1)
  | '\n' | '\x85' => (['\n'], c.step)
  | '\u2028' => (['\u2028'], c.step)
  | '\u2029' => (['\u2029'], c.step)
  | _ => ([], c)

/-- Whether a document marker made of a repeated character stands ahead. -/
def isMarker (c : Cursor) (mark : Char) : Bool :=
  c.head == mark && c.peek 1 == mark && c.peek 2 == mark && isGapOrEnd (c.peek 3)

/-- Whether a separator of documents stands ahead. -/
def isSeparator (c : Cursor) : Bool := c.isMarker '-' || c.isMarker '.'

end Cursor
end SwaggerGate.Yaml
