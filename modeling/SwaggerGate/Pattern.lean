import SwaggerGate.Text.Case
import SwaggerGate.Text.Word

/-! Patterns of text: what a pattern consists of, and which characters and places its
smallest parts accept. Characters are given by their code points. -/
namespace SwaggerGate.Pattern

inductive CharItem where
  | one (code : Nat)
  | range (low high : Nat)
  | word (negated ascii : Bool)
  | digit (negated ascii : Bool)
  | space (negated ascii : Bool)
deriving DecidableEq, Repr

/-- Which letters count as the same: none, or those that differ in case. -/
inductive Folding where
  | exact | ascii | unicode
deriving DecidableEq, Repr

/-- A test of one character. -/
structure CharTest where
  negated : Bool
  items : List CharItem
  folding : Folding
deriving DecidableEq, Repr

inductive Anchor where
  | textStart
  | lineStart
  /-- The end of the text, or the place before a line break that ends it. -/
  | textEnd
  | lineEnd
  | absoluteEnd
  /-- A place between a word character and another or none; an empty text has no such place
  and no other either. -/
  | wordBoundary (negated ascii : Bool)
deriving DecidableEq, Repr

inductive Preference where
  | greedy | lazy | possessive
deriving DecidableEq, Repr

inductive Node where
  | empty
  | char (test : CharTest)
  | anchor (a : Anchor)
  | seq (first second : Node)
  | alt (left right : Node)
  | many (least : Nat) (most : Option Nat) (preference : Preference) (body : Node)
  | group (index : Option Nat) (body : Node)
  | atomic (body : Node)
  | ahead (negated : Bool) (body : Node)
  | behind (negated : Bool) (width : Nat) (body : Node)
  | backref (index : Nat) (folding : Folding)
  | choice (index : Nat) (yes no : Node)
deriving DecidableEq, Repr

def isAscii (code : Nat) : Bool := code < 0x80

private def inClass (negated ascii : Bool) (ranges : List (Nat × Nat)) (code : Nat) : Bool :=
  (if ascii then isAscii code && Text.inRanges ranges code else Text.inRanges ranges code) != negated

/-- Blanks of ASCII; the information separators are none. -/
def asciiBlankRanges : List (Nat × Nat) := [(0x9, 0xd), (0x20, 0x20)]

/-- Whether a character is in a class; the other items are in none. -/
def CharItem.holdsClass (code : Nat) : CharItem → Bool
  | .word negated ascii => inClass negated ascii Text.wordRanges code
  | .digit negated ascii => inClass negated ascii Text.digitRanges code
  | .space negated ascii => inClass negated ascii (if ascii then asciiBlankRanges else Text.blankRanges) code
  | .one _ | .range _ _ => false

def CharItem.holds (code : Nat) : CharItem → Bool
  | .one c => code == c
  | .range low high => low ≤ code && code ≤ high
  | item => item.holdsClass code

namespace Folding

/-- The code that stands for a character and all that differ from it in case. -/
def lower (f : Folding) (code : Nat) : Nat :=
  match f with
  | .exact => code
  | .ascii => if 0x41 ≤ code && code ≤ 0x5a then code + 32 else code
  | .unicode => Text.lowerCode code

/-- A code in lower case with those that share its upper case. -/
def variants (f : Folding) (code : Nat) : List Nat :=
  match f with
  | .unicode => code :: Text.lowerVariants code
  | _ => [code]

/-- A code in lower case with all codes of which it is the lower case. -/
def forms (f : Folding) (code : Nat) : List Nat :=
  match f with
  | .exact => [code]
  | .ascii => if 0x61 ≤ code && code ≤ 0x7a then [code, code - 32] else [code]
  | .unicode => code :: Text.raisedForms code

end Folding

/-- The last code of the first plane. -/
def lastOfPlane : Nat := 0xffff

/-- Whether an item of a set accepts a character given in lower case, whatever the case of
either. A range holds the upper cases of its characters; beyond the first plane a single
character stands for its own case only. -/
def CharItem.holdsFolded (f : Folding) (alone : Bool) (code : Nat) : CharItem → Bool
  | .one c =>
    if alone || f.lower c ≤ lastOfPlane then (f.variants (f.lower c)).contains code else code == c
  | .range low high =>
    (f.variants code).any (fun v => (f.forms v).any fun form => low ≤ form && form ≤ min high lastOfPlane)
      || (lastOfPlane < high && ((low ≤ code && code ≤ high)
        || (low ≤ Text.upperCode code && Text.upperCode code ≤ high)))
  | item => item.holdsClass code

def CharTest.holds (t : CharTest) (code : Nat) : Bool :=
  (match t.folding with
    | .exact => t.items.any (CharItem.holds code)
    | f => t.items.any (CharItem.holdsFolded f (t.items.length == 1) (f.lower code))) != t.negated

/-- Whether a word character stands at a place. -/
def wordAt (ascii : Bool) (text : Array Nat) (place : Nat) : Bool :=
  text[place]?.any (inClass false ascii Text.wordRanges)

def lineBreak : Nat := 0xa

def Anchor.holds (text : Array Nat) (place : Nat) : Anchor → Bool
  | .textStart => place == 0
  | .lineStart => place == 0 || text[place - 1]? == some lineBreak
  | .textEnd => place == text.size || (place + 1 == text.size && text[place]? == some lineBreak)
  | .lineEnd => place == text.size || text[place]? == some lineBreak
  | .absoluteEnd => place == text.size
  | .wordBoundary negated ascii => text.size != 0
    && ((place != 0 && wordAt ascii text (place - 1)) != wordAt ascii text place) != negated

end SwaggerGate.Pattern
