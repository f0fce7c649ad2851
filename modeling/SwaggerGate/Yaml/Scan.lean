import SwaggerGate.Yaml.Token

/-! Scanning a text into tokens. Indentation opens and closes blocks; a key is recognised
only at the colon after it, so the places where one may have started are remembered, one
for each depth of flow collections, and its token goes in at that place. Where scanning
stops early, the tokens before the first such place are told all the same. -/
namespace SwaggerGate.Yaml

/-- A place where a key may have started. A required one must turn out to be a key. -/
structure PossibleKey where
  /-- The number of tokens before it. -/
  position : Nat
  required : Bool
  index : Nat
  line : Nat
  column : Nat

structure Scanner where
  cursor : Cursor
  /-- The tokens so far, the latest first. -/
  reversed : List Token := []
  count : Nat := 0
  /-- The depth of flow collections. -/
  flow : Nat := 0
  indent : Int := -1
  outer : List Int := []
  keyAllowed : Bool := true
  /-- Possible keys by depth of flow collections. -/
  keys : List (Nat × PossibleKey) := []

namespace Scanner

/-- The farthest that a key may be from its colon. -/
def keyReach : Nat := 1024

def push (t : Token) (s : Scanner) : Scanner := { s with reversed := t :: s.reversed, count := s.count + 1 }

/-- Puts a token in after the first `position` ones. -/
def insert (position : Nat) (t : Token) (s : Scanner) : Scanner :=
  let later := s.count - position
  { s with reversed := s.reversed.take later ++ t :: s.reversed.drop later, count := s.count + 1 }

def at_ (c : Cursor) (s : Scanner) : Scanner := { s with cursor := c }

def isStale (s : Scanner) (k : PossibleKey) : Bool :=
  k.line != s.cursor.line || s.cursor.index - k.index > keyReach

/-- Forgets possible keys on earlier lines or too far back. -/
def dropStale (s : Scanner) : Except Error Scanner := do
  ensure (s.keys.all fun k => !(isStale s k.2 && k.2.required))
  return { s with keys := s.keys.filter fun k => !isStale s k.2 }

/-- Forgets the possible key of the current depth. -/
def dropKey (s : Scanner) : Except Error Scanner := do
  ensure (!(s.keys.lookup s.flow).any PossibleKey.required)
  return { s with keys := s.keys.filter (·.1 != s.flow) }

/-- Remembers that a key may start here. -/
def saveKey (s : Scanner) : Except Error Scanner := do
  if s.keyAllowed then
    let s ← s.dropKey
    let key : PossibleKey :=
      { position := s.count, required := s.flow == 0 && s.indent == s.cursor.column,
        index := s.cursor.index, line := s.cursor.line, column := s.cursor.column }
    return { s with keys := (s.flow, key) :: s.keys }
  else return s

/-- Closes the blocks that are indented more than a column. -/
def unwindBlocks (column : Int) : List Int → Scanner → Scanner
  | [], s => s
  | next :: outer, s =>
    if column < s.indent then unwindBlocks column outer { s.push .blockEnd with indent := next, outer } else s

def unwind (column : Int) (s : Scanner) : Scanner := if s.flow = 0 then unwindBlocks column s.outer s else s

/-- Opens a block at a column that is indented more than the current one; its token goes in
after the first `position` ones. -/
def openBlock (column position : Nat) (t : Token) (s : Scanner) : Scanner :=
  if s.indent < column then
    { s.insert position t with indent := column, outer := s.indent :: s.outer }
  else s

/-- Skips blanks, comments and line breaks before a token. -/
def skipToToken : Nat → Scanner → Scanner
  | 0, s => s
  | fuel + 1, s =>
    let c := s.cursor.skipWhile (· == ' ')
    let c := if c.head = '#' then c.skipWhile (!isBreakOrEnd ·) else c
    if isBreak c.head then
      skipToToken fuel { s with cursor := c.lineBreak.2, keyAllowed := s.flow == 0 || s.keyAllowed }
    else s.at_ c

/-- Closes all blocks before a directive or a marker of a document. -/
def leaveDocument (s : Scanner) : Except Error Scanner := do
  return { ← (s.unwind (-1)).dropKey with keyAllowed := false }

def flowStart (t : Token) (s : Scanner) : Except Error Scanner := do
  let s ← s.saveKey
  return { s.push t with flow := s.flow + 1, keyAllowed := true, cursor := s.cursor.step }

def flowEnd (t : Token) (s : Scanner) : Except Error Scanner := do
  ensure (s.flow != 0)
  let s ← s.dropKey
  return { s.push t with flow := s.flow - 1, keyAllowed := false, cursor := s.cursor.step }

def flowEntry (s : Scanner) : Except Error Scanner := do
  let s ← s.dropKey
  return { s.push .flowEntry with keyAllowed := true, cursor := s.cursor.step }

def blockEntry (s : Scanner) : Except Error Scanner := do
  ensure (s.flow != 0 || s.keyAllowed)
  let s := if s.flow = 0 then s.openBlock s.cursor.column s.count .blockSequence else s
  let s ← s.dropKey
  return { s.push .entry with keyAllowed := true, cursor := s.cursor.step }

def explicitKey (s : Scanner) : Except Error Scanner := do
  ensure (s.flow != 0 || s.keyAllowed)
  let s := if s.flow = 0 then s.openBlock s.cursor.column s.count .blockMapping else s
  let s ← s.dropKey
  return { s.push .key with keyAllowed := s.flow == 0, cursor := s.cursor.step }

/-- The colon after a key: a possible key becomes one, else the key is empty. -/
def keyValue (s : Scanner) : Except Error Scanner := do
  match s.keys.lookup s.flow with
  | some k =>
    let s := { s with keys := s.keys.filter (·.1 != s.flow) }
    let s := s.insert k.position .key
    let s := if s.flow = 0 then s.openBlock k.column k.position .blockMapping else s
    return { s.push .value with keyAllowed := false, cursor := s.cursor.step }
  | none =>
    ensure (s.flow != 0 || s.keyAllowed)
    let s := if s.flow = 0 then s.openBlock s.cursor.column s.count .blockMapping else s
    let s ← s.dropKey
    return { s.push .value with keyAllowed := s.flow == 0, cursor := s.cursor.step }

/-- A token that may start a key. -/
def word (token : Token) (after : Cursor) (s : Scanner) : Except Error Scanner := do
  let s ← s.saveKey
  return { s.push token with keyAllowed := false, cursor := after }

def plain (s : Scanner) : Except Error Scanner := do
  let s ← s.saveKey
  let ((text, broken), after) :=
    plainBody (s.flow != 0) (s.indent + 1) (s.cursor.rest.length + 1) false [] s.cursor
  return { s.push (.scalar text true) with keyAllowed := broken, cursor := after }

/-- Scans the token that stands ahead. -/
def fetch (s : Scanner) : Except Error Scanner := do
  let c := s.cursor
  let inFlow := s.flow != 0
  let gapAfter := isGapOrEnd (c.peek 1)
  match c.head with
  | '[' => s.flowStart .flowSequence
  | '\x7b' => s.flowStart .flowMapping
  | ']' => s.flowEnd .flowSequenceEnd
  | '\x7d' => s.flowEnd .flowMappingEnd
  | ',' => s.flowEntry
  | '*' => do
    let (name, after) ← markedName c
    s.word (.alias name) after
  | '&' => do
    let (name, after) ← markedName c
    s.word (.anchor name) after
  | '!' => do
    let (name, after) ← tagToken c
    s.word (.tag name) after
  | '\'' => do
    let (text, after) ← quotedScalar c
    s.word (.scalar text false) after
  | '"' => do
    let (text, after) ← quotedScalar c
    s.word (.scalar text false) after
  | x =>
    if x = '%' ∧ c.column = 0 then
      let s ← s.leaveDocument
      let (d, after) ← directive c
      return (s.push (.directive d)).at_ after
    else if c.column = 0 ∧ c.isMarker '-' then
      let s ← s.leaveDocument
      return (s.push .documentStart).at_ (c.skip 3)
    else if c.column = 0 ∧ c.isMarker '.' then
      let s ← s.leaveDocument
      return (s.push .documentEnd).at_ (c.skip 3)
    else if x = '-' ∧ gapAfter then s.blockEntry
    else if x = '?' ∧ (inFlow || gapAfter) then s.explicitKey
    else if x = ':' ∧ (inFlow || gapAfter) then s.keyValue
    else if (x = '|' ∨ x = '>') ∧ inFlow = false then
      let s ← s.dropKey
      let (text, after) ← blockScalar s.indent c
      return { s.push (.scalar text false) with keyAllowed := true, cursor := after }
    else if startsPlain inFlow c then s.plain
    else refuse

/-- The scanner after the next token or the end of the text, and whether it is the end. -/
def advance (s : Scanner) : Except Error (Scanner × Bool) := do
  let s ← (s.skipToToken (s.cursor.rest.length + 1)).dropStale
  let s := s.unwind s.cursor.column
  if s.cursor.head = endMark then return (← (s.unwind (-1)).dropKey, true) else return (← s.fetch, false)

/-- The tokens so far that no key can go in before. -/
def told (s : Scanner) : List Token :=
  let places := (s.keys.filter fun k => !isStale s k.2).map fun k => k.2.position
  s.reversed.reverse.take (places.foldl min s.count)

end Scanner

/-- What scanning a text finds. -/
structure Scanned where
  tokens : List Token
  /-- Why there are no more tokens, unless the text is at its end. -/
  stop : Option Error := none

/-- Scans token after token up to the end of the text. -/
def Scanner.run : Nat → Scanner → Scanned
  | 0, s => ⟨s.told, some .malformed⟩
  | fuel + 1, s => match s.advance with
    | .error e => ⟨s.told, some e⟩
    | .ok (s, true) => ⟨s.reversed.reverse, none⟩
    | .ok (s, false) => run fuel s

/-- The tokens of a text. A byte order mark at its start is no part of it. -/
def scan (text : List Char) : Scanned :=
  if text.all isAllowed then
    let start : Cursor := { rest := text }
    let start := if start.head = byteOrderMark then start.step else start
    Scanner.run (text.length + 2) { cursor := start }
  else ⟨[], some .malformed⟩

end SwaggerGate.Yaml
