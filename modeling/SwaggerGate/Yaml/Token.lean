import SwaggerGate.Text.Digits
import SwaggerGate.Text.Utf8
import SwaggerGate.Yaml.Cursor

/-! Tokens of a document text, and the readers of those that span several characters:
directives, names, tags and scalars. -/
namespace SwaggerGate.Yaml

inductive Directive where
  | version (major minor : Nat)
  | tag (handle lead : List Char)
  | other
deriving DecidableEq, Repr

/-- A tag as written: a handle and a suffix, or a suffix alone. -/
structure TagName where
  handle : Option (List Char)
  suffix : List Char
deriving DecidableEq, Repr

inductive Token where
  | directive (d : Directive)
  | documentStart | documentEnd
  | blockSequence | blockMapping | blockEnd
  | flowSequence | flowSequenceEnd | flowMapping | flowMappingEnd
  | entry | flowEntry | key | value
  | alias (name : List Char)
  | anchor (name : List Char)
  | tag (name : TagName)
  | scalar (text : List Char) (plain : Bool)
deriving DecidableEq, Repr

def refuse {α : Type} : Except Error α := .error .malformed

/-- Passes only if a test holds. -/
def ensure (holds : Bool) : Except Error Unit := if holds then .ok () else refuse

def isNameChar (c : Char) : Bool := Text.isAsciiAlphanumeric c || c == '-' || c == '_'

/-- Skips blanks and a comment up to a line break, and the break; anything else is refused. -/
def restOfLine (c : Cursor) : Except Error Cursor := do
  let c := c.skipWhile (· == ' ')
  let c := if c.head = '#' then c.skipWhile (!isBreakOrEnd ·) else c
  ensure (isBreakOrEnd c.head)
  return c.lineBreak.2

/-- The name after the mark of an alias or anchor. -/
def markedName (c : Cursor) : Except Error (List Char × Cursor) := do
  let c := c.step
  let name := c.run isNameChar
  let c := c.skip name.length
  ensure (!name.isEmpty && (isGapOrEnd c.head || "?:,]\x7d%@`".toList.contains c.head))
  return (name, c)

/-- The bytes of consecutive percent escapes, as characters. -/
def uriEscapes : Nat → Cursor → Except Error (List UInt8 × Cursor)
  | 0, c => .ok ([], c)
  | fuel + 1, c =>
    if c.head = '%' then
      match Text.hexDigit? (c.peek 1), Text.hexDigit? (c.peek 2) with
      | some high, some low => do
        let (bytes, c) ← uriEscapes fuel (c.skip 3)
        return (UInt8.ofNat (16 * high + low) :: bytes, c)
      | _, _ => refuse
    else .ok ([], c)

def isUriChar (c : Char) : Bool :=
  Text.isAsciiAlphanumeric c || "-;/?:@&=+$,_.!~*'()[]".toList.contains c

/-- The characters of a tag's address, escapes undone. -/
def uriChars : Nat → Cursor → Except Error (List Char × Cursor)
  | 0, c => .ok ([], c)
  | fuel + 1, c =>
    if c.head = '%' then do
      let (bytes, c) ← uriEscapes c.rest.length c
      match Text.Utf8.decode? bytes with
      | some chars =>
        let (more, c) ← uriChars fuel c
        return (chars ++ more, c)
      | none => refuse
    else if isUriChar c.head then do
      let (more, d) ← uriChars fuel c.step
      return (c.head :: more, d)
    else .ok ([], c)

def uri (c : Cursor) : Except Error (List Char × Cursor) := do
  let (chars, c) ← uriChars (c.rest.length + 1) c
  ensure (!chars.isEmpty)
  return (chars, c)

/-- A tag handle: a mark, or a name between two marks. -/
def tagHandle (c : Cursor) : Except Error (List Char × Cursor) := do
  ensure (c.head == '!')
  if c.peek 1 = ' ' then return (['!'], c.step)
  let name := c.step.run isNameChar
  ensure (c.peek (name.length + 1) == '!')
  return ('!' :: name ++ ['!'], c.skip (name.length + 2))

def tagToken (c : Cursor) : Except Error (TagName × Cursor) := do
  let next := c.peek 1
  let (name, c) ←
    if next = '<' then do
      let (suffix, c) ← uri (c.skip 2)
      ensure (c.head == '>')
      pure (TagName.mk none suffix, c.step)
    else if isGapOrEnd next then pure (TagName.mk none ['!'], c.step)
    else do
      let word := c.step.run fun x => !(x == ' ' || isBreakOrEnd x)
      if word.contains '!' then
        let (handle, c) ← tagHandle c
        let (suffix, c) ← uri c
        pure (TagName.mk (some handle) suffix, c)
      else
        let (suffix, c) ← uri c.step
        pure (TagName.mk (some ['!']) suffix, c)
  ensure (c.head == ' ' || isBreakOrEnd c.head)
  return (name, c)

/-- A number of a version. -/
def versionNumber (c : Cursor) : Except Error (Nat × Cursor) := do
  let digits := c.run Text.isAsciiDigit
  ensure (!digits.isEmpty)
  if digits.length > Text.maxIntegerDigits then throw (.fault .longInteger)
  return (Text.decimalNumber digits, c.skip digits.length)

def directive (c : Cursor) : Except Error (Directive × Cursor) := do
  let c := c.step
  let name := c.run isNameChar
  let c := c.skip name.length
  ensure (!name.isEmpty && (c.head == ' ' || isBreakOrEnd c.head))
  let (found, c) ←
    if name = "YAML".toList then do
      let (major, c) ← versionNumber (c.skipWhile (· == ' '))
      ensure (c.head == '.')
      let (minor, c) ← versionNumber c.step
      ensure (c.head == ' ' || isBreakOrEnd c.head)
      pure (Directive.version major minor, c)
    else if name = "TAG".toList then do
      let (handle, c) ← tagHandle (c.skipWhile (· == ' '))
      ensure (c.head == ' ')
      let (lead, c) ← uri (c.skipWhile (· == ' '))
      ensure (c.head == ' ' || isBreakOrEnd c.head)
      pure (Directive.tag handle lead, c)
    else pure (Directive.other, c.skipWhile (!isBreakOrEnd ·))
  return (found, ← restOfLine c)

section Quoted

/-- The escapes of double quotes that stand for one character. -/
def escapedChar? (c : Char) : Option Char :=
  match c with
  | '0' => some '\x00'
  | 'a' => some '\x07'
  | 'b' => some '\x08'
  | 't' | '\t' => some '\t'
  | 'n' => some '\n'
  | 'v' => some '\x0b'
  | 'f' => some '\x0c'
  | 'r' => some '\r'
  | 'e' => some '\x1b'
  | ' ' => some ' '
  | '"' => some '"'
  | '\\' => some '\\'
  | '/' => some '/'
  | 'N' => some '\x85'
  | '_' => some '\xa0'
  | 'L' => some '\u2028'
  | 'P' => some '\u2029'
  | _ => none

/-- How many hexadecimal digits follow an escape by code. -/
def escapeLength? (c : Char) : Option Nat :=
  match c with
  | 'x' => some 2
  | 'u' => some 4
  | 'U' => some 8
  | _ => none

/-- Line breaks inside quotes, with the blanks after each; no separator may follow one. -/
def quotedBreaks : Nat → Cursor → Except Error (List Char × Cursor)
  | 0, c => .ok ([], c)
  | fuel + 1, c => do
    ensure (!c.isSeparator)
    let c := c.skipWhile isGap
    if isBreak c.head then
      let (lineBreak, c) := c.lineBreak
      let (more, c) ← quotedBreaks fuel c
      return (lineBreak ++ more, c)
    else return ([], c)

/-- What a line break and the breaks after it fold to. -/
def folded (first more : List Char) : List Char :=
  if first ≠ ['\n'] then first ++ more else if more.isEmpty then [' '] else more

/-- An escape by code, after the letter that starts it. Each half of a surrogate pair stays
on its own. -/
def codeEscape (digits : Nat) (c : Cursor) : Except Error (Char × Cursor) :=
  let written := c.rest.take digits
  match if written.length = digits then Text.hexNumber? written else none with
  | none => refuse
  | some code =>
    if code ≥ 0x80000000 then .error (.fault .outOfRange)
    else if code > 0x10ffff then .error (.fault .unconvertible)
    else .ok (Text.charOf code, c.skip digits)

def isQuotedChar (c : Char) : Bool := !(c == '\'' || c == '"' || c == '\\' || isGapOrEnd c)

/-- The characters of a quoted scalar after the opening quote, up to and with the closing one. -/
def quotedBody (quote : Char) : Nat → Cursor → Except Error (List Char × Cursor)
  | 0, _ => refuse
  | fuel + 1, c => do
    let add (found : List Char) (c : Cursor) : Except Error (List Char × Cursor) := do
      let (more, c) ← quotedBody quote fuel c
      return (found ++ more, c)
    let x := c.head
    if isQuotedChar x then add (c.run isQuotedChar) (c.skipWhile isQuotedChar)
    else if quote = '\'' ∧ x = '\'' ∧ c.peek 1 = '\'' then add ['\''] (c.skip 2)
    else if x = quote then return ([], c.step)
    else if x = '\'' ∨ (quote = '\'' ∧ (x = '"' ∨ x = '\\')) then add [x] c.step
    else if x = '\\' then
      let c := c.step
      match escapedChar? c.head, escapeLength? c.head with
      | some e, _ => add [e] c.step
      | none, some digits =>
        let (e, c) ← codeEscape digits c.step
        add [e] c
      | none, none =>
        if isBreak c.head then
          let (breaks, c) ← quotedBreaks (c.rest.length + 1) c.lineBreak.2
          add breaks c
        else refuse
    else
      let blanks := c.run isGap
      let c := c.skip blanks.length
      if c.head = endMark then refuse
      else if isBreak c.head then
        let (first, c) := c.lineBreak
        let (more, c) ← quotedBreaks (c.rest.length + 1) c
        add (folded first more) c
      else add blanks c

def quotedScalar (c : Cursor) : Except Error (List Char × Cursor) :=
  quotedBody c.head (2 * c.rest.length + 2) c.step

end Quoted

section Plain

/-- Whether a plain scalar may start with what stands ahead. -/
def startsPlain (inFlow : Bool) (c : Cursor) : Bool :=
  let x := c.head
  let special := isGapOrEnd x || "-?:,[]\x7b\x7d#&*!|>'\"%@`".toList.contains x
  !special || (!isGapOrEnd (c.peek 1) && (x == '-' || (!inFlow && (x == '?' || x == ':'))))

/-- The length of the stretch of a plain scalar that stands ahead. -/
def plainLength (inFlow : Bool) : List Char → Nat
  | [] => 0
  | x :: rest =>
    let next := rest.headD endMark
    if isGapOrEnd x
      || (x == ':' && (isGapOrEnd next || (inFlow && ",[]\x7b\x7d".toList.contains next)))
      || (inFlow && ",?[]\x7b\x7d".toList.contains x) then 0
    else plainLength inFlow rest + 1

/-- Line breaks between the lines of a plain scalar, with blanks skipped; none if a
separator follows one. -/
def plainBreaks : Nat → Cursor → Option (List Char) × Cursor
  | 0, c => (some [], c)
  | fuel + 1, c =>
    if c.head = ' ' then plainBreaks fuel c.step
    else if isBreak c.head then
      let (lineBreak, c) := c.lineBreak
      if c.isSeparator then (none, c)
      else
        let (more, c) := plainBreaks fuel c
        (more.map (lineBreak ++ ·), c)
    else (some [], c)

/-- What follows a stretch of a plain scalar. -/
structure PlainGap where
  /-- What the gap folds to; none ends the scalar. -/
  text : Option (List Char)
  broken : Bool
  after : Cursor

def plainGap (c : Cursor) : PlainGap :=
  let blanks := c.run (· == ' ')
  let c := c.skip blanks.length
  if isBreak c.head then
    let (first, c) := c.lineBreak
    if c.isSeparator then ⟨none, true, c⟩
    else
      let (more, c) := plainBreaks (c.rest.length + 1) c
      ⟨more.map (folded first), true, c⟩
  else ⟨if blanks.isEmpty then none else some blanks, false, c⟩

/-- A plain scalar: its text, and whether it went over a line break. -/
def plainBody (inFlow : Bool) (indent : Int) : Nat → Bool → List Char → Cursor → (List Char × Bool) × Cursor
  | 0, broken, _, c => (([], broken), c)
  | fuel + 1, broken, gap, c =>
    let size := if c.head = '#' then 0 else plainLength inFlow c.rest
    if size = 0 then (([], broken), c)
    else
      let stretch := gap ++ c.rest.take size
      let next := plainGap (c.skip size)
      let broken := next.broken
      match next.text with
      | none => ((stretch, broken), next.after)
      | some text =>
        if next.after.head = '#' ∨ (inFlow = false ∧ next.after.column < indent) then
          ((stretch, broken), next.after)
        else
          let ((more, broken'), c) := plainBody inFlow indent fuel broken text next.after
          ((stretch ++ more, broken'), c)

end Plain

section Block

/-- How a block scalar treats the line breaks at its end. -/
inductive Chomping where
  | clip | strip | keep
deriving DecidableEq, Repr

def chomping? (c : Char) : Option Chomping :=
  if c = '+' then some .keep else if c = '-' then some .strip else none

def increment? (c : Cursor) : Except Error (Option Nat × Cursor) :=
  if Text.isAsciiDigit c.head then
    if c.head = '0' then refuse else .ok (some (Text.decimalNumber [c.head]), c.step)
  else .ok (none, c)

/-- The indicators of a block scalar, in either order. -/
def blockHeader (c : Cursor) : Except Error ((Chomping × Option Nat) × Cursor) := do
  match chomping? c.head with
  | some chomping =>
    let (increment, c) ← increment? c.step
    ensure (c.head == ' ' || isBreakOrEnd c.head)
    return ((chomping, increment), c)
  | none =>
    let (increment, c) ← increment? c
    match increment, chomping? c.head with
    | some n, some chomping =>
      ensure (c.step.head == ' ' || isBreakOrEnd c.step.head)
      return ((chomping, some n), c.step)
    | increment, _ =>
      ensure (c.head == ' ' || isBreakOrEnd c.head)
      return ((.clip, increment), c)

/-- Skips blanks up to a column. -/
def indentTo (column : Nat) (c : Cursor) : Cursor :=
  c.skip (min (column - c.column) (c.run (· == ' ')).length)

/-- The empty lines before the first line of a block scalar, and the deepest indentation
among them and it. -/
def blockIndentation : Nat → Nat → Cursor → (List Char × Nat) × Cursor
  | 0, deepest, c => (([], deepest), c)
  | fuel + 1, deepest, c =>
    if c.head = ' ' then blockIndentation fuel (max deepest c.step.column) c.step
    else if isBreak c.head then
      let (lineBreak, c) := c.lineBreak
      let ((more, deepest), c) := blockIndentation fuel deepest c
      ((lineBreak ++ more, deepest), c)
    else (([], deepest), c)

/-- The empty lines between lines of a block scalar. -/
def blockBreaks (indent : Nat) : Nat → Cursor → List Char × Cursor
  | 0, c => ([], c)
  | fuel + 1, c =>
    let c := indentTo indent c
    if isBreak c.head then
      let (lineBreak, c) := c.lineBreak
      let (more, c) := blockBreaks indent fuel c
      (lineBreak ++ more, c)
    else ([], c)

/-- The lines of a block scalar, given the empty lines before the next one. -/
def blockLines (folds : Bool) (chomping : Chomping) (indent : Nat) :
    Nat → List Char → List Char → Cursor → List Char × Cursor
  | 0, _, _, c => ([], c)
  | fuel + 1, lineBreak, breaks, c =>
    let tail :=
      (if chomping = .strip then [] else lineBreak) ++ (if chomping = .keep then breaks else [])
    if c.column = indent ∧ c.head ≠ endMark then
      let line := c.run (!isBreakOrEnd ·)
      let flush := !isGap c.head
      let (nextBreak, after) := (c.skip line.length).lineBreak
      let (nextBreaks, after) := blockBreaks indent (after.rest.length + 1) after
      if after.column = indent ∧ after.head ≠ endMark then
        let joint := if folds && nextBreak == ['\n'] && flush && !isGap after.head then
            if nextBreaks.isEmpty then [' '] else []
          else nextBreak
        let (more, after) := blockLines folds chomping indent fuel nextBreak nextBreaks after
        (breaks ++ line ++ joint ++ more, after)
      else
        let tail := (if chomping = .strip then [] else nextBreak)
          ++ (if chomping = .keep then nextBreaks else [])
        (breaks ++ line ++ tail, after)
    else (tail, c)

/-- A literal or folded block scalar, inside a block of some indentation. -/
def blockScalar (outer : Int) (c : Cursor) : Except Error (List Char × Cursor) := do
  let folds := c.head == '>'
  let ((chomping, increment), c) ← blockHeader c.step
  let c ← restOfLine c
  let least := (max (outer + 1) 1).toNat
  let fuel := c.rest.length + 1
  match increment with
  | none =>
    let ((breaks, deepest), c) := blockIndentation fuel 0 c
    return blockLines folds chomping (max least deepest) fuel [] breaks c
  | some n =>
    let indent := least + n - 1
    let (breaks, c) := blockBreaks indent fuel c
    return blockLines folds chomping indent fuel [] breaks c

end Block

end SwaggerGate.Yaml
