import SwaggerGate.Pattern
import SwaggerGate.Text.CharacterName
import SwaggerGate.Text.CodePoint
import SwaggerGate.Text.Identifier
import SwaggerGate.Text.Numeral

/-! Reading the text of a pattern: alternatives of sequences of characters, classes,
escapes, anchors, groups, assertions, references and repetitions, with inline flags. -/
namespace SwaggerGate.Pattern

inductive PatternError where
  | malformed
  /-- A repetition count is too large. -/
  | tooLarge
  /-- A repetition count has too many digits to be converted. -/
  | longCount
  /-- Flags ask for all characters and for those of ASCII only. -/
  | conflictingFlags
deriving DecidableEq, Repr

/-- A character as it stands, or after a backslash. -/
inductive Token where
  | plain (c : Char)
  | escaped (c : Char)
  /-- A backslash with nothing after it. -/
  | broken
deriving DecidableEq, Repr

/-- Pairs each backslash with the character after it. -/
def tokensOf : List Char → List Token
  | [] => []
  | ['\\'] => [.broken]
  | '\\' :: c :: rest => .escaped c :: tokensOf rest
  | c :: rest => .plain c :: tokensOf rest

structure Flags where
  ignoreCase : Bool := false
  multiline : Bool := false
  dotAll : Bool := false
  verbose : Bool := false
  ascii : Bool := false
  unicode : Bool := false
  /-- The flag under which nothing can be repeated. -/
  plain : Bool := false
deriving DecidableEq, Repr

/-- Which letters count as the same under flags. -/
def Flags.folding (f : Flags) : Folding :=
  if !f.ignoreCase then .exact else if f.ascii then .ascii else .unicode

/-- What is known while a pattern is read. -/
structure Progress where
  rest : List Token
  flags : Flags
  nextGroup : Nat := 1
  names : List (String × Nat) := []
  openGroups : List Nat := []
  widths : List (Nat × (Nat × Nat)) := []
  /-- The first group that lies inside the outermost lookbehind, if there is one. -/
  behindFrom : Option Nat := none
  forwardRefs : List Nat := []
  /-- The flags of the whole pattern. -/
  whole : Flags := {}
  /-- Whether some lookbehind has no one width, or too large a one. -/
  looseBehind : Bool := false
  repeats : Bool := false

abbrev Reader := StateT Progress (Except PatternError)

private def fail {α : Type} : Reader α := throw .malformed

/-- The bound on widths; whatever is wider counts as this wide. -/
def maxWidth : Nat := 1 <<< 64

/-- The least width that is too large for a lookbehind. -/
def widthLimit : Nat := 4294967296

/-- The least repetition count that is too large. -/
def countLimit : Nat := 4294967295

/-- The least and the greatest number of characters that a node matches. -/
def width (groups : List (Nat × (Nat × Nat))) : Node → Nat × Nat
  | .empty | .anchor _ | .ahead .. | .behind .. => (0, 0)
  | .char _ => (1, 1)
  | .seq a b =>
    let (l, h) := width groups a
    let (m, i) := width groups b
    (min (l + m) maxWidth, min (h + i) maxWidth)
  | .alt a b =>
    let (l, h) := width groups a
    let (m, i) := width groups b
    (min l m, max h i)
  | .many least most _ body =>
    let (l, h) := width groups body
    (min (l * least) maxWidth, match most with
      | some m => min (h * m) maxWidth
      | none => if h = 0 then 0 else maxWidth)
  | .group _ body | .atomic body => width groups body
  | .backref index _ => (groups.lookup index).getD (0, 0)
  | .choice _ yes no =>
    let (l, h) := width groups yes
    let (m, i) := width groups no
    (min l m, max h i)

private def peek : Reader (Option Token) := do return (← get).rest.head?

/-- Goes on with given tokens; a broken one must not come next. -/
private def goTo (rest : List Token) : Reader Unit := do
  if rest.head? = some .broken then fail
  modify fun p => { p with rest }

private def advance : Reader Unit := do goTo ((← get).rest.drop 1)

private def take? : Reader (Option Token) := do
  let t ← peek
  advance
  return t

private def accept (c : Char) : Reader Bool := do
  if (← peek) = some (.plain c) then
    advance
    return true
  else return false

private def expect (c : Char) : Reader Unit := do
  unless (← accept c) do fail

private def plainWhile (most : Nat) (test : Char → Bool) : Reader (List Char) := do
  let rest := (← get).rest
  let found := (rest.take most).takeWhile fun
    | .plain c => test c
    | _ => false
  goTo (rest.drop found.length)
  return found.filterMap fun
    | .plain c => some c
    | _ => none

private def plainRun (test : Char → Bool) : Reader (List Char) := do
  plainWhile (← get).rest.length test

/-- Takes a name up to a closing mark; an escape cannot be part of a name. -/
private def nameUntil (stop : Char) : Reader String := do
  let name ← plainRun (· != stop)
  expect stop
  if name.isEmpty then fail else return String.ofList name

private def isOctal (c : Char) : Bool := '0' ≤ c && c ≤ '7'

private def octal (cs : List Char) : Nat := cs.foldl (fun n c => 8 * n + (c.toNat - '0'.toNat)) 0

private def hexEscape (digits : Nat) : Reader Nat := do
  let found ← plainWhile digits fun c => (Text.hexDigit? c).isSome
  if found.length < digits then fail
  let code := (Text.hexNumber? found).getD 0
  if code > 0x10ffff then fail
  return code

private def controlEscape? (c : Char) : Option Nat :=
  match c with
  | 'a' => some 0x7
  | 'f' => some 0xc
  | 'n' => some 0xa
  | 'r' => some 0xd
  | 't' => some 0x9
  | 'v' => some 0xb
  | '\\' => some 0x5c
  | _ => none

/-- The character whose name stands in braces. -/
private def namedEscape : Reader Nat := do
  expect '\x7b'
  match Text.namedCharacter? (← nameUntil '\x7d') with
  | some code => return code
  | none => fail

private def category? (flags : Flags) (c : Char) : Option CharItem :=
  match c with
  | 'd' => some (.digit false flags.ascii)
  | 'D' => some (.digit true flags.ascii)
  | 's' => some (.space false flags.ascii)
  | 'S' => some (.space true flags.ascii)
  | 'w' => some (.word false flags.ascii)
  | 'W' => some (.word true flags.ascii)
  | _ => none

private def literal (flags : Flags) (code : Nat) : Node := .char ⟨false, [.one code], flags.folding⟩

/-- Checks that a group may be referred to: it is closed and not inside an open lookbehind. -/
private def checkReference (index : Nat) : Reader Unit := do
  let p ← get
  if p.openGroups.contains index then fail
  if p.behindFrom.any (· ≤ index) then fail

private def reference (index : Nat) : Reader Node := do
  let p ← get
  if index ≥ p.nextGroup then fail
  checkReference index
  return .backref index p.flags.folding

/-- The node of an escape outside a class. -/
private def escape (c : Char) : Reader Node := do
  let flags := (← get).flags
  if let some item := category? flags c then return .char ⟨false, [item], flags.folding⟩
  if c = 'A' then return .anchor .textStart
  if c = 'Z' then return .anchor .absoluteEnd
  if c = 'b' then return .anchor (.wordBoundary false flags.ascii)
  if c = 'B' then return .anchor (.wordBoundary true flags.ascii)
  if let some d := controlEscape? c then return literal flags d
  if c = 'x' then return literal flags (← hexEscape 2)
  if c = 'u' then return literal flags (← hexEscape 4)
  if c = 'U' then return literal flags (← hexEscape 8)
  if c = 'N' then return literal flags (← namedEscape)
  if c = '0' then return literal flags (octal (← plainWhile 2 isOctal))
  if Text.isAsciiDigit c then
    match ← plainWhile 1 Text.isAsciiDigit with
    | [d] =>
      if isOctal c && isOctal d then
        match ← plainWhile 1 isOctal with
        | [e] =>
          let code := octal [c, d, e]
          if code > 0o377 then fail
          return literal flags code
        | _ => reference (Text.decimalNumber [c, d])
      else reference (Text.decimalNumber [c, d])
    | _ => reference (Text.decimalNumber [c])
  else if Text.isAsciiLetter c then fail
  else return literal flags (Text.codePoint c)

/-- A member of a class: one character, or a category. -/
private def classEscape (c : Char) : Reader CharItem := do
  let flags := (← get).flags
  if let some item := category? flags c then return item
  if c = 'b' then return .one 0x8
  if let some d := controlEscape? c then return .one d
  if c = 'x' then return .one (← hexEscape 2)
  if c = 'u' then return .one (← hexEscape 4)
  if c = 'U' then return .one (← hexEscape 8)
  if c = 'N' then return .one (← namedEscape)
  if isOctal c then
    let code := octal (c :: (← plainWhile 2 isOctal))
    if code > 0o377 then fail
    return .one code
  if Text.isAsciiDigit c || Text.isAsciiLetter c then fail
  return .one (Text.codePoint c)

private def classMember : Token → Reader CharItem
  | .plain c => return .one (Text.codePoint c)
  | .escaped c => classEscape c
  | .broken => fail

/-- Reads the members of a class up to its closing bracket; the first member may be one. -/
private def classItems : Nat → List CharItem → Reader (List CharItem)
  | 0, _ => fail
  | fuel + 1, done => do
    match ← take? with
    | none => fail
    | some t =>
      if t = .plain ']' ∧ !done.isEmpty then return done
      let low ← classMember t
      if ← accept '-' then
        match ← take? with
        | none => fail
        | some (.plain ']') => return done ++ [low, .one 0x2d]
        | some u =>
          match low, ← classMember u with
          | .one a, .one b =>
            if b < a then fail
            classItems fuel (done ++ [.range a b])
          | _, _ => fail
      else classItems fuel (done ++ [low])

private def count (digits : List Char) : Reader Nat := do
  if digits.length > Text.maxIntegerDigits then throw .longCount
  let n := Text.decimalNumber digits
  if n ≥ countLimit then throw .tooLarge
  return n

/-- Reads counts after an opening brace; none if the brace stands for itself. -/
private def counts? : Reader (Option (Nat × Option Nat)) := do
  let start := (← get).rest
  if (← peek) = some (.plain '\x7d') then return none
  let low ← plainRun Text.isAsciiDigit
  let high ← if ← accept ',' then plainRun Text.isAsciiDigit else pure low
  if ← accept '\x7d' then
    let least ← if low.isEmpty then pure 0 else count low
    if high.isEmpty then return some (least, none)
    let most ← count high
    if most < least then fail
    return some (least, some most)
  else
    goTo start
    return none

private def isRepetition : Node → Bool
  | .many .. => true
  | _ => false

private def isAnchor : Node → Bool
  | .anchor _ => true
  | _ => false

/-- How a repetition prefers its counts. -/
private def preference : Reader Preference := do
  if ← accept '?' then return .lazy
  if ← accept '+' then return .possessive
  return .greedy

/-- Puts a repetition around the last node read. -/
private def repeated (least : Nat) (most : Option Nat) : List Node → Reader (List Node)
  | [] => fail
  | last :: earlier => do
    if isAnchor last || isRepetition last then fail
    modify fun p => { p with repeats := true }
    return .many least most (← preference) last :: earlier

private def Flags.with (f : Flags) (value : Bool) (c : Char) : Flags :=
  match c with
  | 'i' => { f with ignoreCase := value }
  | 'm' => { f with multiline := value }
  | 's' => { f with dotAll := value }
  | 'x' => { f with verbose := value }
  | 'a' => { f with ascii := value }
  | 'u' => { f with unicode := value }
  | 't' => { f with plain := value }
  | _ => f

private def isFlag (c : Char) : Bool := "imsxautL".toList.contains c

/-- Inline flags: the letters set, and those cleared before a colon if it is a group of its own. -/
private structure InlineFlags where
  set : List Char
  cleared : List Char
  ownGroup : Bool

private def inlineFlags : Reader InlineFlags := do
  let set ← plainRun isFlag
  if set.contains 'L' || (set.contains 'a' && set.contains 'u') then fail
  if ← accept ')' then
    if set.isEmpty then fail
    return ⟨set, [], false⟩
  if set.contains 't' then fail
  if ← accept ':' then
    if set.isEmpty then fail
    return ⟨set, [], true⟩
  expect '-'
  let cleared ← plainRun isFlag
  if cleared.isEmpty || cleared.any fun c => c = 'a' || c = 'u' || c = 'L' || c = 't' then fail
  expect ':'
  if set.any cleared.contains then fail
  return ⟨set, cleared, true⟩

private def sequence (reversed : List Node) : Node :=
  match reversed with
  | [] => .empty
  | last :: earlier => earlier.foldl (fun after node => .seq node after) last

private def isPatternBlank (c : Char) : Bool :=
  c = ' ' || c = '\t' || c = '\n' || c = '\r' || c.toNat = 11 || c.toNat = 12

private def openGroup (name : Option String) : Reader Nat := do
  let p ← get
  let index := p.nextGroup
  if let some n := name then
    if (p.names.lookup n).isSome then fail
  set { p with
    nextGroup := index + 1
    openGroups := index :: p.openGroups
    names := match name with
      | some n => (n, index) :: p.names
      | none => p.names }
  return index

private def closeGroup (index : Nat) (body : Node) : Reader Unit :=
  modify fun p => { p with
    openGroups := p.openGroups.filter (· != index)
    widths := (index, width p.widths body) :: p.widths }

/-- Reads under other flags, and sets the flags back. -/
private def underFlags {α : Type} (flags : Flags) (read : Reader α) : Reader α := do
  let before := (← get).flags
  modify fun p => { p with flags }
  let result ← read
  modify fun p => { p with flags := before }
  return result

/-- Drops a comment of a verbose pattern: all up to the next line break. -/
private def skipLine : Reader Unit := do
  let rest := (← get).rest
  let line := rest.takeWhile (· != .plain '\n')
  if line.contains .broken then fail
  goTo (rest.drop (line.length + 1))

mutual
/-- Reads alternatives up to a closing parenthesis or the end. -/
private def alternatives (top : Bool) : Nat → Reader Node
  | 0 => fail
  | fuel + 1 => do
    let first ← items top fuel []
    if ← accept '|' then
      let more ← alternativesAfter fuel
      return .alt first more
    else return first
private def alternativesAfter : Nat → Reader Node
  | 0 => fail
  | fuel + 1 => do
    let first ← items false fuel []
    if ← accept '|' then
      let more ← alternativesAfter fuel
      return .alt first more
    else return first
/-- Reads the items of a sequence, with those read so far in reverse; `first` holds where
flags for the whole pattern may stand. -/
private def items (first : Bool) : Nat → List Node → Reader Node
  | 0, _ => fail
  | fuel + 1, done => do
    let flags := (← get).flags
    match ← peek with
    | none | some .broken | some (.plain '|') | some (.plain ')') => return sequence done
    | some (.escaped c) =>
      advance
      items first fuel ((← escape c) :: done)
    | some (.plain c) =>
      advance
      if flags.verbose && isPatternBlank c then items first fuel done
      else if flags.verbose && c = '#' then
        skipLine
        items first fuel done
      else if c = '[' then
        let negated ← accept '^'
        let members ← classItems ((← get).rest.length + 1) []
        items first fuel (.char ⟨negated, members.eraseDups, flags.folding⟩ :: done)
      else if c = '?' then items first fuel (← repeated 0 (some 1) done)
      else if c = '*' then items first fuel (← repeated 0 none done)
      else if c = '+' then items first fuel (← repeated 1 none done)
      else if c = '\x7b' then
        match ← counts? with
        | some (least, most) => items first fuel (← repeated least most done)
        | none => items first fuel (literal flags (Text.codePoint c) :: done)
      else if c = '.' then
        let test : CharTest := ⟨true, if flags.dotAll then [] else [.one lineBreak], .exact⟩
        items first fuel (.char test :: done)
      else if c = '^' then
        items first fuel (.anchor (if flags.multiline then .lineStart else .textStart) :: done)
      else if c = '$' then
        items first fuel (.anchor (if flags.multiline then .lineEnd else .textEnd) :: done)
      else if c = '(' then
        match ← parenthesis (first && done.isEmpty) fuel with
        | some node => items first fuel (node :: done)
        | none => items first fuel done
      else items first fuel (literal flags (Text.codePoint c) :: done)
/-- Reads what an opening parenthesis starts; comments and flags leave no node. -/
private def parenthesis (first : Bool) : Nat → Reader (Option Node)
  | 0 => fail
  | fuel + 1 => do
    if !(← accept '?') then return some (← capture none fuel)
    match ← take? with
    | some (.plain 'P') =>
      if ← accept '<' then
        let name ← nameUntil '>'
        if !Text.isIdentifier name.toList then fail
        return some (← capture (some name) fuel)
      expect '='
      let name ← nameUntil ')'
      match (← get).names.lookup name with
      | some index => return some (← reference index)
      | none => fail
    | some (.plain ':') =>
      let body ← alternatives false fuel
      expect ')'
      return some (.group none body)
    | some (.plain '>') =>
      let body ← alternatives false fuel
      expect ')'
      return some (.atomic body)
    | some (.plain '#') =>
      let rest := (← get).rest
      let comment := rest.takeWhile (· != .plain ')')
      if comment.contains .broken then fail
      goTo (rest.drop comment.length)
      expect ')'
      return none
    | some (.plain '=') => return some (← lookahead false fuel)
    | some (.plain '!') => return some (← lookahead true fuel)
    | some (.plain '<') =>
      if ← accept '=' then return some (← lookbehind false fuel)
      expect '!'
      return some (← lookbehind true fuel)
    | some (.plain '(') =>
      let name ← nameUntil ')'
      let index ← if Text.isIdentifier name.toList then
          match (← get).names.lookup name with
          | some index => pure index
          | none => fail
        else match Text.integer? name.toList with
          | some index => if index ≤ 0 then fail else pure index.toNat
          | none => fail
      let p ← get
      if p.behindFrom.any fun from_ => from_ ≤ index || p.openGroups.contains index then fail
      modify fun p => { p with forwardRefs := index :: p.forwardRefs }
      let yes ← items false fuel []
      let no ← if ← accept '|' then items false fuel [] else pure .empty
      expect ')'
      return some (.choice index yes no)
    | some (.plain c) =>
      if !(isFlag c || c = '-') then fail
      modify fun p => { p with rest := .plain c :: p.rest }
      let inline ← inlineFlags
      let flags := (← get).flags
      if inline.ownGroup then
        let base := if inline.set.contains 'a' then { flags with unicode := false }
          else if inline.set.contains 'u' then { flags with ascii := false } else flags
        let inner := inline.cleared.foldl (Flags.with · false) (inline.set.foldl (Flags.with · true) base)
        let body ← underFlags inner (alternatives false fuel)
        expect ')'
        return some (.group none body)
      else
        if !first then fail
        let whole := inline.set.foldl (Flags.with · true) flags
        modify fun p => { p with flags := whole, whole }
        return none
    | _ => fail
private def capture (name : Option String) : Nat → Reader Node
  | 0 => fail
  | fuel + 1 => do
    let index ← openGroup name
    let body ← alternatives false fuel
    expect ')'
    closeGroup index body
    return .group (some index) body
private def lookahead (negated : Bool) : Nat → Reader Node
  | 0 => fail
  | fuel + 1 => do
    let body ← alternatives false fuel
    expect ')'
    return .ahead negated body
/-- Reads a lookbehind, whose matches must turn out to be of one width. -/
private def lookbehind (negated : Bool) : Nat → Reader Node
  | 0 => fail
  | fuel + 1 => do
    let outer := (← get).behindFrom
    if outer.isNone then modify fun p => { p with behindFrom := some p.nextGroup }
    let body ← alternatives false fuel
    modify fun p => { p with behindFrom := outer }
    expect ')'
    let (low, high) := width (← get).widths body
    modify fun p => { p with looseBehind := p.looseBehind || low != high || low ≥ widthLimit }
    return .behind negated low body
end

/-- Fuel that no pattern of so many tokens uses up. -/
private def fuelFor (tokens : List Token) : Nat := 4 * tokens.length + 8

/-- Reads a pattern. What is wrong with it as a whole comes after all that is wrong with a
part, and of lookbehinds and repetitions comes last. -/
def read (text : String) : Except PatternError Node := do
  let tokens := tokensOf text.toList
  if tokens.head? = some .broken then throw .malformed
  let (node, p) ← (alternatives true (fuelFor tokens)).run { rest := tokens, flags := {} }
  if p.whole.ascii && p.whole.unicode then throw .conflictingFlags
  if !p.rest.isEmpty || p.forwardRefs.any (· ≥ p.nextGroup) then throw .malformed
  if p.looseBehind || (p.whole.plain && p.repeats) then throw .malformed
  return node

end SwaggerGate.Pattern
