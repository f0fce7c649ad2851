import SwaggerGate.Yaml.Scan
import SwaggerGate.Yaml.Tag

/-! Nodes of a document: scalars, sequences and mappings, each with its tag. Nodes are
numbered, and collections hold the numbers of their parts; an alias is the number of the
node that its anchor names, so a collection may hold itself. -/
namespace SwaggerGate.Yaml

inductive Content where
  | scalar (text : List Char)
  | sequence (items : List Nat)
  | mapping (entries : List (Nat × Nat))
deriving Repr

structure Node where
  tag : Tag
  content : Content
deriving Repr

/-- The nodes of a document by their numbers, and the number of the outermost one. -/
structure Graph where
  nodes : Array Node
  root : Nat
deriving Repr

namespace Graph

/-- How deeply nodes may nest. -/
def nestingLimit : Nat := 488

/-- What is known while nodes are read: the tokens to come, why there are no more after
them, the anchored nodes, what the handles of tags stand for, and the nodes so far. -/
structure Progress where
  tokens : List Token
  stop : Option Error
  anchors : List (List Char × Nat) := []
  handles : List (List Char × List Char) := []
  nodes : Array Node := #[]

abbrev Reader := StateT Progress (Except Error)

def fail {α : Type} : Reader α := throw .malformed

/-- The token ahead, or none at the end of the text. -/
def peek : Reader (Option Token) := do
  match (← get).tokens, (← get).stop with
  | t :: _, _ => return some t
  | [], some e => throw e
  | [], none => return none

def advance : Reader Unit := modify fun p => { p with tokens := p.tokens.drop 1 }

def accept (t : Token) : Reader Bool := do
  if (← peek) = some t then
    advance
    return true
  else return false

def expect (t : Token) : Reader Unit := do
  unless (← accept t) do fail

/-- Whether one of some tokens is ahead. -/
def ahead (ts : List Token) : Reader Bool := do
  return match ← peek with
    | some t => ts.contains t
    | none => false

/-- Adds a node, and names it by its anchor; an anchor names one node only. -/
def add (anchor : Option (List Char)) (node : Node) : Reader Nat := do
  let p ← get
  let number := p.nodes.size
  match anchor with
  | none => set { p with nodes := p.nodes.push node }
  | some name =>
    if (p.anchors.lookup name).isSome then fail
    set { p with nodes := p.nodes.push node, anchors := (name, number) :: p.anchors }
  return number

/-- Gives a node its content. -/
def fill (number : Nat) (content : Content) : Reader Unit :=
  modify fun p => { p with nodes := p.nodes.modify number fun node => { node with content } }

/-- The node of nothing: an empty plain scalar. -/
def addEmpty : Reader Nat := add none ⟨.null, .scalar []⟩

/-- Anchor and tag before a node's content. -/
structure Properties where
  anchor : Option (List Char) := none
  tag : Option TagName := none

def properties : Reader Properties := do
  match ← peek with
  | some (.anchor name) =>
    advance
    match ← peek with
    | some (.tag t) =>
      advance
      return ⟨some name, some t⟩
    | _ => return ⟨some name, none⟩
  | some (.tag t) =>
    advance
    match ← peek with
    | some (.anchor name) =>
      advance
      return ⟨some name, some t⟩
    | _ => return ⟨none, some t⟩
  | _ => return {}

/-- The address of a tag; none for no tag and for the bare mark. -/
def address (tag : Option TagName) : Reader (Option (List Char)) := do
  match tag with
  | none => return none
  | some ⟨none, suffix⟩ => return if suffix = ['!'] then none else some suffix
  | some ⟨some handle, suffix⟩ => match (← get).handles.lookup handle with
    | some lead => return some (lead ++ suffix)
    | none => fail

def tagOr (default : Tag) (address : Option (List Char)) : Tag :=
  match address with
  | some a => Tag.ofAddress a
  | none => default

/-- The tag of a scalar: its own, or by its form if it is plain or marked as unspecific. -/
def scalarTag (tag : Option TagName) (address : Option (List Char)) (plain : Bool) (text : List Char) : Tag :=
  match address with
  | some a => Tag.ofAddress a
  | none => if plain || tag.isSome then Tag.ofPlain text else .str

/-- Adds a node of no content yet, passes over the token that starts it if it has one of its
own, reads its content and gives it to the node. -/
def collection (anchor : Option (List Char)) (tag : Tag) (empty : Content) (started : Bool)
    (content : Reader Content) : Reader Nat := do
  let number ← add anchor ⟨tag, empty⟩
  if started then advance
  fill number (← content)
  return number

mutual
/-- Reads a node, with room for some more levels inside. In block context collections may be
blocks; a sequence that is the value of a mapping need not be indented. -/
def read (room : Nat) (block indentless : Bool) : Nat → Reader Nat
  | 0 => fail
  | fuel + 1 => do
    match ← peek with
    | some (.alias name) =>
      advance
      match (← get).anchors.lookup name with
      | some number => return number
      | none => fail
    | _ =>
      let props ← properties
      let address ← address props.tag
      let sequence (started : Bool) (items : Nat → Reader (List Nat)) : Reader Nat :=
        collection props.anchor (tagOr .seq address) (.sequence []) started do
          match room with
          | 0 => throw (.fault .endless)
          | room + 1 => return .sequence (← items room)
      let mapping (entries : Nat → Reader (List (Nat × Nat))) : Reader Nat :=
        collection props.anchor (tagOr .map address) (.mapping []) true do
          match room with
          | 0 => throw (.fault .endless)
          | room + 1 => return .mapping (← entries room)
      let nothing : Reader Nat :=
        if props.anchor.isSome || props.tag.isSome then
          add props.anchor ⟨scalarTag props.tag address true [], .scalar []⟩
        else fail
      match ← peek with
      | some .entry =>
        if indentless then sequence false (indentlessItems · fuel) else nothing
      | some (.scalar text plain) =>
        advance
        add props.anchor ⟨scalarTag props.tag address plain text, .scalar text⟩
      | some .flowSequence => sequence true (flowItems · true fuel)
      | some .flowMapping => mapping (flowEntries · true fuel)
      | some .blockSequence => if block then sequence true (blockItems · fuel) else nothing
      | some .blockMapping => if block then mapping (blockEntries · fuel) else nothing
      | _ => nothing
termination_by structural fuel => fuel
/-- Reads a node unless one of some tokens stands ahead; then there is none. -/
def readUnless (room : Nat) (stops : List Token) (block indentless : Bool) : Nat → Reader Nat
  | 0 => fail
  | fuel + 1 => do if ← ahead stops then addEmpty else read room block indentless fuel
termination_by structural fuel => fuel
def blockItems (room : Nat) : Nat → Reader (List Nat)
  | 0 => fail
  | fuel + 1 => do
    if ← accept .entry then
      let item ← readUnless room [.entry, .blockEnd] true false fuel
      return item :: (← blockItems room fuel)
    else
      expect .blockEnd
      return []
termination_by structural fuel => fuel
def indentlessItems (room : Nat) : Nat → Reader (List Nat)
  | 0 => fail
  | fuel + 1 => do
    if ← accept .entry then
      let item ← readUnless room [.entry, .key, .value, .blockEnd] true false fuel
      return item :: (← indentlessItems room fuel)
    else return []
termination_by structural fuel => fuel
def blockEntries (room : Nat) : Nat → Reader (List (Nat × Nat))
  | 0 => fail
  | fuel + 1 => do
    if ← accept .key then
      let key ← readUnless room [.key, .value, .blockEnd] true true fuel
      let value ← if ← accept .value then readUnless room [.key, .value, .blockEnd] true true fuel else addEmpty
      return (key, value) :: (← blockEntries room fuel)
    else
      expect .blockEnd
      return []
termination_by structural fuel => fuel
def flowItems (room : Nat) (first : Bool) : Nat → Reader (List Nat)
  | 0 => fail
  | fuel + 1 => do
    if ← accept .flowSequenceEnd then return []
    if !first then expect .flowEntry
    if ← accept .key then
      let entry ← collection none .map (.mapping []) false do
        let key ← readUnless room [.value, .flowEntry, .flowSequenceEnd] false false fuel
        let value ← if ← accept .value then readUnless room [.flowEntry, .flowSequenceEnd] false false fuel
          else addEmpty
        return .mapping [(key, value)]
      return entry :: (← flowItems room false fuel)
    if ← accept .flowSequenceEnd then return []
    let item ← read room false false fuel
    return item :: (← flowItems room false fuel)
termination_by structural fuel => fuel
def flowEntries (room : Nat) (first : Bool) : Nat → Reader (List (Nat × Nat))
  | 0 => fail
  | fuel + 1 => do
    if ← accept .flowMappingEnd then return []
    if !first then expect .flowEntry
    if ← accept .key then
      let key ← readUnless room [.value, .flowEntry, .flowMappingEnd] false false fuel
      let value ← if ← accept .value then readUnless room [.flowEntry, .flowMappingEnd] false false fuel
        else addEmpty
      return (key, value) :: (← flowEntries room false fuel)
    if ← accept .flowMappingEnd then return []
    let key ← read room false false fuel
    return (key, ← addEmpty) :: (← flowEntries room false fuel)
termination_by structural fuel => fuel
end

def defaultHandles : List (List Char × List Char) := [(['!'], ['!']), (['!', '!'], Tag.standardLead)]

/-- The handles that the directives ahead give, with the default ones behind them. A version
is given at most once and is a version 1, a handle is given at most once. -/
def directives (versioned : Bool) (handles : List (List Char × List Char)) :
    Nat → Reader (List (List Char × List Char))
  | 0 => fail
  | fuel + 1 => do
    match ← peek with
    | some (.directive d) =>
      advance
      match d with
      | .version major _ => if versioned || major != 1 then fail else directives true handles fuel
      | .tag handle lead =>
        if (handles.lookup handle).isSome then fail else directives versioned ((handle, lead) :: handles) fuel
      | .other => directives versioned handles fuel
    | _ => return handles ++ defaultHandles

/-- Passes over the directives and the marker at the start of a document. -/
def start (fuel : Nat) : Reader Unit := do
  let handles ← directives false [] fuel
  modify fun p => { p with handles }
  expect .documentStart

def isDirective : Token → Bool
  | .directive _ => true
  | _ => false

/-- Whether the content of a document that has been started is missing. -/
def isOver : Reader Bool := do
  return match ← peek with
    | none | some (.directive _) | some .documentStart | some .documentEnd => true
    | _ => false

/-- Passes over the end markers of a document. -/
def ends : Nat → Reader Unit
  | 0 => return
  | fuel + 1 => do if ← accept .documentEnd then ends fuel

/-- Reads the outermost node of the single document of a text, if there is one. Only after a
start marker may a document's content be missing; nothing may follow it but end markers. -/
def document (fuel : Nat) : Reader (Option Nat) := do
  match ← peek with
  | none => return none
  | first =>
    let root ←
      if first = some .documentStart || first.any isDirective then do
        start fuel
        if ← isOver then addEmpty else read nestingLimit true false fuel
      else do
        modify fun p => { p with handles := defaultHandles }
        read nestingLimit true false fuel
    ends fuel
    match ← peek with
    | none => return some root
    | _ =>
      start fuel
      fail

/-- The nodes of the single document of a text, or none if the text has no document. -/
def ofScanned? (scanned : Scanned) : Except Error (Option Graph) := do
  let fuel := 3 * scanned.tokens.length + 3
  let (root, p) ← (document fuel).run { tokens := scanned.tokens, stop := scanned.stop }
  return root.map fun root => { nodes := p.nodes, root }

end Graph
end SwaggerGate.Yaml
