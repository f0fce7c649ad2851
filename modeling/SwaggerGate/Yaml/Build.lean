import SwaggerGate.Value.Equality
import SwaggerGate.Yaml.Node
import SwaggerGate.Yaml.Scalar

/-! The data of a document's nodes. A node is built once, however often it is named. What a
collection holds is built in its turn, level by level, so that a collection may hold itself.
A mapping is flattened of its merge keys when its turn comes; its keys must be atoms, and a
key given twice keeps its first place and its last value. -/
namespace SwaggerGate.Yaml

/-- What is built of a node; parts are nodes by number. -/
inductive Built where
  | atom (a : Atom)
  | list (items : List Nat)
  | obj (fields : List (Atom × Nat))
  | set (members : List Atom)
  | pairs (items : List (Nat × Nat))
deriving Repr

namespace Build

structure Progress where
  nodes : Array Node
  built : Array (Option Built)
  /-- The collections whose turn is to come, the last to be begun first. -/
  waiting : List Nat := []

abbrev Builder := StateT Progress (Except Error)

def fail {α : Type} : Builder α := throw .malformed

def lift {α : Type} : Except Error α → Builder α := fun result => StateT.lift result

def node (number : Nat) : Builder Node := do
  match (← get).nodes[number]? with
  | some node => return node
  | none => fail

def setNode (number : Nat) (node : Node) : Builder Unit :=
  modify fun p => { p with nodes := p.nodes.set! number node }

def builtOf? (number : Nat) : Builder (Option Built) := do return ((← get).built[number]?).join

def setBuilt (number : Nat) (built : Built) : Builder Unit :=
  modify fun p => { p with built := p.built.set! number (some built) }

/-- The text of a scalar, or of the scalar under the value key of a mapping. -/
def textOf : Nat → Nat → Builder (List Char)
  | 0, _ => throw (.fault .endless)
  | fuel + 1, number => do
    match (← node number).content with
    | .scalar text => return text
    | .sequence _ => fail
    | .mapping entries =>
      match ← entries.findM? fun e => do return (← node e.1).tag == .value with
      | some (_, v) => textOf fuel v
      | none => fail

/-- The entries of a mapping node. -/
def entriesOf (number : Nat) : Builder (List (Nat × Nat)) := do
  match (← node number).content with
  | .mapping entries => return entries
  | _ => fail

/-- Replaces the merge keys of a mapping by the entries that they bring in, which stand
before its own. Of several mappings the later stand first, so that the earlier win. A value
key counts as text from then on. -/
def flatten : Nat → Nat → Builder Unit
  | 0, _ => throw (.fault .endless)
  | fuel + 1, number => do
    let tagged ← (← entriesOf number).mapM fun e => do return ((← node e.1).tag, e)
    for (tag, key, _) in tagged do
      if tag = .value then setNode key { ← node key with tag := .str }
    let own := (tagged.filter fun e => e.1 ≠ .merge).map Prod.snd
    let sources := (tagged.filter fun e => e.1 = .merge).map fun e => e.2.2
    if sources.isEmpty then return
    setNode number { ← node number with content := .mapping own }
    let merged ← sources.mapM fun source => do
      match (← node source).content with
      | .scalar _ => fail
      | .mapping _ =>
        flatten fuel source
        entriesOf source
      | .sequence items =>
        let found ← items.mapM fun item => do
          discard (entriesOf item)
          flatten fuel item
          entriesOf item
        return found.reverse.flatten
    setNode number { ← node number with content := .mapping (merged.flatten ++ (← entriesOf number)) }

/-- Writes an entry; keys that are equal as numbers are one key. -/
def putEntry (key : Atom) (value : Nat) : List (Atom × Nat) → List (Atom × Nat)
  | [] => [(key, value)]
  | (k, v) :: rest => if k.sameKey key then (k, value) :: rest else (k, v) :: putEntry key value rest

/-- The collections that a tag may stand for, while nothing is in them yet. -/
def emptyOf? : Tag → Option Built
  | .seq => some (.list [])
  | .map => some (.obj [])
  | .set => some (.set [])
  | .omap | .pairs => some (.pairs [])
  | _ => none

/-- The mark of a not-a-number that a node computes. -/
def markOf (number : Nat) : Nat := Plain.nanMark + 1 + number

/-- Builds a node unless it is built; a collection is built empty, and filled later. -/
def build (number : Nat) : Builder Unit := do
  if (← builtOf? number).isSome then return
  let here ← node number
  match emptyOf? here.tag with
  | some empty =>
    setBuilt number empty
    modify fun p => { p with waiting := number :: p.waiting }
  | none =>
    let text ← textOf ((← get).nodes.size + 1) number
    match here.tag, here.content with
    | .timestamp, .mapping _ => throw (.fault .wrongArgument)
    | tag, _ => setBuilt number (.atom (← lift (atomOf tag (markOf number) text)))

/-- Builds the entries of a mapping, flattened. -/
def fields (number : Nat) : Builder (List (Atom × Nat)) := do
  flatten ((← get).nodes.size + 1) number
  (← entriesOf number).foldlM (fun done (key, value) => do
    build key
    match ← builtOf? key with
    | some (.atom a) =>
      build value
      return putEntry a value done
    | _ => fail) []

/-- Builds the parts of a pair, which is a mapping of one entry. -/
def pair (number : Nat) : Builder (Nat × Nat) := do
  match ← entriesOf number with
  | [(key, value)] =>
    build key
    build value
    return (key, value)
  | _ => fail

/-- Builds what a collection holds. -/
def fill (number : Nat) : Builder Unit := do
  let here ← node number
  match here.tag, here.content with
  | .seq, .sequence items =>
    items.forM build
    setBuilt number (.list items)
  | .map, .mapping _ => setBuilt number (.obj (← fields number))
  | .set, .mapping _ => setBuilt number (.set ((← fields number).map Prod.fst))
  | .omap, .sequence items | .pairs, .sequence items => setBuilt number (.pairs (← items.mapM pair))
  | _, _ => fail

/-- Fills collections in the order in which they were begun. -/
def fillWaiting : Nat → Builder Unit
  | 0 => throw (.fault .endless)
  | rounds + 1 => do
    match (← get).waiting with
    | [] => return
    | waiting =>
      modify fun p => { p with waiting := [] }
      waiting.reverse.forM fill
      fillWaiting rounds

/-- What is built of each node that the root reaches. Every round fills nodes of its own, so
the nodes bound the rounds. -/
def run (graph : Graph) : Except Error (Array (Option Built)) := do
  let size := graph.nodes.size
  let ((), p) ← (do build graph.root; fillWaiting (size + 1) : Builder Unit).run
    { nodes := graph.nodes, built := Array.replicate size none }
  return p.built

end Build

/-- The value that is built of a node, inside collections and pairs; a collection inside
itself is a loop. -/
def valueOf (built : Array (Option Built)) : Nat → (around : List (Option Nat)) → (number : Nat) → Value
  | 0, _, _ => .null
  | fuel + 1, around, number =>
    let inside := valueOf built fuel (some number :: around)
    let member := valueOf built fuel (none :: some number :: around)
    match (built[number]?).join, around.idxOf? (some number) with
    | none, _ => .null
    | some (.atom a), _ => .atom a
    | some (.set members), _ => .set members
    | some (.obj _), some levels => .loop levels true
    | some _, some levels => .loop levels false
    | some (.list items), none => .list (items.map inside)
    | some (.obj fields), none => .obj (fields.map fun f => (f.1, inside f.2))
    | some (.pairs items), none => .list (items.map fun p => .pair (member p.1) (member p.2))

/-- The data of a document. -/
def Graph.value (graph : Graph) : Except Error Value := do
  let built ← Build.run graph
  return valueOf built (graph.nodes.size + 1) [] graph.root

end SwaggerGate.Yaml
