import SwaggerGate.Yaml.Node

/-! Flow collections without anchors and tags. Their tokens are read as nodes that are numbered
in the order of the text, each collection before its parts. -/
namespace SwaggerGate.Yaml

/-- A scalar with its form, a sequence, or a mapping of quoted keys. -/
inductive Flow where
  | scalar (text : List Char) (plain : Bool)
  | sequence (items : List Flow)
  | mapping (entries : List (List Char × Flow))

namespace Flow

mutual
def tokens : Flow → List Token
  | scalar text plain => [.scalar text plain]
  | sequence items => .flowSequence :: itemTokens true items
  | mapping entries => .flowMapping :: entryTokens true entries
/-- The tokens of items up to the closing bracket. -/
def itemTokens (first : Bool) : List Flow → List Token
  | [] => [.flowSequenceEnd]
  | v :: rest => (if first then [] else [.flowEntry]) ++ (v.tokens ++ itemTokens false rest)
/-- The tokens of entries up to the closing brace. -/
def entryTokens (first : Bool) : List (List Char × Flow) → List Token
  | [] => [.flowMappingEnd]
  | (key, v) :: rest =>
    (if first then [] else [.flowEntry]) ++ (.key :: .scalar key false :: .value :: (v.tokens ++ entryTokens false rest))
end

mutual
/-- The number of nodes. -/
def size : Flow → Nat
  | scalar .. => 1
  | sequence items => itemsSize items + 1
  | mapping entries => entriesSize entries + 1
def itemsSize : List Flow → Nat
  | [] => 0
  | v :: rest => v.size + itemsSize rest
def entriesSize : List (List Char × Flow) → Nat
  | [] => 0
  | (_, v) :: rest => v.size + 1 + entriesSize rest
end

/-- The numbers of items whose nodes stand one after another. -/
def itemNumbers (number : Nat) : List Flow → List Nat
  | [] => []
  | v :: rest => number :: itemNumbers (number + v.size) rest

/-- The numbers of keys and values whose nodes stand one after another. -/
def entryNumbers (number : Nat) : List (List Char × Flow) → List (Nat × Nat)
  | [] => []
  | (_, v) :: rest => (number, number + 1) :: entryNumbers (number + 1 + v.size) rest

mutual
/-- The nodes, the outermost of which has a number. -/
def nodes (number : Nat) : Flow → List Node
  | scalar text plain => [⟨Graph.scalarTag none none plain text, .scalar text⟩]
  | sequence items => ⟨.seq, .sequence (itemNumbers (number + 1) items)⟩ :: itemNodes (number + 1) items
  | mapping entries => ⟨.map, .mapping (entryNumbers (number + 1) entries)⟩ :: entryNodes (number + 1) entries
def itemNodes (number : Nat) : List Flow → List Node
  | [] => []
  | v :: rest => v.nodes number ++ itemNodes (number + v.size) rest
def entryNodes (number : Nat) : List (List Char × Flow) → List Node
  | [] => []
  | (key, v) :: rest => ⟨.str, .scalar key⟩ :: (v.nodes (number + 1) ++ entryNodes (number + 1 + v.size) rest)
end

mutual
/-- How deeply collections nest. -/
def depth : Flow → Nat
  | scalar .. => 0
  | sequence items => itemsDepth items + 1
  | mapping entries => entriesDepth entries + 1
def itemsDepth : List Flow → Nat
  | [] => 0
  | v :: rest => max v.depth (itemsDepth rest)
def entriesDepth : List (List Char × Flow) → Nat
  | [] => 0
  | (_, v) :: rest => max v.depth (entriesDepth rest)
end

mutual
theorem length_nodes (number : Nat) : ∀ v : Flow, (v.nodes number).length = v.size
  | scalar .. => rfl
  | sequence items => by rw [nodes, List.length_cons, length_itemNodes, size]
  | mapping entries => by rw [nodes, List.length_cons, length_entryNodes, size]
theorem length_itemNodes (number : Nat) : ∀ items, (itemNodes number items).length = itemsSize items
  | [] => rfl
  | v :: rest => by rw [itemNodes, List.length_append, length_nodes, length_itemNodes, itemsSize]
theorem length_entryNodes (number : Nat) : ∀ entries, (entryNodes number entries).length = entriesSize entries
  | [] => rfl
  | (key, v) :: rest => by
    rw [entryNodes, List.length_cons, List.length_append, length_nodes, length_entryNodes, entriesSize]
    omega
end

theorem tokens_pos (v : Flow) : 0 < v.tokens.length := by
  cases v <;> exact Nat.succ_pos _

theorem itemTokens_pos (first : Bool) (items : List Flow) : 0 < (itemTokens first items).length := by
  cases items with
  | nil => exact Nat.one_pos
  | cons v rest =>
    have some_ := v.tokens_pos
    simp only [itemTokens, List.length_append]
    omega

theorem entryTokens_pos (first : Bool) (entries : List (List Char × Flow)) : 0 < (entryTokens first entries).length := by
  cases entries with
  | nil => exact Nat.one_pos
  | cons entry rest =>
    simp only [entryTokens, List.length_append, List.length_cons]
    omega

end Flow

/-! ### Reading -/

namespace Graph

/-- What is known after some tokens have been read as nodes. -/
def Progress.after (p : Progress) (tokens : List Token) (nodes : List Node) : Progress :=
  { p with tokens, nodes := p.nodes ++ nodes.toArray }

theorem Progress.after_after (p : Progress) (tokens later : List Token) (nodes more : List Node) :
    (p.after tokens nodes).after later more = p.after later (nodes ++ more) := by
  simp [after]

theorem Progress.size_after (p : Progress) (tokens : List Token) (nodes : List Node) :
    (p.after tokens nodes).nodes.size = p.nodes.size + nodes.length := by
  simp [after]

section Steps

variable {p : Progress} {rest : List Token} {room fuel : Nat} {block indentless first : Bool}

theorem read_scalar {text : List Char} {plain : Bool} (ahead : p.tokens = .scalar text plain :: rest) :
    (read room block indentless (fuel + 1)).run p =
      .ok (p.nodes.size, p.after rest [⟨scalarTag none none plain text, .scalar text⟩]) := by
  obtain ⟨tokens, stop, anchors, handles, nodes⟩ := p
  cases ahead
  rfl

private theorem modify_length {α : Type} (l : List α) (x : α) (more : List α) (f : α → α) :
    (l ++ x :: more).modify l.length f = l ++ f x :: more := by
  induction l with
  | nil => rfl
  | cons y l ih =>
    rw [List.cons_append, List.length_cons, List.modify_succ_cons, ih]
    rfl

private theorem modify_front (nodes : Array Node) (node : Node) (more : List Node) (f : Node → Node) :
    (nodes ++ [node].toArray ++ more.toArray).modify nodes.size f = nodes ++ (f node :: more).toArray := by
  apply Array.ext'
  have length : nodes.size = nodes.toList.length := by simp
  rw [Array.toList_modify, length]
  simpa using modify_length nodes.toList node more f

/-- A collection is added, read and filled. -/
theorem collection_run {tag : Tag} {empty content : Content} {t : Token} {reader : Reader Content} {later : List Token}
    {nodes : List Node} (ahead : p.tokens = t :: rest)
    (inside : reader.run (p.after rest [⟨tag, empty⟩]) = .ok (content, (p.after rest [⟨tag, empty⟩]).after later nodes)) :
    (collection none tag empty true reader).run p = .ok (p.nodes.size, p.after later (⟨tag, content⟩ :: nodes)) := by
  have reading : (collection none tag empty true reader).run p = (do
      let (content, q) ← reader.run (p.after rest [⟨tag, empty⟩])
      let q := { q with nodes := q.nodes.modify p.nodes.size fun node => { node with content } }
      return (p.nodes.size, q)) := by
    obtain ⟨tokens, stop, anchors, handles, known⟩ := p
    cases ahead
    rfl
  rw [reading, inside]
  simp only [bind, Except.bind, pure, Except.pure, Progress.after, modify_front]

theorem read_sequence {later : List Token} {numbers : List Nat} {nodes : List Node}
    (ahead : p.tokens = .flowSequence :: rest)
    (inside : (flowItems room true fuel).run (p.after rest [⟨.seq, .sequence []⟩]) =
      .ok (numbers, (p.after rest [⟨.seq, .sequence []⟩]).after later nodes)) :
    (read (room + 1) block indentless (fuel + 1)).run p =
      .ok (p.nodes.size, p.after later (⟨.seq, .sequence numbers⟩ :: nodes)) := by
  have reading : (read (room + 1) block indentless (fuel + 1)).run p =
      (collection none .seq (.sequence []) true (return .sequence (← flowItems room true fuel))).run p := by
    obtain ⟨tokens, stop, anchors, handles, known⟩ := p
    cases ahead
    rfl
  rw [reading]
  refine collection_run ahead ?_
  rw [StateT.run_bind, inside]
  rfl

theorem read_mapping {later : List Token} {numbers : List (Nat × Nat)} {nodes : List Node}
    (ahead : p.tokens = .flowMapping :: rest)
    (inside : (flowEntries room true fuel).run (p.after rest [⟨.map, .mapping []⟩]) =
      .ok (numbers, (p.after rest [⟨.map, .mapping []⟩]).after later nodes)) :
    (read (room + 1) block indentless (fuel + 1)).run p =
      .ok (p.nodes.size, p.after later (⟨.map, .mapping numbers⟩ :: nodes)) := by
  have reading : (read (room + 1) block indentless (fuel + 1)).run p =
      (collection none .map (.mapping []) true (return .mapping (← flowEntries room true fuel))).run p := by
    obtain ⟨tokens, stop, anchors, handles, known⟩ := p
    cases ahead
    rfl
  rw [reading]
  refine collection_run ahead ?_
  rw [StateT.run_bind, inside]
  rfl

/-- What separates an item or an entry from the one before it. -/
def separator (first : Bool) : List Token := if first then [] else [.flowEntry]

theorem Progress.after_nil (p : Progress) (tokens : List Token) : p.after tokens [] = { p with tokens } := by
  simp [after]

theorem flowItems_end (ahead : p.tokens = .flowSequenceEnd :: rest) :
    (flowItems room first (fuel + 1)).run p = .ok ([], p.after rest []) := by
  rw [Progress.after_nil]
  obtain ⟨tokens, stop, anchors, handles, known⟩ := p
  cases ahead
  rfl

theorem flowEntries_end (ahead : p.tokens = .flowMappingEnd :: rest) :
    (flowEntries room first (fuel + 1)).run p = .ok ([], p.after rest []) := by
  rw [Progress.after_nil]
  obtain ⟨tokens, stop, anchors, handles, known⟩ := p
  cases ahead
  rfl

theorem flowItems_item {v : Flow} (ahead : p.tokens = separator first ++ (v.tokens ++ rest)) :
    (flowItems room first (fuel + 1)).run p = (do
      let (item, p) ← (read room false false fuel).run (p.after (v.tokens ++ rest) [])
      let (items, p) ← (flowItems room false fuel).run p
      return (item :: items, p)) := by
  rw [Progress.after_nil]
  obtain ⟨tokens, stop, anchors, handles, known⟩ := p
  cases ahead
  cases v <;> cases first <;> rfl

theorem flowEntries_entry {key : List Char} {v : Flow}
    (ahead : p.tokens = separator first ++ (.key :: .scalar key false :: .value :: (v.tokens ++ rest))) :
    (flowEntries room first (fuel + 3)).run p = (do
      let (value, q) ← (read room false false (fuel + 1)).run (p.after (v.tokens ++ rest) [⟨.str, .scalar key⟩])
      let (entries, q) ← (flowEntries room false (fuel + 2)).run q
      return ((p.nodes.size, value) :: entries, q)) := by
  obtain ⟨tokens, stop, anchors, handles, known⟩ := p
  cases ahead
  cases v <;> cases first <;> rfl

end Steps

section Read

mutual
/-- A flow collection is read as its nodes. -/
theorem read_flow : ∀ (v : Flow) {p : Progress} {rest : List Token} {room fuel : Nat} {block indentless : Bool},
    p.tokens = v.tokens ++ rest → 2 * v.tokens.length ≤ fuel → v.depth ≤ room →
      (read room block indentless fuel).run p = .ok (p.nodes.size, p.after rest (v.nodes p.nodes.size))
  | .scalar text plain, p, rest, room, fuel, _, _, ahead, enough, _ => by
    obtain ⟨fuel, rfl⟩ : ∃ n, fuel = n + 1 := ⟨fuel - 1, by simp [Flow.tokens] at enough; omega⟩
    exact read_scalar ahead
  | .sequence items, p, rest, room, fuel, _, _, ahead, enough, fits => by
    simp only [Flow.tokens, List.length_cons] at enough
    rw [Flow.depth] at fits
    obtain ⟨fuel, rfl⟩ : ∃ n, fuel = n + 1 := ⟨fuel - 1, by omega⟩
    obtain ⟨room, rfl⟩ : ∃ n, room = n + 1 := ⟨room - 1, by omega⟩
    refine read_sequence ahead ?_
    rw [read_items items rfl (by omega) (by omega), Progress.size_after]
    rfl
  | .mapping entries, p, rest, room, fuel, _, _, ahead, enough, fits => by
    simp only [Flow.tokens, List.length_cons] at enough
    rw [Flow.depth] at fits
    obtain ⟨fuel, rfl⟩ : ∃ n, fuel = n + 1 := ⟨fuel - 1, by omega⟩
    obtain ⟨room, rfl⟩ : ∃ n, room = n + 1 := ⟨room - 1, by omega⟩
    refine read_mapping ahead ?_
    rw [read_entries entries rfl (by omega) (by omega), Progress.size_after]
    rfl
theorem read_items : ∀ (items : List Flow) {first : Bool} {p : Progress} {rest : List Token} {room fuel : Nat},
    p.tokens = Flow.itemTokens first items ++ rest → 2 * (Flow.itemTokens first items).length ≤ fuel →
      Flow.itemsDepth items ≤ room →
        (flowItems room first fuel).run p =
          .ok (Flow.itemNumbers p.nodes.size items, p.after rest (Flow.itemNodes p.nodes.size items))
  | [], first, p, rest, room, fuel, ahead, enough, _ => by
    obtain ⟨fuel, rfl⟩ : ∃ n, fuel = n + 1 := ⟨fuel - 1, by simp [Flow.itemTokens] at enough; omega⟩
    exact flowItems_end ahead
  | v :: items, first, p, rest, room, fuel, ahead, enough, fits => by
    have ahead : p.tokens = separator first ++ (v.tokens ++ (Flow.itemTokens false items ++ rest)) := by
      rw [ahead, Flow.itemTokens, List.append_assoc, List.append_assoc, separator]
    have some_ := v.tokens_pos
    have more := Flow.itemTokens_pos false items
    simp only [Flow.itemTokens, List.length_append] at enough
    rw [Flow.itemsDepth] at fits
    obtain ⟨fuel, rfl⟩ : ∃ n, fuel = n + 1 := ⟨fuel - 1, by omega⟩
    rw [flowItems_item ahead, read_flow v rfl (by omega) (by omega)]
    simp only [bind, Except.bind]
    rw [read_items items rfl (by omega) (by omega)]
    simp only [Progress.after_after, Progress.size_after, List.nil_append, List.length_nil, Flow.length_nodes]
    rfl
theorem read_entries : ∀ (entries : List (List Char × Flow)) {first : Bool} {p : Progress} {rest : List Token}
    {room fuel : Nat}, p.tokens = Flow.entryTokens first entries ++ rest →
      2 * (Flow.entryTokens first entries).length ≤ fuel → Flow.entriesDepth entries ≤ room →
        (flowEntries room first fuel).run p =
          .ok (Flow.entryNumbers p.nodes.size entries, p.after rest (Flow.entryNodes p.nodes.size entries))
  | [], first, p, rest, room, fuel, ahead, enough, _ => by
    obtain ⟨fuel, rfl⟩ : ∃ n, fuel = n + 1 := ⟨fuel - 1, by simp [Flow.entryTokens] at enough; omega⟩
    exact flowEntries_end ahead
  | (key, v) :: entries, first, p, rest, room, fuel, ahead, enough, fits => by
    have ahead : p.tokens = separator first ++
        (.key :: .scalar key false :: .value :: (v.tokens ++ (Flow.entryTokens false entries ++ rest))) := by
      rw [ahead, Flow.entryTokens, List.append_assoc, separator]
      simp
    have some_ := v.tokens_pos
    have more := Flow.entryTokens_pos false entries
    simp only [Flow.entryTokens, List.length_append, List.length_cons] at enough
    rw [Flow.entriesDepth] at fits
    obtain ⟨fuel, rfl⟩ : ∃ n, fuel = n + 3 := ⟨fuel - 3, by omega⟩
    rw [flowEntries_entry ahead, read_flow v rfl (by omega) (by omega)]
    simp only [bind, Except.bind]
    rw [read_entries entries rfl (by omega) (by omega)]
    have number : p.nodes.size + (([⟨.str, .scalar key⟩] : List Node) ++ v.nodes (p.nodes.size + 1)).length =
        p.nodes.size + 1 + v.size := by
      rw [List.length_append, Flow.length_nodes, List.length_singleton, Nat.add_assoc]
    simp only [Progress.after_after, Progress.size_after, List.length_singleton, number]
    rfl
end

/-- A document without directives or a mark before it begins with its root. -/
theorem document_flow (v : Flow) (fuel : Nat) : (document fuel).run { tokens := v.tokens, stop := none } = (do
    let root ← read nestingLimit true false fuel
    ends fuel
    match ← peek with
    | none => return some root
    | _ => do
      start fuel
      fail : Reader (Option Nat)).run { tokens := v.tokens, stop := none, handles := defaultHandles } := by
  cases v <;> rfl

/-- A text whose tokens are a flow collection's has its nodes. -/
theorem ofScanned_flow (v : Flow) (fits : v.depth ≤ nestingLimit) :
    ofScanned? ⟨v.tokens, none⟩ = .ok (some ⟨(v.nodes 0).toArray, 0⟩) := by
  simp only [ofScanned?]
  rw [document_flow, StateT.run_bind, read_flow v (List.append_nil _).symm (by omega) fits]
  rw [Progress.after, Array.empty_append]
  rfl

end Read

end Graph

end SwaggerGate.Yaml
