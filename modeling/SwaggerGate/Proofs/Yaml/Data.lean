import SwaggerGate.Proofs.Yaml.Building

/-! The data of flow collections without anchors and tags: their nodes are in order, and what
is built of them has the shape of the collections. -/
namespace SwaggerGate.Yaml

namespace Flow

open Yaml.Graph (scalarTag)
open Build

/-- A scalar builds to an atom wherever it stands. -/
structure IsAtom (text : List Char) (plain : Bool) (a : Atom) : Prop where
  single : emptyOf? (scalarTag none none plain text) = none
  same : ∀ mark, atomOf (scalarTag none none plain text) mark text = .ok a

mutual
/-- The value of a flow collection. -/
inductive Means : Flow → Value → Prop
  | scalar {text : List Char} {plain : Bool} {a : Atom} (atom : IsAtom text plain a) : Means (.scalar text plain) (.atom a)
  | sequence {items : List Flow} {values : List Value} (members : MeanItems items values) :
    Means (.sequence items) (.list values)
  | mapping {entries : List (List Char × Flow)} {fields : List (Atom × Value)} (members : MeanEntries entries fields) :
    Means (.mapping entries) (.obj (Entries.ofList fields))
inductive MeanItems : List Flow → List Value → Prop
  | nil : MeanItems [] []
  | cons {v : Flow} {value : Value} {items : List Flow} {values : List Value} (first : Means v value)
    (rest : MeanItems items values) : MeanItems (v :: items) (value :: values)
inductive MeanEntries : List (List Char × Flow) → List (Atom × Value) → Prop
  | nil : MeanEntries [] []
  | cons {key : List Char} {v : Flow} {value : Value} {entries : List (List Char × Flow)} {fields : List (Atom × Value)}
    (first : Means v value) (rest : MeanEntries entries fields) :
    MeanEntries ((key, v) :: entries) ((.text (String.ofList key), value) :: fields)
end

/-! ### Nodes in order -/

/-- Some nodes stand among others from a number on. -/
def Stand (nodes : Array Node) (number : Nat) (part : List Node) : Prop :=
  ∀ i x, part[i]? = some x → nodes[number + i]? = some x

theorem stand_cons {nodes : Array Node} {number : Nat} {x : Node} {part : List Node}
    (stand : Stand nodes number (x :: part)) : nodes[number]? = some x ∧ Stand nodes (number + 1) part := by
  refine ⟨stand 0 x rfl, fun i y here => ?_⟩
  have same : number + 1 + i = number + (i + 1) := by omega
  rw [same]
  exact stand (i + 1) y here

theorem stand_append {nodes : Array Node} {number : Nat} {part more : List Node}
    (stand : Stand nodes number (part ++ more)) : Stand nodes number part ∧ Stand nodes (number + part.length) more := by
  refine ⟨fun i x here => stand i x ?_, fun i x here => ?_⟩
  · rw [List.getElem?_append_left (List.getElem?_eq_some_iff.1 here).1, here]
  · rw [Nat.add_assoc]
    refine stand _ x ?_
    rw [List.getElem?_append_right (Nat.le_add_right ..), Nat.add_sub_cancel_left, here]

theorem size_pos (v : Flow) : 0 < v.size := by
  cases v <;> exact Nat.succ_pos _

theorem mem_itemNumbers {items : List Flow} {number item : Nat} (member : item ∈ itemNumbers number items) :
    number ≤ item ∧ item < number + itemsSize items := by
  induction items generalizing number with
  | nil => exact nomatch member
  | cons v items ih =>
    have some_ := v.size_pos
    rw [itemsSize]
    rcases List.mem_cons.1 member with rfl | member
    · omega
    · have := ih member
      omega

theorem mem_entryNumbers {entries : List (List Char × Flow)} {number : Nat} {entry : Nat × Nat}
    (member : entry ∈ entryNumbers number entries) :
    number ≤ entry.1 ∧ number ≤ entry.2 ∧ entry.2 < number + entriesSize entries := by
  induction entries generalizing number with
  | nil => exact nomatch member
  | cons e entries ih =>
    obtain ⟨key, v⟩ := e
    have some_ := v.size_pos
    rw [entriesSize]
    rcases List.mem_cons.1 member with rfl | member
    · simp only []
      omega
    · have := ih member
      omega

theorem textKeys_entryNumbers {nodes : Array Node} {entries : List (List Char × Flow)} {number : Nat}
    (stand : Stand nodes number (entryNodes number entries)) : TextKeys nodes (entryNumbers number entries) := by
  induction entries generalizing number with
  | nil => exact fun _ member => (nomatch member)
  | cons e entries ih =>
    obtain ⟨key, v⟩ := e
    obtain ⟨here, stand⟩ := stand_cons stand
    obtain ⟨-, stand⟩ := stand_append stand
    rw [length_nodes] at stand
    intro entry member
    rcases List.mem_cons.1 member with rfl | member
    · exact ⟨key, here⟩
    · exact ih stand entry member

mutual
theorem isNode {nodes : Array Node} : ∀ {v : Flow} {value : Value} {number : Nat}, Means v value →
    Stand nodes number (v.nodes number) → number + v.size ≤ nodes.size →
      ∀ n, number ≤ n → n < number + v.size → IsNode nodes n
  | .scalar text plain, _, number, .scalar atom, stand, small, n, least, most => by
    have same : n = number := by rw [size] at most; omega
    exact same ▸ .scalar _ text _ (stand_cons stand).1 atom.single atom.same
  | .sequence items, _, number, .sequence members, stand, small, n, least, most => by
    rw [size] at small most
    obtain ⟨here, stand⟩ := stand_cons stand
    by_cases first : n = number
    · refine first ▸ .sequence _ here fun item member => ?_
      have := mem_itemNumbers member
      omega
    · exact isNode_items members stand (by omega) n (by omega) (by omega)
  | .mapping entries, _, number, .mapping members, stand, small, n, least, most => by
    rw [size] at small most
    obtain ⟨here, stand⟩ := stand_cons stand
    by_cases first : n = number
    · refine first ▸ .mapping _ here (fun entry member => ?_) (textKeys_entryNumbers stand)
      have := mem_entryNumbers member
      omega
    · exact isNode_entries members stand (by omega) n (by omega) (by omega)
theorem isNode_items {nodes : Array Node} : ∀ {items : List Flow} {values : List Value} {number : Nat},
    MeanItems items values → Stand nodes number (itemNodes number items) →
      number + itemsSize items ≤ nodes.size → ∀ n, number ≤ n → n < number + itemsSize items → IsNode nodes n
  | [], _, number, .nil, _, _, n, least, most => by
    rw [itemsSize] at most
    omega
  | v :: items, _, number, .cons first rest, stand, small, n, least, most => by
    rw [itemsSize] at small most
    obtain ⟨stand, stand'⟩ := stand_append stand
    rw [length_nodes] at stand'
    by_cases inside : n < number + v.size
    · exact isNode first stand (by omega) n least inside
    · exact isNode_items rest stand' (by omega) n (by omega) (by omega)
theorem isNode_entries {nodes : Array Node} : ∀ {entries : List (List Char × Flow)} {fields : List (Atom × Value)}
    {number : Nat}, MeanEntries entries fields → Stand nodes number (entryNodes number entries) →
      number + entriesSize entries ≤ nodes.size → ∀ n, number ≤ n → n < number + entriesSize entries → IsNode nodes n
  | [], _, number, .nil, _, _, n, least, most => by
    rw [entriesSize] at most
    omega
  | (key, v) :: entries, _, number, .cons first rest, stand, small, n, least, most => by
    rw [entriesSize] at small most
    obtain ⟨here, stand⟩ := stand_cons stand
    obtain ⟨stand, stand'⟩ := stand_append stand
    rw [length_nodes] at stand'
    by_cases key_ : n = number
    · exact key_ ▸ .scalar _ key _ here rfl fun _ => rfl
    · by_cases inside : n < number + 1 + v.size
      · exact isNode first stand (by omega) n (by omega) inside
      · exact isNode_entries rest stand' (by omega) n (by omega) (by omega)
end

/-! ### Values -/

theorem putEntry_text {read : Nat → Value} (name : String) (part : Nat) (done : List (Atom × Nat)) :
    (putEntry (.text name) part done).map (fun f => (f.1, read f.2)) =
      Entries.put (.text name) (read part) (done.map fun f => (f.1, read f.2)) := by
  induction done with
  | nil => rfl
  | cons entry done ih =>
    obtain ⟨key, other⟩ := entry
    have same : key.sameKey (.text name) = (key == .text name) := by
      cases key <;> rfl
    rw [putEntry, same, List.map_cons, Entries.put]
    by_cases equal : key = .text name
    · simp [equal]
    · rw [if_neg equal, if_neg (by simpa using equal), List.map_cons, ih]

section Values

variable {nodes : Array Node} {built : Array (Option Built)}

/-- What is built of nodes is their own content, and the nodes that one holds are built too. -/
def AllFull (nodes : Array Node) (built : Array (Option Built)) : Prop :=
  ∀ n b, (built[n]?).join = some b → Full nodes n b ∧ ∀ part ∈ parts nodes n, ∃ c, (built[part]?).join = some c

theorem idxOf?_outer {number : Nat} {around : List (Option Nat)} (outer : ∀ a ∈ around, ∃ m < number, a = some m) :
    around.idxOf? (some number) = none := by
  rw [List.idxOf?_eq_none_iff]
  intro member
  obtain ⟨m, small, same⟩ := outer _ member
  cases same
  exact Nat.lt_irrefl _ small

theorem outer_cons {number later : Nat} {around : List (Option Nat)} (outer : ∀ a ∈ around, ∃ m < number, a = some m)
    (less : number < later) : ∀ a ∈ some number :: around, ∃ m < later, a = some m := by
  intro a member
  rcases List.mem_cons.1 member with rfl | member
  · exact ⟨number, less, rfl⟩
  · obtain ⟨m, small, same⟩ := outer a member
    exact ⟨m, Nat.lt_trans small less, same⟩

mutual
theorem valueOf_flow (full : AllFull nodes built) : ∀ {v : Flow} {value : Value} {number fuel : Nat}
    {around : List (Option Nat)}, Means v value → Stand nodes number (v.nodes number) →
      (∃ b, (built[number]?).join = some b) → (∀ a ∈ around, ∃ m < number, a = some m) →
        number + v.size ≤ nodes.size → nodes.size < fuel + number → valueOf built fuel around number = value
  | .scalar text plain, _, number, fuel, around, .scalar (a := a) atom, stand, ⟨b, known⟩, outer, small, enough => by
    have value : b = .atom a := (full number b known).1.eq_atom (stand_cons stand).1 (atom.same 0)
    rw [size] at small
    obtain ⟨fuel, rfl⟩ : ∃ n, fuel = n + 1 := ⟨fuel - 1, by omega⟩
    rw [valueOf, known, idxOf?_outer outer, value]
  | .sequence items, _, number, fuel, around, .sequence members, stand, ⟨b, known⟩, outer, small, enough => by
    obtain ⟨here, stand⟩ := stand_cons stand
    obtain ⟨whole, held⟩ := full number b known
    rw [parts, here] at held
    have value : b = .list (itemNumbers (number + 1) items) := whole.eq_list here
    rw [size] at small
    obtain ⟨fuel, rfl⟩ : ∃ n, fuel = n + 1 := ⟨fuel - 1, by omega⟩
    rw [valueOf, known, idxOf?_outer outer, value]
    exact congrArg Value.list
      (valueOf_items full members stand held (outer_cons outer (Nat.lt_succ_self _)) (by omega) (by omega))
  | .mapping entries, _, number, fuel, around, .mapping members, stand, ⟨b, known⟩, outer, small, enough => by
    obtain ⟨here, stand⟩ := stand_cons stand
    obtain ⟨whole, held⟩ := full number b known
    rw [parts, here] at held
    have value : b = .obj (written nodes (entryNumbers (number + 1) entries) []) := whole.eq_obj here
    rw [size] at small
    obtain ⟨fuel, rfl⟩ : ∃ n, fuel = n + 1 := ⟨fuel - 1, by omega⟩
    rw [valueOf, known, idxOf?_outer outer, value]
    exact congrArg Value.obj (valueOf_entries full members stand
      (fun entry member => held _ (List.mem_map_of_mem member)) (outer_cons outer (Nat.lt_succ_self _)) (by omega) (by omega) [])
theorem valueOf_items (full : AllFull nodes built) : ∀ {items : List Flow} {values : List Value} {number fuel : Nat}
    {around : List (Option Nat)}, MeanItems items values → Stand nodes number (itemNodes number items) →
      (∀ item ∈ itemNumbers number items, ∃ b, (built[item]?).join = some b) → (∀ a ∈ around, ∃ m < number, a = some m) →
        number + itemsSize items ≤ nodes.size → nodes.size < fuel + number →
          (itemNumbers number items).map (valueOf built fuel around) = values
  | [], _, number, fuel, around, .nil, stand, known, outer, small, enough => rfl
  | v :: items, _, number, fuel, around, .cons first rest, stand, known, outer, small, enough => by
    rw [itemsSize] at small
    obtain ⟨stand, stand'⟩ := stand_append stand
    rw [length_nodes] at stand'
    have outer' (a : Option Nat) (member : a ∈ around) : ∃ m < number + v.size, a = some m := by
      obtain ⟨m, less, same⟩ := outer a member
      exact ⟨m, by omega, same⟩
    rw [itemNumbers, List.map_cons, valueOf_flow full first stand (known _ List.mem_cons_self) outer (by omega) enough,
      valueOf_items full rest stand' (fun i member => known i (List.mem_cons_of_mem _ member)) outer' (by omega) (by omega)]
theorem valueOf_entries (full : AllFull nodes built) : ∀ {entries : List (List Char × Flow)}
    {fields : List (Atom × Value)} {number fuel : Nat} {around : List (Option Nat)}, MeanEntries entries fields →
      Stand nodes number (entryNodes number entries) →
        (∀ entry ∈ entryNumbers number entries, ∃ b, (built[entry.2]?).join = some b) →
          (∀ a ∈ around, ∃ m < number, a = some m) → number + entriesSize entries ≤ nodes.size →
            nodes.size < fuel + number → ∀ done : List (Atom × Nat),
              (written nodes (entryNumbers number entries) done).map (fun f => (f.1, valueOf built fuel around f.2)) =
                Entries.putAll (done.map fun f => (f.1, valueOf built fuel around f.2)) fields
  | [], _, number, fuel, around, .nil, stand, known, outer, small, enough, done => rfl
  | (key, v) :: entries, _, number, fuel, around, .cons first rest, stand, known, outer, small, enough, done => by
    rw [entriesSize] at small
    obtain ⟨here, stand⟩ := stand_cons stand
    obtain ⟨stand, stand'⟩ := stand_append stand
    rw [length_nodes] at stand'
    have outer' (least : Nat) (less : number ≤ least) (a : Option Nat) (member : a ∈ around) : ∃ m < least, a = some m := by
      obtain ⟨m, small, same⟩ := outer a member
      exact ⟨m, Nat.lt_of_lt_of_le small less, same⟩
    have text : keyOf nodes number = .text (String.ofList key) := by rw [keyOf, here]
    rw [entryNumbers, written, List.foldl_cons]
    refine (valueOf_entries full rest stand' (fun e member => known e (List.mem_cons_of_mem _ member))
      (outer' _ (by omega)) (by omega) (by omega) _).trans ?_
    rw [text, putEntry_text, valueOf_flow full first stand (known _ List.mem_cons_self) (outer' _ (Nat.le_succ _)) (by omega)
      (by omega), Entries.putAll, Entries.putAll, List.foldl_cons]
end

end Values

/-- What is built of the nodes of a flow collection is its value. -/
theorem value_graph {v : Flow} {value : Value} (means : Means v value) :
    Graph.value ⟨(v.nodes 0).toArray, 0⟩ = .ok value := by
  let nodes := (v.nodes 0).toArray
  have stand : Stand nodes 0 (v.nodes 0) := fun i x here => by simpa [nodes] using here
  have size : nodes.size = v.size := by simp [nodes, length_nodes]
  have ordered : Ordered nodes := fun n small =>
    isNode means stand (by omega) n (Nat.zero_le _) (by omega)
  obtain ⟨built, run_, root, full⟩ := run_full ordered (size ▸ v.size_pos)
  have data := valueOf_flow full means stand root (fun _ member => absurd member List.not_mem_nil) (by omega) (Nat.lt_succ_self nodes.size)
  rw [Graph.value, run_]
  exact congrArg Except.ok data

end Flow

end SwaggerGate.Yaml
