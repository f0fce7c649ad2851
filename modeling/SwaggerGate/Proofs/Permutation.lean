import SwaggerGate.Proofs.Batch
import SwaggerGate.Proofs.Documents
import SwaggerGate.Proofs.Routing
import SwaggerGate.Validation
import Mathlib.Data.List.Nodup

/-! Documents in another order. Documents that have nothing in common two by two compile to
the same operations in every order, and a request is answered alike in all of them if the
patterns of the operations that fit it tell these apart. -/
namespace SwaggerGate

namespace Document

theorem Apart.symm {documents others : List Document} (apart : Apart documents others) : Apart others documents where
  paths b inB a inA := List.disjoint_left.2 fun _ inOther inOwn => apart.paths a inA b inB inOwn inOther
  definitions b inB a inA := List.disjoint_left.2 fun _ inOther inOwn => apart.definitions a inA b inB inOwn inOther
  parameters b inB a inA := List.disjoint_left.2 fun _ inOther inOwn => apart.parameters a inA b inB inOwn inOther

/-- Documents of which no two have a path, definition or shared parameter in common. -/
def PairwiseApart (documents : List Document) : Prop := documents.Pairwise fun a b => Apart [a] [b]

theorem pairwiseApart_iff {documents : List Document} :
    PairwiseApart documents ↔ (documents.map sections).Pairwise fun a b => areApart a b = true := by
  rw [List.pairwise_map]
  simp only [PairwiseApart, apart_iff, List.map_cons, List.map_nil, List.forall_mem_singleton]

theorem PairwiseApart.of_perm {documents others : List Document} (order : others.Perm documents)
    (apart : PairwiseApart documents) : PairwiseApart others :=
  (order.pairwise_iff Apart.symm).2 apart

theorem PairwiseApart.head {document : Document} {rest : List Document} (apart : PairwiseApart (document :: rest)) :
    Apart [document] rest := by
  have each := (List.pairwise_cons.1 apart).1
  refine ⟨?_, ?_, ?_⟩
  all_goals
    intro a inA b inB
    obtain rfl := List.mem_singleton.1 inA
  · exact (each b inB).paths a inA b List.mem_cons_self
  · exact (each b inB).definitions a inA b List.mem_cons_self
  · exact (each b inB).parameters a inA b List.mem_cons_self

end Document

namespace Merged

open Document

/-- Documents that are apart merge section by section. -/
theorem ofDocuments_of_pairwiseApart {documents : List Document} (apart : PairwiseApart documents) :
    ofDocuments documents =
      { paths := documents.flatMap fun d => Entries.ofList (placedPaths d)
        definitions := documents.flatMap fun d => Entries.ofList d.definitions
        parameters := documents.flatMap fun d => Entries.ofList d.parameters } := by
  induction documents with
  | nil => rfl
  | cons document rest ih =>
    have split := ofDocuments_append apart.head
    rw [List.singleton_append, ih (List.pairwise_cons.1 apart).2] at split
    rw [split, ofDocuments_eq]
    simp

/-- Merged documents with the same entries in another order. -/
structure Reordered (merged other : Merged) : Prop where
  paths : other.paths.Perm merged.paths
  definitions : other.definitions.Perm merged.definitions
  parameters : other.parameters.Perm merged.parameters

theorem reordered_of_perm {documents others : List Document} (apart : PairwiseApart documents)
    (order : others.Perm documents) : Reordered (ofDocuments documents) (ofDocuments others) := by
  rw [ofDocuments_of_pairwiseApart apart, ofDocuments_of_pairwiseApart (apart.of_perm order)]
  exact ⟨order.flatMap_right _, order.flatMap_right _, order.flatMap_right _⟩

theorem nodup_paths (documents : List Document) : (Entries.keys (ofDocuments documents).paths).Nodup := by
  rw [ofDocuments_eq]
  exact Entries.nodup_keys_ofList _

/-- Merging keeps apart the methods of each path. -/
theorem nodup_methods {documents : List Document}
    (methods : ∀ document ∈ documents, ∀ path ∈ document.paths, (path.2.endpoints.map Prod.fst).Nodup) :
    ∀ path ∈ (ofDocuments documents).paths, (path.2.2.endpoints.map Prod.fst).Nodup := by
  intro path member
  rw [ofDocuments_eq] at member
  obtain inside | inside := Entries.mem_putAll member
  · cases inside
  · obtain ⟨document, there, placed⟩ := List.mem_flatMap.1 inside
    obtain ⟨own, declared, rfl⟩ := List.mem_map.1 placed
    exact methods document there own declared

end Merged

namespace Compile

open Document

theorem extends_of_perm {documents others : List Document} (apart : PairwiseApart documents)
    (order : others.Perm documents) : Extends (Merged.ofDocuments documents) (Merged.ofDocuments others) := by
  have reordered := Merged.reordered_of_perm apart order
  have definitions : (Entries.keys (Merged.ofDocuments documents).definitions).Nodup := by
    rw [Merged.ofDocuments_eq]
    exact Entries.nodup_keys_ofList _
  have parameters : (Entries.keys (Merged.ofDocuments documents).parameters).Nodup := by
    rw [Merged.ofDocuments_eq]
    exact Entries.nodup_keys_ofList _
  refine ⟨⟨fun name body found => ?_, reordered.definitions.length_eq.ge⟩, fun name p found => ?_⟩
  · rw [Entries.lookup_of_perm reordered.definitions definitions, found]
  · rw [Entries.lookup_of_perm reordered.parameters parameters, found]

/-- Documents in another order compile to the same operations in another order. -/
theorem operations_of_perm {documents others : List Document} (apart : PairwiseApart documents)
    (order : others.Perm documents) {operations : List Operation}
    (ok : Compile.operations (Merged.ofDocuments documents) = .ok operations) :
    ∃ operations', Compile.operations (Merged.ofDocuments others) = .ok operations' ∧ operations'.Perm operations := by
  have carried : (tasks (Merged.ofDocuments documents)).mapM (compileTask (Merged.ofDocuments others)) = .ok operations :=
    mapM_carried (fun _ _ _ => compileTask_carried (extends_of_perm apart order)) ok
  have reordered : (tasks (Merged.ofDocuments others)).Perm (tasks (Merged.ofDocuments documents)) :=
    (Merged.reordered_of_perm apart order).paths.flatMap_right _
  exact exists_mapM_of_perm reordered carried

/-- Where no path declares a method twice, no two tasks make the same key. -/
theorem nodup_keys_tasks {documents : List Document}
    (methods : ∀ document ∈ documents, ∀ path ∈ document.paths, (path.2.endpoints.map Prod.fst).Nodup) :
    ((tasks (Merged.ofDocuments documents)).map fun task => task.method.name ++ task.template).Nodup := by
  simp only [tasks, List.map_flatMap, List.map_map]
  refine List.nodup_flatMap.2 ⟨fun path member => ?_, ?_⟩
  · have declared := Merged.nodup_methods methods path member
    have distinct := declared.map (f := fun method : Method => method.name ++ path.1) fun _ _ same =>
      (key_injective same).1
    rwa [List.map_map] at distinct
  · refine (List.pairwise_map.1 (Merged.nodup_paths documents)).imp fun {a b} different key inA inB => ?_
    obtain ⟨⟨method, _⟩, -, rfl⟩ := List.mem_map.1 inA
    obtain ⟨⟨method', _⟩, -, same⟩ := List.mem_map.1 inB
    exact different (key_injective same).2.symm

theorem nodup_keys_operations {documents : List Document}
    (methods : ∀ document ∈ documents, ∀ path ∈ document.paths, (path.2.endpoints.map Prod.fst).Nodup)
    {operations : List Operation} (ok : Compile.operations (Merged.ofDocuments documents) = .ok operations) :
    (operations.map Operation.key).Nodup := by
  have keyed : operations.map Operation.key =
      (tasks (Merged.ofDocuments documents)).map fun task => task.method.name ++ task.template := by
    have each := (forall₂_of_mapM ok).imp fun task o compiled => compileTask_placed compiled
    symm
    rw [← List.forall₂_eq_eq_eq, List.forall₂_map_left_iff, List.forall₂_map_right_iff]
    exact each.imp fun task o placed => by rw [Operation.key, placed.1, placed.2.1]
  rw [keyed]
  exact nodup_keys_tasks methods

end Compile

namespace Source

open Document

theorem documents_methods {files : Files} {sources : List Source} {documents : List Document}
    (read : Source.documents files sources = .ok documents) :
    ∀ document ∈ documents, ∀ path ∈ document.paths, (path.2.endpoints.map Prod.fst).Nodup := by
  intro document member
  obtain ⟨v, rfl⟩ := eq_read_of_mem read member
  exact Document.read_methods v

/-- Sources that compile, and of which no two have a path, definition or shared parameter in
common, compile in every order, to a registry of the same operations. A request gets the same
answer from both unless two operations that fit it have one pattern. -/
theorem registry_of_perm {files : Files} {sources others : List Source} {documents : List Document} {registry : Registry}
    (read : Source.documents files sources = .ok documents) (apart : PairwiseApart documents)
    (compiled : Source.registry files sources = .ok registry) (order : others.Perm sources) :
    ∃ other, Source.registry files others = .ok other ∧ other.operations.Perm registry.operations ∧
      ∀ request, Routing.Told registry request.method request.segments →
        Validation.validate other request = Validation.validate registry request := by
  obtain ⟨reordered, readOthers, orderRead⟩ := exists_mapM_of_perm order read
  have compiled : Compile.registry documents = .ok registry := by
    rwa [Source.registry, read] at compiled
  obtain ⟨operations, made, compiled⟩ := bind_eq_ok.1 compiled
  cases compiled
  obtain ⟨operations', madeOthers, orderMade⟩ := Compile.operations_of_perm apart orderRead made
  have distinct := Compile.nodup_keys_operations (documents_methods read) made
  have distinctOthers := Compile.nodup_keys_operations (documents_methods readOthers) madeOthers
  have alike : (Registry.ofOperations operations').operations.Perm (Registry.ofOperations operations).operations :=
    ((Registry.perm_of_nodup distinctOthers).trans orderMade).trans (Registry.perm_of_nodup distinct).symm
  refine ⟨Registry.ofOperations operations', ?_, alike, fun request told => ?_⟩
  · exact bind_eq_ok.2 ⟨reordered, readOthers, bind_eq_ok.2 ⟨operations', madeOthers, rfl⟩⟩
  · have routed := Routing.route_of_perm ⟨operations, rfl⟩ ⟨operations', rfl⟩ alike told
    rw [Validation.validate, Validation.validate, Validation.judge, Validation.judge, routed]

/-- A description of trees, whose leaves are described elsewhere. -/
def branches : Value :=
  .record [("basePath", .text "/wood"), ("paths", .record [("/trees/\x7bid\x7d", .record [("post", .record [("parameters",
      .list [.record [("name", .text "body"), ("in", .text "body"), ("schema", .record [("properties",
        .record [("leaf", .record [("$ref", .text "#/definitions/Leaf")])])])]])])])]),
    ("definitions", .record [("Tree", .record [("type", .text "object")])])]

/-- A description of leaves, whose trees are described elsewhere. -/
def leaves : Value :=
  .record [("basePath", .text "/wood"), ("paths", .record [("/trees/tallest", .record [("post", .record [("parameters",
      .list [.record [("name", .text "body"), ("in", .text "body"), ("schema", .record [("properties",
        .record [("tree", .record [("$ref", .text "#/definitions/Tree")])])])]])])])]),
    ("definitions", .record [("Leaf", .record [("type", .text "string")])])]

/-- Two descriptions that refer to each other, and a request that fits an operation of both. -/
theorem registry_of_perm_trees :
    ∃ registry other, Source.registry ⟨fun _ => none⟩ [.data branches, .data leaves] = .ok registry ∧
      Source.registry ⟨fun _ => none⟩ [.data leaves, .data branches] = .ok other ∧
      registry.keys.Perm ["post/trees/\x7bid\x7d", "post/trees/tallest"] ∧
      other.operations.Perm registry.operations ∧
      ∀ body, Validation.validate other ⟨"POST", ["wood", "trees", "tallest"], [], body⟩ =
        Validation.validate registry ⟨"POST", ["wood", "trees", "tallest"], [], body⟩ := by
  have named : (Source.documents ⟨fun _ => none⟩ [.data branches, .data leaves]).toOption.map (List.map Document.sections) =
      some [(["/trees/\x7bid\x7d"], ["Tree"], []), (["/trees/tallest"], ["Leaf"], [])] := by
    decide +kernel
  have keyed : ((Source.documents ⟨fun _ => none⟩ [.data branches, .data leaves]).bind fun documents =>
        Compile.operations (Merged.ofDocuments documents)).toOption.map
      (fun operations => (operations.map Operation.key, operations.map Operation.pattern)) =
      some (["post/trees/\x7bid\x7d", "post/trees/tallest"], [[false, false, true], [false, false, false]]) := by
    decide +kernel
  obtain ⟨documents, read, sections⟩ := exists_of_map_toOption named
  rw [read] at keyed
  obtain ⟨operations, made, keyed⟩ := exists_of_map_toOption keyed
  obtain ⟨keys, patterns⟩ := Prod.mk.inj keyed
  have apart : PairwiseApart documents := by
    rw [pairwiseApart_iff, sections]
    decide
  have compiled : Source.registry ⟨fun _ => none⟩ [.data branches, .data leaves] = .ok (Registry.ofOperations operations) :=
    bind_eq_ok.2 ⟨documents, read, bind_eq_ok.2 ⟨operations, made, rfl⟩⟩
  have held : (Registry.ofOperations operations).operations.Perm operations :=
    Registry.perm_of_nodup (by rw [keys]; decide)
  obtain ⟨other, compiledOther, alike, answers⟩ := registry_of_perm read apart compiled (List.Perm.swap _ _ [])
  refine ⟨_, other, compiled, compiledOther, keys ▸ held.map Operation.key, alike, fun body => answers _ ?_⟩
  have distinct : (operations.map Operation.pattern).Nodup := by
    rw [patterns]
    decide
  exact fun a inA b inB _ _ same => List.inj_on_of_nodup_map distinct (held.subset inA) (held.subset inB) same

end Source
end SwaggerGate
