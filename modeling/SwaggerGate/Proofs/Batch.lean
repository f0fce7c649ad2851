import SwaggerGate.Proofs.Registry
import SwaggerGate.Proofs.Schema.Extension
import SwaggerGate.Source

/-! Compilation in one batch or in parts. Documents that have no path, definition or shared
parameter in common with others give the same operations whether the others are compiled
beside them or not, and one registry whether the parts are sorted together or merged. -/
namespace SwaggerGate

/-- Documents without a path, definition or shared parameter in common with others. -/
structure Document.Apart (documents others : List Document) : Prop where
  paths : ∀ a ∈ documents, ∀ b ∈ others, List.Disjoint (Entries.keys a.paths) (Entries.keys b.paths)
  definitions : ∀ a ∈ documents, ∀ b ∈ others, List.Disjoint (Entries.keys a.definitions) (Entries.keys b.definitions)
  parameters : ∀ a ∈ documents, ∀ b ∈ others, List.Disjoint (Entries.keys a.parameters) (Entries.keys b.parameters)

namespace Document

/-- The names in the sections of a document: paths, definitions and shared parameters. -/
def sections (d : Document) : List String × List String × List String :=
  (Entries.keys d.paths, Entries.keys d.definitions, Entries.keys d.parameters)

/-- Whether two documents have no name of a section in common. -/
def areApart (first second : List String × List String × List String) : Bool :=
  first.1.all (fun name => !second.1.contains name) && first.2.1.all (fun name => !second.2.1.contains name) &&
    first.2.2.all fun name => !second.2.2.contains name

theorem apart_iff {documents others : List Document} :
    Apart documents others ↔ ∀ a ∈ documents.map sections, ∀ b ∈ others.map sections, areApart a b = true := by
  simp only [List.forall_mem_map, areApart, sections, Bool.and_eq_true, List.all_eq_true, Bool.not_eq_true', List.contains_eq_mem,
    decide_eq_false_iff_not, and_assoc]
  constructor
  · intro apart a inA b inB
    exact ⟨fun _ => @apart.paths a inA b inB _, fun _ => @apart.definitions a inA b inB _,
      fun _ => @apart.parameters a inA b inB _⟩
  · intro each
    exact ⟨fun a inA b inB _ => (each a inA b inB).1 _, fun a inA b inB _ => (each a inA b inB).2.1 _,
      fun a inA b inB _ => (each a inA b inB).2.2 _⟩

end Document

namespace Merged

/-- The paths of a document, each with the base path. -/
def placedPaths (document : Document) : List (String × (Option String × PathItem)) :=
  document.paths.map fun p => (p.1, document.basePath, p.2)

theorem ofDocuments_eq (documents : List Document) :
    ofDocuments documents =
      { paths := Entries.ofList (documents.flatMap placedPaths)
        definitions := Entries.ofList (documents.flatMap Document.definitions)
        parameters := Entries.ofList (documents.flatMap Document.parameters) } := by
  induction documents using List.reverseRecOn with
  | nil => rfl
  | append_singleton documents last ih =>
    have split : ofDocuments (documents ++ [last]) = (ofDocuments documents).add last := by
      simp [ofDocuments, List.foldl_append]
    rw [split, ih]
    simp [add, placedPaths, Entries.ofList, Entries.putAll, List.flatMap_append, List.foldl_append]

private theorem fresh_of_apart {κ ν : Type} {entries : Document → List (κ × ν)} {documents others : List Document}
    (apart : ∀ a ∈ documents, ∀ b ∈ others, List.Disjoint (Entries.keys (entries a)) (Entries.keys (entries b))) :
    ∀ key ∈ Entries.keys (others.flatMap entries), key ∉ Entries.keys (documents.flatMap entries) := by
  intro key later earlier
  simp only [Entries.keys, List.map_flatMap, List.mem_flatMap] at later earlier
  obtain ⟨b, inB, later⟩ := later
  obtain ⟨a, inA, earlier⟩ := earlier
  exact apart a inA b inB earlier later

/-- Documents apart merge into the sections of both, one after the other. -/
theorem ofDocuments_append {documents others : List Document} (apart : Document.Apart documents others) :
    ofDocuments (documents ++ others) =
      { paths := (ofDocuments documents).paths ++ (ofDocuments others).paths
        definitions := (ofDocuments documents).definitions ++ (ofDocuments others).definitions
        parameters := (ofDocuments documents).parameters ++ (ofDocuments others).parameters } := by
  have placed : ∀ document, Entries.keys (placedPaths document) = Entries.keys document.paths := by
    intro document
    simp [placedPaths, Entries.keys, Function.comp_def]
  have paths : ∀ a ∈ documents, ∀ b ∈ others,
      List.Disjoint (Entries.keys (placedPaths a)) (Entries.keys (placedPaths b)) := by
    intro a inA b inB
    rw [placed, placed]
    exact apart.paths a inA b inB
  simp only [ofDocuments_eq, List.flatMap_append, Entries.ofList_append (fresh_of_apart paths),
    Entries.ofList_append (fresh_of_apart apart.definitions), Entries.ofList_append (fresh_of_apart apart.parameters)]

end Merged

namespace Compile

open Schema

/-- Merged documents with others beside them. -/
structure Extends (merged more : Merged) : Prop where
  definitions : Schema.Extends merged.definitions more.definitions
  parameters : ∀ name p, merged.parameters.lookup name = some p → more.parameters.lookup name = some p

private theorem lookup_front {ν : Type} {front back : List (String × ν)} {name : String} {v : ν}
    (found : front.lookup name = some v) : (front ++ back).lookup name = some v := by
  rw [List.lookup_append, found]
  rfl

private theorem lookup_back {ν : Type} {front back : List (String × ν)} {name : String} {v : ν}
    (fresh : ∀ key ∈ Entries.keys back, key ∉ Entries.keys front) (found : back.lookup name = some v) :
    (front ++ back).lookup name = some v := by
  have absent : front.lookup name = none := by
    rw [Option.eq_none_iff_forall_ne_some]
    intro w there
    exact fresh name (Entries.mem_keys_iff.2 ⟨v, found⟩) (Entries.mem_keys_iff.2 ⟨w, there⟩)
  rw [List.lookup_append, absent, found]
  rfl

theorem extends_front {documents others : List Document} (apart : Document.Apart documents others) :
    Extends (Merged.ofDocuments documents) (Merged.ofDocuments (documents ++ others)) := by
  rw [Merged.ofDocuments_append apart]
  exact ⟨⟨fun _ _ => lookup_front, by simp⟩, fun _ _ => lookup_front⟩

theorem extends_back {documents others : List Document} (apart : Document.Apart documents others) :
    Extends (Merged.ofDocuments others) (Merged.ofDocuments (documents ++ others)) := by
  have definitions : ∀ key ∈ Entries.keys (Merged.ofDocuments others).definitions,
      key ∉ Entries.keys (Merged.ofDocuments documents).definitions := by
    simp only [Merged.ofDocuments_eq, Entries.mem_keys_ofList]
    exact Merged.fresh_of_apart apart.definitions
  have parameters : ∀ key ∈ Entries.keys (Merged.ofDocuments others).parameters,
      key ∉ Entries.keys (Merged.ofDocuments documents).parameters := by
    simp only [Merged.ofDocuments_eq, Entries.mem_keys_ofList]
    exact Merged.fresh_of_apart apart.parameters
  rw [Merged.ofDocuments_append apart]
  exact ⟨⟨fun _ _ => lookup_back definitions, by simp⟩, fun _ _ => lookup_back parameters⟩

section Carried

variable {merged more : Merged} (extends_ : Extends merged more)
include extends_

private theorem lookUp_carried {place : String} {p found : Parameter}
    (ok : lookUp merged.parameters place p = .ok found) : lookUp more.parameters place p = .ok found := by
  obtain ⟨whole, direct | ⟨ref, name, given, named, there, plain⟩⟩ := lookUp_eq_ok.1 ok
  · exact lookUp_eq_ok.2 ⟨whole, .inl direct⟩
  · exact lookUp_eq_ok.2 ⟨whole, .inr ⟨ref, name, given, named, extends_.parameters name found there, plain⟩⟩

private theorem effectiveParameters_carried {place : String} {path : PathItem} {endpoint : Endpoint}
    {parameters : List Parameter} (ok : effectiveParameters merged place path endpoint = .ok parameters) :
    effectiveParameters more place path endpoint = .ok parameters := by
  obtain ⟨shared, own, ofPath, ofEndpoint, rfl⟩ := effectiveParameters_eq_ok.1 ok
  have each (p found : Parameter) (ok : lookUp merged.parameters place p = .ok found) :
      lookUp more.parameters place p = .ok found := lookUp_carried extends_ ok
  exact effectiveParameters_eq_ok.2 ⟨shared, own, mapM_carried (fun p _ => each p) ofPath,
    mapM_carried (fun p _ => each p) ofEndpoint, rfl⟩

private theorem add_carried {draft next : Draft} {p : Parameter} (ok : draft.add merged.definitions p = .ok next) :
    draft.add more.definitions p = .ok next := by
  unfold Draft.add at ok ⊢
  split at ok
  next body =>
    obtain ⟨part, made, ok⟩ := bind_eq_ok.1 ok
    obtain ⟨inlined, inlining, made⟩ := bind_eq_ok.1 made
    have inlining := extends_.definitions.inline inlining
    exact bind_eq_ok.2 ⟨part, bind_eq_ok.2 ⟨inlined, inlining, made⟩, ok⟩
  all_goals exact ok

private theorem operation_carried {template : String} {method : Method} {basePath : Option String}
    {parameters : List Parameter} {o : Operation} (ok : operation merged template method basePath parameters = .ok o) :
    operation more template method basePath parameters = .ok o := by
  obtain ⟨draft, drafted, ok⟩ := bind_eq_ok.1 ok
  obtain ⟨bodies, embeds, ok⟩ := bind_eq_ok.1 ok
  have cyclic := kept_of_parameters_onCycle drafted
  have drafted := foldlM_carried (fun p _ _ _ => add_carried extends_) drafted
  exact bind_eq_ok.2 ⟨draft, drafted, bind_eq_ok.2 ⟨bodies, extends_.definitions.embedded cyclic embeds, ok⟩⟩

/-- What compiles by itself compiles to the same operations with other documents beside it. -/
theorem compileTask_carried {task : Task} {o : Operation} (ok : compileTask merged task = .ok o) :
    compileTask more task = .ok o := by
  obtain ⟨parameters, effective, ok⟩ := bind_eq_ok.1 ok
  exact bind_eq_ok.2 ⟨parameters, effectiveParameters_carried extends_ effective, operation_carried extends_ ok⟩

end Carried

private theorem method_eq_of_front {method other : Method} (front : method.name.toList <+: other.name.toList) :
    method = other := by
  revert front
  cases method <;> cases other <;> decide

/-- A method and a template are told from the key that they make. -/
theorem key_injective {method other : Method} {template template' : String}
    (same : method.name ++ template = other.name ++ template') : method = other ∧ template = template' := by
  have texts : method.name.toList ++ template.toList = other.name.toList ++ template'.toList := by
    rw [← String.toList_append, same, String.toList_append]
  have front : method.name.toList <+: other.name.toList ++ template'.toList := texts ▸ List.prefix_append _ _
  have alike : method = other := by
    rcases List.prefix_or_prefix_of_prefix front (List.prefix_append _ _) with longer | shorter
    · exact method_eq_of_front longer
    · exact (method_eq_of_front shorter).symm
  subst alike
  exact ⟨rfl, String.toList_inj.1 (List.append_cancel_left texts)⟩

theorem compileTask_placed {merged : Merged} {task : Task} {o : Operation} (ok : compileTask merged task = .ok o) :
    o.method = task.method ∧ o.template = task.template ∧ o.basePath = task.basePath := by
  obtain ⟨parameters, -, ok⟩ := bind_eq_ok.1 ok
  obtain ⟨_, _, _, _, -, -, -, -, rfl⟩ := operation_cases ok
  exact ⟨rfl, rfl, rfl⟩

/-- Compiled operations stand at paths of the documents. -/
theorem template_mem {documents : List Document} {operations : List Operation}
    (ok : Compile.operations (Merged.ofDocuments documents) = .ok operations) {o : Operation} (member : o ∈ operations) :
    ∃ document ∈ documents, o.template ∈ Entries.keys document.paths := by
  obtain ⟨task, listed, compiled⟩ := exists_related (forall₂_of_mapM ok) member
  obtain ⟨path, inside, listed⟩ := List.mem_flatMap.1 listed
  obtain ⟨endpoint, -, rfl⟩ := List.mem_map.1 listed
  have key : path.1 ∈ Entries.keys (Merged.ofDocuments documents).paths := List.mem_map_of_mem inside
  rw [Merged.ofDocuments_eq, Entries.mem_keys_ofList, Entries.keys, List.map_flatMap, List.mem_flatMap] at key
  obtain ⟨document, there, key⟩ := key
  refine ⟨document, there, ?_⟩
  rw [(compileTask_placed compiled).2.1]
  simpa [Merged.placedPaths, Entries.keys] using key

theorem operations_append {documents others : List Document} (apart : Document.Apart documents others)
    {front back : List Operation} (first : operations (Merged.ofDocuments documents) = .ok front)
    (second : operations (Merged.ofDocuments others) = .ok back) :
    operations (Merged.ofDocuments (documents ++ others)) = .ok (front ++ back) := by
  have parts : tasks (Merged.ofDocuments (documents ++ others)) =
      tasks (Merged.ofDocuments documents) ++ tasks (Merged.ofDocuments others) := by
    rw [Merged.ofDocuments_append apart]
    exact List.flatMap_append
  have first := mapM_carried (fun _ _ _ => compileTask_carried (extends_front apart)) first
  have second := mapM_carried (fun _ _ _ => compileTask_carried (extends_back apart)) second
  rw [operations, parts, List.mapM_append]
  exact bind_eq_ok.2 ⟨front, first, bind_eq_ok.2 ⟨back, second, rfl⟩⟩

theorem registry_append {documents others : List Document} (apart : Document.Apart documents others)
    {front back : Registry} (first : registry documents = .ok front) (second : registry others = .ok back) :
    registry (documents ++ others) = .ok (front.merged back) := by
  obtain ⟨operations, compiled, first⟩ := bind_eq_ok.1 first
  obtain ⟨later, compiledLater, second⟩ := bind_eq_ok.1 second
  cases first
  cases second
  have distinct : ∀ a ∈ operations, ∀ b ∈ later, a.key ≠ b.key := by
    intro a inA b inB same
    obtain ⟨document, there, key⟩ := template_mem compiled inA
    obtain ⟨other, thereToo, otherKey⟩ := template_mem compiledLater inB
    rw [← (key_injective same).2] at otherKey
    exact apart.paths document there other thereToo key otherKey
  refine bind_eq_ok.2 ⟨operations ++ later, operations_append apart compiled compiledLater, ?_⟩
  rw [Registry.ofOperations_append distinct]
  rfl

end Compile

namespace Source

/-- Compiling sources in one batch is compiling them in two parts and laying the second
registry over the first, if both parts compile and have no path, definition or shared
parameter in common: the same operations, in the same order. -/
theorem registry_append_eq_merged {files : Files} {sources others : List Source} {documents later : List Document}
    {front back : Registry} (read : Source.documents files sources = .ok documents)
    (readLater : Source.documents files others = .ok later) (apart : Document.Apart documents later)
    (first : Source.registry files sources = .ok front) (second : Source.registry files others = .ok back) :
    Source.registry files (sources ++ others) = .ok (front.merged back) := by
  have compiled : Compile.registry documents = .ok front := by
    rwa [Source.registry, read] at first
  have compiledLater : Compile.registry later = .ok back := by
    rwa [Source.registry, readLater] at second
  have together : Source.documents files (sources ++ others) = .ok (documents ++ later) := by
    rw [Source.documents, List.mapM_append]
    exact bind_eq_ok.2 ⟨documents, read, bind_eq_ok.2 ⟨later, readLater, rfl⟩⟩
  rw [Source.registry, together]
  exact Compile.registry_append apart compiled compiledLater

/-- A description of trees, which refer to themselves. -/
def trees : Value :=
  .record [("paths", .record [("/trees/\x7bid\x7d", .record [("post", .record [("parameters", .list [.record [("name", .text "body"),
      ("in", .text "body"), ("schema", .record [("$ref", .text "#/definitions/Tree")])]])])])]),
    ("definitions", .record [("Tree", .record [("properties",
      .record [("left", .record [("$ref", .text "#/definitions/Tree")])])])])]

/-- A description of roots, with a parameter that is shared. -/
def roots : Value :=
  .record [("paths", .record [("/trees/roots", .record [("post", .record [("parameters", .list [.record [("$ref",
      .text "#/parameters/page")]])])])]),
    ("parameters", .record [("page", .record [("name", .text "page"), ("in", .text "query"), ("type", .text "integer")])])]

/-- Two descriptions of paths that match the same requests, compiled in one batch. -/
theorem registry_append_eq_merged_trees :
    ∃ front back, Source.registry ⟨fun _ => none⟩ [.data trees] = .ok front ∧
      Source.registry ⟨fun _ => none⟩ [.data roots] = .ok back ∧ front.keys = ["post/trees/\x7bid\x7d"] ∧
      back.keys = ["post/trees/roots"] ∧
      Source.registry ⟨fun _ => none⟩ [.data trees, .data roots] = .ok (front.merged back) := by
  have named : (Source.documents ⟨fun _ => none⟩ [.data trees]).toOption.map (List.map Document.sections) =
      some [(["/trees/\x7bid\x7d"], ["Tree"], [])] := by
    decide +kernel
  have laterNamed : (Source.documents ⟨fun _ => none⟩ [.data roots]).toOption.map (List.map Document.sections) =
      some [(["/trees/roots"], [], ["page"])] := by
    decide +kernel
  have keyed : (Source.registry ⟨fun _ => none⟩ [.data trees]).toOption.map Registry.keys =
      some ["post/trees/\x7bid\x7d"] := by
    decide +kernel
  have laterKeyed : (Source.registry ⟨fun _ => none⟩ [.data roots]).toOption.map Registry.keys =
      some ["post/trees/roots"] := by
    decide +kernel
  obtain ⟨documents, read, sections⟩ := exists_of_map_toOption named
  obtain ⟨later, readLater, laterSections⟩ := exists_of_map_toOption laterNamed
  obtain ⟨front, first, keys⟩ := exists_of_map_toOption keyed
  obtain ⟨back, second, laterKeys⟩ := exists_of_map_toOption laterKeyed
  have apart : Document.Apart documents later := by
    rw [Document.apart_iff, sections, laterSections]
    decide
  have together := registry_append_eq_merged read readLater apart first second
  rw [List.singleton_append] at together
  exact ⟨front, back, first, second, keys, laterKeys, together⟩

end Source
end SwaggerGate
