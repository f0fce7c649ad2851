import SwaggerGate.Proofs.Permutation
import Mathlib.Data.Set.Card

/-! Later documents over earlier ones. A path comes as a whole from the last document that has
it, so that a registry is known document by document; and the last document compiles to the
operations that it has by itself. -/
namespace SwaggerGate

namespace Document

/-- Documents in which no path, and no method of a path, is given twice. -/
structure Unambiguous (documents : List Document) : Prop where
  paths : ∀ document ∈ documents, (Entries.keys document.paths).Nodup
  methods : ∀ document ∈ documents, ∀ path ∈ document.paths, (path.2.endpoints.map Prod.fst).Nodup

/-- The last of some documents that have a path of a template. -/
def last? (documents : List Document) (template : String) : Option Document :=
  documents.reverse.find? fun document => (Entries.keys document.paths).contains template

/-- Whether a method is declared at a template by the last document that has it. -/
def Declares (documents : List Document) (method : Method) (template : String) : Prop :=
  ∃ document path, last? documents template = some document ∧ document.paths.lookup template = some path ∧
    method ∈ path.endpoints.map Prod.fst

theorem last?_append_singleton (documents : List Document) (last : Document) (template : String) :
    last? (documents ++ [last]) template =
      if template ∈ Entries.keys last.paths then some last else last? documents template := by
  by_cases known : template ∈ Entries.keys last.paths <;> simp [last?, known]

theorem read_paths (v : Value) : (Entries.keys (Document.read v).value.paths).Nodup := by
  have empty : (Entries.keys ([] : List (String × PathItem))).Nodup := List.nodup_nil
  have table (place : Reading.Place) (fields : List (Atom × Value)) :
      (Entries.keys (Reading.field (Reading.table PathItem.read) place "paths" "paths" [] fields).value).Nodup := by
    unfold Reading.field
    split
    · unfold Reading.table
      split
      · exact Entries.nodup_keys_ofList _
      · exact empty
    · exact empty
  cases v with
  | obj fields => exact table [] _
  | _ => exact empty

end Document

theorem Source.documents_unambiguous {files : Files} {sources : List Source} {documents : List Document}
    (read : Source.documents files sources = .ok documents) : Document.Unambiguous documents where
  paths document member := by
    obtain ⟨v, rfl⟩ := Source.eq_read_of_mem read member
    exact Document.read_paths v
  methods := Source.documents_methods read

namespace Merged

open Document

private theorem lookup_placedPaths (document : Document) (template : String) :
    (placedPaths document).lookup template =
      (document.paths.lookup template).map fun path => (document.basePath, path) := by
  rw [placedPaths]
  induction document.paths with
  | nil => rfl
  | cons entry rest ih =>
    rw [List.map_cons, Entries.lookup_cons_if, ih]
    obtain ⟨key, path⟩ := entry
    by_cases same : template = key <;> simp [Entries.lookup_cons_if, same]

/-- A path of merged documents is that of the last document that has it. -/
theorem lookup_paths {documents : List Document} (distinct : ∀ document ∈ documents, (Entries.keys document.paths).Nodup)
    (template : String) :
    (ofDocuments documents).paths.lookup template = (last? documents template).bind fun document =>
      (document.paths.lookup template).map fun path => (document.basePath, path) := by
  induction documents using List.reverseRecOn with
  | nil => rfl
  | append_singleton documents last ih =>
    have before := ih fun document member => distinct document (List.mem_append_left _ member)
    have own : (Entries.keys (placedPaths last)).Nodup := by
      simpa [placedPaths, Entries.keys, Function.comp_def] using distinct last (by simp)
    have merged : (ofDocuments (documents ++ [last])).paths = Entries.putAll (ofDocuments documents).paths (placedPaths last) := by
      simp [ofDocuments, List.foldl_append, add, placedPaths]
    rw [merged, Entries.lookup_putAll, Entries.lookup_reverse_of_nodup own, lookup_placedPaths, before,
      last?_append_singleton]
    by_cases known : template ∈ Entries.keys last.paths
    · obtain ⟨path, found⟩ := Entries.mem_keys_iff.1 known
      simp [known, found]
    · have absent : last.paths.lookup template = none :=
        Option.eq_none_iff_forall_ne_some.2 fun path found => known (Entries.mem_keys_iff.2 ⟨path, found⟩)
      simp [known, absent]

end Merged

namespace Compile

open Document

variable {documents : List Document}

theorem mem_tasks (clear : Unambiguous documents) (task : Task) :
    task ∈ tasks (Merged.ofDocuments documents) ↔
      ∃ document, last? documents task.template = some document ∧ document.paths.lookup task.template = some task.path ∧
        task.basePath = document.basePath ∧ (task.method, task.endpoint) ∈ task.path.endpoints := by
  have lookup := Merged.lookup_paths clear.paths task.template
  simp only [tasks, List.mem_flatMap, List.mem_map]
  constructor
  · rintro ⟨⟨template, basePath, path⟩, inside, ⟨method, endpoint⟩, declared, rfl⟩
    rw [Entries.lookup_eq_some_of_mem (Merged.nodup_paths documents) inside, eq_comm, Option.bind_eq_some_iff] at lookup
    obtain ⟨document, last, found⟩ := lookup
    obtain ⟨own, there, same⟩ := Option.map_eq_some_iff.1 found
    obtain ⟨rfl, rfl⟩ := Prod.mk.inj same
    exact ⟨document, last, there, rfl, declared⟩
  · rintro ⟨document, last, there, base, declared⟩
    have found : (Merged.ofDocuments documents).paths.lookup task.template = some (task.basePath, task.path) := by
      rw [lookup, last, Option.bind_some, there, Option.map_some, base]
    exact ⟨_, Entries.mem_of_lookup_eq_some found, _, declared, rfl⟩

theorem declares_iff (clear : Unambiguous documents) (method : Method) (template : String) :
    Declares documents method template ↔
      ∃ task ∈ tasks (Merged.ofDocuments documents), task.method = method ∧ task.template = template := by
  constructor
  · rintro ⟨document, path, last, there, declared⟩
    obtain ⟨⟨_, endpoint⟩, member, rfl⟩ := List.mem_map.1 declared
    refine ⟨⟨template, document.basePath, path, _, endpoint⟩, ?_, rfl, rfl⟩
    exact (mem_tasks clear _).2 ⟨document, last, there, rfl, member⟩
  · rintro ⟨task, listed, rfl, rfl⟩
    obtain ⟨document, last, there, -, declared⟩ := (mem_tasks clear task).1 listed
    exact ⟨document, task.path, last, there, List.mem_map_of_mem declared⟩

/-- Every task of documents that compile has its operation. -/
theorem exists_compiled {merged : Merged} {operations : List Operation} (ok : Compile.operations merged = .ok operations)
    {task : Task} (listed : task ∈ tasks merged) : ∃ o ∈ operations, compileTask merged task = .ok o :=
  Schema.exists_related (forall₂_of_mapM ok).flip listed

/-- Under the key of a method and a template, a registry holds what their task compiles to. -/
theorem get?_registry (clear : Unambiguous documents) {registry : Registry} (ok : Compile.registry documents = .ok registry)
    (method : Method) (template : String) (o : Operation) :
    registry.get? (method.name ++ template) = some o ↔
      ∃ task ∈ tasks (Merged.ofDocuments documents), task.method = method ∧ task.template = template ∧
        compileTask (Merged.ofDocuments documents) task = .ok o := by
  obtain ⟨operations, made, ok⟩ := bind_eq_ok.1 ok
  cases ok
  have held := Registry.perm_of_nodup (nodup_keys_operations clear.methods made)
  rw [Registry.IsBuilt.get?_eq_some_iff ⟨operations, rfl⟩, held.mem_iff]
  constructor
  · rintro ⟨member, key⟩
    obtain ⟨task, listed, compiled⟩ := Schema.exists_related (forall₂_of_mapM made) member
    obtain ⟨sameMethod, sameTemplate⟩ := key_injective key
    obtain ⟨named, placed, -⟩ := compileTask_placed compiled
    exact ⟨task, listed, named ▸ sameMethod, placed ▸ sameTemplate, compiled⟩
  · rintro ⟨task, listed, rfl, rfl, compiled⟩
    obtain ⟨o', member, same⟩ := exists_compiled made listed
    obtain rfl : o = o' := Except.ok.inj (compiled.symm.trans same)
    obtain ⟨named, placed, -⟩ := compileTask_placed compiled
    exact ⟨member, by rw [Operation.key, named, placed]⟩

/-- A registry has as many operations as there are declared pairs of a method and a template. -/
theorem encard_declared (clear : Unambiguous documents) {registry : Registry}
    (ok : Compile.registry documents = .ok registry) :
    {pair : Method × String | Declares documents pair.1 pair.2}.encard = registry.size := by
  obtain ⟨operations, made, ok⟩ := bind_eq_ok.1 ok
  cases ok
  let pairs := (tasks (Merged.ofDocuments documents)).map fun task => (task.method, task.template)
  have distinct : pairs.Nodup := by
    have keys := nodup_keys_tasks clear.methods
    refine List.Nodup.of_map (fun pair => pair.1.name ++ pair.2) ?_
    rwa [List.map_map]
  have listed : {pair : Method × String | Declares documents pair.1 pair.2} = (pairs.toFinset : Set (Method × String)) := by
    ext ⟨method, template⟩
    simp [declares_iff clear, pairs]
  have size : (Registry.ofOperations operations).size = pairs.length := by
    rw [Registry.size, (Registry.perm_of_nodup (nodup_keys_operations clear.methods made)).length_eq,
      ← (forall₂_of_mapM made).length_eq, List.length_map]
  rw [listed, Set.encard_coe_eq_coe_finsetCard, List.toFinset_card_of_nodup distinct, size]

private theorem length_ofList_le {ν : Type} (earlier later : List (String × ν)) :
    (Entries.ofList later).length ≤ (Entries.ofList (earlier ++ later)).length := by
  have inside : Entries.keys (Entries.ofList later) ⊆ Entries.keys (Entries.ofList (earlier ++ later)) := by
    intro key known
    rw [Entries.mem_keys_ofList] at known ⊢
    rw [Entries.keys, List.map_append]
    exact List.mem_append_right _ known
  have fewer := ((Entries.nodup_keys_ofList later).subperm inside).length_le
  simpa only [Entries.keys, List.length_map] using fewer

private theorem lookup_ofList_append {ν : Type} {earlier later : List (String × ν)} {name : String} {v : ν}
    (found : (Entries.ofList later).lookup name = some v) : (Entries.ofList (earlier ++ later)).lookup name = some v := by
  rw [Entries.lookup_ofList] at found ⊢
  rw [List.reverse_append, List.lookup_append, found]
  rfl

/-- What is merged last is found as it would be by itself, whatever was there before. -/
theorem extends_last (documents later : List Document) :
    Extends (Merged.ofDocuments later) (Merged.ofDocuments (documents ++ later)) := by
  simp only [Merged.ofDocuments_eq, List.flatMap_append]
  exact ⟨⟨fun _ _ => lookup_ofList_append, length_ofList_le _ _⟩, fun _ _ => lookup_ofList_append⟩

/-- At the templates of the last document, a registry holds what that document alone makes. -/
theorem get?_registry_last {last : Document} (clear : Unambiguous (documents ++ [last])) {alone whole : Registry}
    (single : registry [last] = .ok alone) (compiled : registry (documents ++ [last]) = .ok whole)
    {template : String} (own : template ∈ Entries.keys last.paths) (method : Method) :
    whole.get? (method.name ++ template) = alone.get? (method.name ++ template) := by
  have clearLast : Unambiguous [last] :=
    ⟨fun document member => clear.paths document (List.mem_append_right _ member),
      fun document member => clear.methods document (List.mem_append_right _ member)⟩
  have here : last? (documents ++ [last]) template = last? [last] template := by
    rw [last?_append_singleton, ← List.nil_append [last], last?_append_singleton, if_pos own, if_pos own]
  have shared (task : Task) (at_ : task.template = template) :
      task ∈ tasks (Merged.ofDocuments (documents ++ [last])) ↔ task ∈ tasks (Merged.ofDocuments [last]) := by
    rw [mem_tasks clear, mem_tasks clearLast, at_, here]
  have carried {task : Task} {o : Operation} (becomes : compileTask (Merged.ofDocuments [last]) task = .ok o) :
      compileTask (Merged.ofDocuments (documents ++ [last])) task = .ok o :=
    compileTask_carried (extends_last documents [last]) becomes
  obtain ⟨operations, made, -⟩ := bind_eq_ok.1 single
  apply Option.ext
  intro o
  rw [get?_registry clear compiled, get?_registry clearLast single]
  constructor
  · rintro ⟨task, listed, method, at_, becomes⟩
    have listed := (shared task at_).1 listed
    -- the task compiles by itself, and that gives what it compiles to beside the others
    obtain ⟨o', -, byItself⟩ := exists_compiled made listed
    obtain rfl : o = o' := Except.ok.inj (becomes.symm.trans (carried byItself))
    exact ⟨task, listed, method, at_, byItself⟩
  · rintro ⟨task, listed, method, at_, becomes⟩
    exact ⟨task, (shared task at_).2 listed, method, at_, carried becomes⟩

end Compile

namespace Source

open Document

variable {files : Files}

/-- Sources that compile give the operations that their documents declare, and no others: one
under the key of a method and a template if the last document with that template declares the
method there, with that document's base path. The pairs of a method and a template are told
apart by their keys, and there are as many of them as operations. -/
theorem registry_declared {sources : List Source} {documents : List Document} {registry : Registry}
    (read : Source.documents files sources = .ok documents) (compiled : Source.registry files sources = .ok registry) :
    (∀ method template, (registry.get? (method.name ++ template)).isSome = true ↔ Declares documents method template) ∧
    (∀ method template o, registry.get? (method.name ++ template) = some o →
      o.method = method ∧ o.template = template ∧
        ∃ document, last? documents template = some document ∧ o.basePath = document.basePath) ∧
    {pair : Method × String | Declares documents pair.1 pair.2}.encard = registry.size ∧
    Set.InjOn (fun pair : Method × String => pair.1.name ++ pair.2) {pair | Declares documents pair.1 pair.2} := by
  have clear := documents_unambiguous read
  have compiled : Compile.registry documents = .ok registry := by
    rwa [Source.registry, read] at compiled
  refine ⟨fun method template => ?_, fun method template o found => ?_, Compile.encard_declared clear compiled, ?_⟩
  · rw [Option.isSome_iff_exists, Compile.declares_iff clear]
    simp only [Compile.get?_registry clear compiled]
    constructor
    · rintro ⟨o, task, listed, named, placed, -⟩
      exact ⟨task, listed, named, placed⟩
    · rintro ⟨task, listed, named, placed⟩
      obtain ⟨operations, made, -⟩ := bind_eq_ok.1 compiled
      obtain ⟨o, -, becomes⟩ := Compile.exists_compiled made listed
      exact ⟨o, task, listed, named, placed, becomes⟩
  · obtain ⟨task, listed, rfl, rfl, becomes⟩ := (Compile.get?_registry clear compiled method template o).1 found
    obtain ⟨named, placed, based⟩ := Compile.compileTask_placed becomes
    obtain ⟨document, last, -, base, -⟩ := (Compile.mem_tasks clear task).1 listed
    exact ⟨named, placed, document, last, based.trans base⟩
  · rintro ⟨method, template⟩ - ⟨method', template'⟩ - same
    obtain ⟨sameMethod, sameTemplate⟩ := Compile.key_injective same
    exact Prod.ext sameMethod sameTemplate

/-- A description of trees. -/
def orchard : Value :=
  let post : Value := .record [("parameters", .list [.record [("$ref", .text "#/parameters/page")]])]
  .record [("basePath", .text "/old"),
    ("paths", .record [("/trees/\x7bid\x7d", .record [("get", .record []), ("post", post)])]),
    ("definitions", .record [("Tree", .record [("type", .text "string")])]),
    ("parameters", .record [("page", .record [("name", .text "page"), ("in", .text "query"), ("type", .text "string")])])]

/-- Another description of trees, with the names of the first. -/
def forest : Value :=
  let post : Value := .record [("parameters", .list [.record [("$ref", .text "#/parameters/page")], .record [("name",
    .text "body"), ("in", .text "body"), ("schema", .record [("$ref", .text "#/definitions/Tree")])]])]
  .record [("basePath", .text "/new"), ("paths", .record [("/trees/\x7bid\x7d", .record [("post", post)])]),
    ("definitions", .record [("Tree", .record [("properties",
      .record [("left", .record [("$ref", .text "#/definitions/Tree")])])])]),
    ("parameters", .record [("page", .record [("name", .text "page"), ("in", .text "query"), ("type", .text "integer")])])]

/-- A description of an empty path. -/
def clearing : Value := .record [("paths", .record [("", .record [("head", .record [])])])]

/-- A path that is described twice, and is replaced as a whole, beside an empty one. -/
theorem registry_declared_forest :
    ∃ documents registry, Source.documents ⟨fun _ => none⟩ [.data orchard, .data forest, .data clearing] = .ok documents ∧
      Source.registry ⟨fun _ => none⟩ [.data orchard, .data forest, .data clearing] = .ok registry ∧
      registry.keys.Perm ["post/trees/\x7bid\x7d", "head"] ∧ Declares documents .head "" ∧
      ¬ Declares documents .get "/trees/\x7bid\x7d" ∧
      {pair : Method × String | Declares documents pair.1 pair.2}.encard = 2 := by
  have keyed : ((Source.documents ⟨fun _ => none⟩ [.data orchard, .data forest, .data clearing]).bind fun documents =>
        Compile.operations (Merged.ofDocuments documents)).toOption.map (List.map Operation.key) =
      some ["post/trees/\x7bid\x7d", "head"] := by
    decide +kernel
  obtain ⟨operations, ok, keys⟩ := exists_of_map_toOption keyed
  obtain ⟨documents, read, made⟩ := bind_eq_ok.1 ok
  have compiled : Source.registry ⟨fun _ => none⟩ [.data orchard, .data forest, .data clearing] =
      .ok (Registry.ofOperations operations) :=
    bind_eq_ok.2 ⟨documents, read, bind_eq_ok.2 ⟨operations, made, rfl⟩⟩
  have held : (Registry.ofOperations operations).keys.Perm ["post/trees/\x7bid\x7d", "head"] := by
    rw [← keys]
    exact (Registry.perm_of_nodup (by rw [keys]; decide)).map Operation.key
  obtain ⟨declared, -, count, -⟩ := registry_declared read compiled
  have known (key : String) : ((Registry.ofOperations operations).get? key).isSome = true ↔
      key ∈ ["post/trees/\x7bid\x7d", "head"] := by
    rw [Registry.IsBuilt.get?_isSome_iff ⟨operations, rfl⟩, held.mem_iff]
  have size : (Registry.ofOperations operations).size = 2 := by
    have length := held.length_eq
    rwa [Registry.keys, List.length_map] at length
  refine ⟨documents, _, read, compiled, held, ?_, ?_, ?_⟩
  · rw [← declared, known]
    decide
  · rw [← declared, known]
    decide
  · rw [count, size]
    rfl

/-- The last of some sources is isolated from those before it: at every template of its
document the registry of all sources holds, under every method, what it alone compiles to,
whatever paths, definitions and shared parameters the others have. -/
theorem registry_last {sources : List Source} {last : Source} {document : Document} {alone whole : Registry}
    (read : Source.document files last = .ok document) (single : Source.registry files [last] = .ok alone)
    (compiled : Source.registry files (sources ++ [last]) = .ok whole) :
    ∀ template ∈ Entries.keys document.paths, ∀ method : Method,
      whole.get? (method.name ++ template) = alone.get? (method.name ++ template) := by
  have readLast : Source.documents files [last] = .ok [document] := by
    rw [Source.documents, List.mapM_cons, read]
    rfl
  obtain ⟨every, readAll, compiled⟩ := bind_eq_ok.1 compiled
  rw [Source.documents, List.mapM_append] at readAll
  obtain ⟨documents, readFirst, readAll⟩ := bind_eq_ok.1 readAll
  obtain ⟨_, again, readAll⟩ := bind_eq_ok.1 readAll
  obtain rfl : [document] = _ := Except.ok.inj (readLast.symm.trans again)
  cases readAll
  rw [Source.registry, readLast] at single
  intro template own method
  refine Compile.get?_registry_last ?_ single compiled own method
  have together : Source.documents files (sources ++ [last]) = .ok (documents ++ [document]) := by
    rw [Source.documents, List.mapM_append]
    exact bind_eq_ok.2 ⟨documents, readFirst, bind_eq_ok.2 ⟨_, readLast, rfl⟩⟩
  exact documents_unambiguous together

/-- A description that shares a path, a definition and a parameter with the one before it. -/
theorem registry_last_forest :
    ∃ document alone whole, Source.document ⟨fun _ => none⟩ (.data forest) = .ok document ∧
      Source.registry ⟨fun _ => none⟩ [.data forest] = .ok alone ∧
      Source.registry ⟨fun _ => none⟩ [.data orchard, .data forest] = .ok whole ∧
      alone.keys = ["post/trees/\x7bid\x7d"] ∧ whole.keys = ["post/trees/\x7bid\x7d"] ∧
      ∀ method : Method, whole.get? (method.name ++ "/trees/\x7bid\x7d") = alone.get? (method.name ++ "/trees/\x7bid\x7d") := by
  have named : (Source.document ⟨fun _ => none⟩ (.data forest)).toOption.map (fun d => Entries.keys d.paths) =
      some ["/trees/\x7bid\x7d"] := by
    decide +kernel
  have keyed : (Source.registry ⟨fun _ => none⟩ [.data forest]).toOption.map Registry.keys =
      some ["post/trees/\x7bid\x7d"] := by
    decide +kernel
  have keyedAll : (Source.registry ⟨fun _ => none⟩ [.data orchard, .data forest]).toOption.map Registry.keys =
      some ["post/trees/\x7bid\x7d"] := by
    decide +kernel
  obtain ⟨document, read, paths⟩ := exists_of_map_toOption named
  obtain ⟨alone, single, keys⟩ := exists_of_map_toOption keyed
  obtain ⟨whole, compiled, keysAll⟩ := exists_of_map_toOption keyedAll
  have beside : Source.registry ⟨fun _ => none⟩ ([.data orchard] ++ [.data forest]) = .ok whole := compiled
  have isolated := registry_last read single beside
  exact ⟨document, alone, whole, read, single, compiled, keys, keysAll, isolated _ (paths ▸ List.mem_cons_self)⟩

end Source
end SwaggerGate
