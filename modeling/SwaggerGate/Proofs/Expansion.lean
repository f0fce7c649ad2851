import SwaggerGate.Proofs.Precedence
import SwaggerGate.Proofs.References

/-! Parameters of paths and shared parameters, written out. Where methods take parameters from
their path or refer to shared ones, they compile as if each of them declared all its parameters
itself and in full; what it declares itself stands in place of what its path declares. -/
namespace SwaggerGate

namespace Merged

/-- The parameter that an entry stands for: the shared one that it names, or itself. -/
def dereferenced (merged : Merged) (p : Parameter) : Parameter :=
  match p.ref with
  | none => p
  | some ref =>
    ((Schema.refName "parameters" ref).toOption.bind fun name => merged.parameters.lookup name).getD p

/-- What a method declares itself, in full. -/
def own (merged : Merged) (endpoint : Endpoint) : List Parameter := endpoint.parameters.map merged.dereferenced

/-- What a path declares for all its methods, in full. -/
def common (merged : Merged) (path : PathItem) : List Parameter := path.parameters.map merged.dereferenced

/-- All parameters of a method: those of its path that have another name or another location than
each of its own, and then its own. -/
def declared (merged : Merged) (path : PathItem) (endpoint : Endpoint) : List Parameter :=
  (merged.common path).filter (fun p => (merged.own endpoint).all fun q => q.name ≠ p.name ∨ q.location ≠ p.location)
    ++ merged.own endpoint

/-- A path in which each method declares all its parameters itself. -/
def expandedPath (merged : Merged) (path : PathItem) : PathItem :=
  { path with
    parameters := []
    endpoints := path.endpoints.map fun (method, endpoint) =>
      (method, { endpoint with parameters := merged.declared path endpoint }) }

/-- Documents in which each method declares all its parameters itself, and none is shared. -/
def expanded (merged : Merged) : Merged :=
  { merged with
    paths := merged.paths.map fun (template, basePath, path) => (template, basePath, merged.expandedPath path)
    parameters := [] }

end Merged

namespace Compile

/-- Whether a parameter stands for itself, and has a name and a location. -/
structure IsPlain (p : Parameter) : Prop where
  ref : p.ref = none
  named : p.name ≠ ""
  located : p.location ≠ none

variable {merged : Merged} {place : String}

theorem lookUp_plain {p : Parameter} (plain : IsPlain p) (shared : List (String × Parameter)) :
    lookUp shared place p = .ok p :=
  lookUp_eq_ok.2 ⟨⟨plain.named, plain.located⟩, .inl ⟨plain.ref, rfl⟩⟩

theorem lookUp_eq_dereferenced {p found : Parameter} (ok : lookUp merged.parameters place p = .ok found) :
    found = merged.dereferenced p ∧ IsPlain found := by
  obtain ⟨⟨named, located⟩, ⟨direct, rfl⟩ | ⟨ref, name, given, names, there, plain⟩⟩ := lookUp_eq_ok.1 ok
  · refine ⟨?_, direct, named, located⟩
    rw [Merged.dereferenced, direct]
  · refine ⟨?_, plain, named, located⟩
    rw [Merged.dereferenced, given]
    simp only [names, Except.toOption, Option.bind_some, there, Option.getD_some]

theorem mapM_lookUp {l found : List Parameter} (ok : l.mapM (lookUp merged.parameters place) = .ok found) :
    found = l.map merged.dereferenced ∧ ∀ p ∈ found, IsPlain p := by
  have each := forall₂_of_mapM ok
  clear ok
  induction each with
  | nil => exact ⟨rfl, List.forall_mem_nil _⟩
  | cons head _ ih =>
    obtain ⟨rfl, plain⟩ := lookUp_eq_dereferenced head
    exact ⟨by rw [List.map_cons, ← ih.1], List.forall_mem_cons.2 ⟨plain, ih.2⟩⟩

theorem mapM_lookUp_plain {l : List Parameter} (plain : ∀ p ∈ l, IsPlain p) (shared : List (String × Parameter)) :
    l.mapM (lookUp shared place) = .ok l := by
  apply mapM_of_forall₂
  rw [List.forall₂_same]
  exact fun p member => lookUp_plain (plain p member) shared

/-- What overrides by name and location is what a method declares in full. -/
theorem override_eq_declared (merged : Merged) (path : PathItem) (endpoint : Endpoint) :
    override (merged.common path) (merged.own endpoint) = merged.declared path endpoint := by
  rw [override, Merged.declared]
  congr 1
  refine List.filter_congr fun p _ => ?_
  rw [Bool.eq_iff_iff]
  simp [identity, ← not_and_or]

theorem effectiveParameters_eq_declared {path : PathItem} {endpoint : Endpoint} {parameters : List Parameter}
    (ok : effectiveParameters merged place path endpoint = .ok parameters) :
    parameters = merged.declared path endpoint ∧ ∀ p ∈ parameters, IsPlain p := by
  obtain ⟨common, own, ofPath, ofEndpoint, rfl⟩ := effectiveParameters_eq_ok.1 ok
  obtain ⟨rfl, plainCommon⟩ := mapM_lookUp ofPath
  obtain ⟨rfl, plainOwn⟩ := mapM_lookUp ofEndpoint
  refine ⟨override_eq_declared merged path endpoint, fun p member => ?_⟩
  rcases List.mem_append.1 member with inherited | declared
  · exact plainCommon p (List.mem_of_mem_filter inherited)
  · exact plainOwn p declared

theorem effectiveParameters_expanded {path : PathItem} {endpoint : Endpoint} {parameters : List Parameter}
    (ok : effectiveParameters merged place path endpoint = .ok parameters) :
    effectiveParameters merged.expanded place (merged.expandedPath path)
      { endpoint with parameters := merged.declared path endpoint } = .ok parameters := by
  obtain ⟨rfl, plain⟩ := effectiveParameters_eq_declared ok
  exact bind_eq_ok.2 ⟨[], rfl, bind_eq_ok.2 ⟨_, mapM_lookUp_plain plain _, rfl⟩⟩

/-- A task for a method that declares all its parameters itself. -/
def Task.expanded (merged : Merged) (task : Task) : Task :=
  { task with
    path := merged.expandedPath task.path
    endpoint := { task.endpoint with parameters := merged.declared task.path task.endpoint } }

theorem tasks_expanded (merged : Merged) : tasks merged.expanded = (tasks merged).map (Task.expanded merged) := by
  simp only [tasks, Merged.expanded, Merged.expandedPath, List.flatMap_map, List.map_flatMap, List.map_map]
  rfl

theorem compileTask_expanded {task : Task} {o : Operation} (ok : compileTask merged task = .ok o) :
    compileTask merged.expanded (task.expanded merged) = .ok o := by
  obtain ⟨parameters, effective, ok⟩ := bind_eq_ok.1 ok
  exact bind_eq_ok.2 ⟨parameters, effectiveParameters_expanded effective, ok⟩

theorem operations_expanded {compiled : List Operation} (ok : operations merged = .ok compiled) :
    operations merged.expanded = .ok compiled := by
  apply mapM_of_forall₂
  rw [tasks_expanded, List.forall₂_map_left_iff]
  exact (forall₂_of_mapM ok).imp fun _ _ => compileTask_expanded

/-! ### Overriding -/

theorem mem_override (shared own : List Parameter) (key : String × Option Location) :
    key ∈ (override shared own).map identity ↔ key ∈ own.map identity ∨ key ∈ shared.map identity := by
  rw [override, List.map_append, List.mem_append]
  constructor
  · rintro (inherited | declared)
    · obtain ⟨p, member, rfl⟩ := List.mem_map.1 inherited
      exact .inr (List.mem_map_of_mem (List.mem_of_mem_filter member))
    · exact .inl declared
  · rintro (declared | inherited)
    · exact .inr declared
    · obtain ⟨p, member, rfl⟩ := List.mem_map.1 inherited
      by_cases overridden : identity p ∈ own.map identity
      · exact .inr overridden
      · exact .inl (List.mem_map_of_mem (List.mem_filter.2 ⟨member, by simpa using overridden⟩))

/-- Of one name and location there are the own parameters if there are any, and else the shared. -/
theorem filter_override (shared own : List Parameter) (key : String × Option Location) :
    (override shared own).filter (fun p => identity p = key) =
      if key ∈ own.map identity then own.filter fun p => identity p = key
      else shared.filter fun p => identity p = key := by
  rw [override, List.filter_append, List.filter_filter]
  split
  next declared =>
    have overridden : shared.filter (fun p => identity p = key && !(own.map identity).contains (identity p)) = [] := by
      refine List.filter_eq_nil_iff.2 fun p _ kept => ?_
      obtain ⟨same, free⟩ := (Bool.and_eq_true _ _).mp kept
      obtain rfl := of_decide_eq_true same
      simp only [List.contains_iff_mem.2 declared] at free
      cases free
    rw [overridden, List.nil_append]
  next free =>
    have none_ : own.filter (fun p => identity p = key) = [] :=
      List.filter_eq_nil_iff.2 fun p member same => free (of_decide_eq_true same ▸ List.mem_map_of_mem member)
    rw [none_, List.append_nil]
    refine List.filter_congr fun p _ => ?_
    by_cases same : identity p = key
    · simpa [same] using free
    · simp [same]

/-- Documents compile to the same registry if each method declares all its parameters itself
and in full: those of its path that have another name or another location than each of its
own, and then its own. Under each name and location that its path or it declares, an operation
has what the method declares if that is anything, and otherwise what the path declares. -/
theorem registry_expanded {documents : List Document} {registry : Registry}
    (compiled : Compile.registry documents = .ok registry) :
    (operations (Merged.ofDocuments documents).expanded).map Registry.ofOperations = .ok registry ∧
    ∀ o ∈ registry.operations, ∃ path endpoint,
      (Merged.ofDocuments documents).paths.lookup o.template = some (o.basePath, path) ∧
      (o.method, endpoint) ∈ path.endpoints ∧
      let own := (Merged.ofDocuments documents).own endpoint
      let common := (Merged.ofDocuments documents).common path
      ∀ key, (key ∈ o.parameters.map identity ↔ key ∈ own.map identity ∨ key ∈ common.map identity) ∧
        o.parameters.filter (fun p => identity p = key) =
          if key ∈ own.map identity then own.filter fun p => identity p = key
          else common.filter fun p => identity p = key := by
  refine ⟨?_, fun o member => ?_⟩
  · obtain ⟨all, ok, made⟩ := bind_eq_ok.1 compiled
    exact map_eq_ok.2 ⟨all, operations_expanded ok, Except.ok.inj made⟩
  obtain ⟨task, listed, parameters, effective, ok⟩ := operation_of_registry compiled member
  have becomes : compileTask (Merged.ofDocuments documents) task = .ok o := bind_eq_ok.2 ⟨parameters, effective, ok⟩
  obtain ⟨named, placed, based⟩ := compileTask_placed becomes
  obtain ⟨-, -, -, -, -, same, -⟩ := operation_schemas ok
  obtain ⟨⟨template, basePath, path⟩, inside, listed⟩ := List.mem_flatMap.1 listed
  obtain ⟨⟨method, endpoint⟩, declares, rfl⟩ := List.mem_map.1 listed
  refine ⟨path, endpoint, ?_, named ▸ declares, fun key => ?_⟩
  · rw [placed, based]
    exact Entries.lookup_eq_some_of_mem (Merged.nodup_paths documents) inside
  rw [same, (effectiveParameters_eq_declared effective).1, ← override_eq_declared]
  exact ⟨mem_override _ _ key, filter_override _ _ key⟩

/-- A document in which a path refers to a shared parameter that its method declares anew, and
declares one anew that its method refers to. -/
def shelves : Value :=
  let parameter (name type : String) : Value :=
    .record [("name", .text name), ("in", .text "query"), ("type", .text type)]
  let ref (name : String) : Value := .record [("$ref", .text ("#/parameters/" ++ name))]
  let get : Value := .record [("parameters", .list [parameter "limit" "string", ref "Id"])]
  .record [("paths", .record [("/shelves", .record
      [("parameters", .list [ref "Limit", parameter "id" "string", parameter "page" "integer"]), ("get", get)])]),
    ("parameters", .record [("Limit", parameter "limit" "integer"), ("Id", parameter "id" "integer")])]

/-- What a method declares takes the place of a reference of its path, and the other way round. -/
theorem registry_expanded_shelves :
    ∃ documents registry, Source.documents ⟨fun _ => none⟩ [.data shelves] = .ok documents ∧
      Compile.registry documents = .ok registry ∧
      (operations (Merged.ofDocuments documents).expanded).map Registry.ofOperations = .ok registry ∧
      registry.operations.map (fun o => o.parameters.map fun p => (p.name, p.type)) =
        [[("page", some .integer), ("limit", some .string), ("id", some .integer)]] ∧
      (Merged.ofDocuments documents).expanded.parameters.length = 0 ∧
      (Merged.ofDocuments documents).parameters.length = 2 := by
  have tested : (Source.documents ⟨fun _ => none⟩ [.data shelves]).toOption.any (fun documents =>
      (Merged.ofDocuments documents).parameters.length = 2 ∧ (Compile.registry documents).toOption.any fun registry =>
        registry.operations.map (fun o => o.parameters.map fun p => (p.name, p.type)) =
          [[("page", some .integer), ("limit", some .string), ("id", some .integer)]]) = true := by
    decide +kernel
  obtain ⟨documents, read, tested⟩ := any_toOption_eq_true.1 tested
  obtain ⟨shared, tested⟩ := of_decide_eq_true tested
  obtain ⟨registry, compiled, tested⟩ := any_toOption_eq_true.1 tested
  exact ⟨documents, registry, read, compiled, (registry_expanded compiled).1, of_decide_eq_true tested, rfl, shared⟩

end Compile
end SwaggerGate
