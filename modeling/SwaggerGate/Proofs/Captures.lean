import SwaggerGate.Proofs.Payload
import SwaggerGate.Proofs.Routing

/-! Captured segments. A name that a path template captures is answered by a segment of the
request, whatever is sent under that name besides: requests that differ in nothing else have
one outcome, and a parameter of that name is checked with the last segment captured for it. -/
namespace SwaggerGate

/-- A registry of compiled operations, be they compiled together or in parts. -/
def Registry.Compiled (registry : Registry) : Prop :=
  ∀ o ∈ registry.operations, ∃ merged task, Compile.compileTask merged task = .ok o

namespace Registry.Compiled

theorem of_sources {files : Files} {sources : List Source} {registry : Registry}
    (ok : Source.registry files sources = .ok registry) : registry.Compiled := by
  obtain ⟨documents, -, ok⟩ := bind_eq_ok.1 ok
  intro o member
  obtain ⟨task, -, parameters, effective, ok⟩ := operation_of_registry ok member
  exact ⟨_, task, bind_eq_ok.2 ⟨parameters, effective, ok⟩⟩

theorem merged {registry other : Registry} (compiled : registry.Compiled) (laid : other.Compiled) :
    (registry.merged other).Compiled := by
  intro o member
  rw [Registry.merged, mem_ofOperations] at member
  have given := List.mem_reverse.1 (List.mem_of_find?_eq_some member)
  rcases List.mem_append.1 given with own | later
  · exact compiled o own
  · exact laid o later

theorem named {registry : Registry} (compiled : registry.Compiled) {o : Operation} (member : o ∈ registry.operations) :
    ∀ p ∈ o.parameters, p.name ≠ "" := by
  obtain ⟨merged, task, ok⟩ := compiled o member
  obtain ⟨parameters, effective, ok⟩ := bind_eq_ok.1 ok
  obtain ⟨_, _, -, -, -, rfl, -⟩ := Compile.operation_schemas ok
  exact Compile.named_of_effectiveParameters effective

end Registry.Compiled

namespace Query

/-- The first key of a name is empty only if the name is. -/
theorem keys_eq_cons {name : String} (named : name ≠ "") : ∃ root rest, keys name = root :: rest ∧ root ≠ "" := by
  unfold keys
  split
  · exact ⟨name, [], rfl, named⟩
  · exact ⟨name, [], rfl, named⟩
  next first rest filled given =>
    refine ⟨String.ofList first, _, rfl, fun empty => filled ?_⟩
    simpa using congrArg String.toList empty

/-- A look-up by a name depends on the entries of the top level only. -/
theorem lookup?_congr {params others : List (Atom × Value)} {name : String} (named : name ≠ "")
    (alike : ∀ key, params.lookup key = others.lookup key) : lookup? params name = lookup? others name := by
  obtain ⟨root, rest, path, filled⟩ := keys_eq_cons named
  rw [lookup?, lookup?, path, find?, find?, if_neg filled, if_neg filled, alike]

end Query

namespace Routing

/-- The template segment that captures under a name. -/
def capturing (name : String) : String := "\x7b" ++ name ++ "\x7d"

/-- Whether an operation captures a segment under a name. -/
def Captures (o : Operation) (name : String) : Prop := capturing name ∈ o.templateSegments

theorem captureName?_eq_some_iff {segment name : String} :
    captureName? segment = some name ↔ segment = capturing name := by
  constructor
  · intro found
    unfold captureName? at found
    split at found
    next rest opened =>
      split at found
      next closed =>
        cases found
        have inside := List.dropLast_append_getLast? _ closed
        rw [← String.toList_inj, capturing, opened]
        simp [inside]
      next => cases found
    next => cases found
  · rintro rfl
    simp [captureName?, capturing]

/-- What a pair of a template segment and a segment of a request captures. -/
def capture? (pair : String × String) : Option (Atom × Value) :=
  (captureName? pair.1).map fun name => (.text name, .text pair.2)

theorem capture?_eq_some_iff {template segment name : String} {v : Value} :
    capture? (template, segment) = some (.text name, v) ↔ template = capturing name ∧ v = .text segment := by
  simp [capture?, captureName?_eq_some_iff, eq_comm (a := v)]

/-- The template segments of an operation with those of a request behind the base path. -/
def pairs (o : Operation) (segments : List String) : List (String × String) :=
  o.templateSegments.zip (segments.drop o.baseSegments.length)

variable {o : Operation} {method : String} {segments : List String}

theorem captures_eq (fits : Fits o method segments) :
    captures o segments = Entries.ofList ((pairs o segments).filterMap capture?) := by
  rw [captures, stripBase, if_pos fits.base]
  congr

theorem exists_pair (fits : Fits o method segments) {template : String} {i : Nat}
    (here : o.templateSegments[i]? = some template) :
    ∃ segment, segments[o.baseSegments.length + i]? = some segment ∧
      (pairs o segments)[i]? = some (template, segment) := by
  have inside : i < (segments.drop o.baseSegments.length).length := by
    rw [← fits.template.length_eq]
    exact (List.getElem?_eq_some_iff.1 here).1
  have actual := List.getElem?_eq_getElem inside
  exact ⟨_, List.getElem?_drop ▸ actual, List.getElem?_zip_eq_some.2 ⟨here, actual⟩⟩

/-- A name is looked up among what pairs capture. The last pair with its template segment counts. -/
theorem lookup_capture? {front back : List (String × String)} {name segment : String}
    (last : ∀ pair ∈ back, pair.1 ≠ capturing name) :
    ((front ++ (capturing name, segment) :: back).filterMap capture?).reverse.lookup (.text name) =
      some (.text segment) := by
  have passed : (back.filterMap capture?).reverse.lookup (.text name) = none := by
    rw [Option.eq_none_iff_forall_ne_some]
    intro v found
    have member := List.mem_reverse.1 (Entries.mem_of_lookup_eq_some found)
    obtain ⟨⟨template, actual⟩, inside, captured⟩ := List.mem_filterMap.1 member
    exact last _ inside (capture?_eq_some_iff.1 captured).1
  have here : capture? (capturing name, segment) = some (.text name, .text segment) :=
    capture?_eq_some_iff.2 ⟨rfl, rfl⟩
  rw [List.filterMap_append, List.filterMap_cons_some here, List.reverse_append, List.reverse_cons, List.append_assoc,
    List.lookup_append, passed, Option.none_or, List.singleton_append, Entries.lookup_cons_if, if_pos rfl]

/-- Under a name that an operation captures stands the segment at the last place of it. -/
theorem lookup_captures (fits : Fits o method segments) {name : String} {i : Nat}
    (here : o.templateSegments[i]? = some (capturing name))
    (last : ∀ j, i < j → o.templateSegments[j]? ≠ some (capturing name)) :
    ∃ segment, segments[o.baseSegments.length + i]? = some segment ∧
      (captures o segments).lookup (.text name) = some (.text segment) := by
  obtain ⟨segment, actual, pair⟩ := exists_pair fits here
  obtain ⟨paired, pair⟩ := List.getElem?_eq_some_iff.1 pair
  have split : pairs o segments =
      (pairs o segments).take i ++ (capturing name, segment) :: (pairs o segments).drop (i + 1) := by
    rw [← pair, ← List.drop_eq_getElem_cons paired, List.take_append_drop]
  refine ⟨segment, actual, ?_⟩
  rw [captures_eq fits, Entries.lookup_ofList, split]
  apply lookup_capture?
  intro pair member same
  obtain ⟨k, found⟩ := List.mem_iff_getElem?.1 member
  rw [List.getElem?_drop] at found
  have later := (List.getElem?_zip_eq_some.1 found).1
  exact last (i + 1 + k) (by omega) (same ▸ later)

/-- Whatever an operation captures under a name is found there. -/
theorem exists_lookup_captures (fits : Fits o method segments) {name : String} (captured : Captures o name) :
    ∃ v, (captures o segments).lookup (.text name) = some v := by
  obtain ⟨i, here⟩ := List.mem_iff_getElem?.1 captured
  obtain ⟨segment, -, pair⟩ := exists_pair fits here
  have taken : (Atom.text name, Value.text segment) ∈ (pairs o segments).filterMap capture? :=
    List.mem_filterMap.2 ⟨_, List.mem_of_getElem? pair, capture?_eq_some_iff.2 ⟨rfl, rfl⟩⟩
  rw [← Entries.mem_keys_iff, captures_eq fits, Entries.mem_keys_ofList]
  exact List.mem_map_of_mem taken

end Routing

namespace Validation

open Routing

/-- The parameters of two requests of one path agree if what they send agrees under all names
that are not captured. -/
theorem lookup_parametersOf {o : Operation} {a b : Request} (fits : Fits o a.method a.segments)
    (segments : a.segments = b.segments)
    (agree : ∀ key, (∀ name, key = .text name → ¬Captures o name) → a.params.lookup key = b.params.lookup key)
    (key : Atom) : (parametersOf o a).lookup key = (parametersOf o b).lookup key := by
  have distinct := nodup_keys_captures o a.segments
  rw [parametersOf, parametersOf, ← segments, Entries.lookup_putAll, Entries.lookup_putAll,
    Entries.lookup_reverse_of_nodup distinct]
  by_cases captured : ∃ name, key = .text name ∧ Captures o name
  · obtain ⟨name, rfl, member⟩ := captured
    obtain ⟨v, found⟩ := exists_lookup_captures fits member
    rw [found, Option.some_or, Option.some_or]
  · rw [agree key fun name same member => captured ⟨name, same, member⟩]

/-- Captured segments cannot be shadowed. Requests of one method, path and body whose
parameters agree under every key but the names that the operation answering them captures have
one outcome. A parameter whose name is captured, without brackets, has the segment at the last
place that captures it for its value, counted behind the base path, and is checked with that. -/
theorem captures_unshadowed {registry : Registry} (compiled : registry.Compiled) :
    (∀ a b : Request, a.method = b.method → a.segments = b.segments → a.body = b.body →
      (∀ o, route registry a.method a.segments = some o → ∀ key, (∀ name, key = .text name → ¬Captures o name) →
        a.params.lookup key = b.params.lookup key) →
      validate registry a = validate registry b) ∧
    ∀ (request : Request) (o : Operation), route registry request.method request.segments = some o →
      ∀ p ∈ o.parameters, '[' ∉ p.name.toList → ∀ i, o.templateSegments[i]? = some (capturing p.name) →
        (∀ j, i < j → o.templateSegments[j]? ≠ some (capturing p.name)) →
        ∃ segment, request.segments[o.baseSegments.length + i]? = some segment ∧
          Query.lookup? (parametersOf o request) p.name = some (.text segment) ∧
          ∀ items, Parameters.descriptor? p = some items →
            Parameters.parameterIssue? (parametersOf o request) p = Parameters.check p.name items (.text segment) := by
  constructor
  · intro a b method segments body agree
    cases routed : route registry a.method a.segments with
    | none =>
      have routed' : route registry b.method b.segments = none := by rw [← method, ← segments, routed]
      rw [validate, validate, judge, judge, routed, routed']
    | some o =>
      have routed' : route registry b.method b.segments = some o := by rw [← method, ← segments, routed]
      obtain ⟨member, fits⟩ := mem_of_route routed
      have alike := lookup_parametersOf fits segments (agree o routed)
      have each : ∀ p ∈ o.parameters, Parameters.parameterIssue? (parametersOf o a) p =
          Parameters.parameterIssue? (parametersOf o b) p := by
        intro p declared
        rw [Parameters.parameterIssue?, Parameters.parameterIssue?,
          Query.lookup?_congr (compiled.named member p declared) alike]
      rw [validate_of_routed routed, validate_of_routed routed', body, Parameters.validate, Parameters.validate,
        Parameters.firstIssue_congr each]
  · intro request o routed p declared plain i here last
    obtain ⟨member, fits⟩ := mem_of_route routed
    obtain ⟨segment, actual, captured⟩ := lookup_captures fits here last
    have value : Query.lookup? (parametersOf o request) p.name = some (.text segment) := by
      rw [Query.lookup?_of_plain plain (compiled.named member p declared), parametersOf, Entries.lookup_putAll,
        Entries.lookup_reverse_of_nodup (nodup_keys_captures o request.segments), captured, Option.some_or,
        Option.filter_some, if_pos (by simp)]
    refine ⟨segment, actual, value, fun items described => ?_⟩
    rw [Parameters.parameterIssue?, described, value]

/-- A description of a path that captures one name twice, behind a base path, and of parameters
of that name and of another. -/
def renamed : Value :=
  .record [("basePath", .text "/v1"), ("paths", .record [("/\x7bid\x7d/to/\x7bid\x7d", .record [("get", .record [("parameters",
    .list [.record [("name", .text "tag"), ("in", .text "query"), ("type", .text "string")],
      .record [("name", .text "id"), ("in", .text "path"), ("type", .text "integer")]])])])])]

/-- The captured name is sent besides, as a list and as an object. -/
theorem captures_unshadowed_renamed :
    ∃ registry o p, Source.registry ⟨fun _ => none⟩ [.data renamed] = .ok registry ∧
      route registry "GET" ["v1", "5", "to", "x"] = some o ∧ p ∈ o.parameters ∧ p.name = "id" ∧
      let a : Request := ⟨"GET", ["v1", "5", "to", "x"], [(.text "id", .list [.text "1"]), (.text "tag", .text "t")], .null⟩
      let b : Request := ⟨"GET", ["v1", "5", "to", "x"], [(.text "tag", .text "t"), (.text "id", .obj [])], .null⟩
      validate registry a = validate registry b ∧ Query.lookup? (parametersOf o a) "id" = some (.text "x") := by
  have tested : (Source.registry ⟨fun _ => none⟩ [.data renamed]).toOption.any (fun registry =>
      (route registry "GET" ["v1", "5", "to", "x"]).any fun o => o.baseSegments == ["v1"] &&
        o.templateSegments == [capturing "id", "to", capturing "id"] && o.parameters.any fun p => p.name == "id") = true := by
    decide +kernel
  obtain ⟨registry, ok, tested⟩ := any_toOption_eq_true.1 tested
  obtain ⟨o, routed, tested⟩ := (Option.any_eq_true _ _).1 tested
  simp only [Bool.and_eq_true, beq_iff_eq, List.any_eq_true] at tested
  obtain ⟨⟨base, template⟩, p, declared, named⟩ := tested
  refine ⟨registry, o, p, ok, routed, declared, named, ?_⟩
  intro a b
  obtain ⟨alike, value⟩ := captures_unshadowed (Registry.Compiled.of_sources ok)
  constructor
  · apply alike a b rfl rfl rfl
    intro o' routed' key free
    obtain rfl : o' = o := Option.some.inj (routed'.symm.trans routed)
    have other : key ≠ .text "id" := by
      intro same
      apply free "id" same
      simp [Captures, template]
    simp [a, b, Entries.lookup_cons_if, other]
  · have here : o.templateSegments[2]? = some (capturing p.name) := by rw [template, named]; rfl
    have last : ∀ j, 2 < j → o.templateSegments[j]? ≠ some (capturing p.name) := by
      intro j later
      rw [template, List.getElem?_eq_none later]
      simp
    obtain ⟨segment, actual, found, -⟩ := value a o routed p declared (by rw [named]; decide) 2 here last
    rw [base] at actual
    obtain rfl : segment = "x" := by simpa [a] using actual.symm
    rw [← named, found]

end Validation
end SwaggerGate
