import SwaggerGate.Proofs.Entries
import SwaggerGate.Proofs.Fault
import SwaggerGate.Proofs.Query
import SwaggerGate.Source
import SwaggerGate.Validation

/-! Required parameters. A request without a query parameter that its operation requires is
not accepted, unless the parameter has no type or a captured segment answers to its name. -/
namespace SwaggerGate

namespace Query

/-- Under a first key, a mapping that is laid over another answers alone if it has the key. -/
theorem find?_putAll {params laid : List (Atom × Value)} (distinct : (Entries.keys laid).Nodup) {root : String}
    (named : root ≠ "") (rest : List String) :
    find? (root :: rest) (.obj (Entries.putAll params laid)) =
      if (laid.lookup (.text root)).isSome then find? (root :: rest) (.obj laid)
      else find? (root :: rest) (.obj params) := by
  have merged := Entries.lookup_putAll params laid (.text root)
  rw [Entries.lookup_reverse_of_nodup distinct] at merged
  cases found : laid.lookup (.text root) with
  | none => simp [find?, named, merged, found]
  | some v => simp [find?, named, merged, found]

theorem lookup?_putAll_eq_none {params laid : List (Atom × Value)} (distinct : (Entries.keys laid).Nodup)
    {name : String} (absent : lookup? params name = none) (apart : lookup? laid name = none) :
    lookup? (Entries.putAll params laid) name = none := by
  unfold lookup? at absent apart ⊢
  cases path : keys name with
  | nil => simp [path, find?] at absent
  | cons root rest =>
    rw [path] at absent apart
    have named : root ≠ "" := by
      rintro rfl
      simp [find?] at absent
    rw [find?_putAll distinct named]
    split
    · exact apart
    · exact absent

end Query

theorem Routing.nodup_keys_captures (o : Operation) (segments : List String) :
    (Entries.keys (captures o segments)).Nodup :=
  Entries.nodup_keys_ofList _

namespace Parameters

theorem firstIssue_cons {α : Type} (check : α → Except Fault (Option Issue)) (x : α) (rest : List α) :
    firstIssue check (x :: rest) =
      match check x with
      | .ok none => firstIssue check rest
      | found => found := rfl

theorem firstIssue_of_mem {α : Type} {check : α → Except Fault (Option Issue)} {l : List α}
    (passed : firstIssue check l = .ok none) : ∀ x ∈ l, check x = .ok none := by
  induction l with
  | nil => simp
  | cons x rest ih =>
    rw [firstIssue_cons] at passed
    split at passed
    next first =>
      intro y member
      rcases List.mem_cons.1 member with rfl | later
      · exact first
      · exact ih passed y later
    next other => exact absurd passed other

theorem firstIssue_append {α : Type} {check : α → Except Fault (Option Issue)} {front : List α}
    (passed : ∀ x ∈ front, check x = .ok none) (back : List α) :
    firstIssue check (front ++ back) = firstIssue check back := by
  induction front with
  | nil => rfl
  | cons x rest ih =>
    rw [List.cons_append, firstIssue_cons, passed x List.mem_cons_self]
    exact ih fun y member => passed y (List.mem_cons_of_mem _ member)

theorem firstIssue_eq_none {α : Type} {check : α → Except Fault (Option Issue)} {l : List α}
    (passed : ∀ x ∈ l, check x = .ok none) : firstIssue check l = .ok none := by
  have whole := firstIssue_append passed []
  rwa [List.append_nil] at whole

/-- A search ends at the first member that does not pass, with what the check finds there. -/
theorem firstIssue_eq_iff {α : Type} {check : α → Except Fault (Option Issue)} {l : List α}
    {found : Except Fault (Option Issue)} (ends : found ≠ .ok none) :
    firstIssue check l = found ↔
      ∃ front x back, l = front ++ x :: back ∧ (∀ u ∈ front, check u = .ok none) ∧ check x = found := by
  constructor
  · intro same
    induction l with
    | nil => exact absurd same.symm ends
    | cons x rest ih =>
      rw [firstIssue_cons] at same
      split at same
      next first =>
        obtain ⟨front, y, back, rfl, passed, stops⟩ := ih same
        exact ⟨x :: front, y, back, rfl, List.forall_mem_cons.2 ⟨first, passed⟩, stops⟩
      next => exact ⟨[], x, rest, rfl, List.forall_mem_nil _, same⟩
  · rintro ⟨front, x, back, rfl, passed, stops⟩
    rw [firstIssue_append passed, firstIssue_cons, stops]
    split
    next => exact absurd rfl ends
    next => rfl

/-- A search for the first issue depends on what the check finds of each member. -/
theorem firstIssue_congr {α : Type} {check other : α → Except Fault (Option Issue)} {l : List α}
    (same : ∀ x ∈ l, check x = other x) : firstIssue check l = firstIssue other l := by
  induction l with
  | nil => rfl
  | cons x rest ih =>
    rw [firstIssue_cons, firstIssue_cons, same x List.mem_cons_self, ih fun y member => same y (List.mem_cons_of_mem _ member)]

theorem firstIssue_map {α β : Type} (check : β → Except Fault (Option Issue)) (f : α → β) (l : List α) :
    firstIssue check (l.map f) = firstIssue (fun x => check (f x)) l := by
  induction l with
  | nil => rfl
  | cons x rest ih => rw [List.map_cons, firstIssue_cons, firstIssue_cons, ih]

/-- Whether a parameter must be in the query, and says of which type it is. -/
structure RequiredInQuery (q : Parameter) : Prop where
  location : q.location = some .query
  required : q.required = true
  typed : q.type.isSome = true

theorem RequiredInQuery.issue {q : Parameter} (given : RequiredInQuery q) {params : List (Atom × Value)}
    (absent : Query.lookup? params q.name = none) :
    parameterIssue? params q = .ok (some ⟨missingMessage q.name, "#"⟩) := by
  obtain ⟨type, typed⟩ := Option.isSome_iff_exists.1 given.typed
  simp [parameterIssue?, descriptor?, given.location, typed, absent, given.required]

theorem validate_of_absent {parameters front back : List Parameter} {params : List (Atom × Value)} {q : Parameter}
    (split : parameters = front ++ q :: back) (given : RequiredInQuery q)
    (absent : Query.lookup? params q.name = none) (passed : ∀ p ∈ front, parameterIssue? params p = .ok none) :
    validate parameters params = .ok (.invalid ⟨missingMessage q.name, "#"⟩) := by
  rw [validate, split, firstIssue_append passed, firstIssue_cons, given.issue absent]
  rfl

theorem validate_ne_ok_of_absent {parameters : List Parameter} {params : List (Atom × Value)} {q : Parameter}
    (member : q ∈ parameters) (given : RequiredInQuery q) (absent : Query.lookup? params q.name = none) :
    validate parameters params ≠ .ok .ok := by
  intro accepted
  have passed : firstIssue (parameterIssue? params) parameters = .ok none := by
    unfold validate at accepted
    cases found : firstIssue (parameterIssue? params) parameters with
    | error fault => simp [found, Except.map] at accepted
    | ok issue =>
      cases issue with
      | none => rfl
      | some issue => simp [found, Except.map] at accepted
  have none_ := firstIssue_of_mem passed q member
  rw [given.issue absent] at none_
  cases none_

end Parameters

theorem Outcome.issues_ne_nil {outcome : Outcome} (refused : outcome ≠ .ok) (known : outcome ≠ .notFound) :
    outcome.issues ≠ [] := by
  cases outcome with
  | ok => exact absurd rfl refused
  | notFound => exact absurd rfl known
  | invalid issue => simp [issues]
  | several first second more operation => simp [issues]

theorem Outcome.ofIssues_ne_notFound (operation : String) (issues : List Issue) :
    ofIssues operation issues ≠ .notFound := by
  match issues with
  | [] | [_] | _ :: _ :: _ => simp [ofIssues]

theorem Body.validate_ne_notFound (o : Operation) (body : Value) : validate o body ≠ .ok .notFound := by
  unfold validate
  split
  · simp
  · intro found
    cases listed : issues o.bodySchema (if body = .null then .obj [] else body) with
    | error fault => simp [listed, Except.map] at found
    | ok issues =>
      simp only [listed, Except.map, Except.ok.injEq] at found
      exact Outcome.ofIssues_ne_notFound _ _ found

theorem Parameters.validate_ne_notFound (parameters : List Parameter) (params : List (Atom × Value)) :
    validate parameters params ≠ .ok .notFound := by
  unfold validate
  cases firstIssue (parameterIssue? params) parameters with
  | error fault => simp [Except.map]
  | ok issue => cases issue <;> simp [Except.map]

namespace Validation

open Parameters

variable {registry : Registry} {request : Request} {o : Operation}

theorem validate_of_routed (routed : Routing.route registry request.method request.segments = some o) :
    validate registry request = Body.validate o request.body >>= fun body =>
      if body = .ok then Parameters.validate o.parameters (parametersOf o request) else .ok body := by
  unfold validate judge
  simp only [routed]
  cases Body.validate o request.body with
  | error fault => rfl
  | ok body =>
    by_cases passed : body = .ok
    · subst passed
      cases validated : Parameters.validate o.parameters (parametersOf o request) with
      | error fault => simp [bind, Except.bind, Except.map]
      | ok outcome =>
        by_cases accepted : outcome = .ok <;>
          simp [bind, Except.bind, accepted, Except.map, Verdict.outcome, pure, Except.pure]
    · simp [bind, Except.bind, passed, Except.map, Verdict.outcome, pure, Except.pure]

/-- A request without a required query parameter is not accepted, and what it is told is an
issue. If its body and all parameters before that one pass, the issue is that it is missing. -/
theorem rejects_absent_query_parameter {q : Parameter}
    (routed : Routing.route registry request.method request.segments = some o) (member : q ∈ o.parameters)
    (given : RequiredInQuery q) (absent : Query.lookup? request.params q.name = none)
    (uncaptured : Query.lookup? (Routing.captures o request.segments) q.name = none) :
    (∀ outcome, validate registry request = .ok outcome → outcome.issues ≠ []) ∧
    ∀ front back, o.parameters = front ++ q :: back → Body.validate o request.body = .ok .ok →
      (∀ p ∈ front, parameterIssue? (parametersOf o request) p = .ok none) →
      validate registry request = .ok (.invalid ⟨missingMessage q.name, "#"⟩) := by
  have missing : Query.lookup? (parametersOf o request) q.name = none :=
    Query.lookup?_putAll_eq_none (Routing.nodup_keys_captures o request.segments) absent uncaptured
  rw [validate_of_routed routed]
  constructor
  · intro outcome ok
    obtain ⟨body, validated, ok⟩ := bind_eq_ok.1 ok
    -- a refused body is answered before any parameter is looked at
    by_cases passed : body = .ok
    · rw [if_pos passed] at ok
      apply Outcome.issues_ne_nil
      · rintro rfl
        exact validate_ne_ok_of_absent member given missing ok
      · rintro rfl
        exact Parameters.validate_ne_notFound _ _ ok
    · rw [if_neg passed] at ok
      cases ok
      apply Outcome.issues_ne_nil passed
      rintro rfl
      exact Body.validate_ne_notFound _ _ validated
  · intro front back split body passed
    rw [body]
    exact validate_of_absent split given missing passed

/-- A description of one path with one method, which requires `q` in the query. -/
def requiring (template : String) (type : List (String × Value)) : Value :=
  let q : Value := .record ([("name", .text "q"), ("in", .text "query"), ("required", .bool true)] ++ type)
  .record [("paths", .record [(template, .record [("get", .record [("parameters", .list [q])])])])]

/-- An array is required, and the path captures a segment of another name. -/
theorem rejects_absent_query_parameter_array :
    ∃ registry o q, Source.registry ⟨fun _ => none⟩
        [.data (requiring "/\x7bid\x7d" [("type", .text "array")])] = .ok registry ∧
      Routing.route registry "GET" ["1"] = some o ∧ q ∈ o.parameters ∧ RequiredInQuery q ∧
      Query.lookup? [] q.name = none ∧ Query.lookup? (Routing.captures o ["1"]) q.name = none ∧
      validate registry { method := "GET", segments := ["1"] } = .ok (.invalid ⟨missingMessage q.name, "#"⟩) := by
  have compiled : (Source.registry ⟨fun _ => none⟩
        [.data (requiring "/\x7bid\x7d" [("type", .text "array")])]).toOption.any (fun registry =>
      (Routing.route registry "GET" ["1"]).any fun o => o.parameters.length == 1 && !o.bodyRequired &&
        o.parameters.any fun q => q.location == some .query && q.required && q.type.isSome &&
          (Query.lookup? [] q.name).isNone && (Query.lookup? (Routing.captures o ["1"]) q.name).isNone) = true := by
    decide +kernel
  obtain ⟨registry, compiled, found⟩ := any_toOption_eq_true.1 compiled
  obtain ⟨o, routed, found⟩ := (Option.any_eq_true _ _).1 found
  simp only [Bool.and_eq_true, beq_iff_eq, Bool.not_eq_true', List.any_eq_true, Option.isNone_iff_eq_none] at found
  obtain ⟨⟨single, optional⟩, q, member, ⟨⟨⟨location, required⟩, typed⟩, absent⟩, uncaptured⟩ := found
  have given : RequiredInQuery q := ⟨location, required, typed⟩
  have body : Body.validate o .null = .ok .ok := if_pos ⟨rfl, optional⟩
  have alone : o.parameters = [] ++ q :: [] := by
    obtain ⟨p, only⟩ := List.length_eq_one_iff.1 single
    rw [only, List.mem_singleton] at member
    rw [only, member, List.nil_append]
  let request : Request := { method := "GET", segments := ["1"] }
  refine ⟨registry, o, q, compiled, routed, member, given, absent, uncaptured, ?_⟩
  have here : Routing.route registry request.method request.segments = some o := routed
  apply (rejects_absent_query_parameter here member given absent uncaptured).2 [] [] alone body
  simp

/-- Whether a request without a required query parameter is accepted by what is compiled of a
description. -/
def AcceptsAbsent (description : Value) (request : Request) : Prop :=
  ∃ registry o q, Source.registry ⟨fun _ => none⟩ [.data description] = .ok registry ∧
    Routing.route registry request.method request.segments = some o ∧ q ∈ o.parameters ∧
    q.location = some .query ∧ q.required = true ∧ Query.lookup? request.params q.name = none ∧
    validate registry request = .ok .ok

theorem acceptsAbsent_of_any {description : Value} {request : Request}
    (found : (Source.registry ⟨fun _ => none⟩ [.data description]).toOption.any (fun registry =>
      (Routing.route registry request.method request.segments).any fun o => o.parameters.any fun q =>
        q.location == some .query && q.required && (Query.lookup? request.params q.name).isNone &&
          decide (validate registry request = .ok .ok)) = true) : AcceptsAbsent description request := by
  obtain ⟨registry, compiled, found⟩ := any_toOption_eq_true.1 found
  obtain ⟨o, routed, found⟩ := (Option.any_eq_true _ _).1 found
  obtain ⟨q, member, found⟩ := List.any_eq_true.1 found
  simp only [Bool.and_eq_true, beq_iff_eq, Option.isNone_iff_eq_none, decide_eq_true_eq] at found
  obtain ⟨⟨⟨location, required⟩, absent⟩, accepted⟩ := found
  exact ⟨registry, o, q, compiled, routed, member, location, required, absent, accepted⟩

/-- Without a type, or where the path captures a segment of its name, a required query
parameter may be absent. -/
theorem accepts_absent_untyped_or_captured :
    AcceptsAbsent (requiring "/x" []) { method := "GET", segments := ["x"] } ∧
    AcceptsAbsent (requiring "/\x7bq\x7d" [("type", .text "string")]) { method := "GET", segments := ["x"] } := by
  constructor
  · apply acceptsAbsent_of_any
    decide +kernel
  · apply acceptsAbsent_of_any
    decide +kernel

end Validation
end SwaggerGate
