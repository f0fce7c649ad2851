import SwaggerGate.Proofs.Captures

/-! What a validation of parameters looks at. Of the parameters of an operation, only those in
the path or in the query that have a type count; of what a request sends, only the entries under
the first keys of their names. -/
namespace SwaggerGate.Parameters

/-- Whether a parameter is validated: it is in the path or in the query, and has a type. -/
structure IsValidated (p : Parameter) : Prop where
  located : p.location = some .path ∨ p.location = some .query
  typed : ∃ type, p.type = some type

instance : DecidablePred IsValidated := fun p =>
  decidable_of_iff ((p.location = some .path ∨ p.location = some .query) ∧ p.type.isSome = true) <| by
    rw [Option.isSome_iff_exists]
    exact ⟨fun ⟨located, typed⟩ => ⟨located, typed⟩, fun ⟨located, typed⟩ => ⟨located, typed⟩⟩

/-- Whether a parameter is passed over: it is in the body, in a header or in a form, or has no
type. -/
def IsPassedOver (p : Parameter) : Prop :=
  p.location ∈ [some .body, some .header, some .formData] ∨ p.type = none

section Parameter

variable {p : Parameter} {params others : List (Atom × Value)}

theorem isValidated_of_descriptor? {items : Items} (declared : descriptor? p = some items) : IsValidated p := by
  unfold descriptor? at declared
  split at declared
  next type located typed => exact ⟨.inl located, type, typed⟩
  next type located typed => exact ⟨.inr located, type, typed⟩
  next => cases declared

theorem IsPassedOver.descriptor? (passed : IsPassedOver p) : descriptor? p = none := by
  cases declared : Parameters.descriptor? p with
  | none => rfl
  | some items =>
    obtain ⟨located, type, typed⟩ := isValidated_of_descriptor? declared
    rcases passed with elsewhere | untyped
    · rcases located with same | same <;> simp [same] at elsewhere
    · rw [untyped] at typed
      cases typed

theorem IsPassedOver.issue? (passed : IsPassedOver p) (params : List (Atom × Value)) :
    parameterIssue? params p = .ok none := by
  rw [parameterIssue?, passed.descriptor?]

/-- A parameter is judged by the entry under the first key of its name. -/
theorem parameterIssue?_congr (named : p.name ≠ "")
    (agree : IsValidated p → ∀ root ∈ (Query.keys p.name).head?,
      params.lookup (.text root) = others.lookup (.text root)) :
    parameterIssue? params p = parameterIssue? others p := by
  cases declared : descriptor? p with
  | none => rw [parameterIssue?, parameterIssue?, declared]
  | some items =>
    obtain ⟨root, rest, path, filled⟩ := Query.keys_eq_cons named
    have same : params.lookup (.text root) = others.lookup (.text root) :=
      agree (isValidated_of_descriptor? declared) root (by rw [path]; rfl)
    have found : Query.lookup? params p.name = Query.lookup? others p.name := by
      rw [Query.lookup?, Query.lookup?, path, Query.find?, Query.find?, if_neg filled, if_neg filled, same]
    rw [parameterIssue?, parameterIssue?, declared, found]

end Parameter

/-! ### Parameters that are inserted or removed -/

/-- Whether a list of parameters becomes another as one that is passed over is inserted in some
place, or removed. -/
inductive Edited : List Parameter → List Parameter → Prop where
  | inserted {p : Parameter} (passed : IsPassedOver p) (front back : List Parameter) :
    Edited (front ++ back) (front ++ p :: back)
  | removed {p : Parameter} (passed : IsPassedOver p) (front back : List Parameter) :
    Edited (front ++ p :: back) (front ++ back)

/-- What a check finds no issue with can be left out of a search for the first one. -/
theorem firstIssue_skip {α : Type} {check : α → Except Fault (Option Issue)} {x : α} (passed : check x = .ok none)
    (front back : List α) : firstIssue check (front ++ x :: back) = firstIssue check (front ++ back) := by
  induction front with
  | nil => rw [List.nil_append, List.nil_append, firstIssue, passed]
  | cons y rest ih => rw [List.cons_append, List.cons_append, firstIssue, firstIssue, ih]

theorem Edited.validate {parameters edited : List Parameter} (step : Edited parameters edited)
    (params : List (Atom × Value)) : validate edited params = validate parameters params := by
  cases step with
  | inserted passed front back => rw [Parameters.validate, Parameters.validate, firstIssue_skip (passed.issue? params)]
  | removed passed front back => rw [Parameters.validate, Parameters.validate, firstIssue_skip (passed.issue? params)]

theorem validate_of_edits {parameters edited : List Parameter} (edits : Relation.ReflTransGen Edited parameters edited)
    (params : List (Atom × Value)) : validate edited params = validate parameters params := by
  induction edits with
  | refl => rfl
  | tail _ step ih => rw [step.validate, ih]

/-- Only validated parameters matter. What requests send is judged alike if it agrees under the
first key of the name of every parameter that is validated; and parameters that are passed over
can be inserted anywhere and removed, any number of times, with no effect on any request. -/
theorem validate_reads_validated {registry : Registry} (compiled : registry.Compiled) {o : Operation}
    (member : o ∈ registry.operations) :
    (∀ params others : List (Atom × Value),
      (∀ p ∈ o.parameters, IsValidated p → ∀ root ∈ (Query.keys p.name).head?,
        params.lookup (.text root) = others.lookup (.text root)) →
      validate o.parameters params = validate o.parameters others) ∧
    ∀ edited, Relation.ReflTransGen Edited o.parameters edited →
      ∀ params, validate edited params = validate o.parameters params := by
  refine ⟨fun params others agree => ?_, fun edited edits params => validate_of_edits edits params⟩
  rw [validate, validate]
  have each : ∀ p ∈ o.parameters, parameterIssue? params p = parameterIssue? others p := fun p declared =>
    parameterIssue?_congr (compiled.named member p declared) (agree p declared)
  rw [firstIssue_congr each]

/-- A parameter in the query with a nested address, and one in a header. -/
def nested : List Value :=
  [.record [("name", .text "filter[route]"), ("in", .text "query"), ("type", .text "string"), ("enum", .texts ["Red"])],
    .record [("name", .text "trace"), ("in", .text "header"), ("type", .text "string"), ("required", .bool true)]]

/-- What is sent for the header and beside the nested value is not looked at, nor is a parameter
without a type. -/
theorem validate_reads_validated_nested :
    let filter : Atom × Value := (.text "filter", .obj [(.text "route", .text "Blue")])
    let untyped : Parameter := { name := "q", location := some .query, required := true }
    ∃ registry o, Source.registry ⟨fun _ => none⟩ [.data (posting nested (.obj []))] = .ok registry ∧
      o ∈ registry.operations ∧
      validate o.parameters [filter, (.text "trace", .text "1")] = validate o.parameters [(.text "page", .text "2"), filter] ∧
      ∃ front header back, o.parameters = front ++ header :: back ∧ header.location = some .header ∧
        ∀ params, validate (untyped :: (front ++ back)) params = validate o.parameters params := by
  intro filter untyped
  have tested : (Source.registry ⟨fun _ => none⟩ [.data (posting nested (.obj []))]).toOption.any (fun registry =>
      registry.operations.any fun o => (o.parameters.any fun p => p.location == some .header) &&
        decide (∀ p ∈ o.parameters, IsValidated p → ∀ root ∈ (Query.keys p.name).head?,
          [filter, (.text "trace", .text "1")].lookup (.text root) =
            [(.text "page", .text "2"), filter].lookup (.text root))) = true := by
    decide +kernel
  obtain ⟨registry, ok, tested⟩ := any_toOption_eq_true.1 tested
  obtain ⟨o, member, tested⟩ := List.any_eq_true.1 tested
  rw [Bool.and_eq_true, decide_eq_true_eq, List.any_eq_true] at tested
  obtain ⟨⟨header, declared, located⟩, agree⟩ := tested
  obtain ⟨front, back, split⟩ := List.append_of_mem declared
  have located : header.location = some .header := by simpa using located
  obtain ⟨alike, edits⟩ := validate_reads_validated (Registry.Compiled.of_sources ok) member
  refine ⟨registry, o, ok, member, alike _ _ agree, front, header, back, split, located, edits _ ?_⟩
  have fewer : Edited o.parameters (front ++ back) := split ▸ .removed (.inl (by simp [located])) front back
  have more : Edited (front ++ back) (untyped :: (front ++ back)) := .inserted (.inr rfl) [] (front ++ back)
  exact (Relation.ReflTransGen.single fewer).tail more

end SwaggerGate.Parameters
