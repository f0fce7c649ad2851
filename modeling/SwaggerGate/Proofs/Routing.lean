import SwaggerGate.Proofs.Registry
import SwaggerGate.Routing
import Mathlib.Data.List.Forall2

/-! Routing picks the most specific operation. Which operations fit a request is said without
the walk that finds them; of those that fit, the one that is found has a literal segment at
the first place where its pattern differs from another's, or else its key was given first. -/
namespace SwaggerGate.Routing

/-- Whether a template segment stands for a segment of a request. -/
def Admits (template segment : String) : Prop := template = segment ∨ isWildcard template = true

/-- Whether an operation fits a request. The method is compared in lower case; the names of
methods have ASCII letters only. -/
structure Fits (o : Operation) (method : String) (segments : List String) : Prop where
  method : o.method.name = Text.lower method
  length : segments.length = o.baseSegments.length + o.templateSegments.length
  base : segments.take o.baseSegments.length = o.baseSegments
  template : List.Forall₂ Admits o.templateSegments (segments.drop o.baseSegments.length)

private theorem fits_iff (template segments : List String) :
    fits template segments = true ↔ List.Forall₂ Admits template segments := by
  induction template generalizing segments with
  | nil => cases segments <;> simp [fits]
  | cons expected template ih =>
    cases segments with
    | nil => simp [fits]
    | cons actual segments =>
      simp only [fits, Bool.and_eq_true, Bool.or_eq_true, beq_iff_eq, List.forall₂_cons, ih, Admits]
      tauto

private theorem isWildcard_methodName (method : Method) : isWildcard method.name = false := by
  cases method <;> decide

theorem answers_iff (o : Operation) (method : String) (segments : List String) :
    answers o (Text.lower method) segments = true ↔ Fits o method segments := by
  unfold answers stripBase
  by_cases base : segments.take o.baseSegments.length = o.baseSegments
  · simp only [if_pos base, fits_iff, List.forall₂_cons, Admits, isWildcard_methodName, Bool.false_eq_true, or_false]
    constructor
    · rintro ⟨method, template⟩
      have covered : o.baseSegments.length ≤ segments.length := by
        rw [← base, List.length_take]
        omega
      have rest := template.length_eq
      rw [List.length_drop] at rest
      exact ⟨method, by omega, base, template⟩
    · intro h
      exact ⟨h.method, h.template⟩
  · simp only [if_neg base, Bool.false_eq_true, false_iff]
    intro h
    exact base h.base

/-- An operation that fits has a pattern as long as the request. -/
theorem Fits.length_pattern {o : Operation} {method : String} {segments : List String}
    (h : Fits o method segments) : o.pattern.length = segments.length := by
  simp [Operation.pattern, h.length]

theorem route_eq_none_iff (registry : Registry) (method : String) (segments : List String) :
    route registry method segments = none ↔ ∀ o ∈ registry.operations, ¬Fits o method segments := by
  simp only [route, List.find?_eq_none, answers_iff]

theorem mem_of_route {registry : Registry} {method : String} {segments : List String} {o : Operation}
    (found : route registry method segments = some o) : o ∈ registry.operations ∧ Fits o method segments :=
  ⟨List.mem_of_find?_eq_some found,
    (answers_iff o method segments).1 (List.find?_some (p := fun o => answers o (Text.lower method) segments) found)⟩

/-- The operation found comes before all others that fit. -/
theorem sublist_of_route {registry : Registry} {method : String} {segments : List String} {o other : Operation}
    (found : route registry method segments = some o) (member : other ∈ registry.operations)
    (different : other ≠ o) (fits : Fits other method segments) :
    List.Sublist [o, other] registry.operations := by
  obtain ⟨_, front, back, split, passed⟩ := List.find?_eq_some_iff_append.1 found
  have behind : other ∈ back := by
    rw [split, List.mem_append, List.mem_cons] at member
    rcases member with ahead | same | behind
    · have := passed other ahead
      simp [(answers_iff other method segments).2 fits] at this
    · exact absurd same different
    · exact behind
  rw [split]
  exact ((List.singleton_sublist.2 behind).cons_cons o).trans (List.sublist_append_right front (o :: back))

/-- Whether the operations that fit a request are told apart by their patterns. -/
def Told (registry : Registry) (method : String) (segments : List String) : Prop :=
  ∀ a ∈ registry.operations, ∀ b ∈ registry.operations, Fits a method segments → Fits b method segments →
    a.pattern = b.pattern → a = b

/-- The operation found goes before all others that fit. -/
theorem patternLe_of_route {registry : Registry} (built : registry.IsBuilt) {method : String} {segments : List String}
    {o other : Operation} (found : route registry method segments = some o) (member : other ∈ registry.operations)
    (fits : Fits other method segments) : patternLe o.pattern other.pattern = true := by
  by_cases same : other = o
  · rw [same, patternLe_refl]
  · have order := built.pairwise.sublist (sublist_of_route found member same fits)
    simpa using order

/-- Registries of the same operations route a request alike if the patterns of the operations
that fit it tell them apart. -/
theorem route_of_perm {registry other : Registry} (built : registry.IsBuilt) (otherBuilt : other.IsBuilt)
    (order : other.operations.Perm registry.operations) {method : String} {segments : List String}
    (told : Told registry method segments) : route other method segments = route registry method segments := by
  cases found : route registry method segments with
  | none =>
    rw [route_eq_none_iff] at found ⊢
    exact fun o member => found o (order.subset member)
  | some o =>
    obtain ⟨member, fits⟩ := mem_of_route found
    cases otherFound : route other method segments with
    | none => exact absurd fits ((route_eq_none_iff other method segments).1 otherFound o (order.symm.subset member))
    | some o' =>
      obtain ⟨otherMember, otherFits⟩ := mem_of_route otherFound
      have forth := patternLe_of_route built found (order.subset otherMember) otherFits
      have back := patternLe_of_route otherBuilt otherFound (order.symm.subset member) fits
      have same := patternLe_antisymm _ _ back forth
      rw [told o' (order.subset otherMember) o member otherFits fits same]

/-- A registry built from any operations holds the last one of each key. A request that fits
none of them is routed nowhere; any other is routed to one that fits, and that is more
specific than every other one that fits, or has its pattern and a key given earlier. -/
theorem route_mostSpecific (operations : List Operation) (method : String) (segments : List String) :
    (∀ o, o ∈ (Registry.ofOperations operations).operations ↔
      operations.reverse.find? (·.key == o.key) = some o) ∧
    (route (Registry.ofOperations operations) method segments = none ↔
      ∀ o ∈ (Registry.ofOperations operations).operations, ¬Fits o method segments) ∧
    ∀ o, route (Registry.ofOperations operations) method segments = some o →
      o ∈ (Registry.ofOperations operations).operations ∧ Fits o method segments ∧
      ∀ other ∈ (Registry.ofOperations operations).operations, other ≠ o → Fits other method segments →
        (o.pattern = other.pattern ∧
          (operations.map Operation.key).idxOf o.key < (operations.map Operation.key).idxOf other.key) ∨
        ∃ i, o.pattern.take i = other.pattern.take i ∧ o.pattern[i]? = some false ∧
          other.pattern[i]? = some true := by
  refine ⟨Registry.mem_ofOperations operations, route_eq_none_iff _ _ _, fun o found => ?_⟩
  obtain ⟨member, fitting⟩ := mem_of_route found
  refine ⟨member, fitting, fun other memberOther different fits => ?_⟩
  have order := sublist_of_route found memberOther different fits
  have le := patternLe_of_route ⟨operations, rfl⟩ found memberOther fits
  by_cases same : o.pattern = other.pattern
  · exact .inl ⟨same, Registry.insertion_order_of_same_pattern order same⟩
  · exact .inr (first_difference_of_patternLe le (fitting.length_pattern.trans fits.length_pattern.symm) same)

end SwaggerGate.Routing
