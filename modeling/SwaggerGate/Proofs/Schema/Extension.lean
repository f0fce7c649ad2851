import SwaggerGate.Proofs.Schema.Roots

/-! Inlining among more definitions. What is inlined, embedded or compiled among some
definitions comes out the same where there are others beside them, because only the
definitions that are referred to are ever looked up. -/
namespace SwaggerGate.Schema

section Replacing

variable {replace other : String → Except CompileFailure Inlined}

mutual
/-- A value with its references replaced depends on the replacements only. -/
theorem substitute_replaced (each : ∀ ref result, replace ref = .ok result → other ref = .ok result) :
    ∀ (inMap : Bool) (v : Value) (result : Inlined),
    substitute replace inMap v = .ok result → substitute other inMap v = .ok result
  | _, .atom _, _, ok => ok
  | _, .set _, _, ok => ok
  | _, .pair _ _, _, ok => ok
  | _, .loop _ _, _, ok => ok
  | _, .list items, (_, _), ok => by
    obtain ⟨cs, inner, rfl⟩ := substitute_list_eq_ok.1 ok
    exact substitute_list_eq_ok.2 ⟨cs, substituteItems_replaced each items _ inner, rfl⟩
  | true, .obj fields, (_, _), ok => by
    obtain ⟨cs, inner, rfl⟩ := substitute_map_eq_ok.1 ok
    exact substitute_map_eq_ok.2 ⟨cs, substituteSchemas_replaced each fields _ inner, rfl⟩
  | false, .obj fields, (c, kept), ok => by
    cases given : refText? (.obj fields) with
    | some ref =>
      rw [substitute_reference given] at ok ⊢
      exact each ref (c, kept) ok
    | none =>
      obtain ⟨cs, inner, rfl⟩ := (substitute_keywords_eq_ok given).1 ok
      exact (substitute_keywords_eq_ok given).2 ⟨cs, substituteFields_replaced each fields _ inner, rfl⟩
private theorem substituteItems_replaced
    (each : ∀ ref result, replace ref = .ok result → other ref = .ok result) :
    ∀ (items : List Value) (result : List Value × List String),
    substituteItems replace items = .ok result → substituteItems other items = .ok result
  | [], _, ok => ok
  | v :: rest, (_, _), ok => by
    obtain ⟨c, first, cs, more, head, tail, rfl, rfl⟩ := substituteItems_cons_eq_ok.1 ok
    exact substituteItems_cons_eq_ok.2 ⟨c, first, cs, more, substitute_replaced each false v _ head,
      substituteItems_replaced each rest _ tail, rfl, rfl⟩
private theorem substituteSchemas_replaced
    (each : ∀ ref result, replace ref = .ok result → other ref = .ok result) :
    ∀ (fields : List (Atom × Value)) (result : List (Atom × Value) × List String),
    substituteSchemas replace fields = .ok result → substituteSchemas other fields = .ok result
  | [], _, ok => ok
  | (_, v) :: rest, (_, _), ok => by
    obtain ⟨c, first, cs, more, head, tail, rfl, rfl⟩ := substituteSchemas_cons_eq_ok.1 ok
    exact substituteSchemas_cons_eq_ok.2 ⟨c, first, cs, more, substitute_replaced each false v _ head,
      substituteSchemas_replaced each rest _ tail, rfl, rfl⟩
private theorem substituteFields_replaced
    (each : ∀ ref result, replace ref = .ok result → other ref = .ok result) :
    ∀ (fields : List (Atom × Value)) (result : List (Atom × Value) × List String),
    substituteFields replace fields = .ok result → substituteFields other fields = .ok result
  | [], _, ok => ok
  | (key, v) :: rest, (_, _), ok => by
    obtain ⟨c, first, cs, more, head, tail, rfl, rfl⟩ := substituteFields_cons_eq_ok.1 ok
    refine substituteFields_cons_eq_ok.2 ⟨c, first, cs, more, ?_, substituteFields_replaced each rest _ tail, rfl, rfl⟩
    by_cases literal : isLiteralKey key = true
    · rw [if_pos literal] at head ⊢
      exact head
    · rw [if_neg literal] at head ⊢
      exact substitute_replaced each _ v _ head
end

end Replacing

/-- Definitions with others beside them. -/
structure Extends (definitions more : Definitions) : Prop where
  lookup : ∀ name body, definitions.lookup name = some body → more.lookup name = some body
  length : definitions.length ≤ more.length

section Extension

variable {definitions more : Definitions} (extends_ : Extends definitions more)
include extends_

theorem Extends.definition {ref : String} {found : String × Value} (ok : definition definitions ref = .ok found) :
    Schema.definition more ref = .ok found := by
  obtain ⟨named, body⟩ := definition_eq_ok.1 ok
  exact definition_eq_ok.2 ⟨named, extends_.lookup _ _ body⟩

/-- Distinct definitions are being inlined, and the bound on their nesting leaves room for all
others; so the bound is never what cuts a reference. -/
theorem Extends.inlineWithin (depth : Nat) : ∀ (deeper : Nat) (stack : List String) (v : Value) (result : Inlined),
    stack.Nodup → stack ⊆ Entries.keys definitions → definitions.length ≤ depth + stack.length →
      more.length ≤ deeper + stack.length → inlineWithin definitions depth stack v = .ok result →
      Schema.inlineWithin more deeper stack v = .ok result := by
  induction depth using Nat.strongRecOn with
  | ind depth ih =>
    intro deeper stack v result distinct known room more_ ok
    rw [inlineWithin_eq] at ok ⊢
    refine substitute_replaced (fun ref result ok => ?_) false v result ok
    obtain ⟨c, kept⟩ := result
    obtain ⟨name, body, found, cases⟩ := replacement_cases ok
    obtain ⟨-, here⟩ := definition_eq_ok.1 found
    have key : name ∈ Entries.keys definitions := Entries.mem_keys_iff.2 ⟨body, here⟩
    refine bind_eq_ok.2 ⟨(name, body), extends_.definition found, ?_⟩
    obtain ⟨cut_, kept, end_⟩ | ⟨less, rfl, fresh, inner⟩ := cases
    · have stacked : name ∈ stack := by
        rcases end_ with stacked | rfl
        · exact stacked
        · exact mem_of_length_le distinct known (by omega) key
      simp only [List.contains_iff_mem, stacked, if_true]
      exact congrArg Except.ok (Prod.ext cut_.symm kept.symm)
    · have larger : (name :: stack).Nodup := List.nodup_cons.2 ⟨fresh, distinct⟩
      have inside : name :: stack ⊆ Entries.keys definitions := List.cons_subset.2 ⟨key, known⟩
      have few : stack.length < definitions.length := by
        by_contra all
        exact fresh (mem_of_length_le distinct known (by omega) key)
      have longer := extends_.length
      simp only [List.contains_iff_mem, fresh, if_false]
      cases deeper with
      | zero => omega
      | succ deeper =>
        exact ih less (by omega) deeper (name :: stack) body (c, kept) larger inside
          (by rw [List.length_cons]; omega) (by rw [List.length_cons]; omega) inner

theorem Extends.inlineFrom {stack : List String} {v : Value} {result : Inlined} (distinct : stack.Nodup)
    (known : stack ⊆ Entries.keys definitions) (ok : inlineFrom definitions stack v = .ok result) :
    Schema.inlineFrom more stack v = .ok result :=
  extends_.inlineWithin definitions.length more.length stack v result distinct known (by omega) (by omega) ok

theorem Extends.inline {v : Value} {result : Inlined} (ok : inline definitions v = .ok result) :
    Schema.inline more v = .ok result :=
  extends_.inlineFrom List.nodup_nil (List.nil_subset _) ok

/-- Embedding among more definitions has more rounds to go, and finds nothing to do in them. -/
theorem Extends.embedWithin (fuel : Nat) : ∀ (longer : Nat) (pending : List String)
    (done bodies : List (String × Value)), fuel ≤ longer → IsRound definitions pending done →
      definitions.length ≤ fuel + done.length → embedWithin definitions fuel pending done = .ok bodies →
      Schema.embedWithin more longer pending done = .ok bodies := by
  induction fuel with
  | zero =>
    intro longer pending done bodies _ round room ok
    cases ok
    have nothing := find?_pending_eq_none.2 (round.subset (by omega))
    cases longer with
    | zero => rfl
    | succ longer => rw [Schema.embedWithin, nothing]
  | succ fuel ih =>
    intro longer pending done bodies more_ round room ok
    cases longer with
    | zero => omega
    | succ longer =>
      rw [Schema.embedWithin] at ok ⊢
      split at ok
      next nothing =>
        simpa using ok
      next name picked =>
        obtain ⟨member, fresh⟩ := of_find?_pending picked
        obtain ⟨⟨body, kept⟩, inlined, ok⟩ := bind_eq_ok.1 ok
        obtain ⟨source, found⟩ := (round.cyclic name member).defined
        have key := Entries.mem_keys_iff.2 ⟨source, found⟩
        rw [found, Option.getD_some] at inlined
        have again := extends_.inlineFrom (List.nodup_singleton name) (by simpa using key) inlined
        have enough : definitions.length ≤ fuel + (done ++ [(name, body)]).length := by
          rw [List.length_append, List.length_singleton]
          omega
        simp only [extends_.lookup name source found, Option.getD_some]
        refine bind_eq_ok.2 ⟨(body, kept), again, ?_⟩
        exact ih longer _ _ bodies (by omega) (round.next member fresh found inlined) enough ok

theorem Extends.embedded {kept : List String} {bodies : List (String × Value)}
    (cyclic : ∀ name ∈ kept, OnCycle definitions name) (ok : embedded definitions kept = .ok bodies) :
    Schema.embedded more kept = .ok bodies :=
  extends_.embedWithin definitions.length more.length kept [] bodies extends_.length (.start cyclic) (by simp) ok

end Extension

end SwaggerGate.Schema
