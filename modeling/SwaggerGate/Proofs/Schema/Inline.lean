import SwaggerGate.Proofs.Fault
import SwaggerGate.Schema.Inline
import Mathlib.Data.List.Forall2
import Mathlib.Data.List.Nodup
import Mathlib.Logic.Relation

/-! What inlining does to a schema, place by place. Data under a literal key stays, a
reference becomes an inlined definition or a cut, and every other part is inlined where it
stands. A definition that is cut leads back to itself. -/
namespace SwaggerGate

namespace Schema

/-- The text of a reference, if a value is one. -/
def refText? : Value → Option String
  | .obj fields => match fields.lookup (.text "$ref") with
    | some (.text ref) => some ref
    | _ => none
  | _ => none

theorem refText?_lookup {fields : List (Atom × Value)} {ref : String} :
    refText? (.obj fields) = some ref ↔ fields.lookup (.text "$ref") = some (.text ref) := by
  rw [refText?]
  split
  next ref' found => simp [found]
  next other => exact ⟨nofun, fun found => absurd found (other ref)⟩

/-- The reference that stays where a definition cannot be inlined. -/
def cut (name : String) : Value := .record [("$ref", .text (definitionRef name))]

section Substitute

variable {replace : String → Except CompileFailure Inlined} {fields : List (Atom × Value)}

theorem substitute_reference {ref : String} (given : refText? (.obj fields) = some ref) :
    substitute replace false (.obj fields) = replace ref := by
  rw [substitute, if_neg Bool.false_ne_true, refText?_lookup.1 given]

theorem substitute_list_eq_ok {inMap : Bool} {items : List Value} {c : Value} {kept : List String} :
    substitute replace inMap (.list items) = .ok (c, kept) ↔
      ∃ cs, substituteItems replace items = .ok (cs, kept) ∧ c = .list cs := by
  rw [substitute, bind_eq_ok]
  constructor
  · rintro ⟨made, inner, ok⟩
    cases ok
    exact ⟨_, inner, rfl⟩
  · rintro ⟨cs, inner, rfl⟩
    exact ⟨_, inner, rfl⟩

theorem substitute_map_eq_ok {c : Value} {kept : List String} : substitute replace true (.obj fields) = .ok (c, kept) ↔
    ∃ cs, substituteSchemas replace fields = .ok (cs, kept) ∧ c = .obj cs := by
  rw [substitute]
  constructor
  · intro ok
    obtain ⟨made, inner, ok⟩ := bind_eq_ok.1 ok
    cases ok
    exact ⟨_, inner, rfl⟩
  · rintro ⟨cs, inner, rfl⟩
    exact bind_eq_ok.2 ⟨_, inner, rfl⟩

theorem substitute_keywords_eq_ok (bare : refText? (.obj fields) = none) {c : Value} {kept : List String} :
    substitute replace false (.obj fields) = .ok (c, kept) ↔
      ∃ cs, substituteFields replace fields = .ok (cs, kept) ∧ c = .obj cs := by
  rw [substitute, if_neg Bool.false_ne_true]
  split
  next ref given =>
    rw [refText?_lookup.2 given] at bare
    cases bare
  next =>
    constructor
    · intro ok
      obtain ⟨made, inner, ok⟩ := bind_eq_ok.1 ok
      cases ok
      exact ⟨_, inner, rfl⟩
    · rintro ⟨cs, inner, rfl⟩
      exact bind_eq_ok.2 ⟨_, inner, rfl⟩

theorem substituteItems_cons_eq_ok {v : Value} {rest cs : List Value} {kept : List String} :
    substituteItems replace (v :: rest) = .ok (cs, kept) ↔
      ∃ c first others more, substitute replace false v = .ok (c, first) ∧
        substituteItems replace rest = .ok (others, more) ∧ cs = c :: others ∧ kept = first ++ more := by
  rw [substituteItems, bind_eq_ok]
  constructor
  · rintro ⟨⟨c, first⟩, head, ok⟩
    obtain ⟨⟨others, more⟩, tail, ok⟩ := bind_eq_ok.1 ok
    cases ok
    exact ⟨c, first, others, more, head, tail, rfl, rfl⟩
  · rintro ⟨c, first, others, more, head, tail, rfl, rfl⟩
    exact ⟨_, head, bind_eq_ok.2 ⟨_, tail, rfl⟩⟩

theorem substituteSchemas_cons_eq_ok {name : Atom} {v : Value} {rest cs : List (Atom × Value)} {kept : List String} :
    substituteSchemas replace ((name, v) :: rest) = .ok (cs, kept) ↔
      ∃ c first others more, substitute replace false v = .ok (c, first) ∧
        substituteSchemas replace rest = .ok (others, more) ∧ cs = (name, c) :: others ∧ kept = first ++ more := by
  rw [substituteSchemas, bind_eq_ok]
  constructor
  · rintro ⟨⟨c, first⟩, head, ok⟩
    obtain ⟨⟨others, more⟩, tail, ok⟩ := bind_eq_ok.1 ok
    cases ok
    exact ⟨c, first, others, more, head, tail, rfl, rfl⟩
  · rintro ⟨c, first, others, more, head, tail, rfl, rfl⟩
    exact ⟨_, head, bind_eq_ok.2 ⟨_, tail, rfl⟩⟩

/-- The argument of a keyword with its references replaced: literal data stays as it is. -/
theorem substituteFields_cons_eq_ok {key : Atom} {v : Value} {rest cs : List (Atom × Value)} {kept : List String} :
    substituteFields replace ((key, v) :: rest) = .ok (cs, kept) ↔
      ∃ c first others more, (if isLiteralKey key then c = v ∧ first = []
          else substitute replace (isSchemaMapKey key) v = .ok (c, first)) ∧
        substituteFields replace rest = .ok (others, more) ∧ cs = (key, c) :: others ∧ kept = first ++ more := by
  rw [substituteFields]
  by_cases literal : isLiteralKey key = true
  · simp only [if_pos literal]
    constructor
    · intro ok
      obtain ⟨⟨c, first⟩, head, ok⟩ := bind_eq_ok.1 ok
      obtain ⟨⟨others, more⟩, tail, ok⟩ := bind_eq_ok.1 ok
      cases head
      cases ok
      exact ⟨v, [], others, more, ⟨rfl, rfl⟩, tail, rfl, rfl⟩
    · rintro ⟨c, first, others, more, ⟨rfl, rfl⟩, tail, rfl, rfl⟩
      exact bind_eq_ok.2 ⟨_, rfl, bind_eq_ok.2 ⟨_, tail, rfl⟩⟩
  · simp only [if_neg literal]
    constructor
    · intro ok
      obtain ⟨⟨c, first⟩, head, ok⟩ := bind_eq_ok.1 ok
      obtain ⟨⟨others, more⟩, tail, ok⟩ := bind_eq_ok.1 ok
      cases ok
      exact ⟨c, first, others, more, head, tail, rfl, rfl⟩
    · rintro ⟨c, first, others, more, head, tail, rfl, rfl⟩
      exact bind_eq_ok.2 ⟨_, head, bind_eq_ok.2 ⟨_, tail, rfl⟩⟩

end Substitute

/-- A value with its references replaced, where what stays cut is among some names. -/
def Inlines (replace : String → Except CompileFailure Inlined) (names : List String) (inMap : Bool)
    (v c : Value) : Prop :=
  ∃ kept, substitute replace inMap v = .ok (c, kept) ∧ kept ⊆ names

/-- The argument of a keyword: literal data stays, all else is inlined. -/
def InlinesArgument (replace : String → Except CompileFailure Inlined) (names : List String) (key : Atom)
    (v c : Value) : Prop :=
  if isLiteralKey key then c = v else Inlines replace names (isSchemaMapKey key) v c

/-- An entry of an object of keywords, and what it is inlined to. -/
def InlinesField (replace : String → Except CompileFailure Inlined) (names : List String)
    (field inlined : Atom × Value) : Prop :=
  inlined.1 = field.1 ∧ InlinesArgument replace names field.1 field.2 inlined.2

section Places

variable {replace : String → Except CompileFailure Inlined} {names : List String}

private theorem substituteItems_inlines : ∀ (items cs : List Value) (kept : List String),
    substituteItems replace items = .ok (cs, kept) → kept ⊆ names →
      List.Forall₂ (Inlines replace names false) items cs
  | [], cs, kept, ok, _ => by
    simp only [substituteItems, Except.ok.injEq, Prod.mk.injEq] at ok
    obtain ⟨rfl, -⟩ := ok
    exact .nil
  | v :: rest, cs, kept, ok, inside => by
    obtain ⟨c, first, cs', more, head, tail, rfl, rfl⟩ := substituteItems_cons_eq_ok.1 ok
    obtain ⟨firstInside, moreInside⟩ := List.append_subset.1 inside
    exact .cons ⟨first, head, firstInside⟩ (substituteItems_inlines rest cs' more tail moreInside)

private theorem substituteSchemas_inlines : ∀ (fields cs : List (Atom × Value)) (kept : List String),
    substituteSchemas replace fields = .ok (cs, kept) → kept ⊆ names →
      List.Forall₂ (fun f c => c.1 = f.1 ∧ Inlines replace names false f.2 c.2) fields cs
  | [], cs, kept, ok, _ => by
    simp only [substituteSchemas, Except.ok.injEq, Prod.mk.injEq] at ok
    obtain ⟨rfl, -⟩ := ok
    exact .nil
  | (name, v) :: rest, cs, kept, ok, inside => by
    obtain ⟨c, first, cs', more, head, tail, rfl, rfl⟩ := substituteSchemas_cons_eq_ok.1 ok
    obtain ⟨firstInside, moreInside⟩ := List.append_subset.1 inside
    exact .cons ⟨rfl, first, head, firstInside⟩ (substituteSchemas_inlines rest cs' more tail moreInside)

private theorem substituteFields_inlines : ∀ (fields cs : List (Atom × Value)) (kept : List String),
    substituteFields replace fields = .ok (cs, kept) → kept ⊆ names →
      List.Forall₂ (InlinesField replace names) fields cs
  | [], cs, kept, ok, _ => by
    simp only [substituteFields, Except.ok.injEq, Prod.mk.injEq] at ok
    obtain ⟨rfl, -⟩ := ok
    exact .nil
  | (key, v) :: rest, cs, kept, ok, inside => by
    obtain ⟨c, first, cs', more, head, tail, rfl, rfl⟩ := substituteFields_cons_eq_ok.1 ok
    obtain ⟨firstInside, moreInside⟩ := List.append_subset.1 inside
    refine .cons ⟨rfl, ?_⟩ (substituteFields_inlines rest cs' more tail moreInside)
    unfold InlinesArgument
    by_cases literal : isLiteralKey key = true
    · rw [if_pos literal] at head ⊢
      exact head.1
    · rw [if_neg literal] at head ⊢
      exact ⟨first, head, firstInside⟩

theorem Inlines.atom {inMap : Bool} {a : Atom} {c : Value} (h : Inlines replace names inMap (.atom a) c) :
    c = .atom a := by
  obtain ⟨kept, ok, -⟩ := h
  rw [substitute_atom] at ok
  exact congrArg Prod.fst (Except.ok.inj ok).symm

theorem Inlines.set {inMap : Bool} {members : List Atom} {c : Value}
    (h : Inlines replace names inMap (.set members) c) : c = .set members := by
  obtain ⟨kept, ok, -⟩ := h
  rw [substitute] at ok
  exact congrArg Prod.fst (Except.ok.inj ok).symm

theorem Inlines.pair {inMap : Bool} {a b c : Value} (h : Inlines replace names inMap (.pair a b) c) :
    c = .pair a b := by
  obtain ⟨kept, ok, -⟩ := h
  rw [substitute] at ok
  exact congrArg Prod.fst (Except.ok.inj ok).symm

theorem Inlines.not_loop {inMap : Bool} {levels : Nat} {ofObject : Bool} {c : Value} :
    ¬ Inlines replace names inMap (.loop levels ofObject) c := by
  rintro ⟨kept, ok, -⟩
  rw [substitute] at ok
  cases ok

theorem Inlines.list {inMap : Bool} {items : List Value} {c : Value}
    (h : Inlines replace names inMap (.list items) c) :
    ∃ cs, c = .list cs ∧ List.Forall₂ (Inlines replace names false) items cs := by
  obtain ⟨kept, ok, inside⟩ := h
  obtain ⟨cs, inner, rfl⟩ := substitute_list_eq_ok.1 ok
  exact ⟨cs, rfl, substituteItems_inlines items cs _ inner inside⟩

theorem Inlines.schemas {fields : List (Atom × Value)} {c : Value}
    (h : Inlines replace names true (.obj fields) c) :
    ∃ cs, c = .obj cs ∧ List.Forall₂ (fun f c => c.1 = f.1 ∧ Inlines replace names false f.2 c.2) fields cs := by
  obtain ⟨kept, ok, inside⟩ := h
  obtain ⟨cs, inner, rfl⟩ := substitute_map_eq_ok.1 ok
  exact ⟨cs, rfl, substituteSchemas_inlines fields cs _ inner inside⟩

theorem Inlines.fields {fields : List (Atom × Value)} {c : Value}
    (h : Inlines replace names false (.obj fields) c) (plain : refText? (.obj fields) = none) :
    ∃ cs, c = .obj cs ∧ List.Forall₂ (InlinesField replace names) fields cs := by
  obtain ⟨kept, ok, inside⟩ := h
  obtain ⟨cs, inner, rfl⟩ := (substitute_keywords_eq_ok plain).1 ok
  exact ⟨cs, rfl, substituteFields_inlines fields cs _ inner inside⟩

theorem Inlines.reference {v c : Value} {ref : String} (h : Inlines replace names false v c)
    (given : refText? v = some ref) : ∃ kept, replace ref = .ok (c, kept) ∧ kept ⊆ names := by
  obtain ⟨kept, ok, inside⟩ := h
  cases v with
  | obj fields =>
    rw [substitute_reference given] at ok
    exact ⟨kept, ok, inside⟩
  | _ => cases given

end Places

/-! ### References and the definitions behind them -/

mutual
/-- The references that inlining reads in a schema. -/
def references (inMap : Bool) : Value → List String
  | .list items => referencesOfItems items
  | .obj fields =>
    match if inMap then none else fields.lookup (.text "$ref") with
    | some (.text ref) => [ref]
    | _ => if inMap then referencesOfSchemas fields else referencesOfFields fields
  | _ => []
def referencesOfItems : List Value → List String
  | [] => []
  | v :: rest => references false v ++ referencesOfItems rest
def referencesOfSchemas : List (Atom × Value) → List String
  | [] => []
  | (_, v) :: rest => references false v ++ referencesOfSchemas rest
def referencesOfFields : List (Atom × Value) → List String
  | [] => []
  | (key, v) :: rest =>
    (if isLiteralKey key then [] else references (isSchemaMapKey key) v) ++ referencesOfFields rest
end

theorem references_reference {fields : List (Atom × Value)} {ref : String} (given : refText? (.obj fields) = some ref) :
    references false (.obj fields) = [ref] := by
  rw [references, if_neg Bool.false_ne_true, refText?_lookup.1 given]

theorem references_map (fields : List (Atom × Value)) : references true (.obj fields) = referencesOfSchemas fields := by
  rw [references]
  rfl

theorem references_keywords {fields : List (Atom × Value)} (bare : refText? (.obj fields) = none) :
    references false (.obj fields) = referencesOfFields fields := by
  rw [references, if_neg Bool.false_ne_true]
  split
  next ref given =>
    rw [refText?_lookup.2 given] at bare
    cases bare
  next => rfl

section Kept

variable {replace : String → Except CompileFailure Inlined} {P : String → Prop}

mutual
/-- What stays cut in an inlined value stays cut in the replacement of one of its references. -/
theorem kept_of_references : ∀ (inMap : Bool) (v c : Value) (kept : List String),
    (∀ ref ∈ references inMap v, ∀ c kept, replace ref = .ok (c, kept) → ∀ name ∈ kept, P name) →
      substitute replace inMap v = .ok (c, kept) → ∀ name ∈ kept, P name
  | _, .atom _, c, kept, _, ok => by cases ok; simp
  | _, .set _, c, kept, _, ok => by cases ok; simp
  | _, .pair _ _, c, kept, _, ok => by cases ok; simp
  | _, .loop _ _, c, kept, _, ok => by cases ok
  | inMap, .list items, c, kept, each, ok => by
    obtain ⟨cs, inner, rfl⟩ := substitute_list_eq_ok.1 ok
    exact kept_of_items items cs kept (by rwa [references] at each) inner
  | true, .obj fields, c, kept, each, ok => by
    obtain ⟨cs, inner, rfl⟩ := substitute_map_eq_ok.1 ok
    exact kept_of_schemas fields cs kept (by rwa [references_map] at each) inner
  | false, .obj fields, c, kept, each, ok => by
    cases given : refText? (.obj fields) with
    | some ref =>
      rw [substitute_reference given] at ok
      exact each ref (by simp [references_reference given]) c kept ok
    | none =>
      obtain ⟨cs, inner, rfl⟩ := (substitute_keywords_eq_ok given).1 ok
      exact kept_of_fields fields cs kept (by rwa [references_keywords given] at each) inner
private theorem kept_of_items : ∀ (items cs : List Value) (kept : List String),
    (∀ ref ∈ referencesOfItems items, ∀ c kept, replace ref = .ok (c, kept) → ∀ name ∈ kept, P name) →
      substituteItems replace items = .ok (cs, kept) → ∀ name ∈ kept, P name
  | [], cs, kept, _, ok => by cases ok; simp
  | v :: rest, cs, kept, each, ok => by
    obtain ⟨c, first, cs', more, head, tail, rfl, rfl⟩ := substituteItems_cons_eq_ok.1 ok
    simp only [referencesOfItems, List.mem_append] at each
    intro name member
    rcases List.mem_append.1 member with early | late
    · exact kept_of_references false v c first (fun ref h => each ref (.inl h)) head name early
    · exact kept_of_items rest cs' more (fun ref h => each ref (.inr h)) tail name late
private theorem kept_of_schemas : ∀ (fields cs : List (Atom × Value)) (kept : List String),
    (∀ ref ∈ referencesOfSchemas fields, ∀ c kept, replace ref = .ok (c, kept) → ∀ name ∈ kept, P name) →
      substituteSchemas replace fields = .ok (cs, kept) → ∀ name ∈ kept, P name
  | [], cs, kept, _, ok => by cases ok; simp
  | (name, v) :: rest, cs, kept, each, ok => by
    obtain ⟨c, first, cs', more, head, tail, rfl, rfl⟩ := substituteSchemas_cons_eq_ok.1 ok
    simp only [referencesOfSchemas, List.mem_append] at each
    intro name member
    rcases List.mem_append.1 member with early | late
    · exact kept_of_references false v c first (fun ref h => each ref (.inl h)) head name early
    · exact kept_of_schemas rest cs' more (fun ref h => each ref (.inr h)) tail name late
private theorem kept_of_fields : ∀ (fields cs : List (Atom × Value)) (kept : List String),
    (∀ ref ∈ referencesOfFields fields, ∀ c kept, replace ref = .ok (c, kept) → ∀ name ∈ kept, P name) →
      substituteFields replace fields = .ok (cs, kept) → ∀ name ∈ kept, P name
  | [], cs, kept, _, ok => by cases ok; simp
  | (key, v) :: rest, cs, kept, each, ok => by
    obtain ⟨c, first, cs', more, head, tail, rfl, rfl⟩ := substituteFields_cons_eq_ok.1 ok
    simp only [referencesOfFields, List.mem_append] at each
    intro name member
    rcases List.mem_append.1 member with early | late
    · by_cases literal : isLiteralKey key = true
      · rw [if_pos literal] at head
        rw [head.2] at early
        cases early
      · rw [if_neg literal] at head
        refine kept_of_references (isSchemaMapKey key) v c first (fun ref h => each ref (.inl ?_)) head name early
        rwa [if_neg literal]
    · exact kept_of_fields rest cs' more (fun ref h => each ref (.inr h)) tail name late
end

end Kept

/-- What takes the place of a reference inside the definitions of a stack. -/
def replacement (definitions : Definitions) (depth : Nat) (stack : List String) (ref : String) :
    Except CompileFailure Inlined := do
  let (name, body) ← definition definitions ref
  if stack.contains name then return (cut name, [name])
  match depth with
  | 0 => return (cut name, [name])
  | depth + 1 => inlineWithin definitions depth (name :: stack) body

theorem inlineWithin_eq (definitions : Definitions) (depth : Nat) (stack : List String) (schema : Value) :
    inlineWithin definitions depth stack schema = substitute (replacement definitions depth stack) false schema := by
  cases depth <;> rfl

/-- A reference is cut, or its definition is inlined one level further in. -/
theorem replacement_cases {definitions : Definitions} {depth : Nat} {stack : List String} {ref : String} {c : Value}
    {kept : List String} (ok : replacement definitions depth stack ref = .ok (c, kept)) :
    ∃ name body, definition definitions ref = .ok (name, body) ∧
      ((c = cut name ∧ kept = [name] ∧ (name ∈ stack ∨ depth = 0)) ∨
        ∃ less, depth = less + 1 ∧ name ∉ stack ∧
          inlineWithin definitions less (name :: stack) body = .ok (c, kept)) := by
  obtain ⟨⟨name, body⟩, found, ok⟩ := bind_eq_ok.1 ok
  refine ⟨name, body, found, ?_⟩
  by_cases known : name ∈ stack
  · simp only [List.contains_iff_mem, known, if_true] at ok
    cases ok
    exact .inl ⟨rfl, rfl, .inl known⟩
  · simp only [List.contains_iff_mem, known, if_false] at ok
    cases depth with
    | zero =>
      cases ok
      exact .inl ⟨rfl, rfl, .inr rfl⟩
    | succ less => exact .inr ⟨less, rfl, known, ok⟩

theorem definition_eq_ok {definitions : Definitions} {ref name : String} {body : Value} :
    definition definitions ref = .ok (name, body) ↔
      refName "definitions" ref = .ok name ∧ definitions.lookup name = some body := by
  unfold definition
  rw [bind_eq_ok]
  constructor
  · rintro ⟨named, read, ok⟩
    split at ok
    next found =>
      cases ok
      exact ⟨read, found⟩
    next => cases ok
  · rintro ⟨read, found⟩
    refine ⟨name, read, ?_⟩
    rw [found]
    rfl

end Schema
end SwaggerGate
