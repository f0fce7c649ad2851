import SwaggerGate.Proofs.Documents
import SwaggerGate.Proofs.Schema.Roots
import SwaggerGate.Proofs.Schema.WellFormed
import SwaggerGate.Proofs.Schema.Widening

/-! Models of widened definitions. Inlining and widening can be done in either order, so a model
that is compiled with widened definitions is the model, widened. -/
namespace SwaggerGate.Schema

/-! ### Inlining of widened definitions -/

section Substitute

variable {replace : String → Except CompileFailure Inlined} {inMap : Bool} {fields : List (Atom × Value)}

private theorem argument_widened {replace' : String → Except CompileFailure Inlined} {widened : Bool} {key : Atom}
    {v w c : Value} {first : List String} (types : widened = true → key = .text "type" → ∃ s, v = .text s)
    (argument : WidensArgument widened key v w) (made : substitute replace inMap v = .ok (c, first))
    (inner : Widens v w → ∃ d, substitute replace' inMap w = .ok (d, first) ∧ Widens c d) :
    ∃ d, substitute replace' inMap w = .ok (d, first) ∧ WidensArgument widened key c d := by
  unfold WidensArgument at argument ⊢
  split at argument
  next wide =>
    rw [Bool.and_eq_true, decide_eq_true_eq] at wide
    obtain ⟨s, rfl⟩ := types wide.1 wide.2
    rw [substitute_atom] at made
    cases made
    refine ⟨w, ?_, by rwa [if_pos (by simpa using wide)]⟩
    rw [argument]
    simp [substitute, substituteItems, bind, Except.bind, pure, Except.pure]
  next other =>
    obtain ⟨d, made', wider⟩ := inner argument
    exact ⟨d, made', by rwa [if_neg other]⟩

end Substitute

section Inlined

variable {definitions definitions' : Definitions} {depth : Nat} {stack : List String}

/-- What inlining makes of an object is widened where the object is. -/
private theorem isWidened_inlined (objects : AreObjects definitions) {fields cs : List (Atom × Value)}
    {R : Atom → Value → Value → Prop}
    (related : List.Forall₂ (fun f c => c.1 = f.1 ∧ R f.1 f.2 c.2) fields cs)
    (inlines : ∀ key v c, key ∈ [Atom.text "x-nullable", .text "type"] → R key v c →
      ∃ names, Inlines (replacement definitions depth stack) names false v c) :
    isWidened cs = isWidened fields := by
  have atom (key : Atom) (known : key ∈ [Atom.text "x-nullable", .text "type"]) (a : Atom) :
      cs.lookup key = some (.atom a) ↔ fields.lookup key = some (.atom a) := by
    rcases lookup_related related key with ⟨absent, absent'⟩ | ⟨v, c, given, given', r⟩
    · rw [absent, absent']
    · obtain ⟨names, inlined⟩ := inlines key v c known r
      rw [given, given', Option.some.injEq, Option.some.injEq]
      refine ⟨fun same => ?_, fun same => ?_⟩
      · subst same
        exact inlined.source_atom objects
      · subst same
        exact inlined.atom
  rw [Bool.eq_iff_iff, isWidened_iff, isWidened_iff]
  exact and_congr (atom _ (by simp) _) (exists_congr fun s => atom _ (by simp) _)

/-- Whether inlining in some definitions replaces references by what it does in others, widened. -/
structure Replaces (definitions definitions' : Definitions) (depth : Nat) (stack : List String) : Prop where
  objects : AreObjects definitions
  widened : ∀ ref c kept, replacement definitions depth stack ref = .ok (c, kept) →
    ∃ d, replacement definitions' depth stack ref = .ok (d, kept) ∧ Widens c d

mutual
/-- Inlining and widening can be done in either order. -/
theorem substitute_widened (replaces : Replaces definitions definitions' depth stack) : ∀ (inMap : Bool)
    (v w c : Value) (kept : List String), hasDistinctKeys v = true → Widens v w →
      substitute (replacement definitions depth stack) inMap v = .ok (c, kept) →
      ∃ d, substitute (replacement definitions' depth stack) inMap w = .ok (d, kept) ∧ Widens c d
  | _, .atom a, w, c, kept, _, wide, ok => by
    obtain rfl := wide.eq_of_atom
    rw [substitute_atom] at ok ⊢
    cases ok
    exact ⟨_, rfl, wide⟩
  | _, .set members, w, c, kept, _, wide, ok => by
    cases wide
    rw [substitute] at ok
    cases ok
    exact ⟨.set members, by rw [substitute], rfl⟩
  | _, .pair a b, w, c, kept, _, wide, ok => by
    cases wide
    rw [substitute] at ok
    cases ok
    exact ⟨.pair a b, by rw [substitute], rfl⟩
  | _, .loop levels ofObject, w, c, kept, _, wide, ok => by cases wide
  | inMap, .list items, w, c, kept, distinct, wide, ok => by
    obtain ⟨ws, rfl, each⟩ := widens_list.1 wide
    obtain ⟨cs, inner, rfl⟩ := substitute_list_eq_ok.1 ok
    obtain ⟨ds, made, related⟩ := substituteItems_widened replaces items ws cs _ distinct each inner
    exact ⟨.list ds, substitute_list_eq_ok.2 ⟨ds, made, rfl⟩, widens_list.2 ⟨ds, rfl, related⟩⟩
  | true, .obj fields, w, c, kept, distinct, wide, ok => by
    obtain ⟨ws, rfl, each⟩ := widens_object.1 wide
    rw [hasDistinctKeys, Bool.and_eq_true, decide_eq_true_eq] at distinct
    have inlined := Inlines.schemas ⟨kept, ok, List.Subset.refl _⟩
    obtain ⟨cs, inner, rfl⟩ := substitute_map_eq_ok.1 ok
    obtain ⟨_, same, inlined⟩ := inlined
    cases same
    have same := isWidened_inlined replaces.objects inlined fun _ _ _ _ h => ⟨_, h⟩
    obtain ⟨ds, made, related⟩ := substituteSchemas_widened replaces (isWidened fields) fields ws cs _ distinct.2
      (text_of_widened distinct.1) each inner
    exact ⟨.obj ds, substitute_map_eq_ok.2 ⟨ds, made, rfl⟩, widens_object.2 ⟨ds, rfl, same ▸ related⟩⟩
  | false, .obj fields, w, c, kept, distinct, wide, ok => by
    obtain ⟨ws, rfl, each⟩ := widens_object.1 wide
    cases given : refText? (.obj fields) with
    | some ref =>
      rw [substitute_reference given] at ok
      rw [substitute_reference (each.refText?.trans given)]
      exact replaces.widened ref c kept ok
    | none =>
      rw [hasDistinctKeys, Bool.and_eq_true, decide_eq_true_eq] at distinct
      have inlined := Inlines.fields ⟨kept, ok, List.Subset.refl _⟩ given
      obtain ⟨cs, inner, rfl⟩ := (substitute_keywords_eq_ok given).1 ok
      obtain ⟨_, same, inlined⟩ := inlined
      cases same
      have same := isWidened_inlined replaces.objects inlined fun key v c known h => ⟨kept, by
        simp only [List.mem_cons, List.not_mem_nil, or_false] at known
        rcases known with rfl | rfl <;> exact h⟩
      obtain ⟨ds, made, related⟩ := substituteFields_widened replaces (isWidened fields) fields ws cs _ distinct.2
        (text_of_widened distinct.1) each inner
      exact ⟨.obj ds, (substitute_keywords_eq_ok (each.refText?.trans given)).2 ⟨ds, made, rfl⟩,
        widens_object.2 ⟨ds, rfl, same ▸ related⟩⟩
termination_by structural _ v => v
private theorem substituteItems_widened (replaces : Replaces definitions definitions' depth stack) :
    ∀ (items ws cs : List Value) (kept : List String), itemsHaveDistinctKeys items = true → List.Forall₂ Widens items ws →
      substituteItems (replacement definitions depth stack) items = .ok (cs, kept) →
        ∃ ds, substituteItems (replacement definitions' depth stack) ws = .ok (ds, kept) ∧ List.Forall₂ Widens cs ds
  | [], ws, cs, kept, _, each, ok => by
    cases each
    cases ok
    exact ⟨[], rfl, .nil⟩
  | v :: rest, ws, cs, kept, distinct, each, ok => by
    obtain ⟨w, others, head, tail, rfl⟩ := List.forall₂_cons_left_iff.1 each
    rw [itemsHaveDistinctKeys, Bool.and_eq_true] at distinct
    obtain ⟨c, first, cs', more, made, making, rfl, rfl⟩ := substituteItems_cons_eq_ok.1 ok
    obtain ⟨d, made', wide⟩ := substitute_widened replaces false v w c first distinct.1 head made
    obtain ⟨ds, making', wider⟩ := substituteItems_widened replaces rest others cs' more distinct.2 tail making
    exact ⟨d :: ds, substituteItems_cons_eq_ok.2 ⟨d, first, ds, more, made', making', rfl, rfl⟩, .cons wide wider⟩
termination_by structural items => items
private theorem substituteSchemas_widened (replaces : Replaces definitions definitions' depth stack) (widened : Bool) :
    ∀ (fields ws cs : List (Atom × Value)) (kept : List String), fieldsHaveDistinctKeys fields = true →
      (widened = true → ∀ v, (.text "type", v) ∈ fields → ∃ s, v = .text s) → WidensFields widened fields ws →
      substituteSchemas (replacement definitions depth stack) fields = .ok (cs, kept) →
        ∃ ds, substituteSchemas (replacement definitions' depth stack) ws = .ok (ds, kept) ∧ WidensFields widened cs ds
  | [], ws, cs, kept, _, _, each, ok => by
    cases each
    cases ok
    exact ⟨[], rfl, .nil⟩
  | (key, v) :: rest, ws, cs, kept, distinct, types, each, ok => by
    obtain ⟨⟨key', w⟩, others, ⟨rfl, head⟩, tail, rfl⟩ := List.forall₂_cons_left_iff.1 each
    rw [fieldsHaveDistinctKeys, Bool.and_eq_true] at distinct
    obtain ⟨c, first, cs', more, made, making, rfl, rfl⟩ := substituteSchemas_cons_eq_ok.1 ok
    obtain ⟨d, made', wide⟩ := argument_widened (fun wide same => types wide v (same ▸ List.mem_cons_self)) head made
      fun argument => substitute_widened replaces false v w c first distinct.1 argument made
    obtain ⟨ds, making', wider⟩ := substituteSchemas_widened replaces widened rest others cs' more distinct.2
      (fun wide v member => types wide v (List.mem_cons_of_mem _ member)) tail making
    exact ⟨(key', d) :: ds, substituteSchemas_cons_eq_ok.2 ⟨d, first, ds, more, made', making', rfl, rfl⟩,
      .cons ⟨rfl, wide⟩ wider⟩
termination_by structural fields => fields
private theorem substituteFields_widened (replaces : Replaces definitions definitions' depth stack) (widened : Bool) :
    ∀ (fields ws cs : List (Atom × Value)) (kept : List String), fieldsHaveDistinctKeys fields = true →
      (widened = true → ∀ v, (.text "type", v) ∈ fields → ∃ s, v = .text s) → WidensFields widened fields ws →
      substituteFields (replacement definitions depth stack) fields = .ok (cs, kept) →
        ∃ ds, substituteFields (replacement definitions' depth stack) ws = .ok (ds, kept) ∧ WidensFields widened cs ds
  | [], ws, cs, kept, _, _, each, ok => by
    cases each
    cases ok
    exact ⟨[], rfl, .nil⟩
  | (key, v) :: rest, ws, cs, kept, distinct, types, each, ok => by
    obtain ⟨⟨key', w⟩, others, ⟨rfl, head⟩, tail, rfl⟩ := List.forall₂_cons_left_iff.1 each
    rw [fieldsHaveDistinctKeys, Bool.and_eq_true] at distinct
    obtain ⟨c, first, cs', more, made, making, rfl, rfl⟩ := substituteFields_cons_eq_ok.1 ok
    obtain ⟨ds, making', wider⟩ := substituteFields_widened replaces widened rest others cs' more distinct.2
      (fun wide v member => types wide v (List.mem_cons_of_mem _ member)) tail making
    by_cases literal : isLiteralKey key' = true
    · rw [if_pos literal] at made
      obtain ⟨rfl, rfl⟩ := made
      exact ⟨(key', w) :: ds, substituteFields_cons_eq_ok.2
        ⟨w, [], ds, more, by rw [if_pos literal]; exact ⟨rfl, rfl⟩, making', rfl, rfl⟩, .cons ⟨rfl, head⟩ wider⟩
    · rw [if_neg literal] at made
      obtain ⟨d, made', wide⟩ := argument_widened (fun wide same => types wide v (same ▸ List.mem_cons_self)) head made
        fun argument => substitute_widened replaces _ v w c first distinct.1 argument made
      exact ⟨(key', d) :: ds, substituteFields_cons_eq_ok.2
        ⟨d, first, ds, more, by rw [if_neg literal]; exact made', making', rfl, rfl⟩, .cons ⟨rfl, wide⟩ wider⟩
termination_by structural fields => fields
end

end Inlined

/-! ### Distinct keys -/

mutual
/-- Inlining keeps the keys of an object, so distinct ones stay distinct. -/
theorem substitute_distinct {replace : String → Except CompileFailure Inlined}
    (replaced : ∀ ref c kept, replace ref = .ok (c, kept) → hasDistinctKeys c = true) : ∀ (inMap : Bool) (v c : Value)
      (kept : List String), hasDistinctKeys v = true → substitute replace inMap v = .ok (c, kept) →
        hasDistinctKeys c = true
  | _, .atom a, c, kept, distinct, ok => by cases ok; exact distinct
  | _, .set members, c, kept, distinct, ok => by cases ok; exact distinct
  | _, .pair a b, c, kept, distinct, ok => by cases ok; exact distinct
  | _, .loop levels ofObject, c, kept, _, ok => by cases ok
  | inMap, .list items, c, kept, distinct, ok => by
    obtain ⟨cs, inner, rfl⟩ := substitute_list_eq_ok.1 ok
    exact substituteItems_distinct replaced items cs _ distinct inner
  | true, .obj fields, c, kept, distinct, ok => by
    have inlined := Inlines.schemas ⟨kept, ok, List.Subset.refl _⟩
    obtain ⟨cs, inner, rfl⟩ := substitute_map_eq_ok.1 ok
    obtain ⟨_, same, inlined⟩ := inlined
    cases same
    have keys := keys_related inlined
    rw [hasDistinctKeys, Bool.and_eq_true] at distinct ⊢
    exact ⟨by rw [keys]; exact distinct.1, substituteSchemas_distinct replaced fields cs _ distinct.2 inner⟩
  | false, .obj fields, c, kept, distinct, ok => by
    cases given : refText? (.obj fields) with
    | some ref =>
      rw [substitute_reference given] at ok
      exact replaced ref c kept ok
    | none =>
      have inlined := Inlines.fields ⟨kept, ok, List.Subset.refl _⟩ given
      obtain ⟨cs, inner, rfl⟩ := (substitute_keywords_eq_ok given).1 ok
      obtain ⟨_, same, inlined⟩ := inlined
      cases same
      have keys := keys_related inlined
      rw [hasDistinctKeys, Bool.and_eq_true] at distinct ⊢
      exact ⟨by rw [keys]; exact distinct.1, substituteFields_distinct replaced fields cs _ distinct.2 inner⟩
private theorem substituteItems_distinct {replace : String → Except CompileFailure Inlined}
    (replaced : ∀ ref c kept, replace ref = .ok (c, kept) → hasDistinctKeys c = true) : ∀ (items cs : List Value)
      (kept : List String), itemsHaveDistinctKeys items = true → substituteItems replace items = .ok (cs, kept) →
        itemsHaveDistinctKeys cs = true
  | [], cs, kept, _, ok => by cases ok; rfl
  | v :: rest, cs, kept, distinct, ok => by
    rw [itemsHaveDistinctKeys, Bool.and_eq_true] at distinct
    obtain ⟨c, first, cs', more, head, tail, rfl, rfl⟩ := substituteItems_cons_eq_ok.1 ok
    rw [itemsHaveDistinctKeys, substitute_distinct replaced false v c first distinct.1 head,
      substituteItems_distinct replaced rest cs' more distinct.2 tail]
    rfl
private theorem substituteSchemas_distinct {replace : String → Except CompileFailure Inlined}
    (replaced : ∀ ref c kept, replace ref = .ok (c, kept) → hasDistinctKeys c = true) :
    ∀ (fields cs : List (Atom × Value)) (kept : List String), fieldsHaveDistinctKeys fields = true →
      substituteSchemas replace fields = .ok (cs, kept) → fieldsHaveDistinctKeys cs = true
  | [], cs, kept, _, ok => by cases ok; rfl
  | (key, v) :: rest, cs, kept, distinct, ok => by
    rw [fieldsHaveDistinctKeys, Bool.and_eq_true] at distinct
    obtain ⟨c, first, cs', more, head, tail, rfl, rfl⟩ := substituteSchemas_cons_eq_ok.1 ok
    rw [fieldsHaveDistinctKeys, substitute_distinct replaced false v c first distinct.1 head,
      substituteSchemas_distinct replaced rest cs' more distinct.2 tail]
    rfl
private theorem substituteFields_distinct {replace : String → Except CompileFailure Inlined}
    (replaced : ∀ ref c kept, replace ref = .ok (c, kept) → hasDistinctKeys c = true) :
    ∀ (fields cs : List (Atom × Value)) (kept : List String), fieldsHaveDistinctKeys fields = true →
      substituteFields replace fields = .ok (cs, kept) → fieldsHaveDistinctKeys cs = true
  | [], cs, kept, _, ok => by cases ok; rfl
  | (key, v) :: rest, cs, kept, distinct, ok => by
    rw [fieldsHaveDistinctKeys, Bool.and_eq_true] at distinct
    obtain ⟨c, first, cs', more, head, tail, rfl, rfl⟩ := substituteFields_cons_eq_ok.1 ok
    have argument : hasDistinctKeys c = true := by
      by_cases literal : isLiteralKey key = true
      · rw [if_pos literal] at head
        exact head.1 ▸ distinct.1
      · rw [if_neg literal] at head
        exact substitute_distinct replaced _ v c first distinct.1 head
    rw [fieldsHaveDistinctKeys, argument, substituteFields_distinct replaced rest cs' more distinct.2 tail]
    rfl
end

/-! ### Widened definitions -/

theorem widens_cut (name : String) : Widens (cut name) (cut name) := rfl

/-- Whether all objects inside some definitions have distinct keys. -/
def AreDistinct (definitions : Definitions) : Prop := ∀ entry ∈ definitions, hasDistinctKeys entry.2 = true

/-- Definitions, and the same ones widened. -/
structure WidensDefinitions (definitions definitions' : Definitions) : Prop where
  objects : AreObjects definitions
  distinct : AreDistinct definitions
  widened : WidensEntries definitions definitions'

section Definitions

variable {definitions definitions' : Definitions} {bodies : List (String × Value)} {kept : List String}

theorem AreDistinct.lookup (distinct : AreDistinct definitions) {name : String} {body : Value}
    (found : definitions.lookup name = some body) : hasDistinctKeys body = true :=
  distinct _ (Entries.mem_of_lookup_eq_some found)

theorem replacement_of_definition {ref name : String} {body : Value}
    (found : definition definitions ref = .ok (name, body)) (depth : Nat) (stack : List String) :
    replacement definitions depth stack ref = if name ∈ stack then .ok (cut name, [name]) else match depth with
      | 0 => .ok (cut name, [name])
      | less + 1 => inlineWithin definitions less (name :: stack) body := by
  rw [replacement, found]
  simp only [bind, Except.bind, List.contains_iff_mem]
  split
  · rfl
  · cases depth <;> rfl

/-- What is inlined of schemas with distinct keys has distinct keys. -/
theorem inlineWithin_distinct (distinct : AreDistinct definitions) (depth : Nat) : ∀ (stack : List String)
    (schema c : Value) (kept : List String), hasDistinctKeys schema = true →
      inlineWithin definitions depth stack schema = .ok (c, kept) → hasDistinctKeys c = true := by
  induction depth using Nat.strongRecOn with
  | ind depth ih =>
    intro stack schema c kept apart ok
    rw [inlineWithin_eq] at ok
    refine substitute_distinct (fun ref c kept ok => ?_) false schema c kept apart ok
    obtain ⟨name, body, found, ⟨rfl, -, -⟩ | ⟨less, rfl, -, inner⟩⟩ := replacement_cases ok
    · rfl
    · exact ih less (by omega) _ body c kept (distinct.lookup (definition_eq_ok.1 found).2) inner

/-- Inlining in widened definitions gives what inlining gives, widened. -/
theorem inlineWithin_widened (wide : WidensDefinitions definitions definitions') (depth : Nat) : ∀ (stack : List String)
    (schema w c : Value) (kept : List String), hasDistinctKeys schema = true → Widens schema w →
      inlineWithin definitions depth stack schema = .ok (c, kept) →
        ∃ d, inlineWithin definitions' depth stack w = .ok (d, kept) ∧ Widens c d := by
  induction depth using Nat.strongRecOn with
  | ind depth ih =>
    intro stack schema w c kept apart widens ok
    rw [inlineWithin_eq] at ok ⊢
    refine substitute_widened ⟨wide.objects, fun ref c kept ok => ?_⟩ false schema w c kept apart widens ok
    obtain ⟨name, body, found, end_⟩ := replacement_cases ok
    obtain ⟨named, given⟩ := definition_eq_ok.1 found
    obtain ⟨body', found', bodies⟩ : ∃ body', definition definitions' ref = .ok (name, body') ∧ Widens body body' := by
      rcases wide.widened.lookup name with ⟨absent, -⟩ | ⟨v, w, known, known', inner⟩
      · rw [absent] at given
        cases given
      · rw [known] at given
        cases given
        exact ⟨w, definition_eq_ok.2 ⟨named, known'⟩, inner⟩
    rw [replacement_of_definition found']
    rcases end_ with ⟨rfl, rfl, stacked | rfl⟩ | ⟨less, rfl, fresh, inner⟩
    · exact ⟨cut name, if_pos stacked, widens_cut name⟩
    · refine ⟨cut name, ?_, widens_cut name⟩
      split <;> rfl
    · rw [if_neg fresh]
      exact ih less (by omega) (name :: stack) body body' c kept (wide.distinct.lookup given) bodies inner

private theorem embedWithin_widened (wide : WidensDefinitions definitions definitions') (fuel : Nat) :
    ∀ (pending : List String) (done done' bodies : List (String × Value)), WidensEntries done done' →
      embedWithin definitions fuel pending done = .ok bodies →
        ∃ bodies', embedWithin definitions' fuel pending done' = .ok bodies' ∧ WidensEntries bodies bodies' := by
  induction fuel with
  | zero =>
    intro pending done done' bodies each ok
    cases ok
    exact ⟨done', rfl, each⟩
  | succ fuel ih =>
    intro pending done done' bodies each ok
    have pick : (fun name => (done'.lookup name).isNone) = fun name => (done.lookup name).isNone :=
      funext fun name => each.lookup_isNone name
    rw [embedWithin] at ok ⊢
    rw [pick]
    split at ok
    next none_ =>
      cases ok
      exact ⟨done', rfl, each⟩
    next name picked =>
      obtain ⟨⟨body, kept⟩, inlined, ok⟩ := bind_eq_ok.1 ok
      obtain ⟨apart, source⟩ : hasDistinctKeys ((definitions.lookup name).getD .null) = true ∧
          Widens ((definitions.lookup name).getD .null) ((definitions'.lookup name).getD .null) := by
        rcases wide.widened.lookup name with ⟨absent, absent'⟩ | ⟨v, w, known, known', inner⟩
        · rw [absent, absent']
          exact ⟨rfl, widens_atom _⟩
        · rw [known, known']
          exact ⟨wide.distinct.lookup known, inner⟩
      obtain ⟨body', inlined', widens⟩ := inlineWithin_widened wide _ [name] _ _ body kept apart source inlined
      rw [wide.widened.length_eq] at inlined'
      have grown : WidensEntries (done ++ [(name, body)]) (done' ++ [(name, body')]) :=
        List.rel_append each (.cons ⟨rfl, widens⟩ .nil)
      obtain ⟨bodies', embedded, related⟩ := ih (pending ++ kept) _ _ bodies grown ok
      exact ⟨bodies', bind_eq_ok.2 ⟨(body', kept), inlined', embedded⟩, related⟩

/-- The definitions that are embedded beside a schema are those of the widened ones, before widening. -/
theorem embedded_widened (wide : WidensDefinitions definitions definitions')
    (ok : embedded definitions kept = .ok bodies) :
    ∃ bodies', embedded definitions' kept = .ok bodies' ∧ WidensEntries bodies bodies' := by
  unfold embedded
  rw [← wide.widened.length_eq]
  exact embedWithin_widened wide _ kept [] [] bodies .nil ok

theorem Embedding.objects (objects : AreObjects definitions) (embedding : Embedding definitions kept bodies) :
    AreObjects bodies := by
  intro entry member
  obtain ⟨-, source, kept, found, inlined, -⟩ := embedding.body entry member
  exact Compiles.isObject objects (.ofInlined inlined (List.Subset.refl kept)) (isObject_of_lookup objects found)

theorem Embedding.areDistinct (distinct : AreDistinct definitions) (embedding : Embedding definitions kept bodies) :
    AreDistinct bodies := by
  intro entry member
  obtain ⟨-, source, kept, found, inlined, -⟩ := embedding.body entry member
  exact inlineWithin_distinct distinct _ _ source entry.2 kept (distinct.lookup found) inlined

end Definitions

end SwaggerGate.Schema

namespace SwaggerGate.Compile

open Schema

section Model

variable {definitions definitions' : Definitions} {name : String} {root root' : Value}

private theorem widens_put {widened : Bool} {key : Atom} (other : key ≠ .text "type") {v w : Value} (wide : Widens v w)
    {fields ws : List (Atom × Value)} (each : WidensFields widened fields ws) :
    WidensFields widened (Entries.put key v fields) (Entries.put key w ws) := by
  have argument : WidensArgument widened key v w := by
    rwa [WidensArgument, if_neg (by simp [other])]
  induction each with
  | nil => exact .cons ⟨rfl, argument⟩ .nil
  | @cons f w' rest ws head tail ih =>
    obtain ⟨k, v'⟩ := f
    obtain ⟨k', w'⟩ := w'
    obtain ⟨rfl, inner⟩ := head
    rw [Entries.put, Entries.put]
    split
    next same => exact .cons ⟨rfl, same ▸ argument⟩ tail
    next => exact .cons ⟨rfl, inner⟩ ih

private theorem widens_record {bodies bodies' : List (String × Value)} (objects : AreObjects bodies)
    (each : WidensEntries bodies bodies') : Widens (.record bodies) (.record bodies') := by
  refine (widens_map fun entry member a same => ?_).2 ⟨_, rfl, ?_⟩
  · obtain ⟨body, inside, rfl⟩ := List.mem_map.1 member
    obtain ⟨fields, object⟩ := objects body inside
    rw [object] at same
    cases same
  · rw [WidensEntries, List.forall₂_map_left_iff, List.forall₂_map_right_iff]
    exact each.imp fun body body' same => ⟨congrArg Atom.text same.1, same.2⟩

/-- A model that is compiled with widened definitions is the model, widened. -/
theorem model_widened (wide : WidensDefinitions definitions definitions') (objects' : AreObjects definitions')
    (ok : model definitions name = .ok root) (ok' : model definitions' name = .ok root') : Widens root root' := by
  obtain ⟨fields, kept, bodies, inlined, embeds, rfl, -⟩ := model_schema wide.objects ok
  obtain ⟨fields', kept', bodies', inlined', embeds', rfl, -⟩ := model_schema objects' ok'
  obtain ⟨d, made, widens⟩ := inlineWithin_widened wide _ [] (cut name) (cut name) _ kept rfl (widens_cut name) inlined
  rw [wide.widened.length_eq] at made
  cases made.symm.trans inlined'
  obtain ⟨_, made, each⟩ := embedded_widened wide embeds
  cases made.symm.trans embeds'
  obtain ⟨_, same, fields_⟩ := widens_object.1 widens
  cases same
  have embedding := embedded_closed (inline_onCycle inlined) embeds
  unfold withBodies
  by_cases noBodies : bodies.isEmpty = true
  · have noBodies' : bodies'.isEmpty = true := by
      rw [List.isEmpty_iff] at noBodies ⊢
      subst noBodies
      cases each
      rfl
    rw [if_pos noBodies, if_pos noBodies']
    exact widens
  · have someBodies : ¬ bodies'.isEmpty = true := by
      intro none_
      rw [List.isEmpty_iff] at none_
      subst none_
      cases each
      exact noBodies rfl
    have narrow : isWidened (Entries.put (.text "definitions") (.record bodies) fields) = isWidened fields := by
      unfold isWidened
      rw [Entries.lookup_put, Entries.lookup_put, if_neg (by decide), if_neg (by decide)]
    rw [if_neg noBodies, if_neg someBodies]
    refine widens_object.2 ⟨_, rfl, ?_⟩
    rw [narrow]
    exact widens_put (by decide) (widens_record (embedding.objects wide.objects) each) fields_

/-- The objects inside a model have distinct keys if those of the definitions have. -/
theorem model_distinct (objects : AreObjects definitions) (distinct : AreDistinct definitions)
    (ok : model definitions name = .ok root) : hasDistinctKeys root = true := by
  obtain ⟨fields, kept, bodies, inlined, embeds, rfl, -⟩ := model_schema objects ok
  have embedding := embedded_closed (inline_onCycle inlined) embeds
  have schema := inlineWithin_distinct distinct _ [] (cut name) _ kept rfl inlined
  unfold withBodies
  split
  · exact schema
  · rw [hasDistinctKeys_object] at schema ⊢
    obtain ⟨keys, each⟩ := schema
    constructor
    · rw [Entries.keys_put]
      split
      · exact keys
      next fresh =>
        rw [List.nodup_append_comm]
        exact List.nodup_cons.2 ⟨fresh, keys⟩
    · intro entry member
      rcases Entries.mem_put member with rfl | old
      · refine hasDistinctKeys_object.2 ⟨?_, fun body inside => ?_⟩
        · have texts : Entries.keys (bodies.map fun f => (Atom.text f.1, f.2)) = (Entries.keys bodies).map Atom.text := by
            simp [Entries.keys]
          rw [texts]
          exact embedding.distinct.map fun a b same => Atom.text.inj same
        · obtain ⟨source, known, rfl⟩ := List.mem_map.1 inside
          exact embedding.areDistinct distinct source known
      · exact each entry old

end Model

end SwaggerGate.Compile
