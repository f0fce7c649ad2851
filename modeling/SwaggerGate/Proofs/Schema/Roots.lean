import SwaggerGate.Compile
import SwaggerGate.Proofs.Schema.Compiled

/-! Root schemas as compilation makes them: the body and payload schemas of operations, and
models. All their places are settled, and their embedded definitions are those that stay cut. -/
namespace SwaggerGate.Schema

theorem lookup_record {entries : List (String × Value)} {name : String} :
    (entries.map fun f => (Atom.text f.1, f.2)).lookup (.text name) = entries.lookup name := by
  induction entries with
  | nil => rfl
  | cons f rest ih =>
    obtain ⟨k, v⟩ := f
    rw [List.map_cons, Entries.lookup_cons_if, Entries.lookup_cons_if, ih]
    simp

section Stands

variable {definitions : Definitions} {names more : List String} {schema part : Value}

theorem Compiles.mono (h : Compiles definitions names schema part) (subset : names ⊆ more) :
    Compiles definitions more schema part := by
  obtain ⟨depth, stack, kept, ok, inside⟩ := h
  exact ⟨depth, stack, kept, ok, List.Subset.trans inside subset⟩

theorem Stands.mono (h : Stands definitions names schema part) (subset : names ⊆ more) :
    Stands definitions more schema part :=
  ⟨h.1, h.2.imp (·.mono subset) id⟩

end Stands

/-- Definitions that are legible throughout. -/
def AreReadable (definitions : Definitions) : Prop :=
  ∀ name body, definitions.lookup name = some body → Readable body

/-- A root schema whose places are settled and whose embedded definitions are those that stay
cut in it. -/
structure CompiledRoot (definitions : Definitions) (bodies : List (String × Value)) (root : Value) : Prop where
  settled : SettledRoot (Entries.keys bodies) root
  embeds : bodies ≠ [] → embeddedIn root = bodies.map fun f => (.text f.1, f.2)
  cyclic : ∀ name ∈ Entries.keys bodies, OnCycle definitions name

section Root

variable {definitions : Definitions} {kept : List String} {bodies : List (String × Value)}

theorem Embedding.body_stands (readable : AreReadable definitions) (embedding : Embedding definitions kept bodies)
    {name : String} {body : Value} (found : bodies.lookup name = some body) :
    ∃ source, Stands definitions (Entries.keys bodies) source body := by
  obtain ⟨-, source, kept, given, ok, inside⟩ := embedding.body _ (Entries.mem_of_lookup_eq_some found)
  exact ⟨source, readable name source given, .inl (.ofInlined ok inside)⟩

/-- A root is settled if the places right inside it stand for legible schemas. -/
theorem CompiledRoot.ofInside (objects : AreObjects definitions) (readable : AreReadable definitions)
    (embedding : Embedding definitions kept bodies) {fields : List (Atom × Value)}
    (settled : Settled (Entries.keys bodies) fields)
    (embeds : bodies ≠ [] → embeddedIn (.obj fields) = bodies.map fun f => (.text f.1, f.2))
    (inside : shownRef? fields = none → ∀ part ∈ schemasInside fields,
      ∃ source, Stands definitions (Entries.keys bodies) source part) :
    CompiledRoot definitions bodies (.obj fields) := by
  have places (part : Value) (reached : Reached (.obj fields) part) :
      part = .obj fields ∨ ∃ source, Stands definitions (Entries.keys bodies) source part := by
    induction reached with
    | root => exact .inl rfl
    | inside _ shown member ih =>
      rcases ih with same | ⟨source, stands⟩
      · cases same
        exact .inr (inside shown _ member)
      · exact .inr (stands.inside objects readable shown member)
    | @target inner ref name body _ given named found ih =>
      right
      have cutting : Settled (Entries.keys bodies) inner := by
        rcases ih with same | ⟨source, stands⟩
        · cases same
          exact settled
        · exact stands.settled objects readable
      obtain ⟨name, member, -⟩ := cutting.reference _ given
      rw [embeds (by rintro rfl; cases member), lookup_record] at found
      exact embedding.body_stands readable found
  refine ⟨fun inner reached => ?_, embeds, fun name member => ?_⟩
  · rcases places _ reached with same | ⟨source, stands⟩
    · cases same
      exact settled
    · exact stands.settled objects readable
  · obtain ⟨entry, inside, rfl⟩ := List.mem_map.1 member
    exact (embedding.body entry inside).onCycle

end Root

end SwaggerGate.Schema

namespace SwaggerGate.Compile

open Schema

/-- The entries of an object schema. -/
def objectFields (properties : List (Atom × Value)) (required : List Value) (bodies : List (String × Value)) :
    List (Atom × Value) :=
  [(.text "type", .text "object"), (.text "properties", .obj properties)]
    ++ (if required.isEmpty then [] else [(.text "required", .list required)])
    ++ (if bodies.isEmpty then [] else [(.text "definitions", .record bodies)])

theorem objectSchema_eq (properties : List (Atom × Value)) (required : List Value) (bodies : List (String × Value)) :
    objectSchema properties required bodies = .obj (objectFields properties required bodies) := by
  unfold objectSchema objectFields Value.record
  by_cases noneRequired : required.isEmpty <;> by_cases noBodies : bodies.isEmpty <;> simp [noneRequired, noBodies]

theorem mem_objectFields {properties : List (Atom × Value)} {required : List Value} {bodies : List (String × Value)}
    {f : Atom × Value} (member : f ∈ objectFields properties required bodies) :
    f = (.text "type", .text "object") ∨ f = (.text "properties", .obj properties) ∨
      f = (.text "required", .list required) ∨ f.1 = .text "definitions" := by
  unfold objectFields at member
  split at member <;> split at member
  all_goals
    simp only [List.cons_append, List.nil_append, List.append_nil, List.mem_cons, List.not_mem_nil, or_false] at member
    rcases member with rfl | rfl | rfl | rfl <;> simp

section Operation

variable {properties : List (Atom × Value)} {required : List Value} {bodies : List (String × Value)}

theorem lookup_objectFields {key : String} (other : key ≠ "type" ∧ key ≠ "properties" ∧ key ≠ "required" ∧
    key ≠ "definitions") : (objectFields properties required bodies).lookup (.text key) = none := by
  obtain ⟨noType, noProperties, noRequired, noDefinitions⟩ := other
  unfold objectFields
  by_cases required.isEmpty <;> by_cases bodies.isEmpty <;> simp [Entries.lookup_cons_if, *]

theorem embeddedIn_objectFields :
    embeddedIn (.obj (objectFields properties required bodies)) = bodies.map fun f => (.text f.1, f.2) := by
  unfold embeddedIn objectFields
  cases bodies <;> by_cases noneRequired : required.isEmpty <;>
    simp [noneRequired, Entries.lookup_cons_if, Value.record]

theorem schemasInside_objectFields :
    schemasInside (objectFields properties required bodies) = mapped (.obj properties) := by
  have type : keywordOf? .draft4 (.text "type") = some .type := rfl
  have property : keywordOf? .draft4 (.text "properties") = some .properties := rfl
  have needed : keywordOf? .draft4 (.text "required") = some .required := rfl
  have definition : keywordOf? .draft4 (.text "definitions") = none := rfl
  unfold schemasInside objectFields
  by_cases noneRequired : required.isEmpty <;> by_cases noBodies : bodies.isEmpty <;>
    simp [noneRequired, noBodies, type, property, needed, definition, schemasUnder]

/-- An object schema of compiled properties is a compiled root. -/
theorem objectSchema_compiled {definitions : Definitions} (objects : AreObjects definitions)
    (readable : AreReadable definitions) {kept : List String} (embedding : Embedding definitions kept bodies)
    (stands : ∀ entry ∈ properties, ∃ source, Stands definitions kept source entry.2) :
    CompiledRoot definitions bodies (objectSchema properties required bodies) := by
  have absent (key : String) (other : key ≠ "type" ∧ key ≠ "properties" ∧ key ≠ "required" ∧ key ≠ "definitions") :
      (objectFields properties required bodies).lookup (.text key) = none := lookup_objectFields other
  rw [objectSchema_eq]
  refine CompiledRoot.ofInside objects readable embedding ⟨?_, ?_, ?_⟩ (fun _ => embeddedIn_objectFields) ?_
  · rw [absent "$ref" (by decide)]
    nofun
  · rw [absent "id" (by decide)]
    nofun
  · rw [absent "$schema" (by decide)]
    nofun
  · intro _ part member
    rw [schemasInside_objectFields] at member
    obtain ⟨entry, inside, rfl⟩ := List.mem_map.1 member
    obtain ⟨source, h⟩ := stands entry inside
    exact ⟨source, h.mono embedding.covers⟩

/-! ### Properties under construction -/

/-- Whether every property of a draft stands for a legible schema. -/
def Draft.Sound (definitions : Definitions) (draft : Draft) : Prop :=
  ∀ entry ∈ draft.properties ++ draft.payloadProperties, ∃ source, Stands definitions draft.kept source entry.2

theorem mem_addProperty {properties : List (Atom × Value)} {name : Atom} {schema : Value} {entry : Atom × Value}
    (member : entry ∈ addProperty properties name schema) : entry ∈ properties ∨ entry = (name, schema) := by
  unfold addProperty at member
  split at member
  · exact .inl member
  · exact (List.mem_append.1 member).imp id List.mem_singleton.1

theorem mem_addProperties {properties more : List (Atom × Value)} {entry : Atom × Value}
    (member : entry ∈ addProperties properties more) : entry ∈ properties ∨ entry ∈ more := by
  unfold addProperties at member
  induction more generalizing properties with
  | nil => exact .inl member
  | cons first rest ih =>
    rcases ih member with known | later
    · rcases mem_addProperty known with old | rfl
      · exact .inl old
      · exact .inr List.mem_cons_self
    · exact .inr (List.mem_cons_of_mem _ later)

theorem orFault_ok {α : Type} {x : Except Fault α} {a : α} (ok : orFault x = .ok a) : x = .ok a := by
  cases x with
  | ok b => cases ok; rfl
  | error fault => cases ok

/-- The last step of a body part reads the required names, and keeps the properties. -/
private theorem required_keeps {inlined : Value} {properties : List (Atom × Value)} {kept : List String}
    {part : BodyPart} (ok : (match given? inlined "required" with
      | none => do
        let required ← pure []
        pure { properties, required, kept }
      | some v => do
        let required ← orFault v.members
        pure { properties, required, kept }) = Except.ok (ε := CompileFailure) part) :
    part.properties = properties ∧ part.kept = kept := by
  split at ok
  · cases ok
    exact ⟨rfl, rfl⟩
  · obtain ⟨required, -, ok⟩ := bind_eq_ok.1 ok
    cases ok
    exact ⟨rfl, rfl⟩

/-- The properties of a body part are those of the inlined schema, if it has any. -/
theorem bodyPart_properties {definitions : Definitions} {schema : List (Atom × Value)} {part : BodyPart}
    (ok : bodyPart definitions schema = .ok part) :
    ∃ inlined, Schema.inline definitions (.obj schema) = .ok (inlined, part.kept) ∧
      (part.properties = [] ∨ inlined.field? "properties" = some (.obj part.properties)) := by
  obtain ⟨⟨inlined, kept⟩, inlining, ok⟩ := bind_eq_ok.1 ok
  cases given : given? inlined "properties" with
  | none =>
    simp only [given] at ok
    obtain ⟨none_, keeps⟩ := required_keeps ok
    exact ⟨inlined, keeps ▸ inlining, .inl none_⟩
  | some v =>
    simp only [given] at ok
    obtain ⟨properties, entries, ok⟩ := bind_eq_ok.1 ok
    obtain ⟨same, keeps⟩ := required_keeps ok
    have field : inlined.field? "properties" = some v := (Option.filter_eq_some_iff.1 given).1
    have object := orFault_ok entries
    cases v with
    | obj fields =>
      cases object
      exact ⟨inlined, keeps ▸ inlining, .inr (same ▸ field)⟩
    | _ => cases object

/-- The properties that a body schema declares stand for those that it was written with. -/
theorem bodyPart_stands {definitions : Definitions} (objects : AreObjects definitions)
    (readable : AreReadable definitions) {schema : List (Atom × Value)} (legible : Readable (.obj schema))
    {part : BodyPart} (ok : bodyPart definitions schema = .ok part) :
    ∀ entry ∈ part.properties, ∃ source, Stands definitions part.kept source entry.2 := by
  obtain ⟨inlined, inlining, ok⟩ := bodyPart_properties ok
  intro entry member
  rcases ok with none_ | given
  · rw [none_] at member
    cases member
  · have stands : Stands definitions part.kept (.obj schema) inlined :=
      ⟨legible, .inl (.ofInlined inlining (List.Subset.refl _))⟩
    cases inlined with
    | obj fields =>
      have entry_ : (.text "properties", .obj part.properties) ∈ fields := Entries.mem_of_lookup_eq_some given
      have bare : fields.lookup (.text "$ref") = none := by
        rcases stands.bare_or_cut readable with bare | ⟨name, same⟩
        · exact bare
        · cases same
          cases given
      refine stands.inside objects readable (shownRef?_of_bare bare) ?_
      exact mem_schemasInside.2 ⟨.properties, _, entry_, rfl, List.mem_map.2 ⟨entry, member, rfl⟩⟩
    | _ => cases given

/-- A property that a parameter's type makes holds no reference, but for its data. -/
private theorem substitute_propertySchema (replace : String → Except CompileFailure Inlined) : ∀ items : Items,
    substitute replace false (propertySchema items) = .ok (propertySchema items, [])
  | ⟨type, enum, none, _, _⟩ => by
    cases enum with
    | none => rfl
    | some members => rfl
  | ⟨type, enum, some inner, _, _⟩ => by
    have ih := substitute_propertySchema replace inner
    have bare : Atom.text "$ref" ≠ .text "type" ∧ Atom.text "$ref" ≠ .text "enum" ∧ Atom.text "$ref" ≠ .text "items" := by
      decide
    have typeKey : isLiteralKey (.text "type") = false ∧ isSchemaMapKey (.text "type") = false := by decide
    have enumKey : isLiteralKey (.text "enum") = true := by decide
    have itemsKey : isLiteralKey (.text "items") = false ∧ isSchemaMapKey (.text "items") = false := by decide
    cases enum <;>
      simp [propertySchema, Value.record, substitute, substituteFields, Entries.lookup_cons_if, ih, bind, Except.bind,
        pure, Except.pure, bare, typeKey, enumKey, itemsKey]

theorem propertySchema_object (items : Items) : ∃ fields, propertySchema items = .obj fields ∧
    fields.lookup (.text "$ref") = none ∧ fields.lookup (.text "id") = none ∧ fields.lookup (.text "$schema") = none ∧
      (∀ schemas, (.text "dependencies", .obj schemas) ∉ fields) ∧ unread fields = [] ∧
      ∀ part ∈ schemasInside fields, ∃ inner : Items, part = propertySchema inner := by
  obtain ⟨type, enum, inner, format, extra⟩ := items
  have typeKey : keywordOf? .draft4 (.text "type") = some .type := rfl
  have enumKey : keywordOf? .draft4 (.text "enum") = some .enum := rfl
  have itemsKey : keywordOf? .draft4 (.text "items") = some .items := rfl
  cases inner with
  | none =>
    refine ⟨_, rfl, ?_⟩
    cases enum <;>
      simp [Entries.lookup_cons_if, unread, schemasInside, typeKey, enumKey, schemasUnder]
  | some inner =>
    have object : ∃ fields, propertySchema inner = .obj fields := by
      obtain ⟨type, enum, innermost, format, extra⟩ := inner
      cases innermost <;> exact ⟨_, rfl⟩
    obtain ⟨fields, object⟩ := object
    refine ⟨_, rfl, ?_⟩
    cases enum <;>
      simp [Entries.lookup_cons_if, unread, schemasInside, typeKey, enumKey, itemsKey, schemasUnder, object]
    all_goals exact ⟨inner, object.symm⟩

private theorem readable_propertySchema (items : Items) : Readable (propertySchema items) := by
  have places (part : Value) (within : Within (propertySchema items) part) : ∃ inner : Items, part = propertySchema inner := by
    induction within with
    | self => exact ⟨items, rfl⟩
    | inside _ _ member ih =>
      obtain ⟨inner, same⟩ := ih
      obtain ⟨fields, object, -, -, -, -, -, inside⟩ := propertySchema_object inner
      rw [object] at same
      cases same
      exact inside _ member
  intro fields within _
  obtain ⟨inner, same⟩ := places _ within
  obtain ⟨fields', object, bare, address, dialect, dependencies, noUnread, -⟩ := propertySchema_object inner
  rw [object] at same
  cases same
  exact ⟨bare, by simp [address], by simp [dialect], fun schemas member => absurd member (dependencies schemas),
    by simp [noUnread]⟩

theorem propertySchema_stands (definitions : Definitions) (names : List String) (items : Items) :
    Stands definitions names (propertySchema items) (propertySchema items) :=
  ⟨readable_propertySchema items, .inl ⟨0, [], [], substitute_propertySchema _ items, List.nil_subset _⟩⟩

/-- Whether the body schema of a parameter, if it has one, is legible. -/
def LegibleParameter (p : Parameter) : Prop := p.location = some .body → Readable (.obj (p.schema.getD []))

private theorem Draft.add_sound {definitions : Definitions} (objects : AreObjects definitions)
    (readable : AreReadable definitions) {draft next : Draft} {p : Parameter} (legible : LegibleParameter p)
    (sound : draft.Sound definitions) (ok : draft.add definitions p = .ok next) : next.Sound definitions := by
  unfold Draft.add at ok
  split at ok
  next body =>
    obtain ⟨part, made, ok⟩ := bind_eq_ok.1 ok
    cases ok
    have parts := bodyPart_stands objects readable (legible body) made
    have old (entry : Atom × Value) (known : entry ∈ draft.properties ++ draft.payloadProperties) :
        ∃ source, Stands definitions (draft.kept ++ part.kept) source entry.2 := by
      obtain ⟨source, h⟩ := sound entry known
      exact ⟨source, h.mono (List.subset_append_left _ _)⟩
    have new (entry : Atom × Value) (fresh : entry ∈ part.properties) :
        ∃ source, Stands definitions (draft.kept ++ part.kept) source entry.2 := by
      obtain ⟨source, h⟩ := parts entry fresh
      exact ⟨source, h.mono (List.subset_append_right _ _)⟩
    intro entry member
    rcases List.mem_append.1 member with inBody | inPayload
    · rcases mem_addProperties inBody with known | fresh
      · exact old entry (List.mem_append_left _ known)
      · exact new entry fresh
    · rcases mem_addProperties inPayload with known | fresh
      · exact old entry (List.mem_append_right _ known)
      · exact new entry fresh
  next => cases ok; exact sound
  next => cases ok; exact sound
  next type _ =>
    cases ok
    intro entry member
    rcases List.mem_append.1 member with inBody | inPayload
    · exact sound entry (List.mem_append_left _ inBody)
    · rcases mem_addProperty inPayload with known | rfl
      · exact sound entry (List.mem_append_right _ known)
      · exact ⟨_, propertySchema_stands definitions _ _⟩

private theorem add_onCycle {definitions : Definitions} {draft next : Draft} {p : Parameter}
    (cyclic : ∀ name ∈ draft.kept, OnCycle definitions name) (ok : draft.add definitions p = .ok next) :
    ∀ name ∈ next.kept, OnCycle definitions name := by
  unfold Draft.add at ok
  split at ok
  next =>
    obtain ⟨part, made, ok⟩ := bind_eq_ok.1 ok
    cases ok
    obtain ⟨inlined, inlining, -⟩ := bodyPart_properties made
    intro name member
    exact (List.mem_append.1 member).elim (cyclic name) (inline_onCycle inlining name)
  all_goals
    cases ok
    exact cyclic

/-- What holds of a draft and is kept by each parameter holds of the draft of all parameters. -/
theorem foldlM_invariant {α β ε : Type} {step : α → β → Except ε α} {P : α → Prop} {l : List β}
    (keeps : ∀ b ∈ l, ∀ a a', P a → step a b = .ok a' → P a') : ∀ {a a' : α}, P a → l.foldlM step a = .ok a' → P a' := by
  induction l with
  | nil =>
    intro a a' h ok
    cases ok
    exact h
  | cons b rest ih =>
    intro a a' h ok
    rw [List.foldlM_cons] at ok
    obtain ⟨middle, first, ok⟩ := bind_eq_ok.1 ok
    exact ih (fun b member => keeps b (List.mem_cons_of_mem _ member)) (keeps b List.mem_cons_self a middle h first) ok

/-- What stays cut in the properties of an operation lies on cycles. -/
theorem kept_of_parameters_onCycle {definitions : Definitions} {parameters : List Parameter} {draft : Draft}
    (ok : parameters.foldlM (Draft.add definitions) {} = .ok draft) : ∀ name ∈ draft.kept, OnCycle definitions name := by
  refine foldlM_invariant (P := fun draft : Draft => ∀ name ∈ draft.kept, OnCycle definitions name)
    (fun p member a a' h ok => add_onCycle h ok) ?_ ok
  intro name member
  cases member

theorem checked_ok {place : String} {schema root : Value} (ok : checked place schema = .ok root) :
    root = schema ∧ isWellFormed schema = .ok true := by
  obtain ⟨wellFormed, found, ok⟩ := bind_eq_ok.1 ok
  cases wellFormed with
  | true =>
    cases ok
    exact ⟨rfl, orFault_ok found⟩
  | false => cases ok

/-- An entry stands for a complete parameter: itself, or the shared one that it refers to. -/
theorem lookUp_eq_ok {shared : List (String × Parameter)} {place : String} {p found : Parameter} :
    lookUp shared place p = .ok found ↔ (found.name ≠ "" ∧ found.location ≠ none) ∧
      (p.ref = none ∧ found = p ∨ ∃ ref name, p.ref = some ref ∧ Schema.refName "parameters" ref = .ok name ∧
        shared.lookup name = some found ∧ found.ref = none) := by
  have complete (q : Parameter) : (if q.name = "" ∨ q.location = none then
      CompileError.fail (.incompleteParameter place) else return q) = Except.ok found ↔
        (found.name ≠ "" ∧ found.location ≠ none) ∧ found = q := by
    split
    next lacking =>
      refine ⟨nofun, ?_⟩
      rintro ⟨⟨named, located⟩, rfl⟩
      exact (lacking.elim named located).elim
    next whole =>
      rw [not_or] at whole
      constructor
      · intro ok
        cases ok
        exact ⟨whole, rfl⟩
      · rintro ⟨-, rfl⟩
        rfl
  rw [lookUp]
  cases given : p.ref with
  | none =>
    simp only [pure_bind, complete]
    simp
  | some ref =>
    constructor
    · intro ok
      obtain ⟨name, named, ok⟩ := bind_eq_ok.1 ok
      cases there : shared.lookup name with
      | none =>
        rw [there] at ok
        cases ok
      | some q =>
        simp only [there] at ok
        split at ok
        next => cases ok
        next plain =>
          obtain ⟨whole, rfl⟩ := (complete q).1 ok
          exact ⟨whole, .inr ⟨ref, name, rfl, named, there, Option.not_isSome_iff_eq_none.1 plain⟩⟩
    · rintro ⟨whole, ⟨none_, -⟩ | ⟨_, name, same, named, there, plain⟩⟩
      · cases none_
      · cases same
        refine bind_eq_ok.2 ⟨name, named, ?_⟩
        simp only [there, plain]
        exact (complete found).2 ⟨whole, rfl⟩

theorem effectiveParameters_eq_ok {merged : Merged} {place : String} {path : PathItem} {endpoint : Endpoint}
    {parameters : List Parameter} :
    effectiveParameters merged place path endpoint = .ok parameters ↔
      ∃ shared own, path.parameters.mapM (lookUp merged.parameters place) = .ok shared ∧
        endpoint.parameters.mapM (lookUp merged.parameters place) = .ok own ∧ parameters = override shared own := by
  rw [effectiveParameters, bind_eq_ok]
  constructor
  · rintro ⟨shared, ofPath, ok⟩
    obtain ⟨own, ofEndpoint, ok⟩ := bind_eq_ok.1 ok
    cases ok
    exact ⟨shared, own, ofPath, ofEndpoint, rfl⟩
  · rintro ⟨shared, own, ofPath, ofEndpoint, rfl⟩
    exact ⟨shared, ofPath, bind_eq_ok.2 ⟨own, ofEndpoint, rfl⟩⟩

/-- All that an accepted operation is: where it stands, and what its parameters make of its two
schemas and its required names. -/
theorem operation_cases {merged : Merged} {template : String} {method : Method} {basePath : Option String}
    {parameters : List Parameter} {o : Operation}
    (ok : operation merged template method basePath parameters = .ok o) :
    ∃ draft bodies bodySchema payloadSchema, parameters.foldlM (Draft.add merged.definitions) {} = .ok draft ∧
      Schema.embedded merged.definitions draft.kept = .ok bodies ∧
      checked (method.name ++ template) (objectSchema draft.properties draft.required bodies) = .ok bodySchema ∧
      checked (method.name ++ template) (objectSchema draft.payloadProperties draft.payloadRequired bodies) =
        .ok payloadSchema ∧
      o = {
        method, template, basePath
        templateSegments := splitPath template
        baseSegments := splitPath (basePath.getD "")
        properties := draft.properties
        required := textsOf draft.required
        parameters
        bodyRequired := parameters.any fun p => p.location == some .body && p.required
        bodySchema, payloadSchema } := by
  obtain ⟨draft, drafted, ok⟩ := bind_eq_ok.1 ok
  obtain ⟨bodies, embedded, ok⟩ := bind_eq_ok.1 ok
  obtain ⟨bodySchema, body, ok⟩ := bind_eq_ok.1 ok
  obtain ⟨payloadSchema, payload, ok⟩ := bind_eq_ok.1 ok
  cases ok
  exact ⟨draft, bodies, bodySchema, payloadSchema, drafted, embedded, body, payload, rfl⟩

/-- An accepted operation: its two schemas over the properties of its parameters, with the
definitions embedded that stay cut. -/
theorem operation_schemas {merged : Merged} {template : String} {method : Method} {basePath : Option String}
    {parameters : List Parameter} {o : Operation}
    (ok : operation merged template method basePath parameters = .ok o) :
    ∃ draft bodies, parameters.foldlM (Draft.add merged.definitions) {} = .ok draft ∧
      Schema.embedded merged.definitions draft.kept = .ok bodies ∧ o.properties = draft.properties ∧
      o.parameters = parameters ∧
      o.bodySchema = objectSchema draft.properties draft.required bodies ∧
      o.payloadSchema = objectSchema draft.payloadProperties draft.payloadRequired bodies ∧
      isWellFormed o.bodySchema = .ok true ∧ isWellFormed o.payloadSchema = .ok true := by
  obtain ⟨draft, bodies, _, _, drafted, embedded, body, payload, rfl⟩ := operation_cases ok
  obtain ⟨rfl, bodyPasses⟩ := checked_ok body
  obtain ⟨rfl, payloadPasses⟩ := checked_ok payload
  exact ⟨draft, bodies, drafted, embedded, rfl, rfl, rfl, rfl, bodyPasses, payloadPasses⟩

/-- Both schemas of an accepted operation are compiled roots over the same definitions. -/
theorem operation_compiled {merged : Merged} (objects : AreObjects merged.definitions)
    (readable : AreReadable merged.definitions) {template : String} {method : Method} {basePath : Option String}
    {parameters : List Parameter} {o : Operation}
    (ok : operation merged template method basePath parameters = .ok o)
    (legible : ∀ p ∈ o.parameters, LegibleParameter p) :
    ∃ bodies, CompiledRoot merged.definitions bodies o.bodySchema ∧
      CompiledRoot merged.definitions bodies o.payloadSchema := by
  obtain ⟨draft, bodies, drafted, embedded, -, rfl, body, payload, -⟩ := operation_schemas ok
  have sound : draft.Sound merged.definitions := by
    refine foldlM_invariant (P := Draft.Sound merged.definitions) (fun p member a a' h ok => ?_) ?_ drafted
    · exact Draft.add_sound objects readable (legible p member) h ok
    · intro entry member
      cases member
  have embedding := embedded_closed (kept_of_parameters_onCycle drafted) embedded
  refine ⟨bodies, ?_, ?_⟩
  · rw [body]
    exact objectSchema_compiled objects readable embedding fun entry member =>
      sound entry (List.mem_append_left _ member)
  · rw [payload]
    exact objectSchema_compiled objects readable embedding fun entry member =>
      sound entry (List.mem_append_right _ member)

end Operation

/-! ### Models -/

section Model

variable {definitions : Definitions} {name : String} {root : Value}

/-- The definitions that stay cut, put into a schema of keywords. -/
def withBodies (bodies : List (String × Value)) (fields : List (Atom × Value)) : List (Atom × Value) :=
  if bodies.isEmpty then fields else Entries.put (.text "definitions") (.record bodies) fields

/-- An accepted model: its definition inlined, with the definitions embedded that stay cut. -/
theorem model_schema (objects : AreObjects definitions) (ok : model definitions name = .ok root) :
    ∃ fields kept bodies, Schema.inline definitions (cut name) = .ok (.obj fields, kept) ∧
      Schema.embedded definitions kept = .ok bodies ∧ root = .obj (withBodies bodies fields) ∧
      isWellFormed root = .ok true := by
  obtain ⟨⟨schema, kept⟩, inlined, ok⟩ := bind_eq_ok.1 ok
  obtain ⟨bodies, embedded, ok⟩ := bind_eq_ok.1 ok
  obtain ⟨fields, rfl⟩ : IsObject schema :=
    Compiles.isObject objects (.ofInlined inlined (List.Subset.refl kept)) ⟨_, rfl⟩
  obtain ⟨rfl, wellFormed⟩ := checked_ok ok
  refine ⟨fields, kept, bodies, inlined, embedded, ?_, wellFormed⟩
  unfold withBodies
  dsimp only
  split <;> rfl

theorem lookup_withBodies {bodies : List (String × Value)} {fields : List (Atom × Value)} {key : String}
    (other : key ≠ "definitions") : (withBodies bodies fields).lookup (.text key) = fields.lookup (.text key) := by
  unfold withBodies
  split
  · rfl
  · rw [Entries.lookup_put, if_neg (by simpa using other)]

theorem embeddedIn_withBodies {bodies : List (String × Value)} {fields : List (Atom × Value)} (some_ : bodies ≠ []) :
    embeddedIn (.obj (withBodies bodies fields)) = bodies.map fun f => (.text f.1, f.2) := by
  have noEmpty : bodies.isEmpty = false := by simpa using some_
  simp [embeddedIn, withBodies, noEmpty, Value.record]

private theorem schemasInside_withBodies {bodies : List (String × Value)} {fields : List (Atom × Value)} {part : Value}
    (member : part ∈ schemasInside (withBodies bodies fields)) : part ∈ schemasInside fields := by
  unfold withBodies at member
  split at member
  · exact member
  · obtain ⟨kind, argument, entry, known, under⟩ := mem_schemasInside.1 member
    rcases Entries.mem_put entry with same | inside
    · have clash : kind.name = "definitions" := Atom.text.inj (Prod.mk.inj same).1
      exact absurd clash (by cases kind <;> decide)
    · exact mem_schemasInside.2 ⟨kind, argument, inside, known, under⟩

private theorem readable_cut (name : String) : Readable (cut name) := by
  intro fields within bare
  cases within.eq_cut
  cases bare

/-- The schema of an accepted model is a compiled root. -/
theorem model_compiled (objects : AreObjects definitions) (readable : AreReadable definitions)
    (ok : model definitions name = .ok root) : ∃ bodies, CompiledRoot definitions bodies root := by
  obtain ⟨fields, kept, bodies, inlined, embedded, rfl, -⟩ := model_schema objects ok
  have embedding := embedded_closed (inline_onCycle inlined) embedded
  have stands : Stands definitions (Entries.keys bodies) (cut name) (.obj fields) :=
    ⟨readable_cut name, .inl (.ofInlined inlined embedding.covers)⟩
  have settled := stands.settled objects readable
  refine ⟨bodies, CompiledRoot.ofInside objects readable embedding ⟨?_, ?_, ?_⟩ embeddedIn_withBodies ?_⟩
  · rw [lookup_withBodies (by decide)]
    exact settled.reference
  · rw [lookup_withBodies (by decide)]
    exact settled.address
  · rw [lookup_withBodies (by decide)]
    exact settled.dialect
  · intro shown part member
    refine stands.inside objects readable ?_ (schemasInside_withBodies member)
    rwa [shownRef?, argument?, lookup_withBodies (by decide)] at shown

end Model

end SwaggerGate.Compile
