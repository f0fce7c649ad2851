import SwaggerGate.Proofs.Keys
import SwaggerGate.Proofs.Payload

/-! Bodies that several parameters declare. Each body parameter contributes the properties and the
required names of its schema. Of several declarations of one property the first counts; what any
schema requires is required. -/
namespace SwaggerGate

open Schema

/-! ### Entries under one key -/

section Entries

variable {fields : List (Atom × Value)} {a b : Atom}

theorem entryOf?_congr (fields : List (Atom × Value)) (same : a.sameKey b = true) :
    entryOf? fields a = entryOf? fields b := by
  have alike : (fun f : Atom × Value => f.1.sameKey a) = fun f => f.1.sameKey b := by
    funext f
    rw [Atom.sameKey_comm f.1, Atom.sameKey_comm f.1, Atom.sameKey_congr same]
  rw [entryOf?, entryOf?, alike]

theorem entryOf?_append (front back : List (Atom × Value)) (key : Atom) :
    entryOf? (front ++ back) key = (entryOf? front key).or (entryOf? back key) := by
  rw [entryOf?, List.find?_append, Option.map_or]
  rfl

theorem exists_of_entryOf? {key : Atom} {v : Value} (found : entryOf? fields key = some v) :
    ∃ entry ∈ fields, entry.1.sameKey key = true ∧ entry.2 = v := by
  obtain ⟨entry, first, rfl⟩ := Option.map_eq_some_iff.1 found
  exact ⟨entry, List.mem_of_find?_eq_some first, by simpa using List.find?_some first, rfl⟩

/-- Where keys are apart, an entry is found under its own. -/
theorem entryOf?_of_mem (apart : (Entries.keys fields).Pairwise fun a b => a.sameKey b = false) {entry : Atom × Value}
    (member : entry ∈ fields) : entryOf? fields entry.1 = some entry.2 := by
  induction fields with
  | nil => cases member
  | cons first rest ih =>
    obtain ⟨fresh, apart⟩ := List.pairwise_cons.1 apart
    rcases List.mem_cons.1 member with rfl | later
    · simp [entryOf?, entry.1.sameKey_refl]
    · have other : first.1.sameKey entry.1 = false := fresh _ (List.mem_map_of_mem later)
      simpa [entryOf?, List.find?_cons, other] using ih apart later

/-- What holds of each property that data has an entry for holds of what stands under each key. -/
theorem forall_entries_iff {P : Value → Value → Prop} (entries : List (Atom × Value))
    (apart : (Entries.keys fields).Pairwise fun a b => a.sameKey b = false) :
    (∀ entry ∈ fields, ∀ v, entryOf? entries entry.1 = some v → P entry.2 v) ↔
      ∀ key schema v, entryOf? fields key = some schema → entryOf? entries key = some v → P schema v := by
  constructor
  · intro each key schema v declared found
    obtain ⟨entry, member, same, rfl⟩ := exists_of_entryOf? declared
    exact each entry member v ((entryOf?_congr entries same).trans found)
  · intro each entry member v found
    exact each entry.1 entry.2 v (entryOf?_of_mem apart member) found

theorem holds_text_eq_ok {entries : List (Atom × Value)} {name : String} :
    (Value.obj entries).holds (.text name) = .ok true ↔ .text name ∈ Entries.keys entries := by
  rw [Value.holds, entryOf?_text, Except.ok.injEq, Option.isSome_iff_exists, Entries.mem_keys_iff]

end Entries

namespace Compile

/-! ### What drafts add up to -/

/-- Of two declarations under one key, the first one stays. -/
theorem entryOf?_addProperty (properties : List (Atom × Value)) (name : Atom) (schema : Value) (key : Atom) :
    entryOf? (addProperty properties name schema) key =
      (entryOf? properties key).or (entryOf? [(name, schema)] key) := by
  unfold addProperty
  split
  next known =>
    cases other : entryOf? [(name, schema)] key with
    | none => rw [Option.or_none]
    | some v =>
      obtain ⟨entry, member, same, -⟩ := exists_of_entryOf? other
      obtain rfl := List.mem_singleton.1 member
      rw [entryOf?_congr properties same] at known
      obtain ⟨w, found⟩ := Option.isSome_iff_exists.1 known
      rw [found, Option.some_or]
  next => exact entryOf?_append _ _ _

theorem entryOf?_addProperties (properties more : List (Atom × Value)) (key : Atom) :
    entryOf? (addProperties properties more) key = (entryOf? properties key).or (entryOf? more key) := by
  unfold addProperties
  induction more generalizing properties with
  | nil => exact (Option.or_none).symm
  | cons entry rest ih =>
    rw [List.foldl_cons, ih, entryOf?_addProperty, Option.or_assoc, ← entryOf?_append]
    rfl

theorem addMissing_append (members first second : List Value) :
    addMissing members (first ++ second) = addMissing (addMissing members first) second :=
  List.foldl_append

/-- Names that are added to none are kept once each, where they are first seen. -/
theorem addMissing_texts (names : List String) : addMissing [] (names.map .text) = names.eraseDups.map .text := by
  induction names using List.reverseRecOn with
  | nil => rfl
  | append_singleton names name ih =>
    have known : (names.eraseDups.map Value.text).any (Value.text name).same = decide (name ∈ names) := by
      rw [Bool.eq_iff_iff, List.any_eq_true, decide_eq_true_eq, ← List.mem_eraseDups]
      constructor
      · rintro ⟨_, member, same⟩
        obtain ⟨other, inside, rfl⟩ := List.mem_map.1 member
        obtain rfl : other = name := Atom.text.inj (text_sameKey.1 same)
        exact inside
      · exact fun inside => ⟨_, List.mem_map_of_mem inside, text_sameKey.2 rfl⟩
    rw [List.map_append, addMissing_append, ih, List.eraseDups_append, List.map_singleton, addMissing,
      List.foldl_cons, List.foldl_nil, known]
    by_cases inside : name ∈ names
    · simp [inside, List.removeAll]
    · simp [inside, List.removeAll, List.eraseDups_cons]

/-- Where added names come to be texts, they were texts. -/
theorem texts_of_addMissing {members more : List Value} {names : List String}
    (texts : addMissing members more = names.map .text) : ∀ v ∈ more, ∃ name, v = .text name := by
  induction more generalizing members with
  | nil => exact fun _ member => absurd member List.not_mem_nil
  | cons first rest ih =>
    rw [addMissing, List.foldl_cons] at texts
    intro v member
    rcases List.mem_cons.1 member with rfl | later
    · obtain ⟨w, inside, same⟩ : ∃ w ∈ names.map Value.text, w = v ∨ v.same w = true := by
        rw [← texts]
        by_cases known : members.any v.same = true
        · obtain ⟨w, inside, same⟩ := List.any_eq_true.1 known
          rw [if_pos known]
          exact ⟨w, subset_addMissing inside, .inr same⟩
        · rw [if_neg known]
          exact ⟨v, subset_addMissing (List.mem_append_right _ List.mem_cons_self), .inl rfl⟩
      obtain ⟨name, -, rfl⟩ := List.mem_map.1 inside
      rcases same with rfl | same
      · exact ⟨name, rfl⟩
      · cases v with
        | atom a => exact ⟨name, congrArg Value.atom (sameKey_text.1 same)⟩
        | _ => cases same
    · exact ih texts v later

section Draft

variable {definitions : Definitions} {parameters : List Parameter} {draft start : Draft}

/-- Schemas of the body parameters of a list, in order, with their references inlined. -/
def Resolved (definitions : Definitions) (parameters : List Parameter) (schemas : List (List (Atom × Value))) : Prop :=
  List.Forall₂ (fun p fields => ∃ kept, Schema.inline definitions (.obj (p.schema.getD [])) = .ok (.obj fields, kept))
    (parameters.filter (·.location == some .body)) schemas

/-- Whether the properties and the required names of each body parameter's schema, if it has any,
are such. -/
def AreParted (definitions : Definitions) (parameters : List Parameter) : Prop :=
  ∀ p ∈ parameters, p.location = some .body → ∀ fields kept,
    Schema.inline definitions (.obj (p.schema.getD [])) = .ok (.obj fields, kept) → HasParts fields

/-- What the first of some schemas that declares a property says of it. -/
def declared? (schemas : List (List (Atom × Value))) (key : Atom) : Option Value :=
  schemas.findSome? fun fields => entryOf? (propertiesIn fields) key

theorem declared?_cons (fields : List (Atom × Value)) (rest : List (List (Atom × Value))) (key : Atom) :
    declared? (fields :: rest) key = (entryOf? (propertiesIn fields) key).or (declared? rest key) := by
  rw [declared?, List.findSome?_cons]
  cases entryOf? (propertiesIn fields) key <;> rfl

/-- The names that schemas require, in order. -/
def requiredOf (schemas : List (List (Atom × Value))) : List Value := schemas.flatMap requiredIn

/-- A draft declares what its start does and then the schemas of the body parameters, in order. -/
theorem draft_resolved (objects : AreObjects definitions) (parted : AreParted definitions parameters)
    (ok : parameters.foldlM (Draft.add definitions) start = .ok draft) :
    ∃ schemas, Resolved definitions parameters schemas ∧
      (∀ key, entryOf? draft.properties key = (entryOf? start.properties key).or (declared? schemas key)) ∧
      draft.required = addMissing start.required (requiredOf schemas) := by
  induction parameters generalizing start with
  | nil =>
    cases ok
    exact ⟨[], .nil, fun key => (Option.or_none).symm, rfl⟩
  | cons p rest ih =>
    rw [List.foldlM_cons] at ok
    obtain ⟨middle, first, later⟩ := bind_eq_ok.1 ok
    obtain ⟨schemas, resolved, properties, required⟩ := ih (fun q member => parted q (List.mem_cons_of_mem _ member)) later
    by_cases body : p.location = some .body
    · obtain ⟨part, made, rfl⟩ := Draft.add_body body first
      obtain ⟨⟨schema, kept⟩, inlined, -⟩ := bind_eq_ok.1 made
      obtain ⟨fields, rfl⟩ : IsObject schema :=
        Compiles.isObject objects (.ofInlined inlined (List.Subset.refl kept)) ⟨_, rfl⟩
      rw [bodyPart_of_inlined inlined (parted p List.mem_cons_self body fields kept inlined)] at made
      cases made
      refine ⟨fields :: schemas, ?_, fun key => ?_, ?_⟩
      · rw [Resolved, List.filter_cons_of_pos (by simpa using body)]
        exact .cons ⟨kept, inlined⟩ resolved
      · rw [properties, entryOf?_addProperties, declared?_cons, Option.or_assoc]
      · exact required.trans (addMissing_append _ _ _).symm
    · have others : Resolved definitions (p :: rest) schemas := by
        rw [Resolved, List.filter_cons_of_neg (by simpa using body)]
        exact resolved
      obtain ⟨rfl, -⟩ | ⟨type, -, rfl⟩ := Draft.add_other body first
      · exact ⟨schemas, others, properties, required⟩
      · exact ⟨schemas, others, properties, required⟩

/-- The required names of an operation, and whether its body is. -/
theorem operation_required {merged : Merged} {template : String} {method : Method} {basePath : Option String}
    {o : Operation} (ok : operation merged template method basePath parameters = .ok o)
    (drafted : parameters.foldlM (Draft.add merged.definitions) {} = .ok draft) :
    o.required = textsOf draft.required ∧
      o.bodyRequired = o.parameters.any fun p => p.location == some .body && p.required := by
  obtain ⟨draft', _, _, _, drafted', -, -, -, rfl⟩ := operation_cases ok
  cases drafted.symm.trans drafted'
  exact ⟨rfl, rfl⟩

/-- Values that are all texts are the texts among them. -/
theorem eq_map_textsOf {values : List Value} (texts : ∀ v ∈ values, ∃ name, v = .text name) :
    values = (textsOf values).map .text := by
  induction values with
  | nil => rfl
  | cons v rest ih =>
    obtain ⟨name, rfl⟩ := texts v List.mem_cons_self
    exact congrArg (Value.text name :: ·) (ih fun w member => texts w (List.mem_cons_of_mem _ member))

/-- What an object must have that has all the names which some schemas require. -/
theorem holds_required_iff {schemas : List (List (Atom × Value))} {names : List String}
    (texts : requiredOf schemas = names.map .text) (entries : List (Atom × Value)) :
    (∀ name ∈ names.eraseDups.map Value.text, (Value.obj entries).holds name = .ok true) ↔
      ∀ fields ∈ schemas, ∀ name, .text name ∈ requiredIn fields → .text name ∈ Entries.keys entries := by
  have demanded (name : String) : name ∈ names.eraseDups ↔ ∃ fields ∈ schemas, .text name ∈ requiredIn fields := by
    rw [← List.mem_flatMap, ← requiredOf, texts]
    simp [List.mem_eraseDups]
  constructor
  · exact fun each fields inside name requires =>
      holds_text_eq_ok.1 (each _ (List.mem_map_of_mem ((demanded name).2 ⟨fields, inside, requires⟩)))
  · intro each v inside
    obtain ⟨name, listed, rfl⟩ := List.mem_map.1 inside
    obtain ⟨fields, among, requires⟩ := (demanded name).1 listed
    exact holds_text_eq_ok.2 (each fields among name requires)

theorem textsOf_map_text (names : List String) : textsOf (names.map .text) = names := by
  induction names with
  | nil => rfl
  | cons name rest ih => exact congrArg (name :: ·) ih

end Draft

end Compile

/-! ### Checks by parts of a root -/

namespace Schema

/-- Whether a value is valid against a part of a root schema: its check, one level inside the root's,
finds nothing. -/
def Permits (root part value : Value) : Prop :=
  descend (checkWithin (nestingLimit - 1)) (rootContext root) part value = .ok

theorem descendInto_eq_ok {check : Checker} {context : Context} {step : Step} {schema part : Value} :
    descendInto check context step schema part = .ok ↔ descend check context schema part = .ok := by
  unfold descendInto
  split
  · rfl
  · refine ⟨Report.under_eq_ok, fun ok => ?_⟩
    rw [ok]
    rfl

end Schema

namespace Compile

section Object

variable {properties : List (Atom × Value)} {required : List Value} {bodies : List (String × Value)}

/-- An object schema is passed by objects whose entries are permitted by the properties of their keys
and which have all required names. -/
theorem check_objectFields (apart : (Entries.keys properties).Pairwise fun a b => a.sameKey b = false) (data : Value) :
    Schema.check (.obj (objectFields properties required bodies)) data = .ok ↔ ∃ entries, data = .obj entries ∧
      (∀ key schema v, entryOf? properties key = some schema → entryOf? entries key = some v →
        Permits (.obj (objectFields properties required bodies)) schema v) ∧
      ∀ name ∈ required, (Value.obj entries).holds name = .ok true := by
  have record : IsRecord (objectFields properties required bodies) := isRecord_objectFields apart
  have objects (entries : List (Atom × Value)) :
      Schema.check (.obj (objectFields properties required bodies)) (.obj entries) = .ok ↔
        (∀ key schema v, entryOf? properties key = some schema → entryOf? entries key = some v →
          Permits (.obj (objectFields properties required bodies)) schema v) ∧
        ∀ name ∈ required, (Value.obj entries).holds name = .ok true := by
    have limit : nestingLimit = nestingLimit - 1 + 1 := rfl
    rw [record.check_eq_ok hasParts_objectFields limit, propertiesIn_objectFields,
      requiredIn_objectFields, ← forall_entries_iff entries apart]
    simp only [descendInto_eq_ok]
    rfl
  constructor
  · intro ok
    have passes : PassesIn _ (.obj (objectFields properties required bodies)) data :=
      ⟨_, _, rootContext_inRoot _, (record.check_eq data).symm.trans ok⟩
    have type : (.text "type", .text "object") ∈ objectFields properties required bodies := by
      simp [objectFields]
    obtain ⟨t, known, has⟩ := passes.type record.shown type
    cases known
    cases data with
    | obj entries => exact ⟨entries, rfl, (objects entries).1 ok⟩
    | atom a => cases a <;> cases has
    | _ => cases has
  · rintro ⟨entries, rfl, permitted⟩
    exact (objects entries).2 permitted

end Object

section Alone

variable {definitions : Definitions} {fields properties : List (Atom × Value)} {required : List Value}
  {kept kept' : List String} {bodies bodies' : List (String × Value)} {key : Atom} {schema : Value}

/-- Definitions that are embedded for different schemas have the same bodies. -/
theorem bodies_agree (embedding : Embedding definitions kept bodies) (embedding' : Embedding definitions kept' bodies')
    {name : Atom} {body body' : Value} (found : (bodies.map fun f => (Atom.text f.1, f.2)).lookup name = some body)
    (found' : (bodies'.map fun f => (Atom.text f.1, f.2)).lookup name = some body') : body = body' := by
  obtain ⟨f, member, same⟩ := List.mem_map.1 (Entries.mem_of_lookup_eq_some found)
  obtain ⟨f', member', same'⟩ := List.mem_map.1 (Entries.mem_of_lookup_eq_some found')
  cases same
  cases f'
  cases same'
  obtain ⟨-, source, _, given, ok, -⟩ := embedding.body _ member
  obtain ⟨-, source', _, given', ok', -⟩ := embedding'.body _ member'
  cases given.symm.trans given'
  cases ok.symm.trans ok'
  rfl

theorem reached_property {entry : Atom × Value} (member : entry ∈ properties) :
    Reached (.obj (objectFields properties required bodies)) entry.2 := by
  refine .inside .root (shownRef?_of_bare (lookup_objectFields (by decide))) ?_
  rw [schemasInside_objectFields]
  exact List.mem_map_of_mem member

/-- The schema of an operation's body and the one that has a single property of one of its body
parameters embed the same definitions. -/
theorem sharing_alone {names : List (String × Value)} {p : Parameter} (objects : AreObjects definitions)
    (readable : AreReadable definitions) (plain : ∀ name, OnCycle definitions name → Url.hasEscape name.toList = false)
    (root : CompiledRoot definitions names (.obj (objectFields properties required bodies)))
    (embedding : Embedding definitions kept bodies) (legible : Readable (.obj (p.schema.getD [])))
    (inlined : Schema.inline definitions (.obj (p.schema.getD [])) = .ok (.obj fields, kept')) (parts : HasParts fields)
    (embedding' : Embedding definitions kept' bodies') (declares : (key, schema) ∈ propertiesIn fields) :
    Sharing (.obj (objectFields properties required bodies)) (.obj (objectFields [(key, schema)] [] bodies')) := by
  have alone : CompiledRoot definitions bodies' (objectSchema [(key, schema)] [] bodies') := by
    refine objectSchema_compiled objects readable embedding' fun entry member => ?_
    obtain rfl := List.mem_singleton.1 member
    exact bodyPart_stands objects readable legible (bodyPart_of_inlined inlined parts) _ declares
  rw [objectSchema_eq] at alone
  refine ⟨⟨closed_of_plain root plain, closed_of_plain alone plain⟩, ⟨⟨_, root.settled⟩, ⟨_, alone.settled⟩⟩, ?_⟩
  intro name inner inner' found found'
  rw [embeddedIn_objectFields] at found found'
  exact bodies_agree embedding embedding' found found'

/-- In closed roots that embed the same definitions, a property permits the same values wherever
it stands. -/
theorem permits_alone
    (sharing : Sharing (.obj (objectFields properties required bodies)) (.obj (objectFields [(key, schema)] [] bodies')))
    (member : ∃ name, (name, schema) ∈ properties) (v : Value) :
    Permits (.obj (objectFields properties required bodies)) schema v ↔
      Schema.check (.obj (objectFields [(key, schema)] [] bodies')) (.obj [(key, v)]) = .ok := by
  have own (w : Value) : entryOf? [(key, w)] key = some w := entryOf?_of_mem (List.pairwise_singleton _ _) List.mem_cons_self
  obtain ⟨name, member⟩ := member
  have top (root : Value) : Context.At root (rootContext root) := ⟨rfl, rfl⟩
  have alike := sharing.alike (checkWithin_same sharing (nestingLimit - 1)) (top _) (top _) rfl rfl
  have same : Permits (.obj (objectFields properties required bodies)) schema v ↔
      Permits (.obj (objectFields [(key, schema)] [] bodies')) schema v := by
    rw [Permits, Permits, alike.descend schema v ⟨reached_property member, reached_property List.mem_cons_self⟩]
  rw [same, check_objectFields (List.pairwise_singleton _ _)]
  constructor
  · intro permitted
    refine ⟨_, rfl, fun other inner w declared found => ?_, fun _ none_ => absurd none_ List.not_mem_nil⟩
    obtain ⟨entry, inside, here, rfl⟩ := exists_of_entryOf? declared
    obtain rfl := List.mem_singleton.1 inside
    cases (own v).symm.trans ((entryOf?_congr _ here).trans found)
    exact permitted
  · rintro ⟨entries, given, permitted, -⟩
    cases given
    exact permitted key schema v (own schema) (own v)

end Alone

end Compile

namespace Body

theorem validate_eq_ok {o : Operation} {body : Value} : validate o body = .ok .ok ↔
    (body = .null ∧ o.bodyRequired = false) ∨ Schema.check o.bodySchema (if body = .null then .obj [] else body) = .ok := by
  rw [validate]
  split
  next missing => exact iff_of_true rfl (.inl missing)
  next present => rw [accepted_iff, or_iff_right present]

/-- A body is accepted if it is missing and no body parameter is required, or if it is an object,
a missing one counting as empty, that has every name which the schema of any body parameter
requires, and in which what stands under a key is valid against the subschema of the first schema
that declares the key. What a subschema permits does not depend on the other parameters: where
schemas are legible and references read back, it is what is valid against the subschema alone, with
the definitions that its own schema embeds. -/
theorem validate_iff_contributions {files : Files} {sources : List Source} {documents : List Document}
    (read : Source.documents files sources = .ok documents) {registry : Registry}
    (compiled : Compile.registry documents = .ok registry) {o : Operation} (member : o ∈ registry.operations)
    (parted : Compile.AreParted (Merged.ofDocuments documents).definitions o.parameters) :
    let definitions := (Merged.ofDocuments documents).definitions
    ∃ schemas, Compile.Resolved definitions o.parameters schemas ∧
      (∃ names : List String, Compile.requiredOf schemas = names.map .text ∧ o.required = names.eraseDups) ∧
      (∀ body, validate o body = .ok .ok ↔
        (body = .null ∧ ∀ p ∈ o.parameters, p.location = some .body → p.required = false) ∨
        ∃ entries, (if body = .null then .obj [] else body) = .obj entries ∧
          (∀ fields ∈ schemas, ∀ name, .text name ∈ requiredIn fields → .text name ∈ Entries.keys entries) ∧
          ∀ key schema v, Compile.declared? schemas key = some schema → entryOf? entries key = some v →
            Permits o.bodySchema schema v) ∧
      (AreReadable definitions → (∀ p ∈ o.parameters, Compile.LegibleParameter p) →
        (∀ name, OnCycle definitions name → Url.hasEscape name.toList = false) →
        ∀ p ∈ o.parameters, p.location = some .body → ∀ fields kept bodies,
          Schema.inline definitions (.obj (p.schema.getD [])) = .ok (.obj fields, kept) →
          Schema.embedded definitions kept = .ok bodies → ∀ key schema, (key, schema) ∈ propertiesIn fields →
          Compile.declared? schemas key = some schema → ∀ v, Permits o.bodySchema schema v ↔
            Schema.check (Compile.objectSchema [(key, schema)] [] bodies) (.obj [(key, v)]) = .ok) := by
  intro definitions
  have objects : AreObjects definitions := Source.documents_objects read
  obtain ⟨task, -, parameters, -, ok⟩ := operation_of_registry compiled member
  obtain ⟨draft, bodies, drafted, embedded, -, rfl, whole, -, fits, -⟩ := Compile.operation_schemas ok
  obtain ⟨required, bodyRequired⟩ := Compile.operation_required ok drafted
  obtain ⟨schemas, resolved, properties, names⟩ := Compile.draft_resolved objects parted drafted
  have properties (key : Atom) : entryOf? draft.properties key = Compile.declared? schemas key := properties key
  have apart := (Compile.Draft.fold_apart drafted).1
  rw [Compile.objectSchema_eq] at whole
  rw [whole] at fits
  -- a well-formed schema has texts as required names, so all that are added are texts
  obtain ⟨known, same⟩ := Compile.required_texts fits
  have texts := Compile.eq_map_textsOf (Compile.texts_of_addMissing (names.symm.trans same))
  have names : draft.required = (Compile.textsOf (Compile.requiredOf schemas)).eraseDups.map .text := by
    rw [names, ← Compile.addMissing_texts, ← texts]
  refine ⟨schemas, resolved, ⟨_, texts, ?_⟩, fun body => ?_, ?_⟩
  · rw [required, names, Compile.textsOf_map_text]
  · have optional : o.bodyRequired = false ↔ ∀ p ∈ o.parameters, p.location = some .body → p.required = false := by
      simp [bodyRequired]
    rw [validate_eq_ok, optional, whole, Compile.check_objectFields apart, names]
    simp only [Compile.holds_required_iff texts, properties]
    refine or_congr_right (exists_congr fun entries => and_congr_right fun _ => and_comm)
  · intro readable legible plain p inside body fields kept bodies' inlined embeds key schema declares first v
    obtain ⟨_, root, -⟩ := Compile.operation_compiled objects readable ok legible
    rw [whole] at root ⊢
    rw [Compile.objectSchema_eq]
    have sharing := Compile.sharing_alone objects readable plain root
      (embedded_closed (Compile.kept_of_parameters_onCycle drafted) embedded) (legible p inside body) inlined
      (parted p inside body fields kept inlined) (embedded_closed (inline_onCycle inlined) embeds) declares
    obtain ⟨entry, member, -, rfl⟩ := exists_of_entryOf? ((properties key).trans first)
    exact Compile.permits_alone sharing ⟨entry.1, member⟩ v

/-- An operation with two body parameters: one declares an integer, the other is a definition that
refers to itself and would have a text there. -/
def twofold : Value :=
  let ref : Value := .record [("$ref", .text (definitionRef "Node"))]
  let first : Value := .record [("properties", .record [("a", .record [("type", .text "integer")])]),
    ("required", .list [.text "a"])]
  let node : Value := .record [("properties", .record [("a", .record [("type", .text "string")]), ("next", ref)]),
    ("required", .list [.text "kind", .text "a"])]
  let parameter (name : String) (schema : Value) : Value :=
    .record [("name", .text name), ("in", .text "body"), ("schema", schema)]
  .record
    [("paths", .record [("/x", .record [("post", .record [("parameters", .list [parameter "p" first, parameter "q" ref])])])]),
      ("definitions", .record [("Node", node)])]

instance (fields : List (Atom × Value)) : Decidable (HasParts fields) :=
  decidable_of_iff ((fields.lookup (.text "properties")).all (fun v => decide (v = .obj (propertiesIn fields))) = true ∧
      (fields.lookup (.text "required")).all (fun v => decide (v = .list (requiredIn fields))) = true) <| by
    simp only [Option.all_eq_true, decide_eq_true_eq]
    exact ⟨fun ⟨properties, required⟩ => ⟨properties, required⟩, fun parts => ⟨parts.properties, parts.required⟩⟩

/-- Whether the parts of a schema have their shapes, as a test. -/
private def isParted : Value → Bool
  | .obj fields => decide (HasParts fields)
  | _ => true

/-- The outer entry is an integer, as the first schema has it; the inner one is a text, as the
definition has it. -/
theorem validate_iff_contributions_twofold :
    let entries : List (Atom × Value) := [(.text "a", .int 1), (.text "kind", .null),
      (.text "next", .record [("a", .text "x"), ("kind", .null)])]
    ∃ documents registry o, Source.documents ⟨fun _ => none⟩ [.data twofold] = .ok documents ∧
      Compile.registry documents = .ok registry ∧ o ∈ registry.operations ∧
      Compile.AreParted (Merged.ofDocuments documents).definitions o.parameters ∧ o.required = ["a", "kind"] ∧
      validate o (.obj entries) = .ok .ok ∧
      ∃ schemas, Compile.Resolved (Merged.ofDocuments documents).definitions o.parameters schemas ∧
        ∀ key schema v, Compile.declared? schemas key = some schema → entryOf? entries key = some v →
          Permits o.bodySchema schema v := by
  intro entries
  have tested : (Source.documents ⟨fun _ => none⟩ [.data twofold]).toOption.any (fun documents =>
      (Compile.registry documents).toOption.any fun registry => registry.operations.any fun o =>
        (o.parameters.all fun p => p.location != some .body ||
          (Schema.inline (Merged.ofDocuments documents).definitions (.obj (p.schema.getD []))).toOption.all fun inlined =>
            isParted inlined.1) &&
        decide (o.required = ["a", "kind"] ∧ validate o (.obj entries) = .ok .ok)) = true := by
    decide +kernel
  obtain ⟨documents, read, tested⟩ := any_toOption_eq_true.1 tested
  obtain ⟨registry, compiled, tested⟩ := any_toOption_eq_true.1 tested
  obtain ⟨o, member, tested⟩ := List.any_eq_true.1 tested
  obtain ⟨parts, tested⟩ := Bool.and_eq_true_iff.1 tested
  obtain ⟨required, accepted⟩ := of_decide_eq_true tested
  have parted : Compile.AreParted (Merged.ofDocuments documents).definitions o.parameters := by
    intro p inside body fields kept inlined
    have known := List.all_eq_true.1 parts p inside
    rw [body, inlined] at known
    exact of_decide_eq_true known
  obtain ⟨schemas, resolved, -, accepts, -⟩ := validate_iff_contributions read compiled member parted
  refine ⟨documents, registry, o, read, compiled, member, parted, required, accepted, schemas, resolved, ?_⟩
  obtain ⟨missing, -⟩ | ⟨entries', given, -, permitted⟩ := (accepts (.obj entries)).1 accepted
  · cases missing
  · rw [if_neg nofun] at given
    cases given
    exact permitted

end Body
end SwaggerGate
