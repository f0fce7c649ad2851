import SwaggerGate.Proofs.Drafts
import SwaggerGate.Proofs.Schema.WellFormed

/-! Bodies and responses of one model. A body whose schema is a reference to a model and a
response that is validated against that model are told the same issues, in some order. -/
namespace SwaggerGate

open Schema

namespace Schema

/-! ### Nullable types -/

mutual
/-- Whether `x-nullable: true` stands anywhere inside a value. -/
def marksNullable : Value → Bool
  | .list items => marksNullableItems items
  | .obj fields => fields.lookup (.text "x-nullable") == some (.bool true) || marksNullableFields fields
  | _ => false
def marksNullableItems : List Value → Bool
  | [] => false
  | v :: rest => marksNullable v || marksNullableItems rest
def marksNullableFields : List (Atom × Value) → Bool
  | [] => false
  | (_, v) :: rest => marksNullable v || marksNullableFields rest
end

mutual
/-- Widening changes nothing where nothing is marked. -/
theorem widenNullable_unmarked : ∀ (v w : Value), marksNullable v = false → widenNullable v = .ok w → w = v
  | .atom _, _, _, ok => by cases ok; rfl
  | .set _, _, _, ok => by cases ok; rfl
  | .pair _ _, _, _, ok => by cases ok; rfl
  | .loop _ _, _, _, ok => by cases ok
  | .list items, _, unmarked, ok => by
    rw [marksNullable] at unmarked
    obtain ⟨widened, inner, ok⟩ := bind_eq_ok.1 ok
    cases ok
    rw [widenItems_unmarked items widened unmarked inner]
  | .obj fields, _, unmarked, ok => by
    rw [marksNullable, Bool.or_eq_false_iff] at unmarked
    have plain : isWidened fields = false := by rw [isWidened, unmarked.1, Bool.false_and]
    rw [widenNullable, plain] at ok
    obtain ⟨widened, inner, ok⟩ := bind_eq_ok.1 ok
    cases ok
    rw [widenFields_unmarked fields widened unmarked.2 inner]
private theorem widenItems_unmarked : ∀ (items widened : List Value), marksNullableItems items = false →
    widenItems items = .ok widened → widened = items
  | [], _, _, ok => by cases ok; rfl
  | v :: rest, _, unmarked, ok => by
    rw [marksNullableItems, Bool.or_eq_false_iff] at unmarked
    obtain ⟨w, head, ok⟩ := bind_eq_ok.1 ok
    obtain ⟨more, tail, ok⟩ := bind_eq_ok.1 ok
    cases ok
    rw [widenNullable_unmarked v w unmarked.1 head, widenItems_unmarked rest more unmarked.2 tail]
private theorem widenFields_unmarked : ∀ (fields widened : List (Atom × Value)), marksNullableFields fields = false →
    widenFields false fields = .ok widened → widened = fields
  | [], _, _, ok => by cases ok; rfl
  | (key, v) :: rest, _, unmarked, ok => by
    rw [marksNullableFields, Bool.or_eq_false_iff] at unmarked
    simp only [widenFields, Bool.false_and, Bool.false_eq_true, if_false] at ok
    obtain ⟨w, head, ok⟩ := bind_eq_ok.1 ok
    obtain ⟨more, tail, ok⟩ := bind_eq_ok.1 ok
    cases ok
    rw [widenNullable_unmarked v w unmarked.1 head, widenFields_unmarked rest more unmarked.2 tail]
end

end Schema

/-- Response validation works with the merged definitions as they are, if nothing is nullable. -/
theorem ResponseValidator.definitions_of_unmarked {documents : List Document} {validator : ResponseValidator}
    (unmarked : ∀ entry ∈ (Merged.ofDocuments documents).definitions, marksNullable entry.2 = false)
    (made : ResponseValidator.ofDocuments documents = .ok validator) :
    validator.definitions = (Merged.ofDocuments documents).definitions := by
  obtain ⟨widened, ok, made⟩ := bind_eq_ok.1 made
  cases made
  have related := forall₂_of_mapM ok
  change widened = (Merged.ofDocuments documents).definitions
  clear ok made
  generalize (Merged.ofDocuments documents).definitions = definitions at related unmarked ⊢
  induction related with
  | nil => rfl
  | @cons entry wide rest more head _ ih =>
    obtain ⟨w, widens, head⟩ := bind_eq_ok.1 head
    cases head
    rw [ih fun other member => unmarked other (List.mem_cons_of_mem _ member),
      widenNullable_unmarked entry.2 w (unmarked entry List.mem_cons_self) widens]

/-! ### Chains of references -/

namespace Schema

section Chains

variable {definitions : Definitions} {names : List String}

private theorem leads_unique {schema : Value} {ref ref' name name' : String} {body body' : Value}
    (given : refText? schema = some ref) (found : definition definitions ref = .ok (name, body))
    (given' : refText? schema = some ref') (found' : definition definitions ref' = .ok (name', body')) :
    name = name' ∧ body = body' := by
  rw [given] at given'
  cases given'
  rw [found] at found'
  cases found'
  exact ⟨rfl, rfl⟩

/-- One reference after another, at least one. -/
private def LeadsOn (definitions : Definitions) : Value → Value → Prop :=
  Relation.TransGen fun schema body => ∃ ref name, refText? schema = some ref ∧
    definition definitions ref = .ok (name, body)

/-- A chain of references that ends does not come back. -/
private theorem not_back {schema source : Value} (leads : LeadsTo definitions schema source)
    (bare : refText? source = none) : ¬ LeadsOn definitions schema schema := by
  induction leads using Relation.ReflTransGen.head_induction_on with
  | refl =>
    intro back
    obtain ⟨_, ⟨ref, _, given, _⟩, _⟩ := Relation.TransGen.head'_iff.1 back
    rw [bare] at given
    cases given
  | @head schema next step _ ih =>
    intro back
    obtain ⟨next', step', rest⟩ := Relation.TransGen.head'_iff.1 back
    obtain ⟨ref, name, given, found⟩ := step
    obtain ⟨ref', name', given', found'⟩ := step'
    obtain ⟨-, rfl⟩ := leads_unique given found given' found'
    exact ih (Relation.TransGen.tail' rest ⟨ref, name, given, found⟩)

/-- A chain of references that ends at a schema is inlined to that schema inlined. -/
theorem inlines_of_chain {schema source c : Value} (leads : LeadsTo definitions schema source)
    (bare : refText? source = none) : ∀ {depth : Nat} {stack : List String},
    (∀ name ∈ stack, ∃ body, definitions.lookup name = some body ∧ LeadsTo definitions body schema) →
      stack.Nodup → definitions.length ≤ depth + stack.length →
      Inlines (replacement definitions depth stack) names false schema c →
      ∃ depth stack, Inlines (replacement definitions depth stack) names false source c := by
  induction leads using Relation.ReflTransGen.head_induction_on with
  | refl => exact fun _ _ _ inlines => ⟨_, _, inlines⟩
  | @head schema next step later ih =>
    intro depth stack behind distinct room inlines
    obtain ⟨ref, name, given, found⟩ := step
    have single : LeadsOn definitions schema next := .single ⟨ref, name, given, found⟩
    have fresh : name ∉ stack := by
      intro stacked
      obtain ⟨body, there, back⟩ := behind name stacked
      obtain ⟨-, here⟩ := definition_eq_ok.1 found
      cases here.symm.trans there
      exact not_back (.head ⟨ref, name, given, found⟩ later) bare (single.trans_left back)
    have known : stack ⊆ Entries.keys definitions := fun other stacked => by
      obtain ⟨body, there, -⟩ := behind other stacked
      exact Entries.mem_keys_iff.2 ⟨body, there⟩
    have here := (definition_eq_ok.1 found).2
    obtain ⟨kept, ok, inside⟩ := inlines.reference given
    obtain ⟨name', body', found', cases_⟩ := replacement_cases ok
    obtain ⟨rfl, rfl⟩ := leads_unique given found given found'
    rcases cases_ with ⟨-, -, stacked | rfl⟩ | ⟨less, rfl, -, inner⟩
    · exact absurd stacked fresh
    · exact absurd (mem_of_length_le distinct known (by omega) (Entries.mem_keys_iff.2 ⟨_, here⟩)) fresh
    · rw [inlineWithin_eq] at inner
      have behind : ∀ other ∈ name :: stack, ∃ body, definitions.lookup other = some body ∧
          LeadsTo definitions body next := by
        intro other stacked
        rcases List.mem_cons.1 stacked with rfl | old
        · exact ⟨next, here, .refl⟩
        · obtain ⟨body, there, back⟩ := behind other old
          exact ⟨body, there, back.tail ⟨ref, name, given, found⟩⟩
      have room : definitions.length ≤ less + (name :: stack).length := by
        rw [List.length_cons]
        omega
      exact ih behind (List.nodup_cons.2 ⟨fresh, distinct⟩) room ⟨kept, inner, inside⟩

/-- A record is inlined to a record. -/
theorem IsRecord.inlined {depth : Nat} {stack : List String}
    {source fields : List (Atom × Value)} (record : IsRecord source)
    (inlines : Inlines (replacement definitions depth stack) names false (.obj source) (.obj fields)) :
    IsRecord fields := by
  have bare : refText? (.obj source) = none := refText?_of_not_shown record.shown
  obtain ⟨cs, same, each⟩ := inlines.fields bare
  cases same
  have keys : Entries.keys fields = Entries.keys source := keys_related each
  have value (key : String) {v : Value} (given : fields.lookup (.text key) = some v) :
      ∃ w, source.lookup (.text key) = some w ∧ InlinesArgument (replacement definitions depth stack) names (.text key) w v := by
    rcases lookup_related each (.text key) with ⟨-, absent⟩ | ⟨w, c, found, inlined, related⟩
    · rw [absent] at given
      cases given
    · rw [inlined] at given
      cases given
      exact ⟨w, found, related⟩
  refine ⟨?_, ?_, ?_, ?_, ?_⟩
  · rcases lookup_related each (.text "type") with ⟨absent, -⟩ | ⟨w, c, found, inlined, related⟩
    · rw [record.type] at absent
      cases absent
    · rw [record.type] at found
      cases found
      rw [inlined, Inlines.atom related]
  · rw [keys]
    exact record.keywords
  · rcases lookup_related each (.text "id") with ⟨-, absent⟩ | ⟨w, c, found, -, -⟩
    · exact absent
    · rw [record.address] at found
      cases found
  · rw [keys]
    exact record.distinct
  · intro properties given
    obtain ⟨w, found, related⟩ := value "properties" given
    have related : Inlines (replacement definitions depth stack) names true w (.obj properties) := related
    obtain ⟨schemas, rfl⟩ := related.source_object
    obtain ⟨cs, same, each⟩ := related.schemas
    cases same
    rw [keys_related each]
    exact record.properties schemas found

end Chains

end Schema

namespace Compile

/-! ### The schema of a body -/

section Parts

variable {properties : List (Atom × Value)} {required : List Value} {bodies : List (String × Value)}

theorem propertiesIn_withBodies {fields : List (Atom × Value)} :
    propertiesIn (withBodies bodies fields) = propertiesIn fields := by
  rw [propertiesIn, propertiesIn, lookup_withBodies (by decide)]

theorem requiredIn_withBodies {fields : List (Atom × Value)} :
    requiredIn (withBodies bodies fields) = requiredIn fields := by
  rw [requiredIn, requiredIn, lookup_withBodies (by decide)]

/-- With definitions embedded, the schema of a record is that of the same record. -/
theorem isRecord_withBodies {fields : List (Atom × Value)} (record : IsRecord fields) :
    IsRecord (withBodies bodies fields) where
  type := by
    rw [lookup_withBodies (by decide)]
    exact record.type
  keywords key member kind given := by
    obtain ⟨f, inside, rfl⟩ := List.mem_map.1 member
    unfold withBodies at inside
    split at inside
    · exact record.keywords _ (List.mem_map_of_mem inside) kind given
    · rcases Entries.mem_put inside with rfl | old
      · cases given
      · exact record.keywords _ (List.mem_map_of_mem old) kind given
  address := by
    rw [lookup_withBodies (by decide)]
    exact record.address
  distinct := by
    unfold withBodies
    split
    · exact record.distinct
    · rw [Entries.keys_put]
      split
      · exact record.distinct
      next fresh =>
        refine List.nodup_append.2 ⟨record.distinct, List.nodup_singleton _, ?_⟩
        rintro a known b new rfl
        obtain rfl := List.mem_singleton.1 new
        exact fresh known
  properties v given := by
    rw [lookup_withBodies (by decide)] at given
    exact record.properties v given

/-- The schema of a body and a model embed the same definitions, where both embed any. -/
private theorem embeddedIn_alike {fields : List (Atom × Value)} {name : Atom} {body body' : Value}
    (found : (embeddedIn (.obj (objectFields properties required bodies))).lookup name = some body)
    (found' : (embeddedIn (.obj (withBodies bodies fields))).lookup name = some body') : body = body' := by
  rw [embeddedIn_objectFields] at found
  have some_ : bodies ≠ [] := by
    rintro rfl
    cases found
  rw [embeddedIn_withBodies some_, found] at found'
  exact Option.some.inj found'

end Parts

section Reference

variable {definitions : Definitions} {ref name : String}

/-- A reference alone is inlined as the cut of the definition that it names. -/
private theorem inline_ref (named : refName "definitions" ref = .ok name) {body : Value}
    (found : definitions.lookup name = some body) :
    Schema.inline definitions (.obj [(.text "$ref", .text ref)]) = Schema.inline definitions (cut name) := by
  have here : definition definitions ref = .ok (name, body) := definition_eq_ok.2 ⟨named, found⟩
  have there : definition definitions (definitionRef name) = .ok (name, body) :=
    definition_eq_ok.2 ⟨refName_definitionRef name, found⟩
  have same : replacement definitions definitions.length [] ref =
      replacement definitions definitions.length [] (definitionRef name) := by
    rw [replacement, replacement, here, there]
  rw [Schema.inline, Schema.inline, inlineFrom, inlineFrom, inlineWithin_eq, inlineWithin_eq]
  exact same

private theorem hasParts_withBodies {fields : List (Atom × Value)} {bodies : List (String × Value)}
    (parts : HasParts fields) : HasParts (withBodies bodies fields) where
  properties v given := by
    rw [propertiesIn_withBodies]
    exact parts.properties v ((lookup_withBodies (by decide)).symm.trans given)
  required v given := by
    rw [requiredIn_withBodies]
    exact parts.required v ((lookup_withBodies (by decide)).symm.trans given)

private theorem readable_ref (ref : String) : Readable (.obj [(.text "$ref", .text ref)]) := by
  have only (part : Value) (within : Within (.obj [(.text "$ref", .text ref)]) part) :
      part = .obj [(.text "$ref", .text ref)] := by
    induction within with
    | self => rfl
    | inside _ shown _ same =>
      cases same
      cases shown
  intro fields within bare
  cases only _ within
  cases bare

/-- What an accepted model is made of, if its definition leads to a record: that record inlined,
with its parts, and the definitions that stay cut. -/
private theorem model_record (objects : AreObjects definitions) {source : List (Atom × Value)} {root : Value}
    (leads : LeadsTo definitions (cut name) (.obj source)) (record : IsRecord source)
    (compiled : Compile.model definitions name = .ok root) :
    ∃ (fields : List (Atom × Value)) (kept : List String) (bodies : List (String × Value)) (required : List String),
      Schema.inline definitions (cut name) = .ok (.obj fields, kept) ∧
      Schema.embedded definitions kept = .ok bodies ∧ root = .obj (withBodies bodies fields) ∧
      IsRecord fields ∧ HasParts fields ∧ requiredIn fields = required.map .text ∧ required.Nodup := by
  obtain ⟨fields, kept, bodies, inlined, embedded, rfl, wellFormed⟩ := model_schema objects compiled
  have inlines : Inlines (replacement definitions definitions.length []) kept false (cut name) (.obj fields) :=
    ⟨kept, inlineWithin_eq definitions _ _ _ ▸ inlined, List.Subset.refl kept⟩
  have bare := refText?_of_not_shown record.shown
  obtain ⟨depth, stack, inlines⟩ := inlines_of_chain leads bare (fun _ impossible => by cases impossible) List.nodup_nil (by simp) inlines
  have passes := passes_of_isWellFormed wellFormed
  have property (v : Value) (given : fields.lookup (.text "properties") = some v) :
      v = .obj (propertiesIn fields) := by
    obtain ⟨entries, rfl⟩ := passes.properties ((lookup_withBodies (by decide)).trans given)
    simp only [propertiesIn, given]
  have texts (v : Value) (given : fields.lookup (.text "required") = some v) :
      ∃ names : List String, v = .list (names.map .text) ∧ names.Nodup :=
    passes.required ((lookup_withBodies (by decide)).trans given)
  cases given : fields.lookup (.text "required") with
  | none =>
    refine ⟨fields, kept, bodies, [], inlined, embedded, rfl, record.inlined inlines, ⟨property, ?_⟩, ?_, List.nodup_nil⟩
    · rw [given]
      intro v found
      cases found
    · simp only [requiredIn, given, List.map_nil]
  | some v =>
    obtain ⟨names, rfl, distinct⟩ := texts v given
    have required : requiredIn fields = names.map .text := by simp only [requiredIn, given]
    refine ⟨fields, kept, bodies, names, inlined, embedded, rfl, record.inlined inlines, ⟨property, ?_⟩, required, distinct⟩
    intro v found
    rw [required]
    exact (Option.some.inj (given.symm.trans found)).symm

/-- The body schema of an operation that takes a reference to a record. -/
private theorem bodySchema_of_ref {merged : Merged} {template : String} {method : Method} {basePath : Option String}
    {parameters : List Parameter} {o : Operation} {p : Parameter} {fields : List (Atom × Value)} {kept required : List String}
    {bodies : List (String × Value)} (ok : operation merged template method basePath parameters = .ok o)
    (single : o.parameters.filter (·.location == some .body) = [p]) (takes : p.schema = some [(.text "$ref", .text ref)])
    (inlined : Schema.inline merged.definitions (.obj [(.text "$ref", .text ref)]) = .ok (.obj fields, kept))
    (embedded : Schema.embedded merged.definitions kept = .ok bodies) (record : IsRecord fields) (parts : HasParts fields)
    (texts : requiredIn fields = required.map .text) (distinct : required.Nodup) :
    o.bodySchema = .obj (objectFields (propertiesIn fields) (required.map .text) bodies) := by
  obtain ⟨draft, others, drafted, embeds, -, rfl, body, -⟩ := operation_schemas ok
  obtain ⟨part, made, properties, names, keeps⟩ := draft_of_body single drafted
  rw [takes, Option.getD_some, bodyPart_of_inlined inlined parts] at made
  cases made
  have properties : draft.properties = propertiesIn fields := by
    rw [properties]
    exact addProperties_of_distinct record.apart
  have names : draft.required = required.map .text := by
    have added : addMissing (([] : List String).map .text) (required.map .text) = required.map .text :=
      addMissing_of_nodup distinct
    rw [names, texts]
    exact added
  have keeps : draft.kept = kept := keeps
  rw [keeps, embedded] at embeds
  cases embeds
  rw [body, objectSchema_eq, properties, names]

end Reference

end Compile

namespace Body

open Compile

/-- A body that takes a reference to a record and the model of that record are told the same
issues of all data, in some order. -/
theorem issues_of_model {merged : Merged} (objects : AreObjects merged.definitions)
    (legible : AreReadable merged.definitions)
    (plain : ∀ name, OnCycle merged.definitions name → Url.hasEscape name.toList = false)
    {template : String} {method : Method} {basePath : Option String} {parameters : List Parameter} {o : Operation}
    (ok : operation merged template method basePath parameters = .ok o)
    {p : Parameter} {ref name : String} {source : List (Atom × Value)} {root : Value}
    (single : o.parameters.filter (·.location == some .body) = [p]) (takes : p.schema = some [(.text "$ref", .text ref)])
    (named : refName "definitions" ref = .ok name) (leads : LeadsTo merged.definitions (cut name) (.obj source))
    (record : IsRecord source) (compiled : Compile.model merged.definitions name = .ok root) (data : Value) :
    (issues o.bodySchema data).map Multiset.ofList = (issues root data).map Multiset.ofList := by
  obtain ⟨fields, kept, bodies, required, inlined, embedded, rfl, whole, parts, texts, distinct⟩ :=
    model_record objects leads record compiled
  have there : ∃ body, merged.definitions.lookup name = some body := by
    rcases Relation.ReflTransGen.cases_head leads with same | ⟨body, ⟨ref, name', given, found⟩, -⟩
    · cases same
      cases record.type
    · cases given
      obtain ⟨read, found⟩ := definition_eq_ok.1 found
      rw [refName_definitionRef] at read
      cases read
      exact ⟨body, found⟩
  obtain ⟨body, found⟩ := there
  have inlines := (inline_ref named found).trans inlined
  have same := bodySchema_of_ref ok single takes inlines embedded whole parts texts distinct
  have readable (q : Parameter) (declared : q ∈ o.parameters) : LegibleParameter q := by
    intro location
    have one : q ∈ o.parameters.filter (·.location == some .body) := List.mem_filter.2 ⟨declared, by simp [location]⟩
    rw [single, List.mem_singleton] at one
    subst one
    rw [takes, Option.getD_some]
    exact readable_ref ref
  obtain ⟨bodies', bodyRoot, -⟩ := operation_compiled objects legible ok readable
  obtain ⟨bodies'', modelRoot⟩ := model_compiled objects legible compiled
  rw [same] at bodyRoot ⊢
  have sharing : Sharing (.obj (objectFields (propertiesIn fields) (required.map .text) bodies))
      (.obj (withBodies bodies fields)) :=
    ⟨⟨closed_of_plain bodyRoot plain, closed_of_plain modelRoot plain⟩,
      ⟨⟨_, bodyRoot.settled⟩, ⟨_, modelRoot.settled⟩⟩, fun _ _ _ => embeddedIn_alike⟩
  refine issues_of_records sharing (isRecord_objectFields whole.apart) (isRecord_withBodies whole) hasParts_objectFields ?_ ?_
    requiredIn_objectFields ?_ data
  · exact hasParts_withBodies parts
  · rw [propertiesIn_withBodies, propertiesIn_objectFields]
  · rw [requiredIn_withBodies, texts]

end Body

/-! ### Requests and responses -/

/-- The issues of an outcome, in no order. -/
def Outcome.told (outcome : Outcome) : Multiset Issue := Multiset.ofList outcome.issues

theorem Body.validate_told (o : Operation) {data : Value} (given : data ≠ .null) :
    (Body.validate o data).map Outcome.told = (Body.issues o.bodySchema data).map Multiset.ofList := by
  rw [Body.validate, if_neg (fun missing => given missing.1)]
  simp only [if_neg given]
  cases Body.issues o.bodySchema data with
  | error fault => rfl
  | ok issues => simp [Except.map, Outcome.told]

namespace ResponseValidator

theorem validate_told {validator : ResponseValidator} (keeps : validator.Keeps) {name : String} {root : Value}
    (compiled : Compile.model validator.definitions name = .ok root) (data : Value) :
    (validator.validate name data).1.map Outcome.told =
      ((Body.issues root data).map Multiset.ofList).mapError ResponseFailure.fault := by
  rw [validate_eq keeps compiled]
  cases Body.issues root data with
  | error fault => rfl
  | ok told => simp [Except.map, Except.mapError, Outcome.told]

/-- A response validated against a model, after any calls, is told the issues that a body is told
whose schema is a reference to the model, in some order, if the definition leads to a record. -/
theorem validate_tells_as_body {files : Files} {sources : List Source} {documents : List Document}
    (read : Source.documents files sources = .ok documents)
    (legible : AreReadable (Merged.ofDocuments documents).definitions)
    (plain : ∀ name, OnCycle (Merged.ofDocuments documents).definitions name → Url.hasEscape name.toList = false)
    (unmarked : ∀ entry ∈ (Merged.ofDocuments documents).definitions, marksNullable entry.2 = false)
    {registry : Registry} {o : Operation} (accepted : Compile.registry documents = .ok registry)
    (member : o ∈ registry.operations) {p : Parameter} {ref name : String} {source : List (Atom × Value)}
    (single : o.parameters.filter (·.location == some .body) = [p]) (takes : p.schema = some [(.text "$ref", .text ref)])
    (named : refName "definitions" ref = .ok name)
    (leads : LeadsTo (Merged.ofDocuments documents).definitions (cut name) (.obj source)) (record : IsRecord source)
    {validator : ResponseValidator} (made : ofDocuments documents = .ok validator) {root : Value}
    (compiled : Compile.model validator.definitions name = .ok root) (calls : List (String × Value)) {data : Value}
    (given : data ≠ .null) :
    ((validator.after calls).validate name data).1.map Outcome.told =
      ((Body.validate o data).map Outcome.told).mapError ResponseFailure.fault := by
  obtain ⟨task, -, parameters, -, ok⟩ := operation_of_registry accepted member
  have same := definitions_of_unmarked unmarked made
  have keeps : validator.Keeps := by
    obtain ⟨widened, -, made⟩ := bind_eq_ok.1 made
    cases made
    nofun
  obtain ⟨still, keeps⟩ := after_keeps calls keeps
  rw [same] at compiled still
  rw [validate_told keeps (still ▸ compiled), Body.validate_told o given,
    Body.issues_of_model (Source.documents_objects read) legible plain ok single takes named leads record compiled]

/-- Whether an operation has one body, and that by reference to a model. -/
def takesModel (name : String) (o : Operation) : Bool :=
  match o.parameters.filter (·.location == some .body) with
  | [p] => p.schema == some [(.text "$ref", .text (definitionRef name))]
  | _ => false

theorem takesModel_spec {name : String} {o : Operation} (takes : takesModel name o = true) :
    ∃ p, o.parameters.filter (·.location == some .body) = [p] ∧
      p.schema = some [(.text "$ref", .text (definitionRef name))] := by
  unfold takesModel at takes
  split at takes
  next p single => exact ⟨p, single, eq_of_beq takes⟩
  next => cases takes

/-- The schema of a record that has another of its kind, through a reference to a reference. -/
def linkedRecord : List (Atom × Value) :=
  [(.text "type", .text "object"),
    (.text "properties", .record [("tag", .record [("type", .text "string")]), ("next", cut "Link")]),
    (.text "required", .texts ["tag"])]

/-- A document with a linked record, and one operation that takes a reference to it. -/
def linked : Value :=
  let body : Value := .record [("name", .text "body"), ("in", .text "body"), ("schema", cut "Link")]
  .record
    [("paths", .record [("/x", .record [("post", .record [("parameters", .list [body])])])]),
      ("definitions", .record [("Link", cut "Node"), ("Node", .obj linkedRecord)])]

private theorem isRecord_linkedRecord : IsRecord linkedRecord where
  type := rfl
  keywords key member kind given := by
    simp only [linkedRecord, Entries.keys, List.map_cons, List.map_nil, List.mem_cons, List.not_mem_nil, or_false] at member
    rcases member with rfl | rfl | rfl <;> cases given <;> simp
  address := rfl
  distinct := by decide
  properties properties given := by
    cases given
    decide

theorem validate_tells_as_body_linked : ∃ documents registry o validator,
    Source.documents ⟨fun _ => none⟩ [.data linked] = .ok documents ∧ Compile.registry documents = .ok registry ∧
      o ∈ registry.operations ∧ ofDocuments documents = .ok validator ∧ ∀ calls data, data ≠ .null →
        ((validator.after calls).validate "Link" data).1.map Outcome.told =
          ((Body.validate o data).map Outcome.told).mapError ResponseFailure.fault := by
  have tested : (Source.documents ⟨fun _ => none⟩ [.data linked]).toOption.any (fun documents =>
      decide ((Merged.ofDocuments documents).definitions = [("Link", cut "Node"), ("Node", .obj linkedRecord)]) &&
      (Compile.registry documents).toOption.any (fun registry => registry.operations.any (takesModel "Link")) &&
      (ofDocuments documents).toOption.any fun validator =>
        (Compile.model validator.definitions "Link").toOption.any fun _ => true) = true := by
    decide +kernel
  obtain ⟨documents, read, tested⟩ := any_toOption_eq_true.1 tested
  simp only [Bool.and_eq_true, decide_eq_true_eq] at tested
  obtain ⟨⟨known, operation⟩, model⟩ := tested
  obtain ⟨registry, accepted, operation⟩ := any_toOption_eq_true.1 operation
  obtain ⟨o, member, body⟩ := List.any_eq_true.1 operation
  obtain ⟨validator, made, model⟩ := any_toOption_eq_true.1 model
  obtain ⟨root, compiled, -⟩ := any_toOption_eq_true.1 model
  obtain ⟨p, single, takes⟩ := takesModel_spec body
  refine ⟨documents, registry, o, validator, read, accepted, member, made, fun calls data given => ?_⟩
  have legible : AreReadable (Merged.ofDocuments documents).definitions := by
    intro name body found
    have each : (Merged.ofDocuments documents).definitions.all (fun entry => isEverywhere isLegible 3 entry.2) = true := by
      rw [known]
      decide +kernel
    exact readable_of_isLegible (List.all_eq_true.1 each _ (Entries.mem_of_lookup_eq_some found))
  have plain (name : String) (cycle : OnCycle (Merged.ofDocuments documents).definitions name) :
      Url.hasEscape name.toList = false := by
    obtain ⟨body, found⟩ := cycle.defined
    have each : (Merged.ofDocuments documents).definitions.all (fun entry => !Url.hasEscape entry.1.toList) = true := by
      rw [known]
      decide +kernel
    simpa using List.all_eq_true.1 each _ (Entries.mem_of_lookup_eq_some found)
  have unmarked : ∀ entry ∈ (Merged.ofDocuments documents).definitions, marksNullable entry.2 = false := by
    rw [known]
    decide +kernel
  have leads : LeadsTo (Merged.ofDocuments documents).definitions (cut "Link") (.obj linkedRecord) := by
    rw [known]
    have first : definition [("Link", cut "Node"), ("Node", .obj linkedRecord)] (definitionRef "Link") =
        .ok ("Link", cut "Node") := definition_eq_ok.2 ⟨refName_definitionRef _, rfl⟩
    have second : definition [("Link", cut "Node"), ("Node", .obj linkedRecord)] (definitionRef "Node") =
        .ok ("Node", .obj linkedRecord) := definition_eq_ok.2 ⟨refName_definitionRef _, rfl⟩
    exact .head ⟨_, _, rfl, first⟩ (.single ⟨_, _, rfl, second⟩)
  exact validate_tells_as_body read legible plain unmarked accepted member single takes (refName_definitionRef "Link")
    leads isRecord_linkedRecord made compiled calls given

/-- The schema of a record with a reference that inlining takes for data, to a note beside its
properties. -/
def strayRecord : List (Atom × Value) :=
  let stray : Value := .record [("dependencies", .record [("default", .record [("$ref", .text "#/x-note")])])]
  [(.text "type", .text "object"), (.text "x-note", .record [("type", .text "string")]),
    (.text "properties", .record [("p", stray)])]

/-- A document with such a record, and one operation that takes it. -/
def astray : Value :=
  let body : Value := .record [("name", .text "body"), ("in", .text "body"), ("schema", cut "Node")]
  .record
    [("paths", .record [("/x", .record [("post", .record [("parameters", .list [body])])])]),
      ("definitions", .record [("Node", .obj strayRecord)])]

private theorem isRecord_strayRecord : IsRecord strayRecord where
  type := rfl
  keywords key member kind given := by
    simp only [strayRecord, Entries.keys, List.map_cons, List.map_nil, List.mem_cons, List.not_mem_nil, or_false] at member
    rcases member with rfl | rfl | rfl <;> cases given <;> simp
  address := rfl
  distinct := by decide
  properties properties given := by
    cases given
    decide

/-- The note is in reach of a reference from the model, but not from the body, where the check
ends in the fault of a reference instead of an issue. -/
theorem validate_apart_astray :
    let data : Value := .record [("p", .record [("default", .int 1)])]
    ∃ documents registry o p validator, Source.documents ⟨fun _ => none⟩ [.data astray] = .ok documents ∧
      Compile.registry documents = .ok registry ∧ o ∈ registry.operations ∧
      o.parameters.filter (·.location == some .body) = [p] ∧
      p.schema = some [(.text "$ref", .text (definitionRef "Node"))] ∧
      (Merged.ofDocuments documents).definitions = [("Node", .obj strayRecord)] ∧ IsRecord strayRecord ∧
      marksNullable (.obj strayRecord) = false ∧ ofDocuments documents = .ok validator ∧
      Body.validate o data = .error .danglingReference ∧
      (validator.validate "Node" data).1 = .ok (.invalid ⟨"Type mismatch. Expected String but got Object.", "#/p"⟩) := by
  intro data
  have tested : (Source.documents ⟨fun _ => none⟩ [.data astray]).toOption.any (fun documents =>
      decide ((Merged.ofDocuments documents).definitions = [("Node", .obj strayRecord)]) &&
      (Compile.registry documents).toOption.any (fun registry => registry.operations.any fun o =>
        takesModel "Node" o && decide (Body.validate o data = .error .danglingReference)) &&
      (ofDocuments documents).toOption.any fun validator => decide ((validator.validate "Node" data).1 =
        .ok (.invalid ⟨"Type mismatch. Expected String but got Object.", "#/p"⟩))) = true := by
    decide +kernel
  obtain ⟨documents, read, tested⟩ := any_toOption_eq_true.1 tested
  simp only [Bool.and_eq_true, decide_eq_true_eq] at tested
  obtain ⟨⟨known, operation⟩, model⟩ := tested
  obtain ⟨registry, accepted, operation⟩ := any_toOption_eq_true.1 operation
  obtain ⟨o, member, body⟩ := List.any_eq_true.1 operation
  obtain ⟨validator, made, model⟩ := any_toOption_eq_true.1 model
  obtain ⟨body, fault⟩ := Bool.and_eq_true_iff.1 body
  obtain ⟨p, single, takes⟩ := takesModel_spec body
  exact ⟨documents, registry, o, p, validator, read, accepted, member, single, takes, known,
    isRecord_strayRecord, by decide +kernel, made, of_decide_eq_true fault, of_decide_eq_true model⟩

end ResponseValidator
end SwaggerGate
