import SwaggerGate.Proofs.References
import SwaggerGate.Proofs.Schema.Agreement

/-! The meaning of compiled documents. Each property of an operation's body means what some
body parameter declares under its name, and each model means its definition. -/
namespace SwaggerGate.Compile

open Schema

section Operation

variable {definitions : Definitions} {names more : List String}

/-- Whether a property is one that a schema declares, inlined. -/
def Declared (definitions : Definitions) (names : List String) (schema : List (Atom × Value))
    (entry : Atom × Value) : Prop :=
  ∃ source schemas s, LeadsTo definitions (.obj schema) (.obj source) ∧
    source.lookup (.text "properties") = some (.obj schemas) ∧ (entry.1, s) ∈ schemas ∧ Straight s ∧
      ∃ depth ≤ definitions.length, ∃ stack, Inlines (replacement definitions depth stack) names false s entry.2

private theorem Declared.mono {schema : List (Atom × Value)} {entry : Atom × Value}
    (h : Declared definitions names schema entry) (subset : names ⊆ more) : Declared definitions more schema entry := by
  obtain ⟨source, schemas, s, leads, given, member, legible, depth, few, stack, kept, ok, inside⟩ := h
  exact ⟨source, schemas, s, leads, given, member, legible, depth, few, stack, kept, ok, List.Subset.trans inside subset⟩

private theorem bodyPart_declared (straight : ∀ name body, definitions.lookup name = some body → Straight body)
    {schema : List (Atom × Value)} (legible : Straight (.obj schema)) {part : BodyPart}
    (ok : bodyPart definitions schema = .ok part) :
    ∀ entry ∈ part.properties, Declared definitions part.kept schema entry := by
  obtain ⟨inlined, inlining, ok⟩ := bodyPart_properties ok
  intro entry member
  rcases ok with none_ | given
  · rw [none_] at member
    cases member
  · have inlines : Inlines (replacement definitions definitions.length []) part.kept false (.obj schema) inlined :=
      ⟨part.kept, inlineWithin_eq definitions definitions.length [] _ ▸ inlining, List.Subset.refl _⟩
    rcases bare_source _ _ _ _ inlines with ⟨name, -, rfl⟩ | ⟨source, leads, bare, depth, few, stack, inlines⟩
    · cases given
    · have legible : Straight source := by
        rcases leads.origin with rfl | ⟨name, found⟩
        · exact legible
        · exact straight name source found
      cases inlined with
      | obj fields =>
        obtain ⟨source, rfl⟩ := inlines.source_object
        obtain ⟨cs, same, each⟩ := inlines.fields bare
        cases same
        have absent := (legible source .self bare).1
        rcases lookup_related each (.text "properties") with ⟨-, absent'⟩ | ⟨v, c, declared, given', argument⟩
        · rw [Value.field?, absent'] at given
          cases given
        · rw [Value.field?, given'] at given
          cases given
          have argument : Inlines (replacement definitions depth stack) part.kept true v (.obj part.properties) := argument
          cases argument.mapForm with
          | other _ plain => exact absurd ⟨_, rfl⟩ plain
          | @obj schemas _ each =>
            obtain ⟨⟨key, s⟩, known, same, related⟩ := exists_related each member
            refine ⟨source, schemas, s, leads, declared, same ▸ known, ?_, depth, few, stack, related⟩
            have entry_ : (.text "properties", .obj schemas) ∈ source := Entries.mem_of_lookup_eq_some declared
            have inside : s ∈ schemasUnder (.obj schemas) .properties := List.mem_map.2 ⟨_, known, rfl⟩
            exact legible.inside (shownRef?_of_bare absent) (mem_schemasInside.2 ⟨.properties, _, entry_, rfl, inside⟩)
      | _ => cases given

/-- Whether the body schema of a parameter, if it has one, is straight. -/
def StraightParameter (p : Parameter) : Prop := p.location = some .body → Straight (.obj (p.schema.getD []))

/-- Whether every property of a draft is one that the body of some parameter declares. -/
def Draft.Declares (definitions : Definitions) (parameters : List Parameter) (draft : Draft) : Prop :=
  ∀ entry ∈ draft.properties, ∃ p ∈ parameters, p.location = some .body ∧
    Declared definitions draft.kept (p.schema.getD []) entry

private theorem Draft.add_declares (straight : ∀ name body, definitions.lookup name = some body → Straight body)
    {parameters : List Parameter} {draft next : Draft} {p : Parameter} (member : p ∈ parameters)
    (legible : StraightParameter p) (declares : draft.Declares definitions parameters)
    (ok : draft.add definitions p = .ok next) : next.Declares definitions parameters := by
  unfold Draft.add at ok
  split at ok
  next body =>
    obtain ⟨part, made, ok⟩ := bind_eq_ok.1 ok
    cases ok
    intro entry inside
    rcases mem_addProperties inside with known | fresh
    · obtain ⟨q, declared, location, h⟩ := declares entry known
      exact ⟨q, declared, location, h.mono (List.subset_append_left _ _)⟩
    · have h := bodyPart_declared straight (legible body) made entry fresh
      exact ⟨p, member, body, h.mono (List.subset_append_right _ _)⟩
  next => cases ok; exact declares
  next => cases ok; exact declares
  next => cases ok; exact declares

/-- Whether a property of an operation's body means, in both schemas of the operation, what the
body of some parameter declares under its name. -/
def MeansDeclared (definitions : Definitions) (o : Operation) (entry : Atom × Value) : Prop :=
  ∃ p ∈ o.parameters, p.location = some .body ∧
    ∃ source schemas s, LeadsTo definitions (.obj (p.schema.getD [])) (.obj source) ∧
      source.lookup (.text "properties") = some (.obj schemas) ∧ (entry.1, s) ∈ schemas ∧
        MeansSame (meaningIn definitions) (targetIn o.bodySchema) s entry.2 ∧
        MeansSame (meaningIn definitions) (targetIn o.payloadSchema) s entry.2

/-- The properties of an accepted operation's body mean what its parameters declare. -/
theorem operation_meansSame {merged : Merged} (objects : AreObjects merged.definitions)
    (definite : StraightDefinitions merged.definitions) {template : String} {method : Method}
    {basePath : Option String} {parameters : List Parameter} {o : Operation}
    (ok : operation merged template method basePath parameters = .ok o)
    (legible : ∀ p ∈ o.parameters, StraightParameter p) :
    ∀ entry ∈ o.properties, MeansDeclared merged.definitions o entry := by
  obtain ⟨draft, bodies, drafted, embedded, same, rfl, body, payload, -⟩ := operation_schemas ok
  have declares : draft.Declares merged.definitions o.parameters := by
    refine foldlM_invariant (P := Draft.Declares merged.definitions o.parameters) (fun p member a a' h ok => ?_) ?_ drafted
    · exact Draft.add_declares definite.straight member (legible p member) h ok
    · intro entry member
      cases member
  have embedding := embedded_closed (kept_of_parameters_onCycle drafted) embedded
  intro entry member
  rw [same] at member
  obtain ⟨p, declared, location, source, schemas, s, leads, given, known, straight, depth, few, stack, inlines⟩ :=
    declares entry member
  obtain ⟨kept, inlined, inside⟩ := inlines
  have inlines : Inlines (replacement merged.definitions depth stack) (Entries.keys bodies) false s entry.2 :=
    ⟨kept, inlined, List.Subset.trans inside embedding.covers⟩
  have means (properties : List (Atom × Value)) (required : List Value) :
      MeansSame (meaningIn merged.definitions) (targetIn (objectSchema properties required bodies)) s entry.2 := by
    rw [objectSchema_eq]
    exact .of_inlines objects definite.straight (embedding.leadBack definite.plain fun _ => embeddedIn_objectFields) few inlines
      straight
  refine ⟨p, declared, location, source, schemas, s, leads, given, known, ?_, ?_⟩
  · rw [body]
    exact means _ _
  · rw [payload]
    exact means _ _

end Operation

section Model

variable {definitions : Definitions} {name : String} {root : Value}

private theorem flatMap_put {β : Type} {f : Atom × Value → List β} {key : Atom} (silent : ∀ v, f (key, v) = [])
    (value : Value) (fields : List (Atom × Value)) : (Entries.put key value fields).flatMap f = fields.flatMap f := by
  induction fields with
  | nil => simp [Entries.put, silent]
  | cons field rest ih =>
    obtain ⟨k, v⟩ := field
    rw [Entries.put]
    split
    next same => rw [List.flatMap_cons, List.flatMap_cons, same, silent, silent]
    next => rw [List.flatMap_cons, List.flatMap_cons, ih]

/-- Definitions beside the keywords of a schema demand nothing. -/
private theorem demandsOf_withBodies (bodies : List (String × Value)) (fields : List (Atom × Value)) (data : Value) :
    demandsOf (withBodies bodies fields) data = demandsOf fields data := by
  have arguments (key : String) (other : key ≠ "definitions") :
      argument? (withBodies bodies fields) key = argument? fields key := lookup_withBodies other
  have properties := arguments "properties" (by decide)
  have patterns := arguments "patternProperties" (by decide)
  have uncovers : uncovered (withBodies bodies fields) = uncovered fields := by
    funext entries
    rw [uncovered, uncovered, joinedPatterns, joinedPatterns, properties, patterns]
  have maps : mapsNames (withBodies bodies fields) "properties" = mapsNames fields "properties" := by
    rw [mapsNames, mapsNames, properties]
  have mapsPatterns : mapsNames (withBodies bodies fields) "patternProperties" = mapsNames fields "patternProperties" := by
    rw [mapsNames, mapsNames, patterns]
  have same (kind : Keyword) (argument : Value) :
      demands (withBodies bodies fields) kind argument data = demands fields kind argument data := by
    cases kind <;>
      simp only [demands, furtherItemDemands, furtherPropertyDemands, maps, mapsPatterns, uncovers, assertions, passes,
        flag?, arguments "items" (by decide), arguments "exclusiveMaximum" (by decide),
        arguments "exclusiveMinimum" (by decide)]
  simp only [demandsOf, same]
  unfold withBodies
  split
  · rfl
  · exact flatMap_put (fun v => rfl) _ _

private theorem judge_withBodies (resolve : String → Option Value) (bodies : List (String × Value))
    (fields : List (Atom × Value)) (n : Nat) (data : Value) :
    judge resolve n (.obj (withBodies bodies fields)) data = judge resolve n (.obj fields) data := by
  have shown : shownRef? (withBodies bodies fields) = shownRef? fields := by
    rw [shownRef?, shownRef?, argument?, argument?, lookup_withBodies (by decide)]
  cases n with
  | zero => rfl
  | succ n =>
    rw [judge, judge]
    simp only [shown, demandsOf_withBodies]

/-- A reference by itself means what it leads to. -/
private theorem known_of_cut {resolve : String → Option Value} {name : String} {body : Value}
    (leads : resolve (definitionRef name) = some body) (data : Value) (verdict : Bool) :
    (∃ n, judge resolve n (cut name) data = some verdict) ↔ ∃ n, judge resolve n body data = some verdict := by
  have step (n : Nat) : judge resolve (n + 1) (cut name) data = judge resolve n body data := by
    rw [judge_cut, leads, Option.bind_some]
  constructor
  · rintro ⟨n, known⟩
    cases n with
    | zero => cases known
    | succ n => exact ⟨n, step n ▸ known⟩
  · rintro ⟨n, known⟩
    exact ⟨n + 1, (step n).trans known⟩

private theorem straight_cut (name : String) : Straight (cut name) := by
  intro fields within bare
  cases within.eq_cut
  cases bare

/-- The schema of an accepted model means the definition of its name. -/
theorem model_meansSame (objects : AreObjects definitions) (definite : StraightDefinitions definitions)
    (ok : model definitions name = .ok root) :
    ∃ body, definitions.lookup name = some body ∧ MeansSame (meaningIn definitions) (targetIn root) body root := by
  obtain ⟨fields, kept, bodies, inlined, embedded, rfl, -⟩ := model_schema objects ok
  have embedding := embedded_closed (inline_onCycle inlined) embedded
  obtain ⟨body, found⟩ : ∃ body, definition definitions (definitionRef name) = .ok (name, body) := by
    have inlines : Inlines (replacement definitions definitions.length []) kept false (cut name) (.obj fields) :=
      ⟨kept, inlineWithin_eq definitions definitions.length [] _ ▸ inlined, List.Subset.refl _⟩
    have given : refText? (cut name) = some (definitionRef name) := rfl
    obtain ⟨_, ok, -⟩ := inlines.reference given
    obtain ⟨other, body, found, -⟩ := replacement_cases ok
    obtain ⟨named, given⟩ := definition_eq_ok.1 found
    exact ⟨body, definition_eq_ok.2 ⟨refName_definitionRef name, by
      rw [refName_definitionRef] at named
      cases named
      exact given⟩⟩
  refine ⟨body, (definition_eq_ok.1 found).2, fun data => ?_⟩
  have means : MeansSame (meaningIn definitions) (targetIn (.obj (withBodies bodies fields))) (cut name) (.obj fields) :=
    inline_meansSame objects definite embedding embeddedIn_withBodies (straight_cut name) inlined (List.Subset.refl _)
  have leads := meaningIn_of_definition found
  obtain ⟨accepts, rejects⟩ := means data
  refine ⟨(known_of_cut leads data true).symm.trans (accepts.trans ?_),
    (known_of_cut leads data false).symm.trans (rejects.trans ?_)⟩
  · simp only [Accepts, judge_withBodies]
  · simp only [Rejects, judge_withBodies]

end Model

end SwaggerGate.Compile

namespace SwaggerGate

open Schema

/-! ### Documents -/

/-- Documents whose schemas are straight, with no percent escape in the name of a definition
that refers back to itself. -/
structure StraightDocuments (documents : List Document) : Prop where
  definitions : ∀ definitions, IsDefinitions documents definitions → StraightDefinitions definitions
  parameters : ∀ registry, Compile.registry documents = .ok registry → ∀ o ∈ registry.operations,
    ∀ p ∈ o.parameters, Compile.StraightParameter p

/-- Whether documents are straight and no definition has a percent escape in its name,
computed for schemas as deep as a number of steps. -/
def areStraight (depth : Nat) : List Document → Bool :=
  testDocuments (fun entry => !Url.hasEscape entry.1.toList && isEverywhere isStraight depth entry.2) fun p =>
    p.location != some .body || isEverywhere isStraight depth (.obj (p.schema.getD []))

theorem straightDocuments_of_areStraight {depth : Nat} {documents : List Document}
    (h : areStraight depth documents = true) : StraightDocuments documents := by
  obtain ⟨definitions, parameters⟩ := of_testDocuments h
  refine ⟨fun known given => ⟨fun name body found => ?_, fun name cyclic => ?_⟩, fun registry accepted o member p declared
    location => ?_⟩
  · have tested := definitions known given _ (Entries.mem_of_lookup_eq_some found)
    rw [Bool.and_eq_true] at tested
    exact straight_of_isStraight tested.2
  · obtain ⟨body, found⟩ := cyclic.defined
    have tested := definitions known given _ (Entries.mem_of_lookup_eq_some found)
    rw [Bool.and_eq_true, Bool.not_eq_true'] at tested
    exact tested.1
  · have tested := parameters registry accepted o member p declared
    rw [location] at tested
    exact straight_of_isStraight tested

/-- A check by a compiled schema, if no fault stops it, finds what the schema means. -/
theorem IsCompiled.check_judges {files : Files} {sources : List Source} {documents : List Document}
    (read : Source.documents files sources = .ok documents) (straight : StraightDocuments documents)
    (legible : LegibleDocuments documents) {root : Value} (compiled : IsCompiled documents root)
    (distinct : DistinctKeys root) (data : Value) :
    ((Schema.check root data).holds = .ok true → Accepts (targetIn root) root data) ∧
      ((Schema.check root data).holds = .ok false → Rejects (targetIn root) root data) := by
  obtain ⟨definitions, bodies, given, whole⟩ := compiled.root read legible
  have closed := closed_of_plain whole (straight.definitions definitions given).plain
  have shaped := shaped_of_isWellFormed (compiled.wellFormed read) distinct
  have agrees := check_agrees closed whole.settled shaped data
  exact ⟨fun found => ⟨_, agrees true (Report.verdict_eq_some.2 found)⟩,
    fun found => ⟨_, agrees false (Report.verdict_eq_some.2 found)⟩⟩

/-- Inlining preserves meaning. A schema read with its references as definitions accepts and
rejects the same data as its inlined form in a root with the embedded definitions: for all
schemas, for the properties of operations, and for models. A check by a compiled schema finds
just that, unless a fault stops it. -/
theorem inlining_preserves_meaning {files : Files} {sources : List Source} {documents : List Document}
    (read : Source.documents files sources = .ok documents) (straight : StraightDocuments documents) :
    (∀ definitions, IsDefinitions documents definitions → ∀ schemas inlined bodies root, (∀ s ∈ schemas, Straight s) →
      schemas.mapM (inline definitions) = .ok inlined →
      embedded definitions (inlined.flatMap Prod.snd) = .ok bodies →
      (bodies ≠ [] → embeddedIn root = bodies.map fun f => (.text f.1, f.2)) →
        List.Forall₂ (fun s c => MeansSame (meaningIn definitions) (targetIn root) s c.1) schemas inlined) ∧
    (∀ registry, Compile.registry documents = .ok registry → ∀ o ∈ registry.operations, ∀ entry ∈ o.properties,
      Compile.MeansDeclared (Merged.ofDocuments documents).definitions o entry) ∧
    (∀ definitions, IsDefinitions documents definitions → ∀ name root, Compile.model definitions name = .ok root →
      ∃ body, definitions.lookup name = some body ∧ MeansSame (meaningIn definitions) (targetIn root) body root) ∧
    (LegibleDocuments documents → ∀ root, IsCompiled documents root → DistinctKeys root → ∀ data,
      ((Schema.check root data).holds = .ok true → Accepts (targetIn root) root data) ∧
        ((Schema.check root data).holds = .ok false → Rejects (targetIn root) root data)) := by
  refine ⟨fun definitions given schemas inlined bodies root legible ok embedded embeds => ?_,
    fun registry accepted o member entry property => ?_, fun definitions given name root ok => ?_,
    fun legible root compiled distinct data => compiled.check_judges read straight legible distinct data⟩
  · exact inlineAll_meansSame (given.objects read) (straight.definitions definitions given) legible ok embedded embeds
  · obtain ⟨task, -, parameters, -, ok⟩ := operation_of_registry accepted member
    exact Compile.operation_meansSame (Source.documents_objects read) (straight.definitions _ .merged) ok
      (straight.parameters registry accepted o member) entry property
  · exact Compile.model_meansSame (given.objects read) (straight.definitions definitions given) ok

/-- A model that refers to itself means its definition: what a check of nested data finds is
what the definition says of the data. -/
theorem inlining_preserves_meaning_selfReferring :
    let nested : Value := .record [("x", .record [])]
    ∃ documents validator root body, Source.documents ⟨fun _ => none⟩ [.data (selfReferring "Node")] = .ok documents ∧
      StraightDocuments documents ∧ ResponseValidator.ofDocuments documents = .ok validator ∧
      Compile.model validator.definitions "Node" = .ok root ∧ validator.definitions.lookup "Node" = some body ∧
      MeansSame (meaningIn validator.definitions) (targetIn root) body root ∧
      Accepts (meaningIn validator.definitions) body nested := by
  intro nested
  have computed : ((Source.documents ⟨fun _ => none⟩ [.data (selfReferring "Node")]).toOption.bind fun documents =>
      (ResponseValidator.ofDocuments documents).toOption.bind fun validator =>
      (Compile.model validator.definitions "Node").toOption.map fun root =>
        (areStraight 9 documents, areLegible 9 documents, hasDistinctKeys root, (Schema.check root nested).holds)) =
      some (true, true, true, .ok true) := by
    decide +kernel
  cases read : Source.documents ⟨fun _ => none⟩ [.data (selfReferring "Node")] with
  | error failure => rw [read] at computed; cases computed
  | ok documents =>
    cases made : ResponseValidator.ofDocuments documents with
    | error fault => simp only [read, made, Except.toOption, Option.bind] at computed; cases computed
    | ok validator =>
      cases ok : Compile.model validator.definitions "Node" with
      | error failure => simp only [read, made, ok, Except.toOption, Option.bind] at computed; cases computed
      | ok root =>
        simp only [read, made, ok, Except.toOption, Option.bind, Option.map_some, Option.some.injEq, Prod.mk.injEq] at computed
        obtain ⟨straight, legible, distinct, found⟩ := computed
        have straight := straightDocuments_of_areStraight straight
        obtain ⟨-, -, models, checks⟩ := inlining_preserves_meaning read straight
        obtain ⟨body, given, means⟩ := models _ (.widened made) "Node" root ok
        have accepts := (checks (legibleDocuments_of_areLegible legible) root (.model made ok)
          (distinctKeys_of_hasDistinctKeys distinct) nested).1 found
        exact ⟨documents, validator, root, body, rfl, straight, made, ok, given, means, (means nested).1.2 accepts⟩

end SwaggerGate
