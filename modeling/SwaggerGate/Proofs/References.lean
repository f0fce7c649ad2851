import SwaggerGate.Proofs.Registry
import SwaggerGate.Proofs.Responses
import SwaggerGate.Proofs.Schema.Roots
import SwaggerGate.Proofs.Schema.Safe
import SwaggerGate.Validation

/-! References at validation time. All that compilation leaves of references are cuts, which
name embedded definitions; a cut fails a check only if the name is another one once its
percent escapes are undone. Without such names no validation is stopped by a reference. -/
namespace SwaggerGate

open Schema

/-! ### Messages and outcomes -/

private theorem message_clear (cause : Cause) : Clear cause.message := by
  have titles (name : Value) : Clear (typeTitleOf name) := by
    unfold typeTitleOf
    split
    · exact .ok _
    · exact .error rfl
  have texts (name : Value) : Clear (Schema.textOf name) := by
    unfold Schema.textOf
    split
    · exact .ok _
    · exact .error rfl
  unfold Cause.message
  split
  case h_2 expected found =>
    exact (typeNames_clear expected).bind fun names _ => (Clear.mapM titles names).bind fun _ _ => .ok _
  case h_3 missing names found =>
    refine (Value.members_clear names).bind fun members _ => Clear.bind ?_ fun missing _ => ?_
    · exact Clear.filterM fun name _ => (Value.holds_clear found name).bind fun _ _ => .ok _
    · unfold Schema.missingMessage
      split
      · exact .ok _
      · exact (Clear.mapM texts _).bind fun _ _ => .ok _
  all_goals first
    | exact .ok _
    | split <;> exact .ok _

private theorem issuesAfter_clear (violations : List Violation) : ∀ reported : List String,
    Clear (Body.issuesAfter reported violations) := by
  have issue (v : Violation) : Clear (Body.issueOf v) := (message_clear v.cause).bind fun _ _ => .ok _
  induction violations with
  | nil => exact fun _ => .ok _
  | cons v rest ih =>
    intro reported
    rw [Body.issuesAfter]
    split
    · split
      · exact ih reported
      · exact (issue v).bind fun _ _ => (ih _).bind fun _ _ => .ok _
    · exact (issue v).bind fun _ _ => (ih reported).bind fun _ _ => .ok _

/-- Against a closed root, data is never met with the fault of a reference. -/
theorem Body.issues_clear {names : List String} {root : Value} (closed : Closed root)
    (settled : SettledRoot names root) (data : Value) : Clear (Body.issues root data) := by
  apply (issuesAfter_clear _ _).bind
  intro issues _
  have clear := check_clear closed settled data
  cases found : (Schema.check root data).fault with
  | none => exact .ok _
  | some fault => exact .error (clear fault found)

private theorem scalarText_clear (value : Value) : Clear (Parameters.scalarText? value) := by
  unfold Parameters.scalarText?
  repeat' split
  all_goals first | exact .ok _ | exact .error rfl

private theorem enumHolds_clear (enum : Option (List Value)) (text : Option String) :
    Clear (Parameters.enumHolds enum text) := by
  unfold Parameters.enumHolds
  split
  · exact .ok _
  · exact .ok _
  next members s =>
    induction members with
    | nil => exact .ok _
    | cons member rest ih =>
      rw [Parameters.isMemberText]
      refine (scalarText_clear member).bind fun found _ => ?_
      split
      · exact .ok _
      · exact ih

private theorem enumIssue_clear (name : String) (text : Option String) (value : Value) :
    Clear (Parameters.enumIssue name text value) := by
  refine Clear.bind ?_ fun _ _ => .ok _
  unfold Parameters.shownText
  repeat' split
  all_goals first | exact .ok _ | exact .error rfl

private theorem scalarIssue_clear (name : String) (type : ParamType) (text : Option String) :
    Clear (Parameters.scalarIssue? name type text) := by
  unfold Parameters.scalarIssue?
  repeat' split
  all_goals first | exact .ok _ | exact .error rfl

private theorem firstIssue_clear {α : Type} {check : α → Except Fault (Option Issue)} (each : ∀ x, Clear (check x))
    (l : List α) : Clear (Parameters.firstIssue check l) := by
  induction l with
  | nil => exact .ok _
  | cons x rest ih =>
    rw [Parameters.firstIssue]
    split
    · exact ih
    · exact each x

private theorem parameterCheck_clear (name : String) : ∀ (items : Items) (value : Value),
    Clear (Parameters.check name items value)
  | ⟨type, enum, items, format, extra⟩, value => by
    have inner : ∀ inner, items = some inner → ∀ value, Clear (Parameters.check name inner value) := by
      rintro inner rfl
      exact parameterCheck_clear name inner
    unfold Parameters.check
    refine (scalarText_clear value).bind fun text _ => (enumHolds_clear enum text).bind fun allowed _ => ?_
    split
    · exact (enumIssue_clear _ _ _).bind fun _ _ => .ok _
    split
    next => exact firstIssue_clear (inner _ rfl) _
    next => exact firstIssue_clear (fun v => (scalarText_clear v).map _) _
    next => exact scalarIssue_clear _ _ _

private theorem parameters_clear (parameters : List Parameter) (params : List (Atom × Value)) :
    Clear (Parameters.validate parameters params) := by
  refine Clear.map _ (firstIssue_clear (fun p => ?_) parameters)
  unfold Parameters.parameterIssue?
  split
  · exact .ok _
  · split
    · exact .ok _
    · exact parameterCheck_clear _ _ _

/-! ### Compiled roots of documents -/

/-- The root schemas that come of documents: those of their operations, and their models. -/
inductive IsCompiled (documents : List Document) : Value → Prop where
  | body {registry : Registry} {o : Operation} : Compile.registry documents = .ok registry →
      o ∈ registry.operations → IsCompiled documents o.bodySchema
  | payload {registry : Registry} {o : Operation} : Compile.registry documents = .ok registry →
      o ∈ registry.operations → IsCompiled documents o.payloadSchema
  | model {validator : ResponseValidator} {name : String} {root : Value} :
      ResponseValidator.ofDocuments documents = .ok validator → Compile.model validator.definitions name = .ok root →
      IsCompiled documents root

/-- Documents whose schemas inlining reads as checks do. -/
structure LegibleDocuments (documents : List Document) : Prop where
  definitions : AreReadable (Merged.ofDocuments documents).definitions
  parameters : ∀ registry, Compile.registry documents = .ok registry → ∀ o ∈ registry.operations,
    ∀ p ∈ o.parameters, Compile.LegibleParameter p
  widened : ∀ validator, ResponseValidator.ofDocuments documents = .ok validator → AreReadable validator.definitions

/-- The definitions that compilation works with: the merged ones, and those that are widened
for responses. -/
inductive IsDefinitions (documents : List Document) : Definitions → Prop where
  | merged : IsDefinitions documents (Merged.ofDocuments documents).definitions
  | widened {validator : ResponseValidator} : ResponseValidator.ofDocuments documents = .ok validator →
      IsDefinitions documents validator.definitions

/-- The operations of a registry were compiled from the merged documents. -/
theorem operation_of_registry {documents : List Document} {registry : Registry} {o : Operation}
    (accepted : Compile.registry documents = .ok registry) (member : o ∈ registry.operations) :
    ∃ task ∈ Compile.tasks (Merged.ofDocuments documents), ∃ parameters,
      Compile.effectiveParameters (Merged.ofDocuments documents) task.place task.path task.endpoint = .ok parameters ∧
      Compile.operation (Merged.ofDocuments documents) task.template task.method task.basePath parameters = .ok o := by
  obtain ⟨operations, compiled, accepted⟩ := bind_eq_ok.1 accepted
  cases accepted
  have inside := List.mem_of_find?_eq_some ((Registry.mem_ofOperations operations o).1 member)
  obtain ⟨task, given, ok⟩ := mem_of_mapM compiled o (List.mem_reverse.1 inside)
  obtain ⟨parameters, effective, ok⟩ := bind_eq_ok.1 ok
  exact ⟨task, given, parameters, effective, ok⟩

/-- Whether documents pass tests of their definitions and of the parameters of operations. -/
def testDocuments (definition : String × Value → Bool) (parameter : Parameter → Bool) (documents : List Document) :
    Bool :=
  let merged := Merged.ofDocuments documents
  merged.definitions.all definition &&
    ((Compile.tasks merged).all fun task =>
      match Compile.effectiveParameters merged task.place task.path task.endpoint with
        | .ok parameters => parameters.all parameter
        | .error _ => true) &&
    match ResponseValidator.ofDocuments documents with
      | .ok validator => validator.definitions.all definition
      | .error _ => true

theorem of_testDocuments {definition : String × Value → Bool} {parameter : Parameter → Bool} {documents : List Document}
    (h : testDocuments definition parameter documents = true) :
    (∀ definitions, IsDefinitions documents definitions → ∀ entry ∈ definitions, definition entry = true) ∧
      ∀ registry, Compile.registry documents = .ok registry → ∀ o ∈ registry.operations, ∀ p ∈ o.parameters,
        parameter p = true := by
  simp only [testDocuments, Bool.and_eq_true] at h
  obtain ⟨⟨merged, parameters⟩, widened⟩ := h
  refine ⟨fun definitions given => ?_, fun registry accepted o member p declared => ?_⟩
  · cases given with
    | merged => exact List.all_eq_true.1 merged
    | widened made =>
      rw [made] at widened
      exact List.all_eq_true.1 widened
  · obtain ⟨task, given, all, effective, ok⟩ := operation_of_registry accepted member
    obtain ⟨_, _, -, -, -, same, -⟩ := Compile.operation_schemas ok
    have tested := List.all_eq_true.1 parameters task given
    rw [effective] at tested
    rw [same] at declared
    exact List.all_eq_true.1 tested p declared

/-- Whether documents are legible, computed for schemas as deep as a number of steps. -/
def areLegible (depth : Nat) : List Document → Bool :=
  testDocuments (fun entry => isEverywhere isLegible depth entry.2) fun p =>
    p.location != some .body || isEverywhere isLegible depth (.obj (p.schema.getD []))

theorem legibleDocuments_of_areLegible {depth : Nat} {documents : List Document}
    (h : areLegible depth documents = true) : LegibleDocuments documents := by
  obtain ⟨definitions, parameters⟩ := of_testDocuments h
  have readable (known : Definitions) (given : IsDefinitions documents known) : AreReadable known :=
    fun _ _ found => readable_of_isLegible (definitions known given _ (Entries.mem_of_lookup_eq_some found))
  refine ⟨readable _ .merged, fun registry accepted o member p declared location => ?_,
    fun validator made => readable _ (.widened made)⟩
  have legible := parameters registry accepted o member p declared
  rw [location] at legible
  exact readable_of_isLegible legible

theorem IsCompiled.root {files : Files} {sources : List Source} {documents : List Document}
    (read : Source.documents files sources = .ok documents) (legible : LegibleDocuments documents) {root : Value}
    (compiled : IsCompiled documents root) :
    ∃ definitions bodies, IsDefinitions documents definitions ∧ CompiledRoot definitions bodies root := by
  have objects := Source.documents_objects read
  cases compiled with
  | @body registry o accepted member =>
    obtain ⟨task, -, parameters, -, ok⟩ := operation_of_registry accepted member
    obtain ⟨bodies, body, -⟩ :=
      Compile.operation_compiled objects legible.definitions ok (legible.parameters registry accepted o member)
    exact ⟨_, bodies, .merged, body⟩
  | @payload registry o accepted member =>
    obtain ⟨task, -, parameters, -, ok⟩ := operation_of_registry accepted member
    obtain ⟨bodies, -, payload⟩ :=
      Compile.operation_compiled objects legible.definitions ok (legible.parameters registry accepted o member)
    exact ⟨_, bodies, .merged, payload⟩
  | @model validator name _ made ok =>
    obtain ⟨bodies, model⟩ := Compile.model_compiled (ResponseValidator.ofDocuments_objects read made)
      (legible.widened validator made) ok
    exact ⟨_, bodies, .widened made, model⟩

theorem IsDefinitions.objects {files : Files} {sources : List Source} {documents : List Document}
    (read : Source.documents files sources = .ok documents) {definitions : Definitions}
    (given : IsDefinitions documents definitions) : AreObjects definitions := by
  cases given with
  | merged => exact Source.documents_objects read
  | widened made => exact ResponseValidator.ofDocuments_objects read made

/-- Compiled root schemas pass the schema of schemas. -/
theorem IsCompiled.wellFormed {files : Files} {sources : List Source} {documents : List Document}
    (read : Source.documents files sources = .ok documents) {root : Value} (compiled : IsCompiled documents root) :
    isWellFormed root = .ok true := by
  cases compiled with
  | body accepted member =>
    obtain ⟨task, -, parameters, -, ok⟩ := operation_of_registry accepted member
    obtain ⟨_, _, -, -, -, -, -, -, wellFormed, -⟩ := Compile.operation_schemas ok
    exact wellFormed
  | payload accepted member =>
    obtain ⟨task, -, parameters, -, ok⟩ := operation_of_registry accepted member
    obtain ⟨_, _, -, -, -, -, -, -, -, wellFormed⟩ := Compile.operation_schemas ok
    exact wellFormed
  | model made ok =>
    obtain ⟨_, _, _, -, -, -, wellFormed⟩ := Compile.model_schema (ResponseValidator.ofDocuments_objects read made) ok
    exact wellFormed

/-! ### Closed schemas -/

/-- Whether the reference to a definition that was cut stands at some place of a root. -/
def CutIn (root : Value) (name : String) : Prop :=
  ∃ fields, Reached root (.obj fields) ∧ fields.lookup (.text "$ref") = some (.text (definitionRef name))

/-- Whether a cut, as checks read it, names an embedded definition. -/
def ReadsBack (root : Value) (name : String) : Prop :=
  ∃ known body, targetName? (definitionRef name) = some known ∧ (embeddedIn root).lookup (.text known) = some body

private theorem cut_of_reference {definitions : Definitions} {bodies : List (String × Value)} {root : Value}
    (compiled : CompiledRoot definitions bodies root) {fields : List (Atom × Value)} {ref : Value}
    (reached : Reached root (.obj fields)) (given : fields.lookup (.text "$ref") = some ref) :
    ∃ name body, ref = .text (definitionRef name) ∧ (embeddedIn root).lookup (.text name) = some body := by
  obtain ⟨name, member, rfl⟩ := (compiled.settled fields reached).reference ref given
  obtain ⟨body, found⟩ := Entries.mem_keys_iff.1 member
  have some_ : bodies ≠ [] := by
    rintro rfl
    cases member
  refine ⟨name, body, rfl, ?_⟩
  rw [compiled.embeds some_, lookup_record, found]

private theorem closed_iff {definitions : Definitions} {bodies : List (String × Value)} {root : Value}
    (compiled : CompiledRoot definitions bodies root) :
    Closed root ↔ ∀ name, CutIn root name → ReadsBack root name := by
  constructor
  · rintro closed name ⟨fields, reached, given⟩
    obtain ⟨text, known, body, same, named, found⟩ := closed fields _ reached given
    cases same
    exact ⟨known, body, named, found⟩
  · intro back fields ref reached given
    obtain ⟨name, -, rfl, -⟩ := cut_of_reference compiled reached given
    obtain ⟨known, body, named, found⟩ := back name ⟨fields, reached, given⟩
    exact ⟨_, known, body, rfl, named, found⟩

private theorem readsBack_of_no_escape {definitions : Definitions} {bodies : List (String × Value)} {root : Value}
    (compiled : CompiledRoot definitions bodies root) {name : String} (cutting : CutIn root name)
    (plain : Url.hasEscape name.toList = false) : ReadsBack root name := by
  obtain ⟨fields, reached, given⟩ := cutting
  obtain ⟨other, body, same, found⟩ := cut_of_reference compiled reached given
  obtain rfl := definitionRef_injective (Atom.text.inj (Value.atom.inj same))
  exact ⟨name, body, targetName?_definitionRef plain, found⟩

/-- Where no cyclic name has a percent escape, a compiled root is closed. -/
theorem closed_of_plain {definitions : Definitions} {bodies : List (String × Value)} {root : Value}
    (compiled : CompiledRoot definitions bodies root)
    (plain : ∀ name, OnCycle definitions name → Url.hasEscape name.toList = false) : Closed root := by
  refine (closed_iff compiled).2 fun name cutting => readsBack_of_no_escape compiled cutting (plain name ?_)
  obtain ⟨fields, reached, given⟩ := cutting
  obtain ⟨other, member, same⟩ := (compiled.settled fields reached).reference _ given
  obtain rfl := definitionRef_injective (Atom.text.inj (Value.atom.inj same))
  exact compiled.cyclic name member

/-- Where nothing is defined, a compiled root is closed. -/
theorem closed_of_undefined {definitions : Definitions} {bodies : List (String × Value)} {root : Value}
    (compiled : CompiledRoot definitions bodies root) (nothing : definitions = []) : Closed root :=
  closed_of_plain compiled fun name cycle => by
    obtain ⟨body, defined⟩ := cycle.defined
    rw [nothing] at defined
    cases defined

/-- Every reference of a compiled schema that a check can come to is the cut of an embedded
definition. The schema is closed exactly if each such cut reads back as the name of an
embedded definition, as names without a percent escape do; then no data, request, payload or
response is ever met with the fault of a reference. -/
theorem closed_iff_cuts_read_back {files : Files} {sources : List Source} {documents : List Document}
    (read : Source.documents files sources = .ok documents) (legible : LegibleDocuments documents) :
    (∀ root, IsCompiled documents root →
      (∀ fields ref, Reached root (.obj fields) → fields.lookup (.text "$ref") = some ref →
        ∃ name body, ref = .text (definitionRef name) ∧ (embeddedIn root).lookup (.text name) = some body) ∧
      (Closed root ↔ ∀ name, CutIn root name → ReadsBack root name) ∧
      (∀ name, CutIn root name → Url.hasEscape name.toList = false → ReadsBack root name) ∧
      (Closed root → ∀ data, Clear (Body.issues root data))) ∧
    ((∀ root, IsCompiled documents root → Closed root) →
      (∀ registry, Compile.registry documents = .ok registry →
        (∀ request, Clear (Validation.validate registry request)) ∧
        ∀ key payload, Clear (Validation.validatePayload registry key payload)) ∧
      ∀ validator, ResponseValidator.ofDocuments documents = .ok validator → ∀ calls name data fault,
        ((validator.after calls).validate name data).1 = .error (.fault fault) → fault.isReferencing = false) := by
  have clear (root : Value) (compiled : IsCompiled documents root) (closed : Closed root) (data : Value) :
      Clear (Body.issues root data) := by
    obtain ⟨definitions, bodies, -, whole⟩ := compiled.root read legible
    exact Body.issues_clear closed whole.settled data
  refine ⟨fun root compiled => ?_, fun closed => ⟨fun registry accepted => ⟨fun request => ?_, fun key payload => ?_⟩,
    fun validator made calls name data fault failed => ?_⟩⟩
  · obtain ⟨definitions, bodies, -, whole⟩ := compiled.root read legible
    exact ⟨fun fields ref reached given => cut_of_reference whole reached given, closed_iff whole,
      fun name cutting plain => readsBack_of_no_escape whole cutting plain, clear root compiled⟩
  · refine Clear.map _ ?_
    unfold Validation.judge
    split
    · exact .ok _
    next o routed =>
      have member : o ∈ registry.operations := List.mem_of_find?_eq_some routed
      have body := clear _ (.body accepted member) (closed _ (.body accepted member))
      have bodies : Clear (Body.validate o request.body) := by
        unfold Body.validate
        split
        · exact .ok _
        · exact Clear.map _ (body _)
      apply bodies.bind
      intro outcome _
      by_cases passed : outcome = .ok
      · rw [if_neg (not_not_intro passed)]
        apply (parameters_clear _ _).bind
        intro outcome _
        split <;> exact .ok _
      · rw [if_pos passed]
        exact .ok _
  · unfold Validation.validatePayload
    split
    · exact .ok _
    next o found =>
      have member : o ∈ registry.operations := List.mem_of_find?_eq_some found
      exact Clear.map _ (clear _ (.payload accepted member) (closed _ (.payload accepted member)) payload)
  · have keeps : validator.Keeps := by
      obtain ⟨widened, -, made⟩ := bind_eq_ok.1 made
      cases made
      intro name root found
      cases found
    obtain ⟨same, keeps⟩ := ResponseValidator.after_keeps calls keeps
    obtain ⟨root, ok, stopped⟩ := ResponseValidator.fault_of_validate keeps failed
    rw [same] at ok
    exact clear root (.model made ok) (closed root (.model made ok)) data fault stopped

/-- A document with one operation, that takes parameters and a body. -/
def posting (parameters : List Value) (schema : Value) : Value :=
  let body : Value := .record [("name", .text "body"), ("in", .text "body"), ("schema", schema)]
  .record [("paths", .record [("/x", .record [("post", .record [("parameters", .list (parameters ++ [body]))])])])]

/-! ### Definitions that refer to themselves -/

/-- A document with one definition, which refers to itself, and one operation that takes it. -/
def selfReferring (name : String) : Value :=
  let ref : Value := .record [("$ref", .text (definitionRef name))]
  let body : Value := .record [("name", .text "body"), ("in", .text "body"), ("schema", ref)]
  .record
    [("paths", .record [("/x", .record [("post", .record [("parameters", .list [body])])])]),
      ("definitions", .record [(name, .record [("properties", .record [("x", ref)])])])]

/-- With a plain name, such a document is legible and all that is compiled of it is closed. -/
theorem closed_selfReferring : ∃ documents, Source.documents ⟨fun _ => none⟩ [.data (selfReferring "Node")] = .ok documents ∧
    LegibleDocuments documents ∧ ∀ root, IsCompiled documents root →
      (Closed root ↔ ∀ name, CutIn root name → ReadsBack root name) := by
  have accepted : (Source.documents ⟨fun _ => none⟩ [.data (selfReferring "Node")]).toOption.map (areLegible 9) =
      some true := by
    decide +kernel
  cases read : Source.documents ⟨fun _ => none⟩ [.data (selfReferring "Node")] with
  | error failure =>
    rw [read] at accepted
    cases accepted
  | ok documents =>
    rw [read] at accepted
    have legible := legibleDocuments_of_areLegible (Option.some.inj accepted)
    exact ⟨documents, rfl, legible, fun root compiled => ((closed_iff_cuts_read_back read legible).1 root compiled).2.1⟩

/-- With a percent escape in the name, the reference that stays leads to a definition of
another name, and the fault of that ends the check of a request, a payload or a response. -/
theorem dangling_selfReferring :
    let nested : Value := .record [("x", .record [("x", .record [])])]
    ∃ documents registry validator,
      Source.documents ⟨fun _ => none⟩ [.data (selfReferring "a%41")] = .ok documents ∧
      Compile.registry documents = .ok registry ∧ ResponseValidator.ofDocuments documents = .ok validator ∧
      Validation.validate registry { method := "POST", segments := ["x"], body := nested } = .error .danglingReference ∧
      Validation.validatePayload registry "post/x" nested = .error .danglingReference ∧
      (validator.validate "a%41" nested).1 = .error (.fault .danglingReference) := by
  intro nested
  have requests : (Source.registry ⟨fun _ => none⟩ [.data (selfReferring "a%41")]).toOption.map (fun registry =>
      (Validation.validate registry { method := "POST", segments := ["x"], body := nested },
        Validation.validatePayload registry "post/x" nested)) =
      some (.error .danglingReference, .error .danglingReference) := by
    decide +kernel
  have responses : ((Source.documents ⟨fun _ => none⟩ [.data (selfReferring "a%41")]).toOption.bind fun documents =>
      (ResponseValidator.ofDocuments documents).toOption.map fun validator => (validator.validate "a%41" nested).1) =
      some (.error (.fault .danglingReference)) := by
    decide +kernel
  rw [Source.registry] at requests
  cases read : Source.documents ⟨fun _ => none⟩ [.data (selfReferring "a%41")] with
  | error failure =>
    rw [read] at responses
    cases responses
  | ok documents =>
    rw [read] at requests responses
    cases accepted : Compile.registry documents with
    | error failure =>
      simp only [bind, Except.bind, accepted] at requests
      cases requests
    | ok registry =>
      cases made : ResponseValidator.ofDocuments documents with
      | error fault =>
        simp only [Except.toOption, Option.bind, made] at responses
        cases responses
      | ok validator =>
        simp only [bind, Except.bind, accepted] at requests
        simp only [Except.toOption, Option.bind, made] at responses
        obtain ⟨request, payload⟩ := Prod.mk.inj (Option.some.inj requests)
        exact ⟨documents, registry, validator, rfl, accepted, made, request, payload, Option.some.inj responses⟩

end SwaggerGate
