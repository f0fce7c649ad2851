import SwaggerGate.Proofs.Distinct
import SwaggerGate.Proofs.Fault
import SwaggerGate.Proofs.Schema.Compiled
import SwaggerGate.Proofs.Schema.Meaning
import SwaggerGate.Schema.WellFormed

/-! Well-formed schemas. What passes the schema of schemas has arguments of the forms that
draft 4 gives, at every place of a schema where a check can come to. -/
namespace SwaggerGate.Schema

/-! ### Reports that find nothing -/

namespace Report

variable {α : Type}

theorem ne_ok_of_stop {fault : Fault} : Report.stop fault ≠ .ok := nofun

theorem ne_ok_of_violation {cause : Cause} : Report.violation cause ≠ .ok := by
  unfold Report.violation
  split <;> nofun

theorem test_eq_ok {passed : Bool} {cause : Cause} (h : Report.test passed cause = .ok) : passed = true := by
  cases passed with
  | true => rfl
  | false => exact absurd h ne_ok_of_violation

theorem attempt_eq_ok {need : Except Fault α} {report : α → Report} (h : Report.attempt need report = .ok) :
    ∃ a, need = .ok a ∧ report a = .ok := by
  cases need with
  | ok a => exact ⟨a, rfl, h⟩
  | error fault => exact absurd h ne_ok_of_stop

theorem eq_ok {r : Report} (none_ : r.violations = []) (faultless : r.fault = none) : r = .ok := by
  obtain ⟨violations, fault⟩ := r
  cases none_
  cases faultless
  rfl

theorem under_eq_ok {r : Report} {step : Step} (h : r.under step = .ok) : r = .ok :=
  eq_ok (List.map_eq_nil_iff.1 (congrArg Report.violations h)) (congrArg Report.fault h)

theorem each_eq_ok {firstOnly : Bool} {report : α → Report} {items : List α}
    (h : Report.each firstOnly report items = .ok) : ∀ x ∈ items, report x = .ok := by
  induction items with
  | nil => simp
  | cons x rest ih =>
    rw [Report.each] at h
    split at h
    next stopped =>
      rw [h] at stopped
      simp [Report.ok] at stopped
    next going =>
      obtain ⟨noFirst, noMore⟩ := List.append_eq_nil_iff.1 (congrArg Report.violations h)
      simp only [Bool.or_eq_true, not_or, Option.not_isSome_iff_eq_none] at going
      have others := eq_ok noMore (congrArg Report.fault h)
      intro y member
      rcases List.mem_cons.1 member with rfl | later
      · exact eq_ok noFirst going.1
      · exact ih others y later

theorem each_ok {firstOnly : Bool} {report : α → Report} {items : List α} (silent : ∀ x ∈ items, report x = .ok) :
    Report.each firstOnly report items = .ok := by
  induction items with
  | nil => rfl
  | cons x rest ih =>
    rw [Report.each, silent x List.mem_cons_self, ih fun y member => silent y (List.mem_cons_of_mem _ member)]
    simp [Report.ok]

theorem holds_eq_true {r : Report} (h : r.holds = .ok true) : r = .ok := by
  obtain ⟨violations, fault⟩ := r
  cases violations with
  | cons v rest => cases h
  | nil =>
    cases fault with
    | some fault => cases h
    | none => rfl

theorem holdsThroughout_eq_true {r : Report} (h : r.holdsThroughout = .ok true) : r = .ok := by
  obtain ⟨violations, fault⟩ := r
  cases fault with
  | some fault => cases h
  | none =>
    cases violations with
    | cons v rest => cases h
    | nil => rfl

end Report

/-! ### Checks by the parts of a root schema -/

/-- Whether a check reads its references in a root schema. -/
def Context.InRoot (root : Value) (context : Context) : Prop := context.dialect = .draft4 ∧ context.scope.In root

/-- Whether some data passes a part of a root schema. -/
def PassesIn (root schema data : Value) : Prop :=
  ∃ n context, Context.InRoot root context ∧ checkWithin n .draft4 context schema data = .ok

/-- A schema of draft 4 that is no resource of its own. -/
structure IsPart (schema : Value) : Prop where
  object : IsObject schema
  address : (Resource.mk .draft4 schema).id? = .ok none
  dialect : Dialect.ofSchema .draft4 schema = .ok .draft4

section Parts

variable {root : Value} {n : Nat} {context : Context} {schema data : Value} {fields : List (Atom × Value)}

/-- A check by an object of draft 4 is that by its keywords. -/
theorem checkIn_object (check : Checker) (draft : context.dialect = .draft4) (object : IsObject schema)
    (dialect : Dialect.ofSchema .draft4 schema = .ok .draft4) (scope : Scope) (data : Value) :
    checkIn check context scope schema data = check .draft4 { context with dialect := .draft4, scope } schema data := by
  rw [checkIn_eq object.ne_bool, draft, dialect]
  rfl

/-- A check does not leave its scope at a part of a schema. -/
theorem IsPart.descend_eq (part : IsPart schema) (check : Checker) (draft : context.dialect = .draft4) (data : Value) :
    descend check context schema data = check .draft4 context schema data := by
  rw [Schema.descend_eq part.object.ne_bool, draft, Scope.inside, part.address]
  change checkIn check context context.scope schema data = _
  rw [checkIn_object check draft part.object part.dialect, ← draft]

private theorem descend_passes (within : context.InRoot root) (part : IsPart schema)
    (h : descend (checkWithin n) context schema data = .ok) : PassesIn root schema data := by
  rw [part.descend_eq _ within.1] at h
  exact ⟨n, context, within, h⟩

theorem descendInto_passes (within : context.InRoot root) (part : IsPart schema) {step : Step}
    (h : descendInto (checkWithin n) context step schema data = .ok) : PassesIn root schema data := by
  obtain ⟨fields, rfl⟩ := part.object
  exact descend_passes within part (Report.under_eq_ok h)

/-- What passes a schema passes each of its keywords. -/
theorem PassesIn.keyword (h : PassesIn root (.obj fields) data) (shown : shownRef? fields = none) {key : Atom}
    {argument : Value} (given : (key, argument) ∈ fields) {kind : Keyword} (known : keywordOf? .draft4 key = some kind) :
    ∃ n context, Context.InRoot root context ∧ Schema.keyword (checkWithin n) context fields kind argument data = .ok := by
  obtain ⟨n, context, within, ok⟩ := h
  cases n with
  | zero => exact absurd ok Report.ne_ok_of_stop
  | succ n =>
    have level : checkLevel (checkWithin n) .draft4 context (.obj fields) data = .ok := ok
    rw [checkLevel_object within.1, shown] at level
    have each := Report.each_eq_ok level _ given
    rw [known] at each
    exact ⟨n, context, within, each⟩

/-- What passes a schema of one type has that type. -/
theorem PassesIn.type (h : PassesIn root (.obj fields) data) (shown : shownRef? fields = none) {name : String}
    (given : (.text "type", .text name) ∈ fields) :
    ∃ t, Dialect.draft4.type? name = some t ∧ Dialect.draft4.hasType t data = true := by
  obtain ⟨n, context, within, ok⟩ := h.keyword shown given rfl
  obtain ⟨passed, found, ok⟩ := Report.attempt_eq_ok ok
  cases Report.test_eq_ok ok
  rw [if_neg (by rw [within.1]; nofun)] at found
  obtain ⟨names, single, found⟩ := bind_eq_ok.1 found
  cases single
  obtain ⟨has, named, found⟩ := bind_eq_ok.1 found
  cases has with
  | false => cases found
  | true =>
    rw [hasNamedType, within.1] at named
    split at named
    next t known => exact ⟨t, known, Except.ok.inj named⟩
    next => cases named

theorem PassesIn.items {items : List Value} (h : PassesIn root (.obj fields) (.list items))
    (shown : shownRef? fields = none) {inner : List (Atom × Value)} (given : (.text "items", .obj inner) ∈ fields)
    (part : IsPart (.obj inner)) : ∀ item ∈ items, PassesIn root (.obj inner) item := by
  obtain ⟨n, context, within, ok⟩ := h.keyword shown given rfl
  change itemsKeyword (checkWithin n) context fields (.obj inner) items = .ok at ok
  rw [itemsKeyword, within.1] at ok
  intro item member
  obtain ⟨i, bound, rfl⟩ := List.mem_iff_getElem.1 member
  have place : (items[i], i) ∈ items.zipIdx := List.mem_zipIdx_iff_getElem?.2 (List.getElem?_eq_getElem bound)
  exact descendInto_passes within part (Report.each_eq_ok ok _ place)

theorem PassesIn.enum (h : PassesIn root (.obj fields) data) (shown : shownRef? fields = none) {members : List Value}
    (given : (.text "enum", .list members) ∈ fields) : ∃ m ∈ members, m.equal data = true := by
  obtain ⟨n, context, within, ok⟩ := h.keyword shown given rfl
  exact List.any_eq_true.1 (Report.test_eq_ok ok)

end Parts

/-! ### Checks by the schema of schemas -/

/-- The entries of the schema of schemas. -/
def standardFields : List (Atom × Value) :=
  match Standard.draft4 with
  | .obj fields => fields
  | _ => []

/-- The schemas of arguments in the schema of schemas. -/
def standardProperties : List (Atom × Value) :=
  match standardFields.lookup (.text "properties") with
  | some (.obj schemas) => schemas
  | _ => []

/-- The definitions of the schema of schemas. -/
def standardDefinitions : List (Atom × Value) :=
  match standardFields.lookup (.text "definitions") with
  | some (.obj bodies) => bodies
  | _ => []

/-- Whether a check reads its references in the schema of schemas. -/
def Context.InStandard (context : Context) : Prop := context.dialect = .draft4 ∧ context.scope.In Standard.draft4

/-- Whether some data passes a part of the schema of schemas. -/
def Passes (schema data : Value) : Prop :=
  ∃ n context, Context.InStandard context ∧ checkWithin n .draft4 context schema data = .ok

section Standard

variable {n : Nat} {context : Context} {schema data : Value} {fields : List (Atom × Value)}

/-- What passes a schema passes each of its keywords. -/
theorem Passes.keyword (h : Passes (.obj fields) data) (shown : shownRef? fields = none) {key : Atom} {argument : Value}
    (given : (key, argument) ∈ fields) {kind : Keyword} (known : keywordOf? .draft4 key = some kind) :
    ∃ n context, Context.InStandard context ∧ Schema.keyword (checkWithin n) context fields kind argument data = .ok :=
  PassesIn.keyword h shown given known

private theorem Passes.target (h : Passes (.obj fields) data) {ref : String}
    (shown : shownRef? fields = some (.text ref)) {target : Value}
    (leads : ∀ scope : Scope, scope.In Standard.draft4 → ∃ next : Scope, next.In Standard.draft4 ∧
      scope.lookUp ref = .ok ⟨target, next⟩)
    (object : IsObject target) (dialect : Dialect.ofSchema .draft4 target = .ok .draft4) : Passes target data := by
  obtain ⟨n, context, ⟨draft, known⟩, ok⟩ := h
  cases n with
  | zero => exact absurd ok Report.ne_ok_of_stop
  | succ n =>
    have level : checkLevel (checkWithin n) .draft4 context (.obj fields) data = .ok := ok
    rw [checkLevel_object draft, shown] at level
    have each := Report.each_eq_ok level _ List.mem_cons_self
    obtain ⟨next, known, found⟩ := leads context.scope known
    change Report.attempt ((context.scope.lookUp ref).mapError Fault.ofLookUp) _ = .ok at each
    rw [found] at each
    change checkIn _ _ _ _ _ = .ok at each
    rw [checkIn_object _ draft object dialect] at each
    exact ⟨n, _, ⟨rfl, known⟩, each⟩

/-- What passes the reference to the whole passes the schema of schemas. -/
theorem Passes.whole (h : Passes (Standard.ref "#") data) : Passes Standard.draft4 data := by
  refine Passes.target h rfl (fun scope known => ?_) ⟨_, rfl⟩ rfl
  exact ⟨_, known.moved, lookUp_root known⟩

/-- What passes a reference to a definition passes that. -/
theorem Passes.definition {ref name : String} {body : Value} (h : Passes (Standard.ref ref) data)
    (named : targetName? ref = some name) (found : standardDefinitions.lookup (.text name) = some body)
    (part : IsPart body) : Passes body data := by
  refine Passes.target h rfl (fun scope known => ?_) part.object part.dialect
  refine ⟨_, known.moved, ?_⟩
  have given : standardFields.lookup (.text "definitions") = some (.obj standardDefinitions) := rfl
  rw [lookUp_definition known given named found (by rw [part.address]; nofun), part.address]
  rfl

/-- What passes a schema of one type has that type. -/
theorem Passes.type (h : Passes (.obj fields) data) (shown : shownRef? fields = none) {name : String}
    (given : (.text "type", .text name) ∈ fields) :
    ∃ t, Dialect.draft4.type? name = some t ∧ Dialect.draft4.hasType t data = true :=
  PassesIn.type h shown given

theorem Passes.items {items : List Value} (h : Passes (.obj fields) (.list items)) (shown : shownRef? fields = none)
    {inner : List (Atom × Value)} (given : (.text "items", .obj inner) ∈ fields) (part : IsPart (.obj inner)) :
    ∀ item ∈ items, Passes (.obj inner) item :=
  PassesIn.items h shown given part

theorem uncovered_all (noNames : argument? fields "properties" = none)
    (noPatterns : argument? fields "patternProperties" = none) (properties : List (Atom × Value)) :
    uncovered fields properties = .ok properties := by
  have empty (name : String) : ∃ found, patternHolds (.text "") name = .ok found := by
    have readable : ∃ pattern, Pattern.read "" = .ok pattern := ⟨_, rfl⟩
    obtain ⟨pattern, read⟩ := readable
    refine ⟨Pattern.search pattern name, ?_⟩
    rw [patternHolds, patternOf, read]
    rfl
  rw [uncovered, joinedPatterns, noPatterns, noNames]
  simp only [bind, Except.bind, pure, Except.pure]
  induction properties with
  | nil => rfl
  | cons p rest ih =>
    rw [filterM_cons, ih]
    obtain ⟨key, v⟩ := p
    cases key with
    | text name =>
      obtain ⟨found, holds⟩ := empty name
      simp [holds, bind, Except.bind, pure, Except.pure]
    | _ => rfl

theorem Passes.additional {properties : List (Atom × Value)} (h : Passes (.obj fields) (.obj properties))
    (shown : shownRef? fields = none) {inner : List (Atom × Value)}
    (given : (.text "additionalProperties", .obj inner) ∈ fields) (noNames : argument? fields "properties" = none)
    (noPatterns : argument? fields "patternProperties" = none) (part : IsPart (.obj inner)) :
    ∀ p ∈ properties, Passes (.obj inner) p.2 := by
  obtain ⟨n, context, standard, ok⟩ := h.keyword shown given rfl
  obtain ⟨extras, found, ok⟩ := Report.attempt_eq_ok ok
  rw [uncovered_all noNames noPatterns] at found
  cases found
  intro p member
  exact descendInto_passes standard part (Report.each_eq_ok ok p member)

theorem Passes.property {entries : List (Atom × Value)} (h : Passes (.obj fields) (.obj entries))
    (shown : shownRef? fields = none) {schemas : List (Atom × Value)} (given : (.text "properties", .obj schemas) ∈ fields)
    {name : Atom} {inner v : Value} (known : (name, inner) ∈ schemas) (found : entryOf? entries name = some v)
    (part : IsPart inner) : Passes inner v := by
  obtain ⟨n, context, standard, ok⟩ := h.keyword shown given rfl
  have each := Report.each_eq_ok ok _ known
  simp only [found] at each
  exact descendInto_passes standard part each

private theorem valid_of_firstValid {check : Checker} {first : Value} {rest : List Value} : ∀ {schemas : List Value},
    firstValid check context data schemas = .ok (some (first, rest)) →
      first ∈ schemas ∧ descend check { context with firstOnly := false } first data = .ok
  | [], ok => by cases ok
  | schema :: more, ok => by
    obtain ⟨valid, found, ok⟩ := bind_eq_ok.1 ok
    cases valid with
    | true =>
      cases ok
      exact ⟨List.mem_cons_self, Report.holdsThroughout_eq_true found⟩
    | false =>
      obtain ⟨member, valid⟩ := valid_of_firstValid ok
      exact ⟨List.mem_cons_of_mem _ member, valid⟩

theorem Passes.anyOf (h : Passes (.obj fields) data) (shown : shownRef? fields = none) {schemas : List Value}
    (given : (.text "anyOf", .list schemas) ∈ fields) (parts : ∀ schema ∈ schemas, IsPart schema) :
    ∃ schema ∈ schemas, Passes schema data := by
  obtain ⟨n, context, standard, ok⟩ := h.keyword shown given rfl
  obtain ⟨found, first, ok⟩ := Report.attempt_eq_ok ok
  obtain ⟨_, same, first⟩ := bind_eq_ok.1 first
  cases same
  cases found with
  | none => cases Report.test_eq_ok ok
  | some found =>
    obtain ⟨member, valid⟩ := valid_of_firstValid first
    have standard : Context.InStandard { context with firstOnly := false } := standard
    exact ⟨_, member, descend_passes standard (parts _ member) valid⟩

/-- What passes `anyOf` two schemas passes one of them. -/
theorem Passes.either (h : Passes (.obj fields) data) (shown : shownRef? fields = none) {first second : Value}
    (given : (.text "anyOf", .list [first, second]) ∈ fields) (one : IsPart first) (other : IsPart second) :
    Passes first data ∨ Passes second data := by
  have parts : ∀ schema ∈ [first, second], IsPart schema := by simp [one, other]
  obtain ⟨schema, member, passes⟩ := h.anyOf shown given parts
  rcases List.mem_pair.1 member with rfl | rfl
  · exact .inl passes
  · exact .inr passes

theorem Passes.allOf (h : Passes (.obj fields) data) (shown : shownRef? fields = none) {schemas : List Value}
    (given : (.text "allOf", .list schemas) ∈ fields) {schema : Value} (member : schema ∈ schemas)
    (part : IsPart schema) : Passes schema data := by
  obtain ⟨n, context, standard, ok⟩ := h.keyword shown given rfl
  exact descend_passes standard part (Report.each_eq_ok ok schema member)

theorem Passes.enum (h : Passes (.obj fields) data) (shown : shownRef? fields = none) {members : List Value}
    (given : (.text "enum", .list members) ∈ fields) : ∃ m ∈ members, m.equal data = true :=
  PassesIn.enum h shown given

end Standard

/-! ### Forms of arguments -/

section Forms

variable {data : Value}

/-- Whether only atoms have a type. -/
private def isAtomic : DataType → Bool
  | .array | .object | .any => false
  | _ => true

private theorem atom_of_hasType {t : DataType} (atomic : isAtomic t = true)
    (has : Dialect.draft4.hasType t data = true) : ∃ a, data = .atom a := by
  cases data with
  | atom a => exact ⟨a, rfl⟩
  | _ => cases t <;> first
    | exact absurd has Bool.false_ne_true
    | exact absurd atomic Bool.false_ne_true

private theorem atom_of_type {type : String} {more : List (String × Value)} (h : Passes (Standard.typed type more) data)
    (shown : shownRef? ((("type", .text type) :: more).map fun f => (.text f.1, f.2)) = none)
    (atomic : (Dialect.draft4.type? type).any isAtomic = true) : ∃ a, data = .atom a := by
  obtain ⟨t, known, has⟩ := Passes.type h shown List.mem_cons_self
  rw [known] at atomic
  exact atom_of_hasType atomic has

private theorem list_of_type {more : List (String × Value)} (h : Passes (Standard.typed "array" more) data)
    (shown : shownRef? ((("type", .text "array") :: more).map fun f => (.text f.1, f.2)) = none) :
    ∃ items, data = .list items := by
  obtain ⟨t, known, has⟩ := Passes.type h shown List.mem_cons_self
  cases known
  cases data with
  | list items => exact ⟨items, rfl⟩
  | atom a => cases a <;> cases has
  | _ => cases has

private theorem object_of_hasType (has : Dialect.draft4.hasType .object data = true) : IsObject data := by
  cases data with
  | obj fields => exact ⟨fields, rfl⟩
  | atom a => cases a <;> cases has
  | _ => cases has

/-- What passes the schema of schemas is an object. -/
theorem Passes.object (h : Passes Standard.draft4 data) : IsObject data := by
  obtain ⟨t, known, has⟩ := Passes.type h rfl (Entries.mem_of_lookup_eq_some rfl)
  cases known
  exact object_of_hasType has

/-- Each argument passes the schema of arguments of its keyword. -/
theorem Passes.argument {entries : List (Atom × Value)} (h : Passes Standard.draft4 (.obj entries)) {name : String}
    {inner v : Value} (known : standardProperties.lookup (.text name) = some inner) (part : IsPart inner)
    (found : entryOf? entries (.text name) = some v) : Passes inner v :=
  Passes.property h rfl (Entries.mem_of_lookup_eq_some rfl) (Entries.mem_of_lookup_eq_some known) found part

theorem ref_part (ref : String) : IsPart (Standard.ref ref) := ⟨⟨_, rfl⟩, rfl, rfl⟩

private theorem atom_of_positive (h : Passes (Standard.ref "#/definitions/positiveInteger") data) :
    ∃ a, data = .atom a := by
  have integer := h.definition rfl rfl ⟨⟨_, rfl⟩, rfl, rfl⟩
  exact atom_of_type integer rfl rfl

private theorem atom_of_positive_or_zero (h : Passes (Standard.ref "#/definitions/positiveIntegerDefault0") data) :
    ∃ a, data = .atom a := by
  have both := h.definition rfl rfl ⟨⟨_, rfl⟩, rfl, rfl⟩
  exact atom_of_positive (Passes.allOf both rfl List.mem_cons_self List.mem_cons_self (ref_part _))

private theorem schemas_of_array (h : Passes (Standard.ref "#/definitions/schemaArray") data) :
    ∃ items, data = .list items ∧ ∀ item ∈ items, Passes Standard.draft4 item := by
  have several := h.definition rfl rfl ⟨⟨_, rfl⟩, rfl, rfl⟩
  obtain ⟨items, rfl⟩ := list_of_type several rfl
  refine ⟨items, rfl, fun item member => ?_⟩
  exact (Passes.items several rfl (Entries.mem_of_lookup_eq_some rfl) (ref_part "#") item member).whole

private theorem plain_of_atoms {items : List Value} (atoms : ∀ item ∈ items, ∃ a, item = .atom a) :
    isPlain (.list items) = true := by
  apply List.all_eq_true.2
  intro item member
  obtain ⟨a, rfl⟩ := atoms item member
  rfl

private theorem text_of_type (h : Passes (Standard.typed "string" []) data) : ∃ s, data = .text s := by
  obtain ⟨t, known, has⟩ := Passes.type h rfl List.mem_cons_self
  cases known
  cases data with
  | atom a => cases a with
    | text s => exact ⟨s, rfl⟩
    | _ => cases has
  | _ => cases has

private theorem texts_of_strings (h : Passes (Standard.ref "#/definitions/stringArray") data) :
    ∃ names : List String, data = .list (names.map .text) ∧ names.Nodup := by
  have several := h.definition rfl rfl ⟨⟨_, rfl⟩, rfl, rfl⟩
  obtain ⟨items, rfl⟩ := list_of_type several rfl
  have texts : ∀ item ∈ items, ∃ s, item = Value.text s := fun item member =>
    text_of_type (Passes.items several rfl (Entries.mem_of_lookup_eq_some rfl) ⟨⟨_, rfl⟩, rfl, rfl⟩ item member)
  have distinct : Value.distinct items = true := by
    have key : keywordOf? .draft4 (.text "uniqueItems") = some .uniqueItems := rfl
    obtain ⟨n, context, -, ok⟩ := several.keyword rfl (Entries.mem_of_lookup_eq_some rfl) key
    exact Report.test_eq_ok ok
  obtain ⟨names, rfl⟩ : ∃ names : List String, items = names.map .text := by
    clear several h distinct
    induction items with
    | nil => exact ⟨[], rfl⟩
    | cons item rest ih =>
      obtain ⟨name, rfl⟩ := texts item List.mem_cons_self
      obtain ⟨names, rfl⟩ := ih fun other member => texts other (List.mem_cons_of_mem _ member)
      exact ⟨name :: names, rfl⟩
  exact ⟨names, rfl, Value.nodup_of_distinct distinct⟩

private theorem plain_of_strings (h : Passes (Standard.ref "#/definitions/stringArray") data) :
    ∃ items, data = .list items ∧ isPlain data = true := by
  obtain ⟨names, rfl, -⟩ := texts_of_strings h
  refine ⟨_, rfl, plain_of_atoms fun item member => ?_⟩
  obtain ⟨name, -, rfl⟩ := List.mem_map.1 member
  exact ⟨_, rfl⟩

private theorem atom_of_simpleType (h : Passes (Standard.ref "#/definitions/simpleTypes") data) : ∃ a, data = .atom a := by
  have simple := h.definition rfl rfl ⟨⟨_, rfl⟩, rfl, rfl⟩
  obtain ⟨m, member, equal⟩ := Passes.enum simple rfl List.mem_cons_self
  obtain ⟨name, -, rfl⟩ := List.mem_map.1 member
  cases data with
  | atom a => exact ⟨a, rfl⟩
  | _ => cases equal

private theorem plain_of_types {inner : Value} (known : standardProperties.lookup (.text "type") = some inner)
    (h : Passes inner data) : isPlain data = true := by
  cases known
  rcases Passes.either h rfl List.mem_cons_self (ref_part _) ⟨⟨_, rfl⟩, rfl, rfl⟩ with passes | passes
  · obtain ⟨a, rfl⟩ := atom_of_simpleType passes
    rfl
  · obtain ⟨items, rfl⟩ := list_of_type passes rfl
    apply plain_of_atoms
    intro item member
    exact atom_of_simpleType (Passes.items passes rfl (Entries.mem_of_lookup_eq_some rfl) (ref_part _) item member)

private theorem flag_or_schema (h : Passes (.record [("anyOf", .list [Standard.typed "boolean" [], Standard.ref "#"]),
    ("default", .obj [])]) data) : IsObject data ∧ Passes Standard.draft4 data ∨ ∃ b, data = .bool b := by
  rcases Passes.either h rfl List.mem_cons_self ⟨⟨_, rfl⟩, rfl, rfl⟩ (ref_part _) with passes | passes
  · right
    obtain ⟨t, known, has⟩ := Passes.type passes rfl List.mem_cons_self
    cases known
    cases data with
    | atom a => cases a with
      | bool b => exact ⟨b, rfl⟩
      | _ => cases has
    | _ => cases has
  · exact .inl ⟨passes.whole.object, passes.whole⟩

private theorem schemas_of_map (h : Passes (Standard.typed "object" [("additionalProperties", Standard.ref "#"),
    ("default", .obj [])]) data) : ∃ entries, data = .obj entries ∧ ∀ entry ∈ entries, Passes Standard.draft4 entry.2 := by
  obtain ⟨t, known, has⟩ := Passes.type h rfl List.mem_cons_self
  cases known
  obtain ⟨entries, rfl⟩ := object_of_hasType has
  refine ⟨entries, rfl, fun entry member => ?_⟩
  exact (Passes.additional h rfl (Entries.mem_of_lookup_eq_some rfl) rfl rfl (ref_part "#") entry member).whole

private theorem schemas_of_items (h : Passes (.record [("anyOf", .list [Standard.ref "#",
    Standard.ref "#/definitions/schemaArray"]), ("default", .obj [])]) data) :
    Passes Standard.draft4 data ∨ ∃ items, data = .list items ∧ ∀ item ∈ items, Passes Standard.draft4 item := by
  rcases Passes.either h rfl List.mem_cons_self (ref_part _) (ref_part _) with passes | passes
  · exact .inl passes.whole
  · exact .inr (schemas_of_array passes)

private theorem schemas_of_dependencies (h : Passes (Standard.typed "object" [("additionalProperties",
    .record [("anyOf", .list [Standard.ref "#", Standard.ref "#/definitions/stringArray"])])]) data) :
    ∃ entries, data = .obj entries ∧ ∀ entry ∈ entries,
      Passes Standard.draft4 entry.2 ∨ ∃ items, entry.2 = .list items := by
  obtain ⟨t, known, has⟩ := Passes.type h rfl List.mem_cons_self
  cases known
  obtain ⟨entries, rfl⟩ := object_of_hasType has
  refine ⟨entries, rfl, fun entry member => ?_⟩
  have either := Passes.additional h rfl (Entries.mem_of_lookup_eq_some rfl) rfl rfl ⟨⟨_, rfl⟩, rfl, rfl⟩ entry member
  rcases Passes.either either rfl List.mem_cons_self (ref_part _) (ref_part _) with passes | passes
  · exact .inl passes.whole
  · obtain ⟨items, same, -⟩ := plain_of_strings passes
    exact .inr ⟨items, same⟩

end Forms

/-- Whether an argument has the form that draft 4 gives to the arguments of a keyword. -/
def HasForm (kind : Keyword) (argument : Value) : Prop :=
  match kind with
  | .ref => True
  | .allOf | .anyOf | .oneOf | .enum => ∃ items, argument = .list items
  | .not | .properties | .patternProperties | .dependencies => IsObject argument
  | .items => IsObject argument ∨ ∃ items, argument = .list items
  | .additionalItems | .additionalProperties => IsObject argument ∨ ∃ b, argument = .bool b
  | _ => isPlain argument = true

/-- An object of keywords whose arguments have the forms that draft 4 gives. -/
structure Shaped (fields : List (Atom × Value)) : Prop where
  form : ∀ kind argument, Dialect.draft4.knows kind = true → (.text kind.name, argument) ∈ fields → HasForm kind argument
  above : flag? fields "exclusiveMaximum" ≠ none
  below : flag? fields "exclusiveMinimum" ≠ none

section Shaped

variable {fields : List (Atom × Value)}

theorem entryOf?_text (fields : List (Atom × Value)) (name : String) :
    entryOf? fields (.text name) = fields.lookup (.text name) := by
  induction fields with
  | nil => rfl
  | cons f rest ih =>
    obtain ⟨key, v⟩ := f
    have same : key.sameKey (.text name) = (key == .text name) := by
      cases key <;> rfl
    unfold entryOf? at ih ⊢
    rw [List.find?_cons, same, Entries.lookup_cons_if]
    by_cases equal : key = .text name
    · simp [equal]
    · rw [beq_false_of_ne equal, if_neg (Ne.symm equal)]
      exact ih

/-- The form of one argument, and the schemas under it. -/
private theorem form_of_passes (h : Passes Standard.draft4 (.obj fields)) {kind : Keyword} {argument : Value}
    (known : Dialect.draft4.knows kind = true) (found : entryOf? fields (.text kind.name) = some argument) :
    HasForm kind argument ∧ ∀ part ∈ schemasUnder argument kind, IsObject part → Passes Standard.draft4 part := by
  have plain (form : isPlain argument = true) (atomic : HasForm kind argument = (isPlain argument = true))
      (none_ : schemasUnder argument kind = []) :
      HasForm kind argument ∧ ∀ part ∈ schemasUnder argument kind, IsObject part → Passes Standard.draft4 part := by
    refine ⟨atomic ▸ form, fun part under => ?_⟩
    rw [none_] at under
    cases under
  have atom (single : ∃ a, argument = .atom a) : isPlain argument = true := by
    obtain ⟨a, rfl⟩ := single
    rfl
  have flagged (shape : schemasUnder argument kind = [argument])
      (form : HasForm kind argument = (IsObject argument ∨ ∃ b, argument = .bool b))
      (either : IsObject argument ∧ Passes Standard.draft4 argument ∨ ∃ b, argument = .bool b) :
      HasForm kind argument ∧ ∀ part ∈ schemasUnder argument kind, IsObject part → Passes Standard.draft4 part := by
    rw [form, shape]
    refine ⟨either.imp And.left id, fun part under object => ?_⟩
    obtain rfl := List.mem_singleton.1 under
    rcases either with ⟨-, passes⟩ | ⟨b, rfl⟩
    · exact passes
    · obtain ⟨fields, impossible⟩ := object
      cases impossible
  have mapping (shape : schemasUnder argument kind = mapped argument) (form : HasForm kind argument = IsObject argument)
      (map : ∃ entries, argument = .obj entries ∧ ∀ entry ∈ entries, Passes Standard.draft4 entry.2) :
      HasForm kind argument ∧ ∀ part ∈ schemasUnder argument kind, IsObject part → Passes Standard.draft4 part := by
    rw [form, shape]
    obtain ⟨entries, rfl, each⟩ := map
    refine ⟨⟨entries, rfl⟩, fun part under _ => ?_⟩
    obtain ⟨entry, member, rfl⟩ := List.mem_map.1 under
    exact each entry member
  cases kind with
  | ref => exact ⟨trivial, nofun⟩
  | allOf | anyOf | oneOf =>
    obtain ⟨items, rfl, each⟩ := schemas_of_array (h.argument rfl (ref_part _) found)
    exact ⟨⟨items, rfl⟩, fun part under _ => each part under⟩
  | not =>
    have passes := (h.argument rfl (ref_part "#") found).whole
    refine ⟨passes.object, fun part under _ => ?_⟩
    obtain rfl := List.mem_singleton.1 under
    exact passes
  | enum => exact ⟨list_of_type (h.argument rfl ⟨⟨_, rfl⟩, rfl, rfl⟩ found) rfl, nofun⟩
  | additionalItems | additionalProperties =>
    exact flagged rfl rfl (flag_or_schema (h.argument rfl ⟨⟨_, rfl⟩, rfl, rfl⟩ found))
  | items =>
    rcases schemas_of_items (h.argument rfl ⟨⟨_, rfl⟩, rfl, rfl⟩ found) with passes | ⟨items, rfl, each⟩
    · obtain ⟨inner, rfl⟩ := passes.object
      refine ⟨.inl ⟨inner, rfl⟩, fun part under _ => ?_⟩
      obtain rfl := List.mem_singleton.1 under
      exact passes
    · exact ⟨.inr ⟨items, rfl⟩, fun part under _ => each part under⟩
  | properties | patternProperties =>
    exact mapping rfl rfl (schemas_of_map (h.argument rfl ⟨⟨_, rfl⟩, rfl, rfl⟩ found))
  | dependencies =>
    obtain ⟨entries, rfl, each⟩ := schemas_of_dependencies (h.argument rfl ⟨⟨_, rfl⟩, rfl, rfl⟩ found)
    refine ⟨⟨entries, rfl⟩, fun part under object => ?_⟩
    obtain ⟨entry, member, rfl⟩ := List.mem_map.1 under
    rcases each entry member with passes | ⟨items, same⟩
    · exact passes
    · obtain ⟨inner, object⟩ := object
      rw [object] at same
      cases same
  | type => exact plain (plain_of_types rfl (h.argument rfl ⟨⟨_, rfl⟩, rfl, rfl⟩ found)) rfl rfl
  | required =>
    obtain ⟨items, -, form⟩ := plain_of_strings (h.argument rfl (ref_part _) found)
    exact plain form rfl rfl
  | maxLength | maxItems | maxProperties =>
    exact plain (atom (atom_of_positive (h.argument rfl (ref_part _) found))) rfl rfl
  | minLength | minItems | minProperties =>
    exact plain (atom (atom_of_positive_or_zero (h.argument rfl (ref_part _) found))) rfl rfl
  | maximum | minimum | multipleOf | pattern | format | uniqueItems =>
    exact plain (atom (atom_of_type (h.argument rfl ⟨⟨_, rfl⟩, rfl, rfl⟩ found) rfl rfl)) rfl rfl
  | _ => cases known

private theorem flag_of_passes (h : Passes Standard.draft4 (.obj fields)) {name : String}
    (known : standardProperties.lookup (.text name) = some (Standard.typed "boolean" [])) : flag? fields name ≠ none := by
  unfold flag?
  cases given : argument? fields name with
  | none => nofun
  | some v =>
    have found : entryOf? fields (.text name) = some v := (entryOf?_text fields name).trans given
    obtain ⟨t, named, has⟩ := Passes.type (h.argument known ⟨⟨_, rfl⟩, rfl, rfl⟩ found) rfl List.mem_cons_self
    cases named
    cases v with
    | atom a => cases a with
      | bool b => nofun
      | _ => cases has
    | _ => cases has

/-- An argument that stands in an object of distinct keys is the one that its keyword has. -/
private theorem found_of_mem (distinct : (Entries.keys fields).Nodup) {name : String} {argument : Value}
    (member : (.text name, argument) ∈ fields) : entryOf? fields (.text name) = some argument :=
  (entryOf?_text fields name).trans (Entries.lookup_eq_some_of_mem distinct member)

/-- What passes the schema of schemas has arguments of the given forms. -/
theorem Passes.shaped (h : Passes Standard.draft4 (.obj fields)) (distinct : (Entries.keys fields).Nodup) :
    Shaped fields := by
  refine ⟨fun kind argument known member => ?_, flag_of_passes h rfl, flag_of_passes h rfl⟩
  exact (form_of_passes h known (found_of_mem distinct member)).1

/-- The schemas inside what passes the schema of schemas pass it too. -/
theorem Passes.inside (h : Passes Standard.draft4 (.obj fields)) (distinct : (Entries.keys fields).Nodup) {part : Value}
    (member : part ∈ schemasInside fields) (object : IsObject part) : Passes Standard.draft4 part := by
  obtain ⟨kind, argument, entry, known, under⟩ := mem_schemasInside.1 member
  exact (form_of_passes h known (found_of_mem distinct entry)).2 part under object

/-- The required names of what passes the schema of schemas are texts, each given once. -/
theorem Passes.required (h : Passes Standard.draft4 (.obj fields)) {argument : Value}
    (given : fields.lookup (.text "required") = some argument) :
    ∃ names : List String, argument = .list (names.map .text) ∧ names.Nodup :=
  texts_of_strings (h.argument rfl (ref_part _) ((entryOf?_text fields _).trans given))

/-- The properties of what passes the schema of schemas are an object. -/
theorem Passes.properties (h : Passes Standard.draft4 (.obj fields)) {argument : Value}
    (given : fields.lookup (.text "properties") = some argument) : ∃ entries, argument = .obj entries := by
  have map := schemas_of_map (h.argument rfl ⟨⟨_, rfl⟩, rfl, rfl⟩ ((entryOf?_text fields _).trans given))
  exact ⟨map.choose, map.choose_spec.1⟩

/-- No name is mapped to an atom under a keyword that maps names to schemas. -/
theorem Passes.mapped_ne_atom (h : Passes Standard.draft4 (.obj fields)) (distinct : (Entries.keys fields).Nodup)
    {kind : Keyword} (maps : kind ∈ [Keyword.properties, .patternProperties, .dependencies])
    {entries : List (Atom × Value)} (given : (.text kind.name, .obj entries) ∈ fields) :
    ∀ entry ∈ entries, ∀ a, entry.2 ≠ .atom a := by
  have found := found_of_mem distinct given
  have ofSchema {v : Value} (passes : Passes Standard.draft4 v) (a : Atom) : v ≠ .atom a := by
    obtain ⟨inner, rfl⟩ := passes.object
    nofun
  intro entry member a
  simp only [List.mem_cons, List.not_mem_nil, or_false] at maps
  rcases maps with rfl | rfl | rfl
  · obtain ⟨_, same, each⟩ := schemas_of_map (h.argument rfl ⟨⟨_, rfl⟩, rfl, rfl⟩ found)
    cases same
    exact ofSchema (each entry member) a
  · obtain ⟨_, same, each⟩ := schemas_of_map (h.argument rfl ⟨⟨_, rfl⟩, rfl, rfl⟩ found)
    cases same
    exact ofSchema (each entry member) a
  · obtain ⟨_, same, each⟩ := schemas_of_dependencies (h.argument rfl ⟨⟨_, rfl⟩, rfl, rfl⟩ found)
    cases same
    rcases each entry member with passes | ⟨items, listed⟩
    · exact ofSchema passes a
    · rw [listed]
      nofun

/-- The definitions that are embedded in what passes the schema of schemas pass it too. -/
theorem Passes.embedded {root : Value} (h : Passes Standard.draft4 root) {name : String} {body : Value}
    (found : (embeddedIn root).lookup (.text name) = some body) : Passes Standard.draft4 body := by
  obtain ⟨fields, rfl⟩ := h.object
  cases given : fields.lookup (.text "definitions") with
  | none =>
    rw [embeddedIn, given] at found
    cases found
  | some bodies =>
    have place : entryOf? fields (.text "definitions") = some bodies := (entryOf?_text fields _).trans given
    obtain ⟨entries, rfl, each⟩ := schemas_of_map (h.argument rfl ⟨⟨_, rfl⟩, rfl, rfl⟩ place)
    rw [embeddedIn, given] at found
    exact each _ (Entries.mem_of_lookup_eq_some found)

theorem passes_of_isWellFormed {root : Value} (ok : isWellFormed root = .ok true) : Passes Standard.draft4 root := by
  obtain ⟨scope, found, passes⟩ := Report.attempt_eq_ok (Report.holds_eq_true ok)
  refine ⟨nestingLimit, _, ⟨rfl, ?_⟩, passes⟩
  obtain ⟨address, -, found⟩ := bind_eq_ok.1 found
  cases found
  simp [Scope.In, Library.addRoot, Library.add]

/-- Whether every object of a root schema that a check can come to has distinct keys. -/
def DistinctKeys (root : Value) : Prop := ∀ fields, Reached root (.obj fields) → (Entries.keys fields).Nodup

mutual
/-- Whether all objects inside a value have distinct keys, as objects of texts have. -/
def hasDistinctKeys : Value → Bool
  | .list items => itemsHaveDistinctKeys items
  | .obj fields => decide (Entries.keys fields).Nodup && fieldsHaveDistinctKeys fields
  | .pair a b => hasDistinctKeys a && hasDistinctKeys b
  | _ => true
def itemsHaveDistinctKeys : List Value → Bool
  | [] => true
  | v :: rest => hasDistinctKeys v && itemsHaveDistinctKeys rest
def fieldsHaveDistinctKeys : List (Atom × Value) → Bool
  | [] => true
  | (_, v) :: rest => hasDistinctKeys v && fieldsHaveDistinctKeys rest
end

theorem itemsHaveDistinctKeys_iff {items : List Value} :
    itemsHaveDistinctKeys items = true ↔ ∀ v ∈ items, hasDistinctKeys v = true := by
  induction items with
  | nil => simp [itemsHaveDistinctKeys]
  | cons v rest ih => simp [itemsHaveDistinctKeys, ih]

theorem fieldsHaveDistinctKeys_iff {fields : List (Atom × Value)} :
    fieldsHaveDistinctKeys fields = true ↔ ∀ f ∈ fields, hasDistinctKeys f.2 = true := by
  induction fields with
  | nil => simp [fieldsHaveDistinctKeys]
  | cons f rest ih => simp [fieldsHaveDistinctKeys, ih]

theorem hasDistinctKeys_object {fields : List (Atom × Value)} : hasDistinctKeys (.obj fields) = true ↔
    (Entries.keys fields).Nodup ∧ ∀ f ∈ fields, hasDistinctKeys f.2 = true := by
  rw [hasDistinctKeys, Bool.and_eq_true, decide_eq_true_eq, fieldsHaveDistinctKeys_iff]

theorem hasDistinctKeys_hereditary : Hereditary fun v => hasDistinctKeys v = true where
  atom _ := rfl
  item h := itemsHaveDistinctKeys_iff.1 h
  entry h := (hasDistinctKeys_object.1 h).2
  pair h := Bool.and_eq_true_iff.1 h

theorem distinctKeys_of_hasDistinctKeys {root : Value} (h : hasDistinctKeys root = true) : DistinctKeys root :=
  fun _ reached => (hasDistinctKeys_object.1 (hasDistinctKeys_hereditary.reached h reached)).1

/-- A well-formed root schema passes the schema of schemas at all places that a check can come to. -/
theorem passes_reached {root : Value} (ok : isWellFormed root = .ok true) (distinct : DistinctKeys root) {part : Value}
    (reached : Reached root part) (object : IsObject part) : Passes Standard.draft4 part := by
  have whole := passes_of_isWellFormed ok
  induction reached with
  | root => exact whole
  | inside outer _ member ih => exact (ih ⟨_, rfl⟩).inside (distinct _ outer) member object
  | target _ _ _ found => exact whole.embedded found

/-- A well-formed root schema is shaped at all places that a check can come to. -/
theorem shaped_of_isWellFormed {root : Value} (ok : isWellFormed root = .ok true) (distinct : DistinctKeys root) :
    ∀ fields, Reached root (.obj fields) → Shaped fields :=
  fun fields reached => (passes_reached ok distinct reached ⟨fields, rfl⟩).shaped (distinct fields reached)

end Shaped

end SwaggerGate.Schema
