import SwaggerGate.Proofs.Drafts
import SwaggerGate.Proofs.Overlong
import SwaggerGate.Proofs.References
import SwaggerGate.Proofs.Schema.Limits

/-! Payloads and requests. Data that passes as the payload of an operation passes both as its
body and as its parameters, where the parameters are of the types that texts are read as. -/
namespace SwaggerGate

open Schema

/-! ### Values that pass as data -/

namespace Parameters

/-- Whether a value is a text, a boolean or an integer that is written. -/
inductive IsScalar : Value → Prop where
  | text (s : String) : IsScalar (.text s)
  | bool (b : Bool) : IsScalar (.bool b)
  | int {n : Int} : (Atom.int n).isShowable = true → IsScalar (.int n)

instance : DecidablePred IsScalar
  | .text s => isTrue (.text s)
  | .bool b => isTrue (.bool b)
  | .int n => decidable_of_iff ((Atom.int n).isShowable = true) ⟨.int, fun | .int shown => shown⟩
  | .null | .float _ | .atom (.date _) | .atom (.moment _) | .atom (.bytes _) | .list _ | .obj _ | .set _ | .pair .. | .loop .. =>
    isFalse nofun

theorem scalarText?_int {n : Int} (shown : (Atom.int n).isShowable = true) :
    scalarText? (.int n) = .ok (some (intText n)) := by
  rw [scalarText?, if_pos shown]

theorem IsScalar.text? {v : Value} (scalar : IsScalar v) : ∃ s, scalarText? v = .ok (some s) := by
  cases scalar with
  | text s => exact ⟨s, rfl⟩
  | bool b => exact ⟨_, rfl⟩
  | int shown => exact ⟨_, scalarText?_int shown⟩

/-- Equal scalars are the same: as data, a boolean is no number. -/
theorem IsScalar.eq_of_equal {m v : Value} (member : IsScalar m) (scalar : IsScalar v) (equal : m.equal v = true) :
    m = v := by
  cases member <;> cases scalar <;> simp_all [Value.equal, Atom.equal]

theorem isMemberText_of_mem {v : Value} {s : String} (written : scalarText? v = .ok (some s)) {members : List Value}
    (scalars : ∀ m ∈ members, IsScalar m) (member : v ∈ members) : isMemberText s members = .ok true := by
  induction members with
  | nil => cases member
  | cons first rest ih =>
    obtain ⟨other, text⟩ := (scalars first List.mem_cons_self).text?
    rw [isMemberText, text]
    by_cases same : other = s
    · simp [same, bind, Except.bind, pure, Except.pure]
    · have later : v ∈ rest := by
        refine (List.mem_cons.1 member).resolve_left ?_
        rintro rfl
        rw [written] at text
        exact same (Option.some.inj (Except.ok.inj text)).symm
      have ih := ih (fun m inside => scalars m (List.mem_cons_of_mem _ inside)) later
      simp [same, bind, Except.bind, ih]

/-- Whether the values that a descriptor takes can be sent as texts: texts, booleans, integers,
and lists of such. -/
inductive IsSendable : Items → Prop where
  | scalar {d : Items} : d.type = .string ∨ d.type = .integer ∨ d.type = .boolean →
      (∀ members, d.enum = some members → ∀ m ∈ members, IsScalar m) → IsSendable d
  | array {d : Items} : d.type = .array → d.enum = none → (∀ inner, d.items = some inner → IsSendable inner) →
      IsSendable d

/-- Whether a descriptor is sendable, computed. -/
def isSendable : Items → Bool
  | ⟨.string, enum, _, _, _⟩ | ⟨.integer, enum, _, _, _⟩ | ⟨.boolean, enum, _, _, _⟩ =>
    enum.all fun members => members.all fun m => decide (IsScalar m)
  | ⟨.array, none, none, _, _⟩ => true
  | ⟨.array, none, some inner, _, _⟩ => isSendable inner
  | ⟨.array, some _, _, _, _⟩ | ⟨.number, _, _, _, _⟩ | ⟨.file, _, _, _, _⟩ => false

theorem isSendable_iff : ∀ {d : Items}, isSendable d = true ↔ IsSendable d
  | ⟨type, enum, items, format, extra⟩ => by
    have scalar (known : type = .string ∨ type = .integer ∨ type = .boolean) :
        (enum.all fun members => members.all fun m => decide (IsScalar m)) = true ↔
          IsSendable ⟨type, enum, items, format, extra⟩ := by
      simp only [Option.all_eq_true, List.all_eq_true, decide_eq_true_eq]
      refine ⟨fun scalars => .scalar known scalars, ?_⟩
      rintro (⟨-, scalars⟩ | ⟨array, -, -⟩)
      · exact scalars
      · rcases known with known | known | known <;> cases known.symm.trans array
    have array (known : type = .array) : IsSendable ⟨type, enum, items, format, extra⟩ ↔
        enum = none ∧ ∀ inner, items = some inner → IsSendable inner := by
      refine ⟨?_, fun ⟨free, each⟩ => .array known free each⟩
      rintro (⟨other, -⟩ | ⟨-, free, each⟩)
      · rcases other with other | other | other <;> cases known.symm.trans other
      · exact ⟨free, each⟩
    cases type with
    | string => exact scalar (.inl rfl)
    | integer => exact scalar (.inr (.inl rfl))
    | boolean => exact scalar (.inr (.inr rfl))
    | array =>
      rw [array rfl]
      cases enum with
      | some members => simp [isSendable]
      | none => cases items with
        | none => simp [isSendable]
        | some inner => simpa [isSendable] using isSendable_iff
    | number | file =>
      refine iff_of_false nofun ?_
      rintro (⟨other, -⟩ | ⟨other, -, -⟩)
      · rcases other with other | other | other <;> cases other
      · cases other

section Sendable

variable {root : Value} {d : Items} {v : Value}

/-- The schema of a descriptor, entry by entry. -/
private theorem propertySchema_entries (d : Items) : ∃ fields, Compile.propertySchema d = .obj fields ∧
    (.text "type", .text d.type.name) ∈ fields ∧
    (∀ members, d.enum = some members → (.text "enum", .list members) ∈ fields) ∧
    ∀ inner, d.items = some inner → (.text "items", Compile.propertySchema inner) ∈ fields := by
  obtain ⟨type, enum, items, format, extra⟩ := d
  cases items <;> cases enum <;> exact ⟨_, rfl, by simp⟩

private theorem propertySchema_part (d : Items) : IsPart (Compile.propertySchema d) := by
  obtain ⟨fields, object, -, address, dialect, -⟩ := Compile.propertySchema_object d
  rw [object]
  exact ⟨⟨fields, rfl⟩, id?_of_absent address, by rw [Dialect.ofSchema, dialect]⟩

private theorem propertySchema_shown {fields : List (Atom × Value)} (object : Compile.propertySchema d = .obj fields) :
    shownRef? fields = none := by
  obtain ⟨_, same, bare, -⟩ := Compile.propertySchema_object d
  rw [object] at same
  cases same
  exact shownRef?_of_bare bare

/-- What passes the schema of a descriptor has its type. -/
theorem type_of_passes (passes : PassesIn root (Compile.propertySchema d) v) :
    ∃ t, Dialect.draft4.type? d.type.name = some t ∧ Dialect.draft4.hasType t v = true := by
  obtain ⟨fields, object, type, -⟩ := propertySchema_entries d
  rw [object] at passes
  exact passes.type (propertySchema_shown object) type

theorem enum_of_passes (passes : PassesIn root (Compile.propertySchema d) v) {members : List Value}
    (given : d.enum = some members) : ∃ m ∈ members, m.equal v = true := by
  obtain ⟨fields, object, -, enum, -⟩ := propertySchema_entries d
  rw [object] at passes
  exact passes.enum (propertySchema_shown object) (enum members given)

theorem items_of_passes {items : List Value} (passes : PassesIn root (Compile.propertySchema d) (.list items))
    {inner : Items} (given : d.items = some inner) : ∀ item ∈ items, PassesIn root (Compile.propertySchema inner) item := by
  obtain ⟨fields, object, -, -, entry⟩ := propertySchema_entries d
  obtain ⟨schema, nested⟩ := (propertySchema_part inner).object
  have entry := entry inner given
  rw [object] at passes
  rw [nested] at entry ⊢
  exact passes.items (propertySchema_shown object) entry (nested ▸ propertySchema_part inner)

/-- What passes as data of a scalar type is of that type, and its text reads as such. -/
theorem scalar_of_passes (passes : PassesIn root (Compile.propertySchema d) v) (shown : v.isShowable = true)
    (type : d.type = .string ∨ d.type = .integer ∨ d.type = .boolean) (name : String) :
    IsScalar v ∧ ∀ text, scalarText? v = .ok text → scalarIssue? name d.type text = .ok none := by
  obtain ⟨t, known, has⟩ := type_of_passes passes
  rcases type with type | type | type <;> rw [type] at known ⊢ <;> cases known
  · obtain ⟨s, rfl⟩ : ∃ s, v = .text s := by
      cases v with
      | atom a => cases a with
        | text s => exact ⟨s, rfl⟩
        | _ => cases has
      | _ => cases has
    exact ⟨.text s, fun _ _ => rfl⟩
  · obtain ⟨n, rfl⟩ : ∃ n, v = .int n := by
      cases v with
      | atom a => cases a with
        | int n => exact ⟨n, rfl⟩
        | _ => cases has
      | _ => cases has
    refine ⟨.int shown, fun text written => ?_⟩
    cases (scalarText?_int shown).symm.trans written
    have read := Scalar.readInteger_intText (Scalar.isShowable_int_iff.1 shown)
    simp [scalarIssue?, read]
  · obtain ⟨b, rfl⟩ : ∃ b, v = .bool b := by
      cases v with
      | atom a => cases a with
        | bool b => exact ⟨b, rfl⟩
        | _ => cases has
      | _ => cases has
    refine ⟨.bool b, fun text written => ?_⟩
    cases written
    cases b <;> rfl

theorem list_of_passes (passes : PassesIn root (Compile.propertySchema d) v) (type : d.type = .array) :
    ∃ items, v = .list items := by
  obtain ⟨t, known, has⟩ := type_of_passes passes
  rw [type] at known
  cases known
  cases v with
  | list items => exact ⟨items, rfl⟩
  | atom a => cases a <;> cases has
  | _ => cases has

private theorem anyIssue?_of_shown (shown : v.isShowable = true) : anyIssue? v = .ok none := by
  cases v with
  | atom a => cases a with
    | int n =>
      rw [anyIssue?, scalarText?_int shown]
      rfl
    | _ => rfl
  | _ => rfl

/-- What passes the schema of a descriptor as data passes the descriptor on the wire. -/
theorem IsSendable.check_of_passes (sendable : IsSendable d) (name : String) : ∀ {v : Value},
    PassesIn root (Compile.propertySchema d) v → v.isShowable = true → check name d v = .ok none := by
  induction sendable with
  | @scalar d type scalars =>
    intro v passes shown
    obtain ⟨scalar, reads⟩ := scalar_of_passes passes shown type name
    obtain ⟨s, written⟩ := scalar.text?
    have admits : Admits d.enum v (some s) := by
      refine ⟨written, ?_⟩
      cases given : d.enum with
      | none => rfl
      | some members =>
        obtain ⟨m, inside, equal⟩ := enum_of_passes passes given
        obtain rfl := (scalars members given m inside).eq_of_equal scalar equal
        exact isMemberText_of_mem written (scalars members given) inside
    rw [check_of_scalar admits (by rcases type with type | type | type <;> simp [type])]
    exact reads _ written
  | @array d type free _ ih =>
    intro v passes shown
    obtain ⟨items, rfl⟩ := list_of_passes passes type
    have each := Value.areShowable_iff.1 shown
    have admits : Admits d.enum (.list items) none := ⟨rfl, by rw [free]; rfl⟩
    cases given : d.items with
    | none =>
      rw [check_of_bare admits type given]
      exact firstIssue_eq_none fun item inside => anyIssue?_of_shown (each item inside)
    | some inner =>
      rw [check_of_array admits type given]
      exact firstIssue_eq_none fun item inside => ih inner given (items_of_passes passes given item inside) (each item inside)

end Sendable

/-! ### Parameters in a payload -/

/-- Whether a parameter outside the body can be sent: it is in the path or in the query, of a type
that texts are read as, and its name is the whole address of its value. -/
structure SendsValue (p : Parameter) : Prop where
  sendable : ∃ d, descriptor? p = some d ∧ IsSendable d
  plain : '[' ∉ p.name.toList

instance : DecidablePred SendsValue := fun p =>
  decidable_of_iff ((descriptor? p).any isSendable = true ∧ '[' ∉ p.name.toList) <| by
    rw [Option.any_eq_true]
    exact ⟨fun ⟨⟨d, declared, sendable⟩, plain⟩ => ⟨⟨d, declared, isSendable_iff.1 sendable⟩, plain⟩,
      fun ⟨⟨d, declared, sendable⟩, plain⟩ => ⟨⟨d, declared, isSendable_iff.2 sendable⟩, plain⟩⟩

end Parameters

namespace Compile

/-- The parameters of an operation have names. -/
theorem named_of_effectiveParameters {merged : Merged} {place : String} {path : PathItem} {endpoint : Endpoint}
    {parameters : List Parameter} (ok : effectiveParameters merged place path endpoint = .ok parameters) :
    ∀ p ∈ parameters, p.name ≠ "" := by
  obtain ⟨shared, own, sharedOk, ownOk, rfl⟩ := effectiveParameters_eq_ok.1 ok
  intro p member
  rcases List.mem_append.1 member with inherited | declared
  · obtain ⟨q, -, found⟩ := mem_of_mapM sharedOk p (List.mem_of_mem_filter inherited)
    exact (lookUp_eq_ok.1 found).1.1
  · obtain ⟨q, -, found⟩ := mem_of_mapM ownOk p declared
    exact (lookUp_eq_ok.1 found).1.1

end Compile

namespace Body

theorem issues_eq_nil {schema data : Value} : issues schema data = .ok [] ↔ Schema.check schema data = .ok := by
  constructor
  · intro none_
    obtain ⟨told, listed, none_⟩ := bind_eq_ok.1 none_
    split at none_
    next => cases none_
    next faultless =>
      cases none_
      refine Report.eq_ok ?_ faultless
      cases violations : (Schema.check schema data).violations with
      | nil => rfl
      | cons v rest =>
        rw [violations, issuesAfter] at listed
        split at listed
        · obtain ⟨_, -, listed⟩ := bind_eq_ok.1 listed
          obtain ⟨_, -, listed⟩ := bind_eq_ok.1 listed
          cases listed
        · obtain ⟨_, -, listed⟩ := bind_eq_ok.1 listed
          obtain ⟨_, -, listed⟩ := bind_eq_ok.1 listed
          cases listed
  · intro ok
    rw [issues, ok]
    rfl

/-- Data is accepted if a check of it finds nothing. -/
theorem accepted_iff {schema data : Value} {key : String} :
    (issues schema data).map (Outcome.ofIssues key) = .ok .ok ↔ Schema.check schema data = .ok := by
  rw [← issues_eq_nil]
  cases issues schema data with
  | error fault => exact iff_of_false nofun nofun
  | ok issues => cases issues with
    | nil => exact iff_of_true rfl rfl
    | cons issue rest => cases rest <;> exact iff_of_false nofun nofun

end Body

/-! ### Checks by object schemas -/

namespace Schema

section Record

variable {check : Checker} {context : Context} {entries : List (Atom × Value)}

theorem rootContext_inRoot (root : Value) : Context.InRoot root (rootContext root) := ⟨rfl, rootScope_in root⟩

theorem Report.andThen_eq_ok {first second : Report} : first.andThen second = .ok ↔ first = .ok ∧ second = .ok := by
  constructor
  · intro ok
    have each := Report.each_eq_ok ok
    exact ⟨each first List.mem_cons_self, each second (List.mem_cons_of_mem _ List.mem_cons_self)⟩
  · rintro ⟨rfl, rfl⟩
    rfl

theorem properties_eq_ok (draft : context.dialect = .draft4) {schemas : List (Atom × Value)} :
    properties check context (.obj schemas) entries = .ok ↔ ∀ entry ∈ schemas, ∀ v, entryOf? entries entry.1 = some v →
      descendInto check context (keyStep entry.1) entry.2 v = .ok := by
  constructor
  · intro ok entry member v found
    have each := Report.each_eq_ok ok entry member
    simpa only [found] using each
  · intro each
    refine Report.each_ok fun entry member => ?_
    dsimp only
    split
    next v found => exact each entry member v found
    next => rw [if_neg (by rw [draft]; nofun)]

theorem required_eq_ok (context : Context) {names : List Value} {data : Value} :
    required context (.list names) data = .ok ↔ ∀ name ∈ names, data.holds name = .ok true := by
  constructor
  · intro ok name member
    obtain ⟨found, holds, passed⟩ := Report.attempt_eq_ok (Report.each_eq_ok ok name member)
    rw [holds, Report.test_eq_ok passed]
  · intro each
    refine Report.each_ok fun name member => ?_
    rw [each name member]
    rfl

/-- An object passes the schema of a record if its entries pass the properties of their names and
no required name is missing. -/
theorem IsRecord.check_eq_ok {fields : List (Atom × Value)} (record : IsRecord fields) (parts : HasParts fields)
    {levels : Nat} (limit : nestingLimit = levels + 1) :
    Schema.check (.obj fields) (.obj entries) = .ok ↔
      (∀ entry ∈ propertiesIn fields, ∀ v, entryOf? entries entry.1 = some v →
        descendInto (checkWithin levels) (rootContext (.obj fields)) (keyStep entry.1) entry.2 v = .ok) ∧
      ∀ name ∈ requiredIn fields, (Value.obj entries).holds name = .ok true := by
  rw [record.check_eq, limit, checkWithin]
  rw [← properties_eq_ok rfl, ← required_eq_ok (rootContext (.obj fields))]
  rcases record.check_object (checkWithin levels) parts (isTop_rootContext (.obj fields)) entries with same | same
  · rw [same, Report.andThen_eq_ok]
  · rw [same, Report.andThen_eq_ok, and_comm]

end Record

end Schema

namespace Compile

section Payload

variable {properties payload : List (Atom × Value)} {required needed : List Value} {bodies : List (String × Value)}

/-- What a check of a body comes to is the schema of the body itself, or a check of a payload comes
to it as well. -/
theorem reached_of_payload (subset : properties ⊆ payload) {part : Value}
    (reached : Reached (.obj (objectFields properties required bodies)) part) :
    part = .obj (objectFields properties required bodies) ∨ Reached (.obj (objectFields payload needed bodies)) part := by
  have bare {properties : List (Atom × Value)} {required : List Value} :
      (objectFields properties required bodies).lookup (.text "$ref") = none := lookup_objectFields (by decide)
  induction reached with
  | root => exact .inl rfl
  | inside outer shown member ih =>
    rcases ih with whole | there
    · cases whole
      rw [schemasInside_objectFields] at member
      obtain ⟨entry, inside, rfl⟩ := List.mem_map.1 member
      refine .inr (.inside .root (shownRef?_of_bare bare) ?_)
      rw [schemasInside_objectFields]
      exact List.mem_map_of_mem (subset inside)
    · exact .inr (.inside there shown member)
  | target outer given named found ih =>
    rcases ih with whole | there
    · cases whole
      rw [bare] at given
      cases given
    · rw [embeddedIn_objectFields] at found
      exact .inr (.target there given named (by rwa [embeddedIn_objectFields]))

theorem closed_of_payload (subset : properties ⊆ payload) (closed : Closed (.obj (objectFields payload needed bodies))) :
    Closed (.obj (objectFields properties required bodies)) := by
  intro fields ref reached given
  rcases reached_of_payload subset reached with whole | there
  · cases whole
    rw [lookup_objectFields (by decide)] at given
    cases given
  · obtain ⟨text, name, body, rfl, named, found⟩ := closed fields ref there given
    rw [embeddedIn_objectFields] at found
    exact ⟨text, name, body, rfl, named, by rwa [embeddedIn_objectFields]⟩

/-- The required names of an object schema that is well formed are texts. -/
theorem required_texts (fits : isWellFormed (.obj (objectFields properties required bodies)) = .ok true) :
    ∃ names : List String, required = names.map .text := by
  by_cases none_ : required.isEmpty
  · exact ⟨[], List.isEmpty_iff.1 none_⟩
  · have given : (objectFields properties required bodies).lookup (.text "required") = some (.list required) := by
      rw [lookup_required, if_neg none_]
    obtain ⟨names, texts, -⟩ := (passes_of_isWellFormed fits).required given
    exact ⟨names, Value.list.inj texts⟩

/-- An object that passes as a payload passes as a body with fewer properties and required names. -/
theorem check_of_payload
    (sharing : Sharing (.obj (objectFields payload needed bodies)) (.obj (objectFields properties required bodies)))
    (apart : (Entries.keys properties).Pairwise fun a b => a.sameKey b = false)
    (apart' : (Entries.keys payload).Pairwise fun a b => a.sameKey b = false) (subset : properties ⊆ payload)
    (fewer : required ⊆ needed) {entries : List (Atom × Value)}
    (ok : Schema.check (.obj (objectFields payload needed bodies)) (.obj entries) = .ok) :
    Schema.check (.obj (objectFields properties required bodies)) (.obj entries) = .ok := by
  obtain ⟨levels, limit⟩ : ∃ levels, nestingLimit = levels + 1 := ⟨_, rfl⟩
  rw [(isRecord_objectFields apart').check_eq_ok hasParts_objectFields limit, propertiesIn_objectFields,
    requiredIn_objectFields] at ok
  rw [(isRecord_objectFields apart).check_eq_ok hasParts_objectFields limit, propertiesIn_objectFields,
    requiredIn_objectFields]
  have top (root : Value) : Context.At root (rootContext root) := ⟨rfl, rfl⟩
  have alike := sharing.alike (checkWithin_same sharing levels) (top _) (top _) rfl rfl
  refine ⟨fun entry member v found => ?_, fun name member => ok.2 name (fewer member)⟩
  have inside {properties : List (Atom × Value)} {required : List Value} (member : entry ∈ properties) :
      Reached (.obj (objectFields properties required bodies)) entry.2 := by
    refine .inside .root (shownRef?_of_bare (lookup_objectFields (by decide))) ?_
    rw [schemasInside_objectFields]
    exact List.mem_map_of_mem member
  rw [← alike.descendInto ⟨inside (subset member), inside member⟩]
  exact ok.1 entry (subset member) v found

end Payload

end Compile

namespace Parameters

variable {definitions : Definitions} {parameters : List Parameter} {draft : Compile.Draft}
  {bodies : List (String × Value)} {fields : List (Atom × Value)}

theorem descriptor?_spec {p : Parameter} {d : Items} (declared : descriptor? p = some d) :
    p.location ≠ some .body ∧ p.type = some d.type ∧
      Compile.propertySchema { type := d.type, enum := p.enum, items := p.items } = Compile.propertySchema d := by
  unfold descriptor? at declared
  split at declared
  next type location given =>
    cases declared
    exact ⟨by rw [location]; nofun, given, by cases p.items <;> rfl⟩
  next type location given =>
    cases declared
    exact ⟨by rw [location]; nofun, given, by cases p.items <;> rfl⟩
  next => cases declared

theorem descriptor?_of_body {p : Parameter} (body : p.location = some .body) : descriptor? p = none := by
  unfold descriptor?
  rw [body]

theorem IsSendable.not_null {root : Value} {d : Items} (sendable : IsSendable d) :
    ¬ PassesIn root (Compile.propertySchema d) .null := by
  intro passes
  obtain ⟨t, known, has⟩ := type_of_passes passes
  rcases sendable with ⟨type | type | type, -⟩ | ⟨type, -, -⟩ <;> rw [type] at known <;> cases known <;> cases has

/-- A parameter that is sent has no issue where an object passes as payload. -/
theorem parameterIssue?_of_payload (ok : parameters.foldlM (Compile.Draft.add definitions) {} = .ok draft)
    (apart : Compile.NamedApart parameters draft.properties)
    (keys : (Entries.keys draft.payloadProperties).Pairwise fun a b => a.sameKey b = false)
    (shown : (Value.obj fields).isShowable = true)
    (passes : Schema.check (.obj (Compile.objectFields draft.payloadProperties draft.payloadRequired bodies))
      (.obj fields) = .ok) {p : Parameter} (member : p ∈ parameters) (named : p.name ≠ "") (sends : SendsValue p) :
    parameterIssue? fields p = .ok none := by
  obtain ⟨d, declared, sendable⟩ := sends.sendable
  obtain ⟨other, typed, same⟩ := descriptor?_spec declared
  have value : d.type ≠ .file := by
    rcases sendable with ⟨type | type | type, -⟩ | ⟨type, -, -⟩ <;> rw [type] <;> nofun
  obtain ⟨property, needed⟩ := Compile.property_of_parameter ok apart member other typed value
  rw [same] at property
  obtain ⟨levels, limit⟩ : ∃ levels, nestingLimit = levels + 1 := ⟨_, rfl⟩
  rw [(Compile.isRecord_objectFields keys).check_eq_ok Compile.hasParts_objectFields limit,
    Compile.propertiesIn_objectFields, Compile.requiredIn_objectFields] at passes
  unfold parameterIssue?
  rw [declared, Query.lookup?_of_plain sends.plain named]
  cases given : fields.lookup (.text p.name) with
  | none =>
    have optional : p.required = false := by
      rw [Bool.eq_false_iff]
      intro required
      have held := passes.2 _ (needed required)
      rw [Value.holds, entryOf?_text, given] at held
      cases held
    simp [optional]
  | some v =>
    have inner := descendInto_passes (rootContext_inRoot _) (propertySchema_part d)
      (passes.1 _ property v ((entryOf?_text fields p.name).trans given))
    have present : v ≠ .null := by
      rintro rfl
      exact sendable.not_null inner
    have written := (Value.fieldsShowable_iff.1 shown _ (Entries.mem_of_lookup_eq_some given)).2
    simp only [Option.filter_some, decide_eq_true present, if_true]
    exact sendable.check_of_passes p.name inner written

end Parameters

namespace Validation

/-- An object that passes as the payload of an operation passes as its body, and as its parameters
if all of them are sent as texts, provided that every reference in the schema of payloads names a
definition. -/
theorem accepted_of_payload {files : Files} {sources : List Source} {documents : List Document}
    (read : Source.documents files sources = .ok documents)
    (readable : AreReadable (Merged.ofDocuments documents).definitions) {registry : Registry}
    (compiled : Compile.registry documents = .ok registry) {key : String} {o : Operation}
    (found : registry.get? key = some o) (legible : ∀ p ∈ o.parameters, Compile.LegibleParameter p)
    (closed : Closed o.payloadSchema) (apart : Compile.NamedApart o.parameters o.properties)
    (sends : ∀ p ∈ o.parameters, p.location ≠ some .body → Parameters.SendsValue p) {fields : List (Atom × Value)}
    (shown : (Value.obj fields).isShowable = true) (passes : validatePayload registry key (.obj fields) = .ok .ok) :
    Body.validate o (.obj fields) = .ok .ok ∧ Parameters.validate o.parameters fields = .ok .ok := by
  have member : o ∈ registry.operations := List.mem_of_find?_eq_some found
  obtain ⟨task, -, parameters, effective, ok⟩ := operation_of_registry compiled member
  obtain ⟨bodies, bodyRoot, payloadRoot⟩ :=
    Compile.operation_compiled (Source.documents_objects read) readable ok legible
  obtain ⟨draft, bodies', drafted, -, properties, same, body, payload, bodyFits, -⟩ := Compile.operation_schemas ok
  rw [same] at apart sends ⊢
  rw [properties] at apart
  rw [Compile.objectSchema_eq] at body payload
  rw [payload] at closed payloadRoot
  rw [body] at bodyFits bodyRoot
  obtain ⟨bodyKeys, payloadKeys⟩ := Compile.Draft.fold_apart drafted
  rw [validatePayload, found] at passes
  have passes := Body.accepted_iff.1 passes
  rw [payload] at passes
  constructor
  · have subset := Compile.properties_subset_payload drafted apart
    have fewer : draft.required ⊆ draft.payloadRequired := by
      intro name needed
      obtain ⟨names, texts⟩ := Compile.required_texts bodyFits
      obtain ⟨text, -, rfl⟩ := List.mem_map.1 (texts ▸ needed)
      exact Compile.required_subset_payload drafted needed
    have sharing : Sharing (.obj (Compile.objectFields draft.payloadProperties draft.payloadRequired bodies'))
        (.obj (Compile.objectFields draft.properties draft.required bodies')) := by
      refine ⟨⟨closed, Compile.closed_of_payload subset closed⟩,
        ⟨⟨_, payloadRoot.settled⟩, ⟨_, bodyRoot.settled⟩⟩, fun name inner inner' given given' => ?_⟩
      rw [Compile.embeddedIn_objectFields] at given given'
      exact Option.some.inj (given.symm.trans given')
    rw [Body.validate, if_neg (by rintro ⟨null, -⟩; cases null), if_neg nofun, body]
    exact Body.accepted_iff.2 (Compile.check_of_payload sharing bodyKeys payloadKeys subset fewer passes)
  · have each (p : Parameter) (inside : p ∈ parameters) : Parameters.parameterIssue? fields p = .ok none := by
      by_cases inBody : p.location = some .body
      · rw [Parameters.parameterIssue?, Parameters.descriptor?_of_body inBody]
      · exact Parameters.parameterIssue?_of_payload drafted apart payloadKeys shown passes inside
          (Compile.named_of_effectiveParameters effective p inside) (sends p inside inBody)
    rw [Parameters.validate, Parameters.firstIssue_eq_none each]
    rfl

/-- A parameter in the query that takes a list of flags. -/
def flags : Value :=
  .record [("name", .text "flags"), ("in", .text "query"), ("type", .text "array"),
    ("items", .record [("type", .text "boolean")])]

theorem accepted_of_payload_flags :
    let fields : List (Atom × Value) :=
      [(.text "tag", .text "a"), (.text "flags", .list [.bool true])]
    let schema : Value := .record [("properties", .record [("tag", .record [])])]
    ∃ documents registry o, Source.documents ⟨fun _ => none⟩ [.data (posting [flags] schema)] = .ok documents ∧
      Compile.registry documents = .ok registry ∧ registry.get? "post/x" = some o ∧ Closed o.payloadSchema ∧
      Compile.NamedApart o.parameters o.properties ∧
      (∀ p ∈ o.parameters, p.location ≠ some .body → Parameters.SendsValue p) ∧
      validatePayload registry "post/x" (.obj fields) = .ok .ok ∧
      Body.validate o (.obj fields) = .ok .ok ∧ Parameters.validate o.parameters fields = .ok .ok := by
  intro fields schema
  have tested : (Source.documents ⟨fun _ => none⟩ [.data (posting [flags] schema)]).toOption.any (fun documents =>
      decide ((Merged.ofDocuments documents).definitions = []) &&
      (Compile.registry documents).toOption.any fun registry => (registry.get? "post/x").any fun o =>
        (o.parameters.all fun p => p.location != some .body || isEverywhere isLegible 3 (.obj (p.schema.getD []))) &&
        decide (Compile.NamedApart o.parameters o.properties ∧
          (∀ p ∈ o.parameters, p.location ≠ some .body → Parameters.SendsValue p) ∧
          (Value.obj fields).isShowable = true ∧ validatePayload registry "post/x" (.obj fields) = .ok .ok)) = true := by
    decide +kernel
  obtain ⟨documents, read, tested⟩ := any_toOption_eq_true.1 tested
  simp only [Bool.and_eq_true, decide_eq_true_eq] at tested
  obtain ⟨none_, tested⟩ := tested
  obtain ⟨registry, compiled, tested⟩ := any_toOption_eq_true.1 tested
  obtain ⟨o, found, tested⟩ := (Option.any_eq_true _ _).1 tested
  simp only [Bool.and_eq_true, decide_eq_true_eq] at tested
  obtain ⟨parts, apart, sends, shown, passes⟩ := tested
  have readable : AreReadable (Merged.ofDocuments documents).definitions := by
    rw [none_]
    nofun
  have legible : ∀ p ∈ o.parameters, Compile.LegibleParameter p := by
    intro p member location
    have known := List.all_eq_true.1 parts p member
    rw [location] at known
    exact readable_of_isLegible known
  have closed : Closed o.payloadSchema := by
    obtain ⟨task, -, parameters, -, ok⟩ := operation_of_registry compiled (List.mem_of_find?_eq_some found)
    obtain ⟨bodies, -, root⟩ := Compile.operation_compiled (Source.documents_objects read) readable ok legible
    exact closed_of_undefined root none_
  exact ⟨documents, registry, o, read, compiled, found, closed, apart, sends, passes,
    accepted_of_payload read readable compiled found legible closed apart sends shown passes⟩

/-- A parameter in the query that takes one, or the least number of too many digits. -/
def limit : Value := .record [("name", .text "limit"), ("in", .text "query"), ("type", .text "integer"),
  ("enum", .list [.int integerBound, .int 1])]

/-- The first member of the enumeration is compared with as data, but not written: parameters come to
no outcome. -/
theorem payload_apart_from_parameters :
    let fields : List (Atom × Value) := [(.text "limit", .int 1)]
    ∃ documents registry o, Source.documents ⟨fun _ => none⟩ [.data (posting [limit] (.obj []))] = .ok documents ∧
      Compile.registry documents = .ok registry ∧ registry.get? "post/x" = some o ∧
      Compile.NamedApart o.parameters o.properties ∧ (Value.obj fields).isShowable = true ∧
      (∀ p ∈ o.parameters, p.location ≠ some .body → p.name = "limit" ∧ p.location = some .query ∧
        p.type = some .integer ∧ p.enum = some [.int integerBound, .int 1]) ∧
      validatePayload registry "post/x" (.obj fields) = .ok .ok ∧
      Parameters.validate o.parameters fields = .error .longInteger := by
  intro fields
  have tested : (Source.documents ⟨fun _ => none⟩ [.data (posting [limit] (.obj []))]).toOption.any (fun documents =>
      (Compile.registry documents).toOption.any fun registry => (registry.get? "post/x").any fun o =>
        decide (Compile.NamedApart o.parameters o.properties ∧ (Value.obj fields).isShowable = true ∧
          (∀ p ∈ o.parameters, p.location ≠ some .body → p.name = "limit" ∧ p.location = some .query ∧
            p.type = some .integer ∧ p.enum = some [.int integerBound, .int 1]) ∧
          validatePayload registry "post/x" (.obj fields) = .ok .ok ∧
          Parameters.validate o.parameters fields = .error .longInteger)) = true := by
    decide +kernel
  obtain ⟨documents, read, tested⟩ := any_toOption_eq_true.1 tested
  obtain ⟨registry, compiled, tested⟩ := any_toOption_eq_true.1 tested
  obtain ⟨o, found, tested⟩ := (Option.any_eq_true _ _).1 tested
  exact ⟨documents, registry, o, read, compiled, found, of_decide_eq_true tested⟩

end Validation
end SwaggerGate
