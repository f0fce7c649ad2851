import SwaggerGate.Proofs.Missing
import SwaggerGate.Proofs.Schema.Scopes
import Mathlib.Data.Multiset.Basic

/-! Schemas of records: objects with properties, some of them required. What a check finds of
data is told by the properties and the required names alone, whatever else the schema holds
and in whatever order. -/
namespace SwaggerGate

open Schema

namespace Schema

/-- The schema of a record. Besides its type it has no keywords but `properties` and
`required`; all else in it are annotations, `format` among them, which says nothing of an
object. Keys are distinct, as those of a mapping are. -/
structure IsRecord (fields : List (Atom × Value)) : Prop where
  type : fields.lookup (.text "type") = some (.text "object")
  keywords : ∀ key ∈ Entries.keys fields, ∀ kind, keywordOf? .draft4 key = some kind →
    kind = .type ∨ kind = .properties ∨ kind = .required ∨ kind = .format
  address : fields.lookup (.text "id") = none
  distinct : (Entries.keys fields).Nodup
  properties : ∀ properties, fields.lookup (.text "properties") = some (.obj properties) →
    (Entries.keys properties).Pairwise fun a b => a.sameKey b = false

section Each

variable {report : Atom × Value → Report} {fields : List (Atom × Value)}

/-- The report on the entry of a key, if it is given. -/
def reportAt (report : Atom × Value → Report) (fields : List (Atom × Value)) (key : Atom) : Report :=
  match fields.lookup key with
  | some v => report (key, v)
  | none => .ok

/-- Two reports, one after the other. -/
def Report.andThen (first second : Report) : Report := Report.each false id [first, second]

theorem Report.andThen_of_fault {first second : Report} {fault : Fault} (faulty : first.fault = some fault) :
    first.andThen second = first := by
  simp [Report.andThen, Report.each, faulty]

theorem Report.andThen_of_faultless {first second : Report} (faultless : first.fault = none) :
    first.andThen second = ⟨first.violations ++ second.violations, second.fault⟩ := by
  cases faulty : second.fault <;> simp [Report.andThen, Report.each, faultless, faulty, Report.ok]

theorem Report.each_ok_cons {α : Type} {report : α → Report} {x : α} {rest : List α} (none_ : report x = .ok) :
    Report.each false report (x :: rest) = Report.each false report rest := by
  simp [Report.each, none_, Report.ok]

private theorem reportAt_cons_ne {entry : Atom × Value} {key : Atom} (other : entry.1 ≠ key) :
    reportAt report (entry :: fields) key = reportAt report fields key := by
  obtain ⟨k, v⟩ := entry
  have other : ¬ key = k := fun same => other same.symm
  rw [reportAt, reportAt, Entries.lookup_cons_if, if_neg other]

private theorem reportAt_cons_self (entry : Atom × Value) : reportAt report (entry :: fields) entry.1 = report entry := by
  obtain ⟨k, v⟩ := entry
  rw [reportAt, Entries.lookup_cons_if, if_pos rfl]

private theorem each_nothing (silent : ∀ f ∈ fields, report f = .ok) : Report.each false report fields = .ok := by
  induction fields with
  | nil => rfl
  | cons f rest ih =>
    rw [Report.each_ok_cons (silent f List.mem_cons_self)]
    exact ih fun g member => silent g (List.mem_cons_of_mem _ member)

private theorem each_cons_silent {f : Atom × Value} (silent : ∀ g ∈ fields, report g = .ok) :
    Report.each false report (f :: fields) = report f := by
  rw [Report.each, each_nothing silent]
  split
  · rfl
  next faultless =>
    have none_ : (report f).fault = none := by simpa using faultless
    simp [Report.ok, ← none_]

/-- Where only one key is told of, the report is that on its entry. -/
theorem each_of_one {key : Atom} (distinct : (Entries.keys fields).Nodup)
    (silent : ∀ f ∈ fields, f.1 ≠ key → report f = .ok) : Report.each false report fields = reportAt report fields key := by
  induction fields with
  | nil => rfl
  | cons f rest ih =>
    obtain ⟨fresh, distinct⟩ := List.nodup_cons.1 distinct
    have later := fun g (member : g ∈ rest) => silent g (List.mem_cons_of_mem _ member)
    by_cases same : f.1 = key
    · subst same
      rw [reportAt_cons_self]
      exact each_cons_silent fun g member => later g member fun same => fresh (same ▸ List.mem_map_of_mem member)
    · rw [Report.each_ok_cons (silent f List.mem_cons_self same), reportAt_cons_ne same]
      exact ih distinct later

private theorem each_cons_at {f : Atom × Value} {key : Atom}
    (rest_ : Report.each false report fields = reportAt report fields key) :
    Report.each false report (f :: fields) = (report f).andThen (reportAt report fields key) := by
  rw [Report.each, rest_, Report.andThen, Report.each, Report.each, Report.each]
  simp only [id_eq, Bool.false_and, Bool.or_false]
  split
  · rfl
  · cases faulty : (reportAt report fields key).fault <;> simp [Report.ok, faulty]

/-- Where two keys are told of, the report is that on both entries, in their order. -/
theorem each_of_two {key other : Atom} (apart : key ≠ other) (distinct : (Entries.keys fields).Nodup)
    (silent : ∀ f ∈ fields, f.1 ≠ key → f.1 ≠ other → report f = .ok) :
    Report.each false report fields = (reportAt report fields key).andThen (reportAt report fields other) ∨
      Report.each false report fields = (reportAt report fields other).andThen (reportAt report fields key) := by
  induction fields with
  | nil => exact .inl rfl
  | cons f rest ih =>
    obtain ⟨fresh, distinct⟩ := List.nodup_cons.1 distinct
    have absent (g : Atom × Value) (member : g ∈ rest) : g.1 ≠ f.1 := fun same => fresh (same ▸ List.mem_map_of_mem member)
    have later := fun g (member : g ∈ rest) => silent g (List.mem_cons_of_mem _ member)
    by_cases first : f.1 = key
    · subst first
      left
      rw [reportAt_cons_self, reportAt_cons_ne apart]
      exact each_cons_at (each_of_one distinct fun g member => later g member (absent g member))
    · by_cases second : f.1 = other
      · subst second
        right
        rw [reportAt_cons_self, reportAt_cons_ne first]
        exact each_cons_at (each_of_one distinct fun g member notKey => later g member notKey (absent g member))
      · rw [Report.each_ok_cons (silent f List.mem_cons_self first second), reportAt_cons_ne first, reportAt_cons_ne second]
        exact ih distinct later

end Each

section Top

variable {check : Checker} {context : Context} {fields : List (Atom × Value)} {data : Value}

/-- What a check says of one entry of an object of keywords. -/
def entryReport (check : Checker) (context : Context) (fields : List (Atom × Value)) (data : Value)
    (f : Atom × Value) : Report :=
  match keywordOf? .draft4 f.1 with
  | some kind => keyword check context fields kind f.2 data
  | none => .ok

/-- Whether a context is that at the top of a check. -/
structure Context.IsTop (context : Context) : Prop where
  draft : context.dialect = .draft4
  formats : context.checksFormats = false
  throughout : context.firstOnly = false

/-- The context in which a check by a root schema begins. -/
def rootContext (root : Value) : Context := { dialect := .draft4, scope := rootScope root }

theorem isTop_rootContext (root : Value) : (rootContext root).IsTop := ⟨rfl, rfl, rfl⟩

theorem IsRecord.check_eq (record : IsRecord fields) (data : Value) :
    Schema.check (.obj fields) data = checkWithin nestingLimit .draft4 (rootContext (.obj fields)) (.obj fields) data := by
  rw [Schema.check, checkRoot, ofRoot_eq (id?_of_absent record.address)]
  rfl

theorem IsRecord.shown (record : IsRecord fields) : shownRef? fields = none := by
  refine shownRef?_of_bare ?_
  cases given : fields.lookup (.text "$ref") with
  | none => rfl
  | some ref =>
    have key := Entries.mem_keys_iff.2 ⟨ref, given⟩
    rcases record.keywords _ key .ref rfl with impossible | impossible | impossible | impossible <;> cases impossible

private theorem entryReport_silent (record : IsRecord fields) (top : context.IsTop) {f : Atom × Value}
    (member : f ∈ fields) (notType : f.1 ≠ .text "type") (notProperties : f.1 ≠ .text "properties")
    (notRequired : f.1 ≠ .text "required") : entryReport check context fields data f = .ok := by
  unfold entryReport
  split
  next kind given =>
    have key := (keyword_key given).1
    rcases record.keywords _ (List.mem_map_of_mem member) kind given with rfl | rfl | rfl | rfl
    · exact absurd key notType
    · exact absurd key notProperties
    · exact absurd key notRequired
    · cases data with
      | atom a => cases a with
        | text s => simp only [keyword, top.formats, Bool.false_and, Bool.false_eq_true, if_false]
        | _ => rfl
      | _ => rfl
  next => rfl

/-- At the top of a record's schema, a check of what is no object finds that alone. -/
theorem IsRecord.check_other (record : IsRecord fields) (top : context.IsTop) (plain : ¬ IsObject data) :
    checkLevel check .draft4 context (.obj fields) data = typeKeyword check context (.text "object") data := by
  have reading : reportAt (entryReport check context fields data) fields (.text "type") =
      typeKeyword check context (.text "object") data := by
    rw [reportAt, record.type]
    rfl
  rw [checkLevel_object top.draft, record.shown, Context.each, top.throughout, ← reading]
  refine each_of_one record.distinct fun f member notType => ?_
  by_cases propertiesKey : f.1 = .text "properties"
  · obtain ⟨key, v⟩ := f
    obtain rfl : key = .text "properties" := propertiesKey
    cases data with
    | obj entries => exact absurd ⟨entries, rfl⟩ plain
    | _ => rfl
  by_cases requiredKey : f.1 = .text "required"
  · obtain ⟨key, v⟩ := f
    obtain rfl : key = .text "required" := requiredKey
    cases data with
    | obj entries => exact absurd ⟨entries, rfl⟩ plain
    | _ => rfl
  exact entryReport_silent record top member notType propertiesKey requiredKey

/-- The properties that a schema maps to schemas. -/
def propertiesIn (fields : List (Atom × Value)) : List (Atom × Value) :=
  match fields.lookup (.text "properties") with
  | some (.obj properties) => properties
  | _ => []

theorem IsRecord.apart (record : IsRecord fields) :
    (Entries.keys (propertiesIn fields)).Pairwise fun a b => a.sameKey b = false := by
  unfold propertiesIn
  split
  next given => exact record.properties _ given
  next => exact .nil

/-- The names that a schema requires. -/
def requiredIn (fields : List (Atom × Value)) : List Value :=
  match fields.lookup (.text "required") with
  | some (.list names) => names
  | _ => []

/-- Whether the properties and required names of a schema, if it has any, are such. -/
structure HasParts (fields : List (Atom × Value)) : Prop where
  properties : ∀ v, fields.lookup (.text "properties") = some v → v = .obj (propertiesIn fields)
  required : ∀ v, fields.lookup (.text "required") = some v → v = .list (requiredIn fields)

private theorem type_silent (top : context.IsTop) (entries : List (Atom × Value)) :
    typeKeyword check context (.text "object") (.obj entries) = .ok := by
  have named : hasNamedType context (.obj entries) (.text "object") = .ok true := by
    rw [hasNamedType, top.draft]
    rfl
  rw [typeKeyword, top.draft]
  simp [typeNames, anyHolds, named, bind, Except.bind, pure, Except.pure, Report.attempt, Report.test]

variable (check) in
/-- At the top of a record's schema, a check of an object tells of the properties and of the
required names, in the order of the schema. -/
theorem IsRecord.check_object (record : IsRecord fields) (parts : HasParts fields) (top : context.IsTop)
    (entries : List (Atom × Value)) :
    checkLevel check .draft4 context (.obj fields) (.obj entries) =
        (Schema.properties check context (.obj (propertiesIn fields)) entries).andThen
          (Schema.required context (.list (requiredIn fields)) (.obj entries)) ∨
      checkLevel check .draft4 context (.obj fields) (.obj entries) =
        (Schema.required context (.list (requiredIn fields)) (.obj entries)).andThen
          (Schema.properties check context (.obj (propertiesIn fields)) entries) := by
  have ofProperties : reportAt (entryReport check context fields (.obj entries)) fields (.text "properties") =
      Schema.properties check context (.obj (propertiesIn fields)) entries := by
    cases given : fields.lookup (.text "properties") with
    | none =>
      have nothing : propertiesIn fields = [] := by simp only [propertiesIn, given]
      rw [reportAt, nothing, given]
      rfl
    | some v =>
      have shape := parts.properties v given
      rw [reportAt, given, shape]
      rfl
  have ofRequired : reportAt (entryReport check context fields (.obj entries)) fields (.text "required") =
      Schema.required context (.list (requiredIn fields)) (.obj entries) := by
    cases given : fields.lookup (.text "required") with
    | none =>
      have nothing : requiredIn fields = [] := by simp only [requiredIn, given]
      rw [reportAt, nothing, given]
      rfl
    | some v =>
      have shape := parts.required v given
      rw [reportAt, given, shape]
      rfl
  rw [checkLevel_object top.draft, record.shown, Context.each, top.throughout, ← ofProperties, ← ofRequired]
  have apart : Atom.text "properties" ≠ .text "required" := by decide
  refine each_of_two apart record.distinct fun f member notProperties notRequired => ?_
  by_cases typeKey : f.1 = .text "type"
  · obtain ⟨key, v⟩ := f
    obtain rfl : key = .text "type" := typeKey
    obtain rfl : v = .text "object" := by
      have found := Entries.lookup_eq_some_of_mem record.distinct member
      rw [record.type] at found
      exact (Option.some.inj found).symm
    exact type_silent top entries
  · exact entryReport_silent record top member typeKey notProperties notRequired

end Top

/-! ### Required names -/

/-- A required name that an object lacks is told in full. -/
private theorem issueOf_required (names : List String) (entries : List (Atom × Value)) (name : Value) :
    ∃ issue, Body.issueOf ⟨[], .required name (.list (names.map .text)) (.obj entries)⟩ = .ok issue := by
  have kept (names : List String) : ∃ lacking : List String,
      missingNames (names.map .text) (.obj entries) = .ok (lacking.map .text) := by
    induction names with
    | nil => exact ⟨[], rfl⟩
    | cons first rest ih =>
      obtain ⟨lacking, ok⟩ := ih
      rw [missingNames] at ok
      rw [missingNames, List.map_cons, filterM_cons, ok]
      cases found : (entryOf? entries (.text first)).isSome with
      | true => exact ⟨lacking, by simp [Value.holds, found, bind, Except.bind, pure, Except.pure]⟩
      | false => exact ⟨first :: lacking, by simp [Value.holds, found, bind, Except.bind, pure, Except.pure]⟩
  have worded (lacking : List String) : ∃ message, missingMessage (lacking.map .text) = .ok message := by
    have texts : (lacking.map Value.text).mapM textOf = .ok lacking := by
      induction lacking with
      | nil => rfl
      | cons first rest ih =>
        rw [List.map_cons, List.mapM_cons, ih]
        rfl
    unfold missingMessage
    split
    · exact ⟨_, rfl⟩
    · rw [texts]
      exact ⟨_, rfl⟩
  obtain ⟨lacking, ok⟩ := kept names
  obtain ⟨message, told⟩ := worded lacking
  refine ⟨⟨message, Pointer.text []⟩, ?_⟩
  simp only [Body.issueOf, Cause.message, Value.members, bind, Except.bind, ok, told, pure, Except.pure]

/-- Whether a violation is that an object lacks one of some required names. -/
def IsLack (names : List String) (entries : List (Atom × Value)) (v : Violation) : Prop :=
  ∃ name, v = ⟨[], .required name (.list (names.map .text)) (.obj entries)⟩

private theorem required_lacks {context : Context} (top : context.IsTop) (names : List String)
    (entries : List (Atom × Value)) :
    (required context (.list (names.map .text)) (.obj entries)).fault = none ∧
      (required context (.list (names.map .text)) (.obj entries)).All (IsLack names entries) := by
  have each (some_ : List String) : let report := Report.each false (fun name => .attempt ((Value.obj entries).holds name)
      fun found => .test found (.required name (.list (names.map .text)) (.obj entries))) (some_.map Value.text)
      report.fault = none ∧ report.All (IsLack names entries) := by
    induction some_ with
    | nil => exact ⟨rfl, Report.All.ok⟩
    | cons first rest ih =>
      obtain ⟨faultless, lacks⟩ := ih
      rw [List.map_cons, Report.each]
      cases found : (entryOf? entries (.text first)).isSome with
      | true =>
        simp only [Value.holds, found, Report.attempt, Report.test, if_true, Report.ok, Option.isSome_none,
          Bool.false_and, Bool.or_false, Bool.false_eq_true, if_false, List.nil_append]
        exact ⟨faultless, lacks⟩
      | false =>
        have shown : (Cause.required (.text first) (.list (names.map .text)) (.obj entries)).shown.all Value.isShowable =
            true := rfl
        simp only [Value.holds, found, Report.attempt, Report.test, Report.violation, shown, if_true, Option.isSome_none,
          Bool.false_and, Bool.or_false, Bool.false_eq_true, if_false, List.singleton_append]
        refine ⟨faultless, fun v member => ?_⟩
        rcases List.mem_cons.1 member with rfl | later
        · exact ⟨_, rfl⟩
        · exact lacks v later
  have whole : required context (.list (names.map .text)) (.obj entries) = Report.each context.firstOnly
      (fun name => .attempt ((Value.obj entries).holds name) fun found =>
        .test found (.required name (.list (names.map .text)) (.obj entries))) (names.map Value.text) := rfl
  rw [whole, top.throughout]
  exact each names

end Schema

namespace Body

/-- The issues of a report. -/
def issuesOf (report : Report) : Except Fault (List Issue) := do
  let issues ← issuesAfter [] report.violations
  match report.fault with
  | some fault => throw fault
  | none => return issues

theorem issues_eq (schema data : Value) : issues schema data = issuesOf (Schema.check schema data) := rfl

/-- The places of missing properties. -/
def missingPlaces (violations : List Violation) : List String :=
  (violations.filter fun v => isMissing v.cause).map fun v => Pointer.text v.path

private theorem missingPlaces_cons {v : Violation} {rest : List Violation} (missing : isMissing v.cause = true) :
    missingPlaces (v :: rest) = Pointer.text v.path :: missingPlaces rest := by
  simp [missingPlaces, missing]

private theorem missingPlaces_cons_other {v : Violation} {rest : List Violation} (other : isMissing v.cause = false) :
    missingPlaces (v :: rest) = missingPlaces rest := by
  simp [missingPlaces, other]

/-- Of the places that were reported before, only those of missing properties matter. -/
theorem issuesAfter_congr {violations : List Violation} : ∀ {reported others : List String},
    (∀ place ∈ missingPlaces violations, place ∈ reported ↔ place ∈ others) →
      issuesAfter reported violations = issuesAfter others violations := by
  induction violations with
  | nil => exact fun _ => rfl
  | cons v rest ih =>
    intro reported others same
    cases missing : isMissing v.cause with
    | false =>
      rw [missingPlaces_cons_other missing] at same
      have tail := ih same
      simp only [issuesAfter, missing, Bool.false_eq_true, if_false, tail]
    | true =>
      rw [missingPlaces_cons missing] at same
      have here := same _ List.mem_cons_self
      have later (place : String) (member : place ∈ missingPlaces rest) := same place (List.mem_cons_of_mem _ member)
      have known : reported.contains (Pointer.text v.path) = others.contains (Pointer.text v.path) := by
        rw [Bool.eq_iff_iff, List.contains_iff_mem, List.contains_iff_mem]
        exact here
      have skipped := ih later
      have told : issuesAfter (Pointer.text v.path :: reported) rest = issuesAfter (Pointer.text v.path :: others) rest :=
        ih fun place member => by simp only [List.mem_cons, later place member]
      simp only [issuesAfter, missing, if_true, known, skipped, told]

/-- Issues are told part by part; what the first part reports counts for the second. -/
theorem issuesAfter_append {first second : List Violation} : ∀ {reported : List String},
    issuesAfter reported (first ++ second) = do
      let told ← issuesAfter reported first
      let more ← issuesAfter (missingPlaces first ++ reported) second
      return told ++ more := by
  induction first with
  | nil =>
    intro reported
    have nothing : issuesAfter reported [] = pure [] := rfl
    rw [nothing, pure_bind]
    simp [missingPlaces]
  | cons v rest ih =>
    intro reported
    cases missing : isMissing v.cause with
    | false =>
      have places : missingPlaces (v :: rest) = missingPlaces rest := missingPlaces_cons_other missing
      simp only [List.cons_append, issuesAfter, missing, Bool.false_eq_true, if_false, ih, places, bind_assoc, pure_bind]
    | true =>
      have places : missingPlaces (v :: rest) = Pointer.text v.path :: missingPlaces rest := missingPlaces_cons missing
      by_cases known : reported.contains (Pointer.text v.path) = true
      · have again : issuesAfter (Pointer.text v.path :: (missingPlaces rest ++ reported)) second =
            issuesAfter (missingPlaces rest ++ reported) second := by
          refine issuesAfter_congr fun place _ => ?_
          have old : Pointer.text v.path ∈ reported := by simpa using known
          constructor
          · rintro member
            rcases List.mem_cons.1 member with rfl | other
            · exact List.mem_append_right _ old
            · exact other
          · exact List.mem_cons_of_mem _
        simp only [List.cons_append, issuesAfter, missing, known, if_true, ih, places, again]
      · have again : issuesAfter (missingPlaces rest ++ Pointer.text v.path :: reported) second =
            issuesAfter (Pointer.text v.path :: (missingPlaces rest ++ reported)) second := by
          refine issuesAfter_congr fun place _ => ?_
          simp only [List.mem_append, List.mem_cons]
          exact or_left_comm
        simp only [List.cons_append, issuesAfter, missing, known, if_true, if_false, ih, places, again, bind_assoc, pure_bind,
          Bool.false_eq_true]

section Order

variable {names : List String} {entries : List (Atom × Value)}

private theorem issuesAfter_lacks {violations : List Violation} : (∀ v ∈ violations, IsLack names entries v) →
    ∀ reported, ∃ told, issuesAfter reported violations = .ok told := by
  induction violations with
  | nil => exact fun _ _ => ⟨[], rfl⟩
  | cons v rest ih =>
    intro lacks reported
    obtain ⟨name, rfl⟩ := lacks v List.mem_cons_self
    obtain ⟨issue, told⟩ := issueOf_required names entries name
    have later := ih fun w member => lacks w (List.mem_cons_of_mem _ member)
    by_cases known : reported.contains (Pointer.text []) = true
    · obtain ⟨more, rest_⟩ := later reported
      exact ⟨more, by simp only [issuesAfter, isMissing, known, if_true, rest_]⟩
    · obtain ⟨more, rest_⟩ := later (Pointer.text [] :: reported)
      exact ⟨issue :: more, by simp only [issuesAfter, isMissing, known, if_true, told, rest_]; rfl⟩

private theorem top_of_lacks {violations : List Violation} (lacks : ∀ v ∈ violations, IsLack names entries v) :
    ∀ place ∈ missingPlaces violations, place = Pointer.text [] := by
  intro place member
  obtain ⟨v, inside, rfl⟩ := List.mem_map.1 member
  obtain ⟨name, rfl⟩ := lacks v (List.mem_of_mem_filter inside)
  rfl

private theorem below_of_inner {violations : List Violation} (inner : ∀ v ∈ violations, v.IsInner) :
    Pointer.text [] ∉ missingPlaces violations := by
  intro member
  obtain ⟨v, inside, place⟩ := List.mem_map.1 member
  obtain ⟨inside, missing⟩ := List.mem_filter.1 inside
  have whole : v.path = [] := by
    have steps := Pointer.stepTexts_of_text place
    exact List.map_eq_nil_iff.1 steps
  cases cause : v.cause with
  | required name names found => exact inner v inside whole name names found cause
  | _ => simp [cause, isMissing] at missing

/-- What is missing at the top and what is wrong below are told alike in either order. -/
theorem issuesOf_swap {below top : Report} (inner : below.All Violation.IsInner)
    (faultless : top.fault = none) (lacks : top.All (IsLack names entries)) :
    (issuesOf (below.andThen top)).map Multiset.ofList = (issuesOf (top.andThen below)).map Multiset.ofList := by
  obtain ⟨lacking, told⟩ := issuesAfter_lacks lacks []
  have places := top_of_lacks lacks
  have apart := below_of_inner inner
  have topLater : issuesAfter (missingPlaces below.violations) top.violations = .ok lacking := by
    rw [← told]
    refine issuesAfter_congr fun place member => ?_
    rw [places place member]
    simp [apart]
  have belowLater : issuesAfter (missingPlaces top.violations) below.violations = issuesAfter [] below.violations := by
    refine issuesAfter_congr fun place member => ?_
    simp only [List.not_mem_nil, iff_false]
    intro there
    exact apart (places place there ▸ member)
  cases faulty : below.fault with
  | some fault =>
    rw [Report.andThen_of_fault faulty, Report.andThen_of_faultless faultless, issuesOf, issuesOf, faulty,
      issuesAfter_append, told, List.append_nil, belowLater]
    cases issuesAfter [] below.violations <;> rfl
  | none =>
    rw [Report.andThen_of_faultless faulty, Report.andThen_of_faultless faultless, issuesOf, issuesOf, faultless, faulty,
      issuesAfter_append, issuesAfter_append, told, List.append_nil, List.append_nil, topLater, belowLater]
    cases issuesAfter [] below.violations with
    | error fault => rfl
    | ok more => exact congrArg Except.ok (Multiset.coe_eq_coe.2 List.perm_append_comm)

/-- Two reports on the same parts, each in either order, are told alike. -/
theorem issuesOf_alike {below top report other : Report} (inner : below.All Violation.IsInner)
    (faultless : top.fault = none) (lacks : top.All (IsLack names entries))
    (first : report = below.andThen top ∨ report = top.andThen below)
    (second : other = below.andThen top ∨ other = top.andThen below) :
    (issuesOf report).map Multiset.ofList = (issuesOf other).map Multiset.ofList := by
  have swap := issuesOf_swap inner faultless lacks
  rcases first with rfl | rfl <;> rcases second with rfl | rfl
  · rfl
  · exact swap
  · exact swap.symm
  · rfl

end Order

/-! ### Two records -/

theorem reached_propertiesIn {fields : List (Atom × Value)} (record : IsRecord fields) {part : Value}
    (member : part ∈ mapped (.obj (propertiesIn fields))) : Reached (.obj fields) part := by
  have given : fields.lookup (.text "properties") = some (.obj (propertiesIn fields)) := by
    unfold propertiesIn at member ⊢
    split at member
    next properties given => rw [given]
    next => cases member
  exact .inside .root record.shown
    (mem_schemasInside.2 ⟨.properties, _, Entries.mem_of_lookup_eq_some given, rfl, member⟩)

/-- Records with the same properties and required names, in roots that share their definitions,
give the same issues of all data, in some order. -/
theorem issues_of_records {fields others : List (Atom × Value)} {names : List String}
    (sharing : Sharing (.obj fields) (.obj others)) (record : IsRecord fields) (record' : IsRecord others)
    (parts : HasParts fields) (parts' : HasParts others) (properties : propertiesIn others = propertiesIn fields)
    (required : requiredIn fields = names.map .text) (required' : requiredIn others = names.map .text) (data : Value) :
    (issues (.obj fields) data).map Multiset.ofList = (issues (.obj others) data).map Multiset.ofList := by
  rw [issues_eq, issues_eq, record.check_eq, record'.check_eq]
  generalize nestingLimit = levels
  cases levels with
  | zero => rw [checkWithin]
  | succ levels =>
    have alike : Alike (checkWithin levels) (fun part => Reached (.obj fields) part ∧ Reached (.obj others) part)
        (rootContext (.obj fields)) (rootContext (.obj others)) :=
      sharing.alike (checkWithin_same sharing levels) ⟨rfl, rfl⟩ ⟨rfl, rfl⟩ rfl rfl
    have top := isTop_rootContext
    rw [checkWithin]
    by_cases object : IsObject data
    · obtain ⟨entries, rfl⟩ := object
      have below := alike.properties (fun part member => ⟨reached_propertiesIn record member,
        reached_propertiesIn record' (properties ▸ member)⟩) entries
      have inner := properties_inner (checkWithin levels) (top (.obj fields)).draft (.obj (propertiesIn fields)) entries
      obtain ⟨faultless, lacks⟩ := required_lacks (top (.obj fields)) names entries
      have first := record.check_object (checkWithin levels) parts (top (.obj fields)) entries
      have second := record'.check_object (checkWithin levels) parts' (top (.obj others)) entries
      rw [required] at first
      have needs := alike.required (.list (names.map .text)) (.obj entries)
      rw [required', properties, ← below, ← needs] at second
      exact issuesOf_alike inner faultless lacks first second
    · have types := alike.type (.text "object") data
      rw [record.check_other (top _) object, record'.check_other (top _) object, types]

end Body
end SwaggerGate
