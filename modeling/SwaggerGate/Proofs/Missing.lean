import SwaggerGate.Proofs.References
import SwaggerGate.Proofs.Schema.Lacking

/-! What a body validation says about missing properties. Of all that a check reports at one
pointer, only the first list of required names is told, and its issue names all that the
object lacks of this list. -/
namespace SwaggerGate

open Schema

namespace Schema

theorem mem_missingNames {names lacking : List Value} {object : Value} (ok : missingNames names object = .ok lacking)
    (name : Value) : name ∈ lacking ↔ name ∈ names ∧ object.holds name = .ok false := by
  rw [mem_of_filterM ok]
  apply and_congr_right
  intro _
  cases object.holds name with
  | error fault => exact iff_of_false nofun nofun
  | ok found => cases found <;> simp [bind, Except.bind, pure, Except.pure]

/-- Whether a violation, if it is about a missing property, is about one of a part. -/
def Violation.IsInner (v : Violation) : Prop := v.path = [] → ∀ name names found, v.cause ≠ .required name names found

private theorem descendInto_inner (check : Checker) (context : Context) (step : Step) (schema part : Value) :
    (descendInto check context step schema part).All Violation.IsInner := by
  unfold descendInto
  split
  next b =>
    rw [descend_bool]
    exact Report.All.test fun _ _ _ _ _ => nofun
  next =>
    apply Report.All.under
    intro v _ whole
    cases whole

theorem properties_inner (check : Checker) {context : Context} (draft : context.dialect = .draft4)
    (argument : Value) (entries : List (Atom × Value)) :
    (properties check context argument entries).All Violation.IsInner := by
  apply Report.All.attempt
  intro schemas _
  apply Report.All.each
  intro entry _
  dsimp only
  split
  · exact descendInto_inner _ _ _ _ _
  · rw [if_neg (by rw [draft]; nofun)]
    exact Report.All.ok

private theorem required_lists (context : Context) (argument data : Value) : (required context argument data).All fun v =>
    ∀ name names found, v.cause = .required name names found → names = argument := by
  apply Report.All.attempt
  intro names _
  apply Report.All.each
  intro name _
  apply Report.All.attempt
  intro found _
  apply Report.All.test
  rintro _ _ _ _ ⟨⟩
  rfl

/-- At its top, a check by an object schema misses names of one list only. -/
theorem objectSchema_lists (properties : List (Atom × Value)) (required : List Value) (bodies : List (String × Value))
    (data : Value) : (Schema.check (Compile.objectSchema properties required bodies) data).All fun v =>
      v.path = [] → ∀ name names found, v.cause = .required name names found → names = .list required := by
  rw [Compile.objectSchema_eq]
  apply Report.All.attempt
  intro scope _
  generalize nestingLimit = levels
  cases levels with
  | zero => exact Report.All.stop _
  | succ levels =>
    have shown : shownRef? (Compile.objectFields properties required bodies) = none := by
      unfold Compile.objectFields
      by_cases required.isEmpty <;> by_cases bodies.isEmpty <;>
        simp [*, shownRef?, argument?, Entries.lookup_cons_if]
    rw [checkWithin, checkLevel_object rfl, shown]
    apply Report.All.each
    intro f member
    -- the type, the properties, the required names, and the kept schemas, which no keyword reads
    rcases Compile.mem_objectFields member with rfl | rfl | rfl | other
    · refine Report.All.attempt fun _ _ => Report.All.test fun _ _ _ _ _ impossible => ?_
      cases impossible
    · cases data with
      | obj entries =>
        exact (properties_inner _ rfl _ entries).mono fun v inner top name names found cause =>
          absurd cause (inner top name names found)
      | _ => exact Report.All.ok
    · cases data with
      | obj entries => exact (required_lists _ _ _).mono fun v lists _ => lists
      | _ => exact Report.All.ok
    · have unknown : keywordOf? .draft4 f.1 = none := by
        rw [other]
        rfl
      rw [unknown]
      exact Report.All.ok

end Schema

namespace Body

/-- The first of the violations at a place that are about a missing property. -/
def firstMissing? (place : String) (violations : List Violation) : Option Violation :=
  violations.find? fun v => isMissing v.cause && Pointer.text v.path == place

/-- Whether an issue at a place names exactly those of the names that an object lacks. -/
def Reports (issues : List Issue) (place : String) (names object : Value) : Prop :=
  ∃ members lacking message, names.members = .ok members ∧ missingMessage lacking = .ok message ∧
    ⟨message, place⟩ ∈ issues ∧ ∀ name, name ∈ lacking ↔ name ∈ members ∧ object.holds name = .ok false

/-- Whether an issue at a place names a property among the missing ones. -/
def Named (issues : List Issue) (place : String) (name : Value) : Prop :=
  ∃ lacking message, name ∈ lacking ∧ missingMessage lacking = .ok message ∧ ⟨message, place⟩ ∈ issues

/-- A violation is passed over if it is about a missing property at a place reported already; all
others are told. -/
theorem issuesAfter_cons {v : Violation} {rest : List Violation} {reported : List String} {issues : List Issue}
    (ok : issuesAfter reported (v :: rest) = .ok issues) :
    (isMissing v.cause = true ∧ Pointer.text v.path ∈ reported ∧ issuesAfter reported rest = .ok issues) ∨
      ∃ issue others, issueOf v = .ok issue ∧ issues = issue :: others ∧
        issuesAfter (if isMissing v.cause then Pointer.text v.path :: reported else reported) rest = .ok others := by
  have told {later : List String} (ok : (do return (← issueOf v) :: (← issuesAfter later rest)) = .ok issues) :
      ∃ issue others, issueOf v = .ok issue ∧ issues = issue :: others ∧ issuesAfter later rest = .ok others := by
    obtain ⟨issue, here, ok⟩ := bind_eq_ok.1 ok
    obtain ⟨others, below, ok⟩ := bind_eq_ok.1 ok
    cases ok
    exact ⟨issue, others, here, rfl, below⟩
  rw [issuesAfter] at ok
  split at ok
  next missing =>
    rw [if_pos missing]
    split at ok
    next known => exact .inl ⟨missing, List.contains_iff_mem.1 known, ok⟩
    next => exact .inr (told ok)
  next present =>
    rw [if_neg present]
    exact .inr (told ok)

theorem issue_of_firstMissing {violations : List Violation} {reported : List String} {issues : List Issue}
    {place : String} {first : Violation} (ok : issuesAfter reported violations = .ok issues)
    (fresh : place ∉ reported) (found : firstMissing? place violations = some first) :
    ∃ issue ∈ issues, issueOf first = .ok issue := by
  -- the violations passed over leave the place unreported, so its first one is not skipped
  induction violations generalizing reported issues with
  | nil => cases found
  | cons v rest ih =>
    rw [firstMissing?, List.find?_cons] at found
    obtain ⟨-, known, ok⟩ | ⟨issue, others, told, rfl, later⟩ := issuesAfter_cons ok
    · have other : (Pointer.text v.path == place) = false := by
        rw [beq_eq_false_iff_ne]
        rintro rfl
        exact fresh known
      rw [other, Bool.and_false] at found
      exact ih ok fresh found
    · split at found
      next =>
        cases found
        exact ⟨issue, List.mem_cons_self, told⟩
      next other =>
        have fresh : place ∉ if isMissing v.cause then Pointer.text v.path :: reported else reported := by
          split
          next missing =>
            rw [List.mem_cons, not_or]
            refine ⟨?_, fresh⟩
            rintro rfl
            simp [missing] at other
          next => exact fresh
        obtain ⟨issue, inside, told⟩ := ih later fresh found
        exact ⟨issue, List.mem_cons_of_mem _ inside, told⟩

theorem firstMissing?_eq_some {violations : List Violation} {place : String} {first : Violation}
    (found : firstMissing? place violations = some first) :
    first ∈ violations ∧ isMissing first.cause = true ∧ Pointer.text first.path = place := by
  have fits := List.find?_some found
  rw [Bool.and_eq_true, beq_iff_eq] at fits
  exact ⟨List.mem_of_find?_eq_some found, fits.1, fits.2⟩

theorem firstMissing?_of_mem {violations : List Violation} {v : Violation} (member : v ∈ violations)
    {name names found : Value} (cause : v.cause = .required name names found) :
    ∃ first, firstMissing? (Pointer.text v.path) violations = some first := by
  apply Option.isSome_iff_exists.1
  rw [firstMissing?, List.find?_isSome]
  exact ⟨v, member, by simp [cause, isMissing]⟩

/-- The issue of the first missing property at a place names exactly what the object lacks of
the list that misses it. -/
theorem reports_first {violations : List Violation} {issues : List Issue} {place : String} {first : Violation}
    (ok : issuesAfter [] violations = .ok issues) (found : firstMissing? place violations = some first) :
    ∃ name names object, first.cause = .required name names object ∧ Reports issues place names object := by
  obtain ⟨issue, inside, told⟩ := issue_of_firstMissing ok List.not_mem_nil found
  obtain ⟨-, missing, rfl⟩ := firstMissing?_eq_some found
  obtain ⟨message, worded, same⟩ := bind_eq_ok.1 told
  cases same
  cases cause : first.cause with
  | required name names object =>
    rw [cause, Cause.message] at worded
    obtain ⟨members, given, worded⟩ := bind_eq_ok.1 worded
    obtain ⟨lacking, lacks, worded⟩ := bind_eq_ok.1 worded
    exact ⟨name, names, object, rfl, members, lacking, message, given, worded, inside, mem_missingNames lacks⟩
  | _ =>
    rw [cause] at missing
    cases missing

theorem issuesAfter_of_issues {schema data : Value} {issues : List Issue} (ok : Body.issues schema data = .ok issues) :
    issuesAfter [] (Schema.check schema data).violations = .ok issues := by
  obtain ⟨all, told, done⟩ := bind_eq_ok.1 ok
  split at done
  · cases done
  · cases done
    exact told

theorem Reports.named {issues : List Issue} {place : String} {names object name : Value} {members : List Value}
    (reports : Reports issues place names object) (given : names.members = .ok members) (listed : name ∈ members)
    (absent : object.holds name = .ok false) : Named issues place name := by
  obtain ⟨others, lacking, message, given', worded, inside, exactly⟩ := reports
  obtain rfl := Except.ok.inj (given.symm.trans given')
  exact ⟨lacking, message, (exactly name).2 ⟨listed, absent⟩, worded, inside⟩

/-- At the top of an object schema, nothing missing goes unnamed. -/
theorem named_at_top {properties : List (Atom × Value)} {required : List Value} {bodies : List (String × Value)}
    {data : Value} {issues : List Issue}
    (ok : Body.issues (Compile.objectSchema properties required bodies) data = .ok issues) {v : Violation}
    (member : v ∈ (Schema.check (Compile.objectSchema properties required bodies) data).violations)
    {name names found : Value} (cause : v.cause = .required name names found) (top : v.path = []) :
    Named issues "#" name := by
  have lists := objectSchema_lists properties required bodies data
  have founded := check_founded (Compile.objectSchema properties required bodies) data
  obtain ⟨first, chosen⟩ := firstMissing?_of_mem member cause
  obtain ⟨member', -, place⟩ := firstMissing?_eq_some chosen
  obtain ⟨other, list, object, cause', reports⟩ := reports_first (issuesAfter_of_issues ok) chosen
  -- what has the pointer of the whole is about the whole
  have top' : first.path = [] := by
    have steps := Pointer.stepTexts_of_text place
    rw [top] at steps
    exact List.map_eq_nil_iff.1 steps
  have lacks := founded v member name names found cause
  obtain ⟨rfl, members, given, listed⟩ := lacks.whole top
  obtain ⟨rfl, -⟩ := (founded first member' other list object cause').whole top'
  rw [lists v member top name names _ cause] at given
  rw [lists first member' top' other list _ cause', top] at reports
  exact reports.named given listed lacks.holds

/-- What the issues of JSON data say of a property that the check misses. The property is missing
from an object; the first list of names that the object violates is told at its pointer, with
all that the object lacks of it, so that the property is named if that list has it. At the top
of a compiled body or payload every missing property is named. -/
theorem issues_of_missing_property {schema data : Value} {issues : List Issue} (json : data.isJson = true)
    (ok : Body.issues schema data = .ok issues) {v : Violation} (member : v ∈ (Schema.check schema data).violations)
    {name names found : Value} (cause : v.cause = .required name names found) :
    Lacks data v.path name names found ∧
    (∃ first other list object, firstMissing? (Pointer.text v.path) (Schema.check schema data).violations = some first ∧
      first.cause = .required other list object ∧ Reports issues (Pointer.text v.path) list object ∧
      (Locates data v.path found → Locates data first.path object → object = found ∧
        ∀ members, list.members = .ok members → name ∈ members → Named issues (Pointer.text v.path) name)) ∧
    (∀ documents registry o, Compile.registry documents = .ok registry → o ∈ registry.operations →
      schema = o.bodySchema ∨ schema = o.payloadSchema → v.path = [] → Named issues "#" name) := by
  have lacks := check_founded schema data v member name names found cause
  refine ⟨lacks, ?_, ?_⟩
  · obtain ⟨first, chosen⟩ := firstMissing?_of_mem member cause
    obtain ⟨-, -, place⟩ := firstMissing?_eq_some chosen
    obtain ⟨other, list, object, cause', reports⟩ := reports_first (issuesAfter_of_issues ok) chosen
    refine ⟨first, other, list, object, chosen, cause', reports, fun here there => ?_⟩
    obtain rfl : object = found := there.unique json here (Pointer.stepTexts_of_text place)
    exact ⟨rfl, fun members given listed => reports.named given listed lacks.holds⟩
  · intro documents registry o accepted inside compiled top
    obtain ⟨task, -, parameters, -, operation⟩ := operation_of_registry accepted inside
    obtain ⟨draft, bodies, -, -, -, -, body, payload, -⟩ := Compile.operation_schemas operation
    rcases compiled with rfl | rfl
    · rw [body] at ok member
      exact named_at_top ok member cause top
    · rw [payload] at ok member
      exact named_at_top ok member cause top

/-- One list of two names inside a property: both are told. -/
theorem issues_of_missing_property_listed :
    let schema : Value := .record [("properties", .record [("p", .record [("required", .texts ["a", "b"])])])]
    let data : Value := .record [("p", .record [])]
    Body.issues schema data = .ok [⟨"Required properties a, b were not present.", "#/p"⟩] ∧
      Named [⟨"Required properties a, b were not present.", "#/p"⟩] "#/p" (.text "b") := by
  intro schema data
  let violation (name : String) : Violation := ⟨[.key "p"], .required (.text name) (.texts ["a", "b"]) (.obj [])⟩
  have violated : (Schema.check schema data).violations = [violation "a", violation "b"] := by decide +kernel
  have told : Body.issues schema data = .ok [⟨"Required properties a, b were not present.", "#/p"⟩] := by
    decide +kernel
  have member : violation "b" ∈ (Schema.check schema data).violations := by
    rw [violated]
    exact List.mem_cons_of_mem _ List.mem_cons_self
  obtain ⟨-, ⟨first, other, list, object, chosen, cause, -, named⟩, -⟩ :=
    issues_of_missing_property (by decide) told member rfl
  obtain rfl : violation "a" = first := by
    rw [violated] at chosen
    exact Option.some.inj chosen
  cases cause
  have here : Locates data [.key "p"] (.obj []) := .entry (.head _) (.inl rfl) (.here _)
  exact ⟨told, (named here here).2 _ rfl (.tail _ (.head _))⟩

/-- A description of a body with a property whose two parts require a name each. -/
def requiringTwice : Value :=
  let requiring (name : String) : Value := .record [("required", .texts [name])]
  let part : Value := .record [("allOf", .list [requiring "a", requiring "b"])]
  let body : Value := .record
    [("name", .text "body"), ("in", .text "body"), ("schema", .record [("properties", .record [("p", part)])])]
  .record [("paths", .record [("/x", .record [("post", .record [("parameters", .list [body])])])])]

theorem not_named_of_other {place : String} :
    ¬ Named [⟨"Required property a was not present.", place⟩] place (.text "b") := by
  rintro ⟨lacking, message, listed, worded, inside⟩
  cases List.mem_singleton.1 inside
  match lacking with
  | [name] =>
    obtain rfl := List.mem_singleton.1 listed
    exact absurd worded (by decide)
  | first :: second :: more =>
    -- the message of several names is in the plural
    obtain ⟨names, -, worded⟩ := bind_eq_ok.1 worded
    have start := congrArg (fun s : String => s.toList.take 18) (Except.ok.inj worded)
    simp [String.toList_append] at start

/-- Two lists require a name of one object each, and the second name is lost. -/
theorem second_list_lost : ∃ registry o, Source.registry ⟨fun _ => none⟩ [.data requiringTwice] = .ok registry ∧
    o ∈ registry.operations ∧
    ⟨[.key "p"], .required (.text "b") (.texts ["b"]) (.obj [])⟩ ∈
      (Schema.check o.bodySchema (.record [("p", .record [])])).violations ∧
    Body.issues o.bodySchema (.record [("p", .record [])]) = .ok [⟨"Required property a was not present.", "#/p"⟩] ∧
    ¬ Named [⟨"Required property a was not present.", "#/p"⟩] "#/p" (.text "b") := by
  have found : (Source.registry ⟨fun _ => none⟩ [.data requiringTwice]).toOption.any (fun registry =>
      registry.operations.any fun o => decide (
        ⟨[.key "p"], .required (.text "b") (.texts ["b"]) (.obj [])⟩ ∈
          (Schema.check o.bodySchema (.record [("p", .record [])])).violations ∧
        Body.issues o.bodySchema (.record [("p", .record [])]) =
          .ok [⟨"Required property a was not present.", "#/p"⟩])) = true := by
    decide +kernel
  obtain ⟨registry, compiled, found⟩ := any_toOption_eq_true.1 found
  obtain ⟨o, inside, found⟩ := List.any_eq_true.1 found
  obtain ⟨violated, told⟩ := of_decide_eq_true found
  exact ⟨registry, o, compiled, inside, violated, told, not_named_of_other⟩

end Body
end SwaggerGate
