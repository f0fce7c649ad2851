import SwaggerGate.Proofs.Schema.Safe

/-! Findings of checks. What each keyword finds is found at the place of the data that it is
checked at, or at a part of it; so a property of findings that goes from parts to the whole holds
of all that a check finds. -/
namespace SwaggerGate.Schema

namespace Report

/-- Whether all violations of a report are of a kind. -/
def All (P : Violation → Prop) (r : Report) : Prop := ∀ v ∈ r.violations, P v

variable {P : Violation → Prop}

theorem All.ok : Report.ok.All P := nofun

theorem All.stop (fault : Fault) : (Report.stop fault).All P := nofun

theorem All.violation {cause : Cause} (right : P ⟨[], cause⟩) : (Report.violation cause).All P := by
  unfold Report.violation
  split
  · intro v member
    obtain rfl := List.mem_singleton.1 member
    exact right
  · exact All.stop _

theorem All.test {passed : Bool} {cause : Cause} (right : passed = false → P ⟨[], cause⟩) :
    (Report.test passed cause).All P := by
  cases passed with
  | true => exact All.ok
  | false => exact All.violation (right rfl)

theorem All.attempt {α : Type} {need : Except Fault α} {report : α → Report}
    (then_ : ∀ a, need = .ok a → (report a).All P) : (Report.attempt need report).All P := by
  cases need with
  | ok a => exact then_ a rfl
  | error fault => exact All.stop fault

theorem All.under {r : Report} {step : Step} (inside : r.All fun v => P { v with path := step :: v.path }) :
    (r.under step).All P := by
  intro v member
  obtain ⟨w, given, rfl⟩ := List.mem_map.1 member
  exact inside w given

theorem All.each {α : Type} {firstOnly : Bool} {report : α → Report} {items : List α}
    (each : ∀ x ∈ items, (report x).All P) : (Report.each firstOnly report items).All P := by
  induction items with
  | nil => exact All.ok
  | cons x rest ih =>
    have first := each x List.mem_cons_self
    rw [Report.each]
    split
    · exact first
    · intro v member
      rcases List.mem_append.1 member with early | late
      · exact first v early
      · exact ih (fun y inside => each y (List.mem_cons_of_mem _ inside)) v late

theorem All.mono {Q : Violation → Prop} {r : Report} (all : r.All P) (weaker : ∀ v, P v → Q v) : r.All Q :=
  fun v member => weaker v (all v member)

end Report

open Report

/-- Whether steps lead from data to a part of it. An entry of an object is reached by its key,
or by one that names the same entry. -/
inductive Locates : Value → List Step → Value → Prop where
  | here (v : Value) : Locates v [] v
  | item {items : List Value} {i : Nat} {part target : Value} {path : List Step} :
    items[i]? = some part → Locates part path target → Locates (.list items) (.index i :: path) target
  | entry {fields : List (Atom × Value)} {key name : Atom} {part target : Value} {path : List Step} :
    (key, part) ∈ fields → key = name ∨ key.sameKey name = true → Locates part path target →
      Locates (.obj fields) (keyStep name :: path) target

/-! ### Properties of findings -/

/-- Whether a cause is neither a type nor a missing property. -/
def Cause.isOther : Cause → Bool
  | .type .. | .required .. => false
  | _ => true

/-- Whether what keywords find at their own place has a property, which goes from the parts of data
to the whole. -/
structure IsLocal (P : Value → Violation → Prop) : Prop where
  part : ∀ {data part step v}, (∀ {path target}, Locates part path target → Locates data (step :: path) target) →
    P part v → P data { v with path := step :: v.path }
  type : ∀ expected data, P data ⟨[], .type expected data⟩
  required : ∀ {fields name names members}, (Value.obj fields).holds name = .ok false → names.members = .ok members →
    name ∈ members → P (.obj fields) ⟨[], .required name names (.obj fields)⟩
  other : ∀ {cause} data, cause.isOther = true → P data ⟨[], cause⟩

/-- What holds where a dialect may be another than draft 4: references lead anywhere, keys are
checked as data, and a property is required by a mark in its own schema. -/
structure IsWide (P : Value → Violation → Prop) (kind : Value → Prop) (check : Checker) (context : Context) : Prop where
  every : ∀ schema, kind schema
  checkIn : ∀ scope schema data, (Schema.checkIn check context scope schema data).All (P data)
  key : ∀ {fields : List (Atom × Value)} {f v}, f ∈ fields → P (.atom f.1) v → P (.obj fields) v
  marked : ∀ {fields name mark}, entryOf? fields name = none → mark.isTruthy = true →
    P (.obj fields) ⟨[.key "required"], .required (.atom name) mark (.obj fields)⟩

/-- Whether what a check by the schemas of a kind finds has a property. -/
structure Finds (P : Value → Violation → Prop) (kind : Value → Prop) (check : Checker) (context : Context) : Prop where
  own : IsLocal P
  wide : context.dialect ≠ .draft4 → IsWide P kind check context
  descend : ∀ schema data, kind schema → (Schema.descend check context schema data).All (P data)

section Keywords

variable {P : Value → Violation → Prop} {kind : Value → Prop} {check : Checker} {context : Context} {data : Value}

private theorem test_finds (own : IsLocal P) {passed : Bool} {cause : Cause} (other : cause.isOther = true) :
    (Report.test passed cause).All (P data) :=
  All.test fun _ => own.other data other

private theorem violation_finds (own : IsLocal P) {cause : Cause} (other : cause.isOther = true) :
    (Report.violation cause).All (P data) :=
  All.violation (own.other data other)

/-- A limit is violated by a number or a size. -/
private theorem limit_finds (own : IsLocal P) {need : Except Fault Number} {passed : Number → Bool} {cause : Cause}
    (other : cause.isOther = true) : (Report.attempt need fun limit => .test (passed limit) cause).All (P data) :=
  All.attempt fun _ _ => test_finds own other

private theorem number_finds {report : Number → Report} (each : ∀ n, (report n).All (P data)) :
    (match Number.ofValue? data with
      | some n => report n
      | none => Report.ok).All (P data) := by
  split
  · exact each _
  · exact All.ok

private theorem format_finds (own : IsLocal P) {read : Except Fault Pattern.Node} {checked : Bool} {cause : Cause}
    (other : cause.isOther = true) :
    (if checked then
      match read with
      | .error .badPattern => Report.violation cause
      | .error fault => .stop fault
      | .ok _ => .ok
    else .ok).All (P data) := by
  split
  · split
    · exact violation_finds own other
    · exact All.stop _
    · exact All.ok
  · exact All.ok

variable (finds : Finds P kind check context)
include finds

private theorem descendInto_finds {step : Step} {part schema : Value} (known : kind schema)
    (inside : ∀ {path : List Step} {target : Value}, Locates part path target → Locates data (step :: path) target) :
    (descendInto check context step schema part).All (P data) := by
  unfold descendInto
  split
  next b =>
    -- a schema that allows nothing is violated by the whole
    rw [descend_bool]
    exact test_finds finds.own rfl
  next =>
    apply All.under
    exact (finds.descend schema part known).mono fun v found => finds.own.part inside found

private theorem items_finds {schema : Value} (known : kind schema) {items : List Value} {places : List (Value × Nat)}
    (among : places ⊆ items.zipIdx) : (descendEach check context schema places).All (P (.list items)) := by
  apply All.each
  intro item member
  have found := List.mem_zipIdx_iff_getElem?.1 (among member)
  exact descendInto_finds finds known (.item found)

private theorem tuple_finds {schemas : List Value} (known : ∀ schema ∈ schemas, kind schema) (items : List Value) :
    (descendTuple check context schemas items).All (P (.list items)) := by
  apply All.each
  intro place member
  have found := List.mem_zipIdx_iff_getElem?.1 member
  obtain ⟨item, schema⟩ := List.getElem?_zip_eq_some.1 found
  exact descendInto_finds finds (known _ (List.mem_of_getElem? schema)) (.item item)

private theorem itemsKeyword_finds (fields : List (Atom × Value)) {argument : Value}
    (known : ∀ part ∈ schemasUnder argument .items, kind part) (items : List Value) :
    (itemsKeyword check context fields argument items).All (P (.list items)) := by
  have one (here : kind argument) : (descendEach check context argument items.zipIdx).All (P (.list items)) :=
    items_finds finds here (List.Subset.refl _)
  have several (each : ∀ part ∈ listedSchemas argument, kind part) :
      (Report.attempt argument.members fun schemas => descendTuple check context schemas items).All (P (.list items)) :=
    All.attempt fun schemas given => tuple_finds finds (fun part member => each part (by rwa [mem_listed given])) items
  -- in the two oldest dialects an object is a schema, and all else a list of schemas
  have listed (plain : ¬ IsObject argument) : ∀ part ∈ listedSchemas argument, kind part :=
    schemasUnder_items plain ▸ known
  unfold itemsKeyword
  split
  iterate 2
    split
    · exact one (known _ List.mem_cons_self)
    next plain =>
      apply several (listed _)
      rintro ⟨inner, same⟩
      exact plain inner same
  next later =>
    have every := (finds.wide (by rw [later]; decide)).every
    apply All.attempt
    intro leading _
    dsimp only
    split
    · exact All.ok
    split
    · exact violation_finds finds.own rfl
    · -- the items behind a prefix keep their places in the list
      exact items_finds finds (every _) (List.drop_subset _ _)
  next other _ =>
    have every := (finds.wide other).every
    split
    · exact several fun part _ => every part
    · exact one (every _)

private theorem additionalItems_finds (fields : List (Atom × Value)) {argument : Value} (known : kind argument)
    (items : List Value) : (additionalItems check context fields argument items).All (P (.list items)) := by
  unfold additionalItems
  split
  · exact All.ok
  · exact All.ok
  · apply All.attempt
    intro covered _
    split
    · exact items_finds finds known (List.drop_subset _ _)
    · exact test_finds finds.own rfl

private theorem additionalProperties_finds (fields : List (Atom × Value)) {argument : Value} (known : kind argument)
    (properties : List (Atom × Value)) :
    (additionalProperties check context fields argument properties).All (P (.obj properties)) := by
  apply All.attempt
  intro extras uncovered
  obtain ⟨patterns, -, kept⟩ := bind_eq_ok.1 uncovered
  split
  · apply All.each
    intro f member
    exact descendInto_finds finds known (.entry ((mem_of_filterM kept f).1 member).1 (.inl rfl))
  · apply test_finds finds.own
    split <;> rfl

private theorem each_finds {schemas : List Value} (known : ∀ schema ∈ schemas, kind schema) :
    (context.each (fun schema => descend check context schema data) schemas).All (P data) :=
  All.each fun schema member => finds.descend schema data (known schema member)

private theorem oneOf_finds (argument : Value) : (oneOf check context argument data).All (P data) := by
  apply All.attempt
  intro found _
  split
  · exact violation_finds finds.own rfl
  · exact All.attempt fun _ _ => test_finds finds.own rfl

private theorem condition_finds (every : ∀ schema, kind schema) (fields : List (Atom × Value)) (argument : Value) :
    (condition check context fields argument data).All (P data) := by
  apply All.attempt
  intro valid _
  split
  · exact finds.descend _ data (every _)
  · exact All.ok

private theorem contains_finds (fields : List (Atom × Value)) (argument : Value) (items : List Value) :
    (contains check context fields argument items).All (P data) := by
  unfold contains
  dsimp only
  split
  · exact All.attempt fun _ _ => test_finds finds.own rfl
  · apply All.attempt
    intro _ _
    apply All.attempt
    intro matched _
    split
    · exact violation_finds finds.own rfl
    · apply All.attempt
      intro limit _
      apply test_finds finds.own
      split <;> rfl

private theorem missing_finds (needed : List Value) (name : Atom) (whole : Value) :
    (missing context needed name whole).All (P data) :=
  All.each fun _ _ => All.attempt fun _ _ => test_finds finds.own rfl

omit finds in
private theorem eachDependency_finds {argument : Value} {properties : List (Atom × Value)}
    {report : Atom → Value → Report} (each : ∀ name, ∀ part ∈ mapped argument, (report name part).All (P data)) :
    (eachDependency context argument properties report).All (P data) := by
  apply All.attempt
  intro dependencies given
  apply All.each
  intro entry member
  dsimp only
  split
  · exact each _ _ (mem_mapped given member)
  · exact All.ok

private theorem dependencies_finds {argument : Value} (known : ∀ part ∈ mapped argument, kind part)
    (properties : List (Atom × Value)) :
    (dependencies check context argument properties).All (P (.obj properties)) := by
  apply eachDependency_finds
  intro name dependency member
  have several : (Report.attempt dependency.members fun needed =>
      missing context needed name (.obj properties)).All (P (.obj properties)) :=
    All.attempt fun needed _ => missing_finds finds needed name _
  split
  · split
    · exact finds.descend _ _ (known _ member)
    · exact missing_finds finds _ _ _
    · exact several
  · split
    · exact several
    · exact finds.descend _ _ (known _ member)

private theorem patternProperties_finds {argument : Value} (known : ∀ part ∈ mapped argument, kind part)
    (properties : List (Atom × Value)) :
    (patternProperties check context argument properties).All (P (.obj properties)) := by
  apply All.attempt
  intro patterns given
  apply All.each
  intro pattern inside
  apply All.each
  intro f member
  apply All.attempt
  intro found _
  split
  · exact descendInto_finds finds (known _ (mem_mapped given inside)) (.entry member (.inl rfl))
  · exact All.ok

private theorem markedRequired_finds (later : context.dialect = .draft3) (name : Atom) (schema : Value)
    {properties : List (Atom × Value)} (absent : entryOf? properties name = none) :
    (markedRequired name schema (.obj properties)).All (P (.obj properties)) := by
  apply All.attempt
  intro inner _
  split
  next mark given =>
    split
    next marked =>
      apply All.under
      apply All.violation
      exact (finds.wide (by rw [later]; nofun)).marked absent marked
    next => exact All.ok
  next => exact All.ok

private theorem properties_finds {argument : Value} (known : ∀ part ∈ mapped argument, kind part)
    (entries : List (Atom × Value)) : (properties check context argument entries).All (P (.obj entries)) := by
  apply All.attempt
  intro schemas given
  apply All.each
  rintro ⟨name, schema⟩ member
  dsimp only
  split
  next v found =>
    -- the entry may be held under another key than the schema's, as 1 and 1.0 are one key
    obtain ⟨held, first, rfl⟩ := Option.map_eq_some_iff.1 found
    have same : held.1.sameKey name = true := List.find?_some (p := fun f : Atom × Value => f.1.sameKey name) first
    exact descendInto_finds finds (known _ (mem_mapped given member)) (.entry (List.mem_of_find?_eq_some first) (.inr same))
  next absent =>
    split
    next later => exact markedRequired_finds finds later name schema absent
    next => exact All.ok

private theorem required_finds (argument : Value) (fields : List (Atom × Value)) :
    (required context argument (.obj fields)).All (P (.obj fields)) := by
  apply All.attempt
  intro names given
  apply All.each
  intro name member
  apply All.attempt
  intro found absent
  apply All.test
  rintro rfl
  exact finds.own.required absent given member

private theorem extending_finds (every : ∀ schema, kind schema) (argument : Value) :
    (extending check context argument data).All (P data) := by
  unfold extending
  split
  · exact finds.descend _ data (every _)
  · exact All.attempt fun schemas _ => each_finds finds fun schema _ => every schema

/-- What a keyword finds has a property that is local, if what checks by the schemas under it find
has the property, and so has what the reference finds, if the keyword is one. -/
theorem Finds.keyword {kind_ : Keyword} {argument : Value} (knows : context.dialect.knows kind_ = true)
    (known : ∀ part ∈ schemasUnder argument kind_, kind part)
    (refers : kind_ = .ref → (reference check context argument data).All (P data)) (fields : List (Atom × Value)) :
    (keyword check context fields kind_ argument data).All (P data) := by
  have single (h : schemasUnder argument kind_ = [argument]) : kind argument := known argument (by simp [h])
  have wide (beyond : Dialect.draft4.knows kind_ = false) : IsWide P kind check context := by
    refine finds.wide fun draft => ?_
    rw [draft, beyond] at knows
    cases knows
  have own := finds.own
  cases kind_ with
  | ref => exact refers rfl
  | dynamicRef =>
    change (reference check context argument data).All (P data)
    unfold reference
    split
    · exact All.attempt fun _ _ => (wide rfl).checkIn _ _ _
    · exact All.stop _
    · exact All.stop _
  | recursiveRef => exact All.attempt fun _ _ => (wide rfl).checkIn _ _ _
  | allOf =>
    refine All.attempt fun schemas given => each_finds finds fun schema member => known schema ?_
    change schema ∈ listedSchemas argument
    rwa [mem_listed given]
  | type => exact All.attempt fun _ _ => All.test fun _ => own.type argument data
  | anyOf | not => exact All.attempt fun _ _ => test_finds own rfl
  | oneOf => exact oneOf_finds finds argument
  | condition => exact condition_finds finds (wide rfl).every fields argument
  | extending => exact extending_finds finds (wide rfl).every argument
  | disallow => exact All.attempt fun _ _ => All.each fun _ _ => All.attempt fun _ _ => test_finds own rfl
  | const => exact test_finds own rfl
  | enum => exact All.attempt fun _ _ => test_finds own rfl
  | exclusiveMaximum | exclusiveMinimum => exact number_finds fun _ => limit_finds own rfl
  | maximum | minimum => exact number_finds fun _ => limit_finds own rfl
  | multipleOf | divisibleBy => exact number_finds fun _ => All.attempt fun _ _ => test_finds own rfl
  | additionalItems => cases data with
    | list items => exact additionalItems_finds finds fields (single rfl) items
    | _ => exact All.ok
  | contains => cases data with
    | list items => exact contains_finds finds fields argument items
    | _ => exact All.ok
  | items => cases data with
    | list items => exact itemsKeyword_finds finds fields known items
    | _ => exact All.ok
  | prefixItems => cases data with
    | list items => exact All.attempt fun schemas _ => tuple_finds finds (fun schema _ => (wide rfl).every schema) items
    | _ => exact All.ok
  | maxItems | minItems => cases data with
    | list items => exact limit_finds own rfl
    | _ => exact All.ok
  | unevaluatedItems => cases data with
    | list items => exact All.attempt fun _ _ => test_finds own rfl
    | _ => exact All.ok
  | uniqueItems => cases data with
    | list items => exact test_finds own rfl
    | _ => exact All.ok
  | additionalProperties => cases data with
    | obj properties => exact additionalProperties_finds finds fields (single rfl) properties
    | _ => exact All.ok
  | dependencies => cases data with
    | obj properties => exact dependencies_finds finds known properties
    | _ => exact All.ok
  | dependentRequired => cases data with
    | obj properties =>
      exact eachDependency_finds fun _ _ _ => All.attempt fun _ _ => missing_finds finds _ _ _
    | _ => exact All.ok
  | dependentSchemas => cases data with
    | obj properties => exact eachDependency_finds fun _ part _ => finds.descend part _ ((wide rfl).every part)
    | _ => exact All.ok
  | maxProperties | minProperties => cases data with
    | obj properties => exact limit_finds own rfl
    | _ => exact All.ok
  | patternProperties => cases data with
    | obj properties => exact patternProperties_finds finds known properties
    | _ => exact All.ok
  | properties => cases data with
    | obj entries => exact properties_finds finds known entries
    | _ => exact All.ok
  | propertyNames => cases data with
    | obj properties =>
      apply All.each
      intro f member
      exact (finds.descend argument _ ((wide rfl).every _)).mono fun v found => (wide rfl).key member found
    | _ => exact All.ok
  | required => cases data with
    | obj fields => exact required_finds finds argument fields
    | _ => exact All.ok
  | unevaluatedProperties => cases data with
    | obj properties => exact All.attempt fun _ _ => All.attempt fun _ _ => test_finds own rfl
    | _ => exact All.ok
  | format => cases data with
    | atom a => cases a with
      | text s => exact format_finds own rfl
      | _ => exact All.ok
    | _ => exact All.ok
  | maxLength | minLength => cases data with
    | atom a => cases a with
      | text s => exact limit_finds own rfl
      | _ => exact All.ok
    | _ => exact All.ok
  | pattern => cases data with
    | atom a => cases a with
      | text s => exact All.attempt fun _ _ => test_finds own rfl
      | _ => exact All.ok
    | _ => exact All.ok

end Keywords

/-! ### Whole checks -/

section Everywhere

variable {P : Value → Violation → Prop} {check : Checker}

private theorem knows_of_keywordOf? {dialect : Dialect} {key : Atom} {kind : Keyword}
    (given : keywordOf? dialect key = some kind) : dialect.knows kind = true := by
  cases key with
  | text name => exact (Option.filter_eq_some_iff.1 given).2
  | _ => cases given

private theorem checkIn_all (own : IsLocal P)
    (sound : ∀ around context schema data, (check around context schema data).All (P data)) (context : Context)
    (scope : Scope) (schema data : Value) : (checkIn check context scope schema data).All (P data) := by
  unfold checkIn
  split
  · exact All.ok
  · exact violation_finds own rfl
  · exact All.attempt fun _ _ => sound _ _ _ _

private theorem descend_all (own : IsLocal P)
    (sound : ∀ around context schema data, (check around context schema data).All (P data)) (context : Context)
    (schema data : Value) : (descend check context schema data).All (P data) := by
  unfold descend
  split
  · exact checkIn_all own sound context _ _ _
  · exact All.attempt fun _ _ => checkIn_all own sound context _ _ _

variable (own : IsLocal P) (key : ∀ {fields : List (Atom × Value)} {f v}, f ∈ fields → P (.atom f.1) v → P (.obj fields) v)
  (marked : ∀ {fields name mark}, entryOf? fields name = none → mark.isTruthy = true →
    P (.obj fields) ⟨[.key "required"], .required (.atom name) mark (.obj fields)⟩)
include own key marked

private theorem checkLevel_all (sound : ∀ around context schema data, (check around context schema data).All (P data))
    (around : Dialect) (context : Context) (schema data : Value) :
    (checkLevel check around context schema data).All (P data) := by
  have finds : Finds P (fun _ => True) check context :=
    ⟨own, fun _ => ⟨fun _ => trivial, checkIn_all own sound context, key, marked⟩,
      fun schema data _ => descend_all own sound context schema data⟩
  unfold checkLevel
  split
  · apply All.each
    intro f _
    dsimp only
    split
    next kind given =>
      refine finds.keyword (knows_of_keywordOf? given) (fun _ _ => trivial) (fun _ => ?_) _
      unfold reference
      split
      · exact All.attempt fun _ _ => checkIn_all own sound context _ _ _
      · exact All.stop _
      · exact All.stop _
    next => exact All.ok
  · exact All.ok
  · exact violation_finds own rfl
  · exact All.stop _

/-- What checks find of any data by any schema has a local property, if it has it in all dialects. -/
theorem check_all (schema data : Value) : (Schema.check schema data).All (P data) := by
  refine All.attempt fun scope _ => ?_
  have within (n : Nat) : ∀ around context schema data, (checkWithin n around context schema data).All (P data) := by
    induction n with
    | zero => exact fun _ _ _ _ => All.stop _
    | succ n ih => exact checkLevel_all own key marked ih
  exact within _ _ _ _ _

end Everywhere

section Root

variable {P : Value → Violation → Prop} {root : Value} {names : List String} {check : Checker} (own : IsLocal P)
  (closed : Closed root) (settled : SettledRoot names root)
include own

private theorem all_of_found {context : Context} {part data : Value} {r : Report} (reached : Reached root part)
    (sound : ∀ context part data, Context.At root context → Reached root part → (check .draft4 context part data).All (P data))
    (found : Found root check context part data r) : r.All (P data) := by
  cases found with
  | allowed _ => exact All.ok
  | never _ => exact violation_finds own rfl
  | stopped _ => exact All.stop _
  | checked => exact sound _ part data ⟨rfl, rfl⟩ reached

include closed settled

private theorem checkLevel_reached
    (sound : ∀ context part data, Context.At root context → Reached root part → (check .draft4 context part data).All (P data))
    (context : Context) (part data : Value) (at_ : context.At root) (reached : Reached root part) :
    (checkLevel check .draft4 context part data).All (P data) := by
  have finds : Finds P (Reached root) check context :=
    ⟨own, fun other => absurd at_.1 other,
      fun schema data inside => all_of_found own inside sound (descend_found settled at_ inside data)⟩
  cases part with
  | obj fields =>
    rw [checkLevel_object at_.1]
    cases shown : shownRef? fields with
    | some ref =>
      have given := lookup_of_shownRef? shown
      apply All.each
      intro f member
      obtain rfl := List.mem_singleton.1 member
      obtain ⟨_, _, _, -, -, -, target, found⟩ := reference_found closed settled at_ reached given data
      exact all_of_found own target sound found
    | none =>
      apply All.each
      intro f member
      split
      next kind given =>
        obtain ⟨-, known, noRef, inside⟩ := keyword_reached closed reached shown member given
        exact finds.keyword (by rw [at_.1]; exact known) inside (fun ref => absurd ref noRef) fields
      next => exact All.ok
  | atom a =>
    cases a with
    | bool b => cases b with
      | true => exact All.ok
      | false => exact violation_finds own rfl
    | _ => exact All.stop _
  | _ => exact All.stop _

/-- What checks find of data by a closed root schema has a local property. -/
theorem check_reached (data : Value) : (Schema.check root data).All (P data) := by
  refine All.attempt fun scope ok => ?_
  obtain rfl := scope_of_ofRoot settled ok
  have within (n : Nat) : ∀ context part data, Context.At root context → Reached root part →
      (checkWithin n .draft4 context part data).All (P data) := by
    induction n with
    | zero => exact fun _ _ _ _ _ => All.stop _
    | succ n ih => exact checkLevel_reached own closed settled ih
  exact within _ _ root data ⟨rfl, rfl⟩ .root

end Root

end SwaggerGate.Schema
