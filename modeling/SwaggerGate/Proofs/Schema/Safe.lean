import SwaggerGate.Proofs.Schema.Compiled

/-! Checks against closed schemas. A check looks a reference up only at a place that it can
come to; where each reference there names an embedded definition, none leads nowhere. -/
namespace SwaggerGate

namespace Value

theorem members_clear (v : Value) : Clear v.members := by
  unfold members
  split <;> first | exact .ok _ | exact .error rfl

theorem entries_clear (v : Value) : Clear v.entries := by
  unfold entries
  split <;> first | exact .ok _ | exact .error rfl

theorem size_clear (v : Value) : Clear v.size := (members_clear v).map _

theorem holds_clear (container v : Value) : Clear (container.holds v) := by
  unfold holds
  split <;> try split
  all_goals first | exact .ok _ | exact .error rfl

end Value

namespace Schema

theorem limitOf_clear (argument : Value) : Clear (limitOf argument) := by
  unfold limitOf
  split <;> first | exact .ok _ | exact .error rfl

theorem isMultiple_clear (n divisor : Number) : Clear (isMultiple n divisor) := by
  unfold isMultiple
  dsimp only
  repeat' split
  all_goals first | exact .ok _ | exact .error rfl

theorem patternOf_clear (argument : Value) : Clear (patternOf argument) := by
  unfold patternOf
  repeat' split
  all_goals first | exact .ok _ | exact .error rfl

theorem patternHolds_clear (argument : Value) (text : String) : Clear (patternHolds argument text) :=
  (patternOf_clear argument).map _

theorem typeNames_clear (argument : Value) : Clear (typeNames argument) := by
  unfold typeNames
  split
  · exact .ok _
  · exact Value.members_clear _

theorem hasNamedType_clear (context : Context) (data name : Value) : Clear (hasNamedType context data name) := by
  unfold hasNamedType
  repeat' split
  all_goals first | exact .ok _ | exact .error rfl

theorem named_clear (other : Dialect) (v : Value) : Clear (Dialect.named other v) := by
  unfold Dialect.named
  repeat' split
  all_goals first | exact .ok _ | exact .error rfl

theorem ofSchema_clear (around : Dialect) (v : Value) : Clear (Dialect.ofSchema around v) := by
  unfold Dialect.ofSchema
  repeat' split
  all_goals first | exact .ok _ | exact .error rfl | exact named_clear _ _

namespace Report

/-- Whether a report, if a fault stopped it, was not stopped by a reference. -/
def Clear (r : Report) : Prop := ∀ fault, r.fault = some fault → fault.isReferencing = false

theorem Clear.ok : Report.ok.Clear := nofun

theorem Clear.stop {fault : Fault} (other : fault.isReferencing = false) : (Report.stop fault).Clear := by
  intro found same
  cases same
  exact other

theorem Clear.violation (cause : Cause) : (Report.violation cause).Clear := by
  unfold Report.violation
  split
  · nofun
  · exact Clear.stop rfl

theorem Clear.test (passed : Bool) (cause : Cause) : (Report.test passed cause).Clear := by
  unfold Report.test
  split
  · exact Clear.ok
  · exact Clear.violation cause

theorem Clear.attempt {α : Type} {need : Except Fault α} {report : α → Report} (first : SwaggerGate.Clear need)
    (then_ : ∀ a, need = .ok a → (report a).Clear) : (Report.attempt need report).Clear := by
  cases need with
  | ok a => exact then_ a rfl
  | error fault => exact Clear.stop (first fault rfl)

theorem Clear.under {r : Report} (clear : r.Clear) (step : Step) : (r.under step).Clear := clear

theorem Clear.each {α : Type} {firstOnly : Bool} {report : α → Report} {items : List α}
    (each : ∀ x ∈ items, (report x).Clear) : (Report.each firstOnly report items).Clear := by
  induction items with
  | nil => exact Clear.ok
  | cons x rest ih =>
    rw [Report.each]
    split
    · exact each x List.mem_cons_self
    · exact ih fun y member => each y (List.mem_cons_of_mem _ member)

theorem Clear.holds {r : Report} (clear : r.Clear) : SwaggerGate.Clear r.holds := by
  unfold Report.holds
  split
  next => exact .ok _
  next fault _ found => exact .error (clear fault found)
  next => exact .ok _

theorem Clear.holdsThroughout {r : Report} (clear : r.Clear) : SwaggerGate.Clear r.holdsThroughout := by
  unfold Report.holdsThroughout
  split
  next fault found => exact .error (clear fault found)
  next => exact .ok _

end Report

/-! ### Places of a root schema -/

/-- Whether a check is where references are read in a root schema. -/
def Context.At (root : Value) (context : Context) : Prop :=
  context.dialect = .draft4 ∧ context.scope = rootScope root

section Root

variable {root : Value} {names : List String}

private theorem named_of_not_text {other dialect : Dialect} {v : Value} (plain : ∀ url, v ≠ .text url)
    (ok : Dialect.named other v = .ok dialect) : dialect = other := by
  unfold Dialect.named at ok
  split at ok
  next url => exact absurd rfl (plain url)
  all_goals first
    | cases ok
    | split at ok <;> first | exact (Except.ok.inj ok).symm | cases ok

private theorem ofSchema_of_not_object {around dialect : Dialect} {v : Value} (plain : ¬ IsObject v)
    (ok : Dialect.ofSchema around v = .ok dialect) : dialect = around := by
  unfold Dialect.ofSchema at ok
  split at ok
  next fields => exact absurd ⟨fields, rfl⟩ plain
  all_goals first
    | exact (Except.ok.inj ok).symm
    | cases ok
    | split at ok <;> first | exact (Except.ok.inj ok).symm | cases ok

theorem ofSchema_reached (settled : SettledRoot names root) {part : Value} (reached : Reached root part)
    {dialect : Dialect} (ok : Dialect.ofSchema .draft4 part = .ok dialect) : dialect = .draft4 := by
  by_cases object : IsObject part
  · obtain ⟨fields, rfl⟩ := object
    rw [Dialect.ofSchema] at ok
    split at ok
    next v given =>
      by_cases text : ∃ url, v = .text url
      · obtain ⟨url, rfl⟩ := text
        exact (settled fields reached).dialect url dialect given ok
      · exact named_of_not_text (not_exists.1 text) ok
    next => exact (Except.ok.inj ok).symm
  · exact ofSchema_of_not_object object ok

theorem id_reached (settled : SettledRoot names root) {part : Value} (reached : Reached root part) :
    Clear (Resource.mk .draft4 part).id? ∧ ∀ address, (Resource.mk .draft4 part).id? ≠ .ok (some address) := by
  by_cases object : IsObject part
  · obtain ⟨fields, rfl⟩ := object
    have settled := settled fields reached
    change Clear (Resource.idOfFields .draft4 fields) ∧ ∀ address, Resource.idOfFields .draft4 fields ≠ _
    unfold Resource.idOfFields
    split
    · exact ⟨.ok _, nofun⟩
    split
    · exact ⟨.ok _, nofun⟩
    · exact ⟨.ok _, nofun⟩
    next id given =>
      rw [settled.address id given]
      exact ⟨.ok _, nofun⟩
    · exact ⟨.error rfl, nofun⟩
    · exact ⟨.error rfl, nofun⟩
  · unfold Resource.id?
    split
    next fields same => exact absurd ⟨fields, same⟩ object
    next => exact ⟨.error rfl, nofun⟩
    next =>
      have hidden : (Resource.mk .draft4 part).dialect.refHidesSiblings = true := rfl
      rw [if_pos hidden]
      refine ⟨Clear.bind (Value.holds_clear _ _) fun found _ => ?_, fun address same => ?_⟩
      · cases found with
        | true => exact .ok _
        | false => exact .error rfl
      · obtain ⟨found, -, rest⟩ := bind_eq_ok.1 same
        cases found <;> cases rest

/-- Whether a check of any place that can be come to is clear. -/
def CheckerClear (root : Value) (check : Checker) : Prop :=
  ∀ context part data, Context.At root context → Reached root part → (check .draft4 context part data).Clear

variable {check : Checker} {context : Context}

/-- Going inside a place that names no address stays in the scope. -/
theorem inside_of_plain {scope : Scope} {r : Resource} (plain : ∀ address, r.id? ≠ .ok (some address)) :
    scope.inside r = r.id?.map fun _ => scope := by
  unfold Scope.inside
  cases id : r.id? with
  | error fault => rfl
  | ok address =>
    cases address with
    | none => rfl
    | some address => exact absurd id (plain address)

/-- What is found at a place that can be come to: a constant decides, a fault that is none of a
reference stops the check, or the schema there is checked. -/
inductive Found (root : Value) (check : Checker) (context : Context) (part data : Value) : Report → Prop where
  | allowed : part = .bool true → Found root check context part data .ok
  | never : part = .bool false → Found root check context part data (.violation (.neverValid data))
  | stopped {fault : Fault} : fault.isReferencing = false → Found root check context part data (.stop fault)
  | checked : Found root check context part data
      (check .draft4 { context with dialect := .draft4, scope := rootScope root } part data)

theorem checkIn_found (settled : SettledRoot names root) (at_ : context.At root) {part : Value}
    (reached : Reached root part) (data : Value) :
    Found root check context part data (checkIn check context (rootScope root) part data) := by
  unfold checkIn
  split
  · exact .allowed rfl
  · exact .never rfl
  next =>
    rw [at_.1]
    cases named : Dialect.ofSchema .draft4 part with
    | error fault => exact .stopped (ofSchema_clear _ _ fault named)
    | ok dialect =>
      obtain rfl := ofSchema_reached settled reached named
      exact .checked

theorem descend_found (settled : SettledRoot names root) (at_ : context.At root) {part : Value}
    (reached : Reached root part) (data : Value) :
    Found root check context part data (descend check context part data) := by
  have here : Found root check context part data (checkIn check context (rootScope root) part data) :=
    checkIn_found settled at_ reached data
  unfold descend
  split
  · rw [at_.2]
    exact here
  next =>
    obtain ⟨faultless, plain⟩ := id_reached settled reached
    rw [at_.1, at_.2, inside_of_plain plain]
    cases id : (Resource.mk .draft4 part).id? with
    | error fault => exact .stopped (faultless fault id)
    | ok address => exact here

private theorem clear_of_found (clear : CheckerClear root check) {part data : Value} (reached : Reached root part)
    {r : Report} (found : Found root check context part data r) : r.Clear := by
  cases found with
  | allowed _ => exact Report.Clear.ok
  | never _ => exact Report.Clear.violation _
  | stopped other => exact Report.Clear.stop other
  | checked => exact clear _ part data ⟨rfl, rfl⟩ reached

private theorem descend_clear (settled : SettledRoot names root) (clear : CheckerClear root check)
    (at_ : context.At root) {part : Value} (reached : Reached root part) (data : Value) :
    (descend check context part data).Clear :=
  clear_of_found clear reached (descend_found settled at_ reached data)

private theorem descendInto_clear (settled : SettledRoot names root) (clear : CheckerClear root check)
    (at_ : context.At root) {part : Value} (reached : Reached root part) (step : Step) (data : Value) :
    (descendInto check context step part data).Clear := by
  have here := descend_clear settled clear at_ reached data
  unfold descendInto
  split
  · exact here
  · exact here.under step

private theorem isValid_clear (settled : SettledRoot names root) (clear : CheckerClear root check)
    (at_ : context.At root) {part : Value} (reached : Reached root part) (data : Value) :
    Clear (isValid check context part data) := by
  unfold isValid
  split
  · exact .ok _
  next =>
    rw [at_.1]
    apply (ofSchema_clear _ _).bind
    intro dialect ok
    obtain rfl := ofSchema_reached settled reached ok
    exact (clear { context with dialect := .draft4, firstOnly := true } part data ⟨rfl, at_.2⟩ reached).holds

/-- Where a reference to an embedded definition leads. -/
theorem lookUp_embedded {text name : String} {body : Value} (named : targetName? text = some name)
    (found : (embeddedIn root).lookup (.text name) = some body)
    (plain : ∀ address, (Resource.mk .draft4 body).id? ≠ .ok (some address)) :
    (rootScope root).lookUp text = (Resource.mk .draft4 body).id?.map fun _ => ⟨body, rootScope root⟩ := by
  unfold embeddedIn at found
  split at found
  next fields =>
    split at found
    next bodies given => exact lookUp_definition (rootScope_in _) given named found plain
    next => cases found
  next => cases found

/-- Where a reference at a place that can be come to leads. -/
theorem lookUp_reached (settled : SettledRoot names root) {fields : List (Atom × Value)} {text name : String}
    {body : Value} (reached : Reached root (.obj fields)) (given : fields.lookup (.text "$ref") = some (.text text))
    (named : targetName? text = some name) (found : (embeddedIn root).lookup (.text name) = some body) :
    Reached root body ∧
      (rootScope root).lookUp text = (Resource.mk .draft4 body).id?.map fun _ => ⟨body, rootScope root⟩ := by
  have target : Reached root body := .target reached given named found
  exact ⟨target, lookUp_embedded named found (id_reached settled target).2⟩

/-- What a reference at a place of a closed root schema finds is found at the definition that it
names. -/
theorem reference_found (closed : Closed root) (settled : SettledRoot names root) (at_ : context.At root)
    {fields : List (Atom × Value)} {ref : Value} (reached : Reached root (.obj fields))
    (given : fields.lookup (.text "$ref") = some ref) (data : Value) :
    ∃ text name body, ref = .text text ∧ targetName? text = some name ∧
      (embeddedIn root).lookup (.text name) = some body ∧ Reached root body ∧
      Found root check context body data (reference check context ref data) := by
  obtain ⟨text, name, body, rfl, named, found⟩ := closed fields ref reached given
  obtain ⟨target, leads⟩ := lookUp_reached settled reached given named found
  refine ⟨text, name, body, rfl, named, found, target, ?_⟩
  change Found root check context body data
    (Report.attempt ((context.scope.lookUp text).mapError Fault.ofLookUp) fun target =>
      checkIn check context target.scope target.contents data)
  rw [at_.2, leads]
  cases id : (Resource.mk .draft4 body).id? with
  | error fault =>
    have other := (id_reached settled target).1 fault id
    refine .stopped ?_
    cases fault <;> first | rfl | cases other
  | ok address => exact checkIn_found settled at_ target data

private theorem reference_clear (closed : Closed root) (settled : SettledRoot names root)
    (clear : CheckerClear root check) (at_ : context.At root) {fields : List (Atom × Value)} {ref : Value}
    (reached : Reached root (.obj fields)) (given : fields.lookup (.text "$ref") = some ref) (data : Value) :
    (reference check context ref data).Clear := by
  obtain ⟨_, _, _, -, -, -, target, found⟩ := reference_found closed settled at_ reached given data
  exact clear_of_found clear target found

private theorem each_clear {α : Type} {report : α → Report} {items : List α}
    (each : ∀ x ∈ items, (report x).Clear) : (context.each report items).Clear := Report.Clear.each each

private theorem items_clear (settled : SettledRoot names root) (clear : CheckerClear root check)
    (at_ : context.At root) {fields : List (Atom × Value)} {argument : Value}
    (reached : ∀ part ∈ schemasUnder argument .items, Reached root part) (items : List Value) :
    (itemsKeyword check context fields argument items).Clear := by
  unfold itemsKeyword
  rw [at_.1]
  have several (plain : ¬ IsObject argument) :
      (Report.attempt argument.members fun schemas => descendTuple check context schemas items).Clear := by
    apply Report.Clear.attempt (Value.members_clear _)
    intro schemas ok
    refine each_clear fun place member => descendInto_clear settled clear at_ (reached _ ?_) _ _
    rw [schemasUnder_items plain, mem_listed ok]
    exact (List.of_mem_zip (List.fst_mem_of_mem_zipIdx member)).2
  cases argument with
  | obj inner =>
    have reached := reached (.obj inner) (List.mem_singleton.2 rfl)
    exact each_clear fun item _ => descendInto_clear settled clear at_ reached _ _
  | _ => exact several (by rintro ⟨_, same⟩; cases same)

private theorem additionalItems_clear (settled : SettledRoot names root) (clear : CheckerClear root check)
    (at_ : context.At root) {fields : List (Atom × Value)} {argument : Value} (reached : Reached root argument)
    (items : List Value) : (additionalItems check context fields argument items).Clear := by
  unfold additionalItems
  split
  · exact Report.Clear.ok
  · exact Report.Clear.ok
  next =>
    apply Report.Clear.attempt (Value.size_clear _)
    intro covered _
    split
    · exact each_clear fun item _ => descendInto_clear settled clear at_ reached _ _
    · exact Report.Clear.test _ _

private theorem joinedPatterns_clear (fields : List (Atom × Value)) : Clear (joinedPatterns fields) := by
  unfold joinedPatterns
  split
  · exact .ok _
  · refine (Value.members_clear _).bind fun members _ => Clear.bind (Clear.mapM (fun v => ?_) members) fun _ _ => .ok _
    split
    · exact .ok _
    · exact .error rfl

private theorem unmatched_clear (patterns : String) (key : Atom) (named : Bool) :
    Clear (if named then pure false else match key with
      | .text name => do return !(patterns != "" && (← patternHolds (.text patterns) name))
      | _ => pure true : Except Fault Bool) := by
  split
  · exact .ok _
  split
  · exact (patternHolds_clear _ _).bind fun _ _ => .ok _
  · exact .ok _

private theorem uncovered_clear (fields properties : List (Atom × Value)) : Clear (uncovered fields properties) := by
  apply (joinedPatterns_clear fields).bind
  intro patterns _
  apply Clear.filterM
  intro f _
  cases given : argument? fields "properties" with
  | none => exact unmatched_clear patterns f.1 false
  | some known => exact (Value.holds_clear _ _).bind fun named _ => unmatched_clear patterns f.1 named

private theorem additionalProperties_clear (settled : SettledRoot names root) (clear : CheckerClear root check)
    (at_ : context.At root) {fields : List (Atom × Value)} {argument : Value} (reached : Reached root argument)
    (properties : List (Atom × Value)) : (additionalProperties check context fields argument properties).Clear := by
  apply Report.Clear.attempt (uncovered_clear fields properties)
  intro extras _
  split
  · exact each_clear fun f _ => descendInto_clear settled clear at_ reached _ _
  · exact Report.Clear.test _ _

private theorem firstValid_clear (settled : SettledRoot names root) (clear : CheckerClear root check)
    (at_ : context.At root) (data : Value) {schemas : List Value} (reached : ∀ part ∈ schemas, Reached root part) :
    Clear (firstValid check context data schemas) := by
  have at_ : Context.At root { context with firstOnly := false } := at_
  induction schemas with
  | nil => exact .ok _
  | cons schema rest ih =>
    refine Clear.bind ?_ fun valid _ => ?_
    · exact (descend_clear settled clear at_ (reached schema List.mem_cons_self) data).holdsThroughout
    · cases valid with
      | true => exact .ok _
      | false => exact ih fun part member => reached part (List.mem_cons_of_mem _ member)

theorem rest_of_firstValid {data first : Value} : ∀ {schemas rest : List Value},
    firstValid check context data schemas = .ok (some (first, rest)) → rest ⊆ schemas
  | [], rest, ok => by cases ok
  | schema :: more, rest, ok => by
    rw [firstValid, bind_eq_ok] at ok
    obtain ⟨valid, -, ok⟩ := ok
    cases valid with
    | true =>
      cases ok
      exact List.subset_cons_self _ _
    | false => exact List.Subset.trans (rest_of_firstValid ok) (List.subset_cons_self _ _)

private theorem anyOf_clear (settled : SettledRoot names root) (clear : CheckerClear root check)
    (at_ : context.At root) {argument : Value} (reached : ∀ part ∈ listedSchemas argument, Reached root part)
    (data : Value) : (anyOf check context argument data).Clear := by
  refine Report.Clear.attempt ?_ fun found _ => Report.Clear.test _ _
  refine (Value.members_clear _).bind fun schemas ok => firstValid_clear settled clear at_ data ?_
  rwa [mem_listed ok] at reached

private theorem oneOf_clear (settled : SettledRoot names root) (clear : CheckerClear root check)
    (at_ : context.At root) {argument : Value} (reached : ∀ part ∈ listedSchemas argument, Reached root part)
    (data : Value) : (oneOf check context argument data).Clear := by
  refine Report.Clear.attempt ?_ fun found ok => ?_
  · refine (Value.members_clear _).bind fun schemas ok => firstValid_clear settled clear at_ data ?_
    rwa [mem_listed ok] at reached
  · obtain ⟨schemas, given, ok⟩ := bind_eq_ok.1 ok
    rw [mem_listed given] at reached
    split
    · exact Report.Clear.violation _
    · refine Report.Clear.attempt (Clear.filterM fun schema member => ?_) fun more _ => Report.Clear.test _ _
      exact isValid_clear settled clear at_ (reached schema (rest_of_firstValid ok member)) data

private theorem missing_clear (needed : List Value) (name : Atom) (data : Value) :
    (missing context needed name data).Clear :=
  each_clear fun _ _ => Report.Clear.attempt (Value.holds_clear _ _) fun _ _ => Report.Clear.test _ _

private theorem dependencies_clear (settled : SettledRoot names root) (clear : CheckerClear root check)
    (at_ : context.At root) {argument : Value} (reached : ∀ part ∈ mapped argument, Reached root part)
    (properties : List (Atom × Value)) : (dependencies check context argument properties).Clear := by
  apply Report.Clear.attempt (Value.entries_clear _)
  intro entries ok
  apply each_clear
  intro entry member
  have reached := reached entry.2 (mem_mapped ok member)
  dsimp only
  split
  · rw [if_neg (by rw [at_.1]; nofun)]
    split
    · exact Report.Clear.attempt (Value.members_clear _) fun needed _ => missing_clear needed _ _
    · exact descend_clear settled clear at_ reached _
  · exact Report.Clear.ok

private theorem patternProperties_clear (settled : SettledRoot names root) (clear : CheckerClear root check)
    (at_ : context.At root) {argument : Value} (reached : ∀ part ∈ mapped argument, Reached root part)
    (properties : List (Atom × Value)) : (patternProperties check context argument properties).Clear := by
  apply Report.Clear.attempt (Value.entries_clear _)
  intro entries ok
  apply each_clear
  intro entry member
  apply each_clear
  intro f _
  apply Report.Clear.attempt (patternHolds_clear _ _)
  intro found _
  split
  · exact descendInto_clear settled clear at_ (reached entry.2 (mem_mapped ok member)) _ _
  · exact Report.Clear.ok

private theorem properties_clear (settled : SettledRoot names root) (clear : CheckerClear root check)
    (at_ : context.At root) {argument : Value} (reached : ∀ part ∈ mapped argument, Reached root part)
    (properties : List (Atom × Value)) : (Schema.properties check context argument properties).Clear := by
  apply Report.Clear.attempt (Value.entries_clear _)
  intro entries ok
  apply each_clear
  intro entry member
  dsimp only
  split
  · exact descendInto_clear settled clear at_ (reached entry.2 (mem_mapped ok member)) _ _
  · rw [if_neg (by rw [at_.1]; nofun)]
    exact Report.Clear.ok

private theorem required_clear (argument data : Value) : (required context argument data).Clear :=
  Report.Clear.attempt (Value.members_clear _) fun _ _ => each_clear fun _ _ =>
    Report.Clear.attempt (Value.holds_clear _ _) fun _ _ => Report.Clear.test _ _

private theorem anyHolds_clear {test : Value → Except Fault Bool} (each : ∀ v, Clear (test v)) (l : List Value) :
    Clear (anyHolds test l) := by
  induction l with
  | nil => exact .ok _
  | cons v rest ih =>
    apply (each v).bind
    intro found _
    cases found with
    | true => exact .ok _
    | false => exact ih

private theorem type_clear (at_ : context.At root) (argument data : Value) :
    (typeKeyword check context argument data).Clear := by
  refine Report.Clear.attempt ?_ fun _ _ => Report.Clear.test _ _
  rw [if_neg (by rw [at_.1]; nofun)]
  exact (typeNames_clear _).bind fun types _ => anyHolds_clear (fun name => hasNamedType_clear context data name) types

private theorem limit_clear {argument : Value} {passed : Number → Bool} {cause : Cause} :
    (Report.attempt (limitOf argument) fun limit => .test (passed limit) cause).Clear :=
  Report.Clear.attempt (limitOf_clear _) fun _ _ => Report.Clear.test _ _

private theorem format_clear (argument data : Value) :
    (if context.checksFormats && argument == Value.text "regex" then
      match patternOf data with
      | .error .badPattern => Report.violation (.badFormat data argument)
      | .error fault => .stop fault
      | .ok _ => .ok
    else .ok).Clear := by
  split
  · split
    · exact Report.Clear.violation _
    next fault _ found => exact Report.Clear.stop (patternOf_clear _ fault found)
    · exact Report.Clear.ok
  · exact Report.Clear.ok

private theorem ofNumber_clear {report : Number → Report} (each : ∀ n, (report n).Clear) (data : Value) :
    (match Number.ofValue? data with
      | some n => report n
      | none => Report.ok).Clear := by
  split
  · exact each _
  · exact Report.Clear.ok

/-- A keyword of draft 4 that is no reference is clear if its schemas can be come to. -/
private theorem keyword_clear (settled : SettledRoot names root) (clear : CheckerClear root check)
    (at_ : context.At root) {fields : List (Atom × Value)} {argument : Value} {kind : Keyword}
    (known : Dialect.draft4.knows kind = true) (other : kind ≠ .ref)
    (reached : ∀ part ∈ schemasUnder argument kind, Reached root part) (data : Value) :
    (keyword check context fields kind argument data).Clear := by
  have single (h : schemasUnder argument kind = [argument]) : Reached root argument := reached argument (by simp [h])
  have held {passed : Except Fault Bool} {cause : Cause} (clear : Clear passed) :
      (Report.attempt passed fun found => .test found cause).Clear :=
    Report.Clear.attempt clear fun _ _ => Report.Clear.test _ _
  cases kind with
  | ref => exact absurd rfl other
  | not =>
    exact Report.Clear.attempt (isValid_clear settled clear at_ (single rfl) data) fun _ _ => Report.Clear.test _ _
  | allOf =>
    have reached : ∀ part ∈ listedSchemas argument, Reached root part := reached
    apply Report.Clear.attempt (Value.members_clear _)
    intro schemas ok
    apply each_clear
    intro schema member
    rw [mem_listed ok] at reached
    exact descend_clear settled clear at_ (reached schema member) data
  | anyOf => exact anyOf_clear settled clear at_ reached data
  | oneOf => exact oneOf_clear settled clear at_ reached data
  | additionalItems => cases data with
    | list items => exact additionalItems_clear settled clear at_ (single rfl) items
    | _ => exact Report.Clear.ok
  | items => cases data with
    | list items => exact items_clear settled clear at_ reached items
    | _ => exact Report.Clear.ok
  | additionalProperties => cases data with
    | obj properties => exact additionalProperties_clear settled clear at_ (single rfl) properties
    | _ => exact Report.Clear.ok
  | properties => cases data with
    | obj properties => exact properties_clear settled clear at_ reached properties
    | _ => exact Report.Clear.ok
  | patternProperties => cases data with
    | obj properties => exact patternProperties_clear settled clear at_ reached properties
    | _ => exact Report.Clear.ok
  | dependencies => cases data with
    | obj properties => exact dependencies_clear settled clear at_ reached properties
    | _ => exact Report.Clear.ok
  | required => cases data with
    | obj properties => exact required_clear _ _
    | _ => exact Report.Clear.ok
  | type => exact type_clear at_ _ _
  | enum => exact Report.Clear.attempt (Value.members_clear _) fun _ _ => Report.Clear.test _ _
  | uniqueItems => cases data with
    | list items => exact Report.Clear.test _ _
    | _ => exact Report.Clear.ok
  | pattern => cases data with
    | atom a => cases a with
      | text s => exact held (patternHolds_clear _ _)
      | _ => exact Report.Clear.ok
    | _ => exact Report.Clear.ok
  | format => cases data with
    | atom a => cases a with
      | text s => exact format_clear argument (.text s)
      | _ => exact Report.Clear.ok
    | _ => exact Report.Clear.ok
  | maxLength | minLength => cases data with
    | atom a => cases a with
      | text s => exact limit_clear
      | _ => exact Report.Clear.ok
    | _ => exact Report.Clear.ok
  | maxItems | minItems => cases data with
    | list items => exact limit_clear
    | _ => exact Report.Clear.ok
  | maxProperties | minProperties => cases data with
    | obj properties => exact limit_clear
    | _ => exact Report.Clear.ok
  | maximum | minimum => exact ofNumber_clear (fun n => limit_clear) data
  | multipleOf => exact ofNumber_clear (fun n => held ((limitOf_clear _).bind fun limit _ => isMultiple_clear n limit)) data
  | _ => cases known

/-- A reference at a place of a closed root schema hides the keywords beside it. -/
theorem shownRef?_ne_none (closed : Closed root) {fields : List (Atom × Value)} (reached : Reached root (.obj fields))
    {argument : Value} (entry : (.text "$ref", argument) ∈ fields) : shownRef? fields ≠ none := by
  obtain ⟨ref, found⟩ := Entries.mem_keys_iff.1 (List.mem_map.2 ⟨_, entry, rfl⟩)
  obtain ⟨text, name, body, rfl, -⟩ := closed fields ref reached found
  have found : fields.lookup (.text "$ref") = some (.text text) := found
  rw [shownRef?, argument?, found]
  exact Option.some_ne_none _

/-- A keyword at a place of a closed root schema is no reference, and the schemas under it are
places. -/
theorem keyword_reached (closed : Closed root) {fields : List (Atom × Value)} (reached : Reached root (.obj fields))
    (shown : shownRef? fields = none) {f : Atom × Value} (member : f ∈ fields) {kind : Keyword}
    (given : keywordOf? .draft4 f.1 = some kind) :
    (.text kind.name, f.2) ∈ fields ∧ Dialect.draft4.knows kind = true ∧ kind ≠ .ref ∧
      ∀ part ∈ schemasUnder f.2 kind, Reached root part := by
  obtain ⟨key, known⟩ := keyword_key given
  have entry : (.text kind.name, f.2) ∈ fields := key ▸ member
  refine ⟨entry, known, ?_, fun part under => ?_⟩
  · rintro rfl
    exact shownRef?_ne_none closed reached entry shown
  · exact .inside reached shown (mem_schemasInside.2 ⟨kind, f.2, entry, known, under⟩)

private theorem checkLevel_clear (closed : Closed root) (settled : SettledRoot names root)
    (clear : CheckerClear root check) : CheckerClear root (checkLevel check) := by
  intro context part data at_ reached
  cases part with
  | obj fields =>
    rw [checkLevel_object at_.1]
    cases shown : shownRef? fields with
    | some ref =>
      have given := lookup_of_shownRef? shown
      apply each_clear
      intro f member
      obtain rfl := List.mem_singleton.1 member
      exact reference_clear closed settled clear at_ reached given data
    | none =>
      apply each_clear
      intro f member
      split
      next kind given =>
        obtain ⟨-, known, noRef, inside⟩ := keyword_reached closed reached shown member given
        exact keyword_clear settled clear at_ known noRef inside data
      next => exact Report.Clear.ok
  | atom a =>
    cases a with
    | bool b => cases b with
      | true => exact Report.Clear.ok
      | false => exact Report.Clear.violation _
    | _ => exact Report.Clear.stop rfl
  | _ => exact Report.Clear.stop rfl

theorem checkWithin_clear (closed : Closed root) (settled : SettledRoot names root) (n : Nat) :
    CheckerClear root (checkWithin n) := by
  induction n with
  | zero => exact fun _ _ _ _ _ => Report.Clear.stop rfl
  | succ n ih => exact checkLevel_clear closed settled ih

/-- A check by a settled root schema begins in its scope. -/
theorem scope_of_ofRoot (settled : SettledRoot names root) {scope : Scope}
    (ok : Scope.ofRoot Standard.library ⟨.draft4, root⟩ = .ok scope) : scope = rootScope root := by
  cases id : (Resource.mk .draft4 root).id? with
  | error fault => rw [Scope.ofRoot, id] at ok; cases ok
  | ok address =>
    cases address with
    | some address => exact absurd id ((id_reached settled .root).2 address)
    | none =>
      rw [ofRoot_eq id] at ok
      exact (Except.ok.inj ok).symm

/-- Checks of data against a closed root schema are never stopped by a reference. -/
theorem check_clear (closed : Closed root) (settled : SettledRoot names root) (data : Value) :
    (Schema.check root data).Clear := by
  unfold Schema.check checkRoot
  refine Report.Clear.attempt ?_ fun scope ok => ?_
  · exact (id_reached settled .root).1.bind fun address _ => .ok _
  · obtain rfl := scope_of_ofRoot settled ok
    exact checkWithin_clear closed settled nestingLimit _ root data ⟨rfl, rfl⟩ .root

end Root

end Schema
end SwaggerGate
