import SwaggerGate.Proofs.Schema.Safe

/-! One schema in two root schemas. A check by a schema comes out the same in any two roots in
whose scopes it can be come to, if the definitions that its references name are the same. -/
namespace SwaggerGate.Schema

/-- Two contexts of draft 4 in which a check finds the same of the schemas of a kind. -/
structure Alike (check : Checker) (kind : Value → Prop) (context other : Context) : Prop where
  draft : context.dialect = .draft4 ∧ other.dialect = .draft4
  flags : context.checksFormats = other.checksFormats ∧ context.firstOnly = other.firstOnly
  descend : ∀ part data, kind part → Schema.descend check context part data = Schema.descend check other part data
  throughout : ∀ part data, kind part → Schema.descend check { context with firstOnly := false } part data =
    Schema.descend check { other with firstOnly := false } part data
  isValid : ∀ part data, kind part → Schema.isValid check context part data = Schema.isValid check other part data

theorem Report.each_congr {α : Type} {firstOnly : Bool} {report other : α → Report} {items : List α}
    (same : ∀ x ∈ items, report x = other x) : Report.each firstOnly report items = Report.each firstOnly other items := by
  induction items with
  | nil => rfl
  | cons x rest ih =>
    have tail := ih fun y member => same y (List.mem_cons_of_mem _ member)
    simp only [Report.each, same x List.mem_cons_self, tail]

theorem Report.attempt_congr {α : Type} {need : Except Fault α} {report other : α → Report}
    (same : ∀ a, need = .ok a → report a = other a) : Report.attempt need report = Report.attempt need other := by
  cases need with
  | ok a => exact same a rfl
  | error fault => rfl

section Keywords

variable {check : Checker} {kind : Value → Prop} {context other : Context} (alike : Alike check kind context other)
include alike

theorem Alike.each {α : Type} {report another : α → Report} {items : List α}
    (same : ∀ x ∈ items, report x = another x) : context.each report items = other.each another items := by
  rw [Context.each, Context.each, ← alike.flags.2]
  exact Report.each_congr same

theorem Alike.descendInto {part : Value} (known : kind part) (step : Step) (data : Value) :
    descendInto check context step part data = descendInto check other step part data := by
  unfold Schema.descendInto
  rw [alike.descend part data known]

private theorem descendEach_alike {schema : Value} (known : kind schema) (items : List (Value × Nat)) :
    descendEach check context schema items = descendEach check other schema items :=
  alike.each fun item _ => alike.descendInto known _ item.1

private theorem descendTuple_alike {schemas : List Value} (known : ∀ part ∈ schemas, kind part) (items : List Value) :
    descendTuple check context schemas items = descendTuple check other schemas items := by
  refine alike.each fun place member => alike.descendInto (known _ ?_) _ _
  exact (List.of_mem_zip (List.fst_mem_of_mem_zipIdx member)).2

private theorem items_alike {fields : List (Atom × Value)} {argument : Value}
    (known : ∀ part ∈ schemasUnder argument .items, kind part) (items : List Value) :
    itemsKeyword check context fields argument items = itemsKeyword check other fields argument items := by
  unfold itemsKeyword
  rw [alike.draft.1, alike.draft.2]
  have several (plain : ¬ IsObject argument) :
      (Report.attempt argument.members fun schemas => descendTuple check context schemas items) =
        .attempt argument.members fun schemas => descendTuple check other schemas items := by
    refine Report.attempt_congr fun schemas ok => descendTuple_alike alike (fun part member => known part ?_) items
    rwa [schemasUnder_items plain, mem_listed ok]
  cases argument with
  | obj inner => exact descendEach_alike alike (known _ (List.mem_singleton.2 rfl)) _
  | _ => exact several (by rintro ⟨_, same⟩; cases same)

private theorem additionalItems_alike {fields : List (Atom × Value)} {argument : Value} (known : kind argument)
    (items : List Value) :
    additionalItems check context fields argument items = additionalItems check other fields argument items := by
  unfold additionalItems
  split
  · rfl
  · rfl
  · refine Report.attempt_congr fun covered _ => ?_
    split
    · exact descendEach_alike alike known _
    · rfl

private theorem additionalProperties_alike {fields : List (Atom × Value)} {argument : Value} (known : kind argument)
    (properties : List (Atom × Value)) :
    additionalProperties check context fields argument properties =
      additionalProperties check other fields argument properties := by
  refine Report.attempt_congr fun extras _ => ?_
  split
  · exact alike.each fun f _ => alike.descendInto known _ f.2
  · rfl

private theorem firstValid_alike (data : Value) : ∀ {schemas : List Value}, (∀ part ∈ schemas, kind part) →
    firstValid check context data schemas = firstValid check other data schemas
  | [], _ => rfl
  | schema :: rest, known => by
    have tail := firstValid_alike data fun part member => known part (List.mem_cons_of_mem _ member)
    rw [firstValid, firstValid, alike.throughout schema data (known schema List.mem_cons_self), tail]

private theorem filter_alike (data : Value) {schemas : List Value} (known : ∀ part ∈ schemas, kind part) :
    (schemas.filterM fun s => isValid check context s data) = schemas.filterM fun s => isValid check other s data := by
  induction schemas with
  | nil => rfl
  | cons schema rest ih =>
    have tail := ih fun part member => known part (List.mem_cons_of_mem _ member)
    rw [filterM_cons, filterM_cons, alike.isValid schema data (known schema List.mem_cons_self), tail]

private theorem listed_alike {argument : Value} (known : ∀ part ∈ listedSchemas argument, kind part) (data : Value) :
    (argument.members >>= firstValid check context data) = argument.members >>= firstValid check other data := by
  cases ok : argument.members with
  | error fault => rfl
  | ok schemas =>
    rw [mem_listed ok] at known
    exact firstValid_alike alike data known

private theorem oneOf_alike {argument : Value} (known : ∀ part ∈ listedSchemas argument, kind part) (data : Value) :
    oneOf check context argument data = oneOf check other argument data := by
  unfold oneOf
  rw [listed_alike alike known]
  refine Report.attempt_congr fun found ok => ?_
  obtain ⟨schemas, given, ok⟩ := bind_eq_ok.1 ok
  rw [mem_listed given] at known
  split
  · rfl
  · rw [filter_alike alike data fun part member => known part (rest_of_firstValid ok member)]

private theorem dependencies_alike {argument : Value} (known : ∀ part ∈ mapped argument, kind part)
    (properties : List (Atom × Value)) :
    dependencies check context argument properties = dependencies check other argument properties := by
  unfold dependencies eachDependency
  refine Report.attempt_congr fun entries ok => alike.each fun entry member => ?_
  have known := known entry.2 (mem_mapped ok member)
  have missing (needed : List Value) :
      missing context needed entry.1 (.obj properties) = missing other needed entry.1 (.obj properties) :=
    alike.each fun _ _ => rfl
  simp only [alike.draft.1, alike.draft.2, alike.descend _ _ known, missing]

private theorem patternProperties_alike {argument : Value} (known : ∀ part ∈ mapped argument, kind part)
    (properties : List (Atom × Value)) :
    patternProperties check context argument properties = patternProperties check other argument properties := by
  refine Report.attempt_congr fun entries ok => alike.each fun entry member => alike.each fun f _ => ?_
  refine Report.attempt_congr fun found _ => ?_
  rw [alike.descendInto (known entry.2 (mem_mapped ok member))]

theorem Alike.properties {argument : Value} (known : ∀ part ∈ mapped argument, kind part)
    (properties : List (Atom × Value)) :
    Schema.properties check context argument properties = Schema.properties check other argument properties := by
  refine Report.attempt_congr fun entries ok => alike.each fun entry member => ?_
  dsimp only
  split
  · exact alike.descendInto (known entry.2 (mem_mapped ok member)) _ _
  · rw [alike.draft.1, alike.draft.2]

theorem Alike.type (argument data : Value) :
    typeKeyword check context argument data = typeKeyword check other argument data := by
  have named : hasNamedType context data = hasNamedType other data := by
    funext name
    simp only [hasNamedType, alike.draft.1, alike.draft.2]
  simp only [typeKeyword, alike.draft.1, alike.draft.2, named, reduceCtorEq, if_false]

theorem Alike.required (argument data : Value) :
    Schema.required context argument data = Schema.required other argument data := by
  simp only [Schema.required, Context.each, alike.flags.2]

/-- A keyword of draft 4 that is no reference finds the same of the same schemas. -/
theorem Alike.keyword {fields : List (Atom × Value)} {argument : Value} {keyword_ : Keyword}
    (draft4 : Dialect.draft4.knows keyword_ = true) (notRef : keyword_ ≠ .ref)
    (known : ∀ part ∈ schemasUnder argument keyword_, kind part) (data : Value) :
    keyword check context fields keyword_ argument data = keyword check other fields keyword_ argument data := by
  have single (h : schemasUnder argument keyword_ = [argument]) : kind argument := known argument (by simp [h])
  cases keyword_ with
  | ref => exact absurd rfl notRef
  | not =>
    change negation check context argument data = negation check other argument data
    rw [negation, negation, alike.isValid argument data (single rfl)]
  | allOf =>
    refine Report.attempt_congr fun schemas ok => alike.each fun s member => alike.descend s data (known s ?_)
    change s ∈ listedSchemas argument
    rwa [mem_listed ok]
  | anyOf =>
    change anyOf check context argument data = anyOf check other argument data
    rw [anyOf, anyOf, listed_alike alike known]
  | oneOf => exact oneOf_alike alike known data
  | additionalItems => cases data with
    | list items => exact additionalItems_alike alike (single rfl) items
    | _ => rfl
  | items => cases data with
    | list items => exact items_alike alike known items
    | _ => rfl
  | additionalProperties => cases data with
    | obj properties => exact additionalProperties_alike alike (single rfl) properties
    | _ => rfl
  | properties => cases data with
    | obj properties => exact alike.properties known properties
    | _ => rfl
  | patternProperties => cases data with
    | obj properties => exact patternProperties_alike alike known properties
    | _ => rfl
  | dependencies => cases data with
    | obj properties => exact dependencies_alike alike known properties
    | _ => rfl
  | required => cases data with
    | obj properties => exact alike.required argument _
    | _ => rfl
  | type => exact alike.type argument data
  | format => cases data with
    | atom a => cases a with
      | text s => simp only [Schema.keyword, alike.flags.1]
      | _ => rfl
    | _ => rfl
  | maximum => simp only [Schema.keyword, maximum, alike.draft.1, alike.draft.2]
  | minimum => simp only [Schema.keyword, minimum, alike.draft.1, alike.draft.2]
  | enum | multipleOf => rfl
  | uniqueItems | maxItems | minItems | maxProperties | minProperties => cases data <;> rfl
  | pattern | maxLength | minLength => cases data with
    | atom a => cases a <;> rfl
    | _ => rfl
  | _ => cases draft4

end Keywords

/-! ### Two root schemas -/

/-- Two settled and closed root schemas that embed the same definitions where both embed one. -/
structure Sharing (root other : Value) : Prop where
  closed : Closed root ∧ Closed other
  settled : (∃ names, SettledRoot names root) ∧ ∃ names, SettledRoot names other
  bodies : ∀ name body body', (embeddedIn root).lookup name = some body → (embeddedIn other).lookup name = some body' →
    body = body'

/-- Whether a check finds the same of all that can be come to in both roots. -/
def SameInBoth (root other : Value) (check : Checker) : Prop :=
  ∀ context context' part data, Context.At root context → Context.At other context' →
    context.checksFormats = context'.checksFormats → context.firstOnly = context'.firstOnly →
    Reached root part → Reached other part → check .draft4 context part data = check .draft4 context' part data

section Sharing

variable {root other : Value} {check : Checker} {context context' : Context}
  (sharing : Sharing root other) (same : SameInBoth root other check) (at_ : context.At root)
  (at_' : context'.At other) (formats : context.checksFormats = context'.checksFormats)
  (first : context.firstOnly = context'.firstOnly)
include sharing same at_ at_' formats first

private theorem checkIn_same {part : Value} (reached : Reached root part) (reached' : Reached other part) (data : Value) :
    checkIn check context (rootScope root) part data = checkIn check context' (rootScope other) part data := by
  unfold checkIn
  rw [at_.1, at_'.1]
  split
  · rfl
  · rfl
  · refine Report.attempt_congr fun dialect named => ?_
    obtain rfl := ofSchema_reached sharing.settled.1.choose_spec reached named
    exact same _ _ part data ⟨rfl, rfl⟩ ⟨rfl, rfl⟩ formats first reached reached'

private theorem descend_same {part : Value} (reached : Reached root part) (reached' : Reached other part) (data : Value) :
    descend check context part data = descend check context' part data := by
  have here := checkIn_same sharing same at_ at_' formats first reached reached' data
  unfold descend
  rw [at_.1, at_'.1, at_.2, at_'.2]
  split
  · exact here
  · have plain := (id_reached sharing.settled.1.choose_spec reached).2
    have plain' := (id_reached sharing.settled.2.choose_spec reached').2
    rw [inside_of_plain plain, inside_of_plain plain']
    cases (Resource.mk .draft4 part).id? with
    | error fault => simp only [Except.map, Report.attempt]
    | ok address => exact here

omit first in
private theorem isValid_same {part : Value} (reached : Reached root part) (reached' : Reached other part) (data : Value) :
    isValid check context part data = isValid check context' part data := by
  unfold isValid
  rw [at_.1, at_'.1]
  split
  · rfl
  · cases named : Dialect.ofSchema .draft4 part with
    | error fault => rfl
    | ok dialect =>
      obtain rfl := ofSchema_reached sharing.settled.1.choose_spec reached named
      have found := same { context with dialect := .draft4, firstOnly := true }
        { context' with dialect := .draft4, firstOnly := true } part data ⟨rfl, at_.2⟩ ⟨rfl, at_'.2⟩ formats rfl reached reached'
      exact congrArg Report.holds found

theorem Sharing.alike : Alike check (fun part => Reached root part ∧ Reached other part) context context' where
  draft := ⟨at_.1, at_'.1⟩
  flags := ⟨formats, first⟩
  descend _ data reached := descend_same sharing same at_ at_' formats first reached.1 reached.2 data
  throughout _ data reached :=
    have at_ : Context.At root { context with firstOnly := false } := at_
    have at_' : Context.At other { context' with firstOnly := false } := at_'
    descend_same sharing same at_ at_' formats rfl reached.1 reached.2 data
  isValid _ data reached := isValid_same sharing same at_ at_' formats reached.1 reached.2 data

private theorem reference_same {fields : List (Atom × Value)} {ref : Value} (reached : Reached root (.obj fields))
    (reached' : Reached other (.obj fields)) (given : fields.lookup (.text "$ref") = some ref) (data : Value) :
    reference check context ref data = reference check context' ref data := by
  obtain ⟨text, name, body, rfl, named, found⟩ := sharing.closed.1 fields ref reached given
  obtain ⟨_, name', body', sameText, named', found'⟩ := sharing.closed.2 fields _ reached' given
  cases sameText
  rw [named] at named'
  cases named'
  obtain rfl := sharing.bodies _ _ _ found found'
  obtain ⟨target, leads⟩ := lookUp_reached sharing.settled.1.choose_spec reached given named found
  obtain ⟨target', leads'⟩ := lookUp_reached sharing.settled.2.choose_spec reached' given named found'
  simp only [reference, at_.2, at_'.2, leads, leads']
  cases (Resource.mk .draft4 body).id? with
  | error fault => simp only [Except.map, Except.mapError, Report.attempt]
  | ok address => exact checkIn_same sharing same at_ at_' formats first target target' data

end Sharing

private theorem checkLevel_same {root other : Value} {check : Checker}
    (sharing : Sharing root other) (same : SameInBoth root other check) :
    SameInBoth root other (checkLevel check) := by
  intro context context' part data at_ at_' formats first reached reached'
  have alike := sharing.alike same at_ at_' formats first
  cases part with
  | obj fields =>
    rw [checkLevel_object at_.1, checkLevel_object at_'.1]
    cases shown : shownRef? fields with
    | some ref =>
      have given := lookup_of_shownRef? shown
      refine alike.each fun f member => ?_
      obtain rfl := List.mem_singleton.1 member
      exact reference_same sharing same at_ at_' formats first reached reached' given data
    | none =>
      refine alike.each fun f member => ?_
      split
      next kind given =>
        obtain ⟨-, known, noRef, inside⟩ := keyword_reached sharing.closed.1 reached shown member given
        obtain ⟨-, -, -, inside'⟩ := keyword_reached sharing.closed.2 reached' shown member given
        exact alike.keyword known noRef (fun part under => ⟨inside part under, inside' part under⟩) data
      next => rfl
  | atom a => cases a with
    | bool b => cases b <;> rfl
    | _ => rfl
  | _ => rfl

/-- Checks by one schema find the same in two root schemas that share their definitions. -/
theorem checkWithin_same {root other : Value} (sharing : Sharing root other) (n : Nat) :
    SameInBoth root other (checkWithin n) := by
  induction n with
  | zero => exact fun _ _ _ _ _ _ _ _ _ _ => rfl
  | succ n ih => exact checkLevel_same sharing ih

end SwaggerGate.Schema
