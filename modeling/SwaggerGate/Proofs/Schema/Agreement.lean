import SwaggerGate.Proofs.Schema.Safe
import SwaggerGate.Proofs.Schema.Unfolding
import SwaggerGate.Proofs.Schema.WellFormed

/-! Checks and judgements. What a check of data by a closed and well-formed root schema finds,
if no fault hides it, is the judgement of the keywords and references in that schema. -/
namespace SwaggerGate.Schema

/-! ### Verdicts of several parts -/

theorem allHold_cons_true (l : List (Option Bool)) : allHold (some true :: l) = allHold l := by
  simp [allHold]

theorem allHold_cons_false (l : List (Option Bool)) : allHold (some false :: l) = some false := by
  simp [allHold]

theorem allHold_singleton (verdict : Option Bool) : allHold [verdict] = verdict := by
  rcases verdict with _ | _ | _ <;> rfl

/-- All verdicts of several parts hold if those of each part do. -/
theorem allHold_flatMap {α : Type} (verdicts : α → List (Option Bool)) (items : List α) :
    Below (allHold (items.map fun x => allHold (verdicts x))) (allHold (items.flatMap verdicts)) := by
  intro verdict h
  cases verdict with
  | true =>
    apply allHold_eq_true.2
    intro v member
    obtain ⟨x, inside, member⟩ := List.mem_flatMap.1 member
    exact allHold_eq_true.1 (allHold_eq_true.1 h _ (List.mem_map_of_mem inside)) v member
  | false =>
    obtain ⟨x, inside, negative⟩ := List.mem_map.1 (allHold_eq_false.1 h)
    exact allHold_eq_false.2 (List.mem_flatMap.2 ⟨x, inside, allHold_eq_false.1 negative⟩)

theorem allHold_map_below {α : Type} {first second : α → Option Bool} {items : List α}
    (below : ∀ x ∈ items, Below (first x) (second x)) : Below (allHold (items.map first)) (allHold (items.map second)) := by
  refine allHold_below ?_
  rw [List.forall₂_map_left_iff, List.forall₂_map_right_iff]
  exact List.forall₂_same.2 below

theorem anyHold_cons_false (l : List (Option Bool)) : anyHold (some false :: l) = anyHold l := by
  simp [anyHold]

theorem oneHolds_cons_false (l : List (Option Bool)) : oneHolds (some false :: l) = oneHolds l := by
  simp [oneHolds]

theorem anyHold_of_negative {l : List (Option Bool)} (negative : ∀ v ∈ l, v = some false) : anyHold l = some false := by
  induction l with
  | nil => rfl
  | cons v rest ih =>
    rw [negative v List.mem_cons_self, anyHold_cons_false]
    exact ih fun w member => negative w (List.mem_cons_of_mem _ member)

theorem oneHolds_skip {l : List (Option Bool)} (negative : ∀ v ∈ l, v = some false) (more : List (Option Bool)) :
    oneHolds (l ++ more) = oneHolds more := by
  induction l with
  | nil => rfl
  | cons v rest ih =>
    rw [negative v List.mem_cons_self, List.cons_append, oneHolds_cons_false]
    exact ih fun w member => negative w (List.mem_cons_of_mem _ member)

/-- After one positive verdict, exactly one holds if no later one does. -/
theorem oneHolds_cons_true {l : List (Option Bool)} (known : none ∉ l) :
    oneHolds (some true :: l) = some (l.count (some true) == 0) := by
  have unknown : none ∉ some true :: l := by simpa using known
  rw [oneHolds, List.count_cons_self, if_neg unknown]
  split
  next several =>
    have other : l.count (some true) ≠ 0 := by omega
    rw [beq_false_of_ne other]
  next few =>
    have none_ : l.count (some true) = 0 := by omega
    rw [none_]
    rfl

/-! ### Verdicts of reports -/

namespace Report

variable {α : Type}

/-- What a report says of data, if it says anything. -/
def verdict (r : Report) : Option Bool := r.holds.toOption

theorem verdict_eq_some {r : Report} {b : Bool} : r.verdict = some b ↔ r.holds = .ok b := by
  unfold verdict
  cases r.holds with
  | ok a => simp [Except.toOption]
  | error fault => simp [Except.toOption]

theorem violation_verdict (cause : Cause) : Below (violation cause).verdict (some false) := by
  unfold violation
  split
  · exact .refl _
  · exact .none _

theorem test_verdict (passed : Bool) (cause : Cause) : Below (test passed cause).verdict (some passed) := by
  cases passed with
  | true => exact .refl _
  | false => exact violation_verdict cause

theorem attempt_verdict {need : Except Fault α} {report : α → Report} {verdict : Option Bool}
    (below : ∀ a, need = .ok a → Below (report a).verdict verdict) : Below (attempt need report).verdict verdict := by
  cases need with
  | ok a => exact below a rfl
  | error fault => exact .none _

theorem under_verdict (r : Report) (step : Step) : (r.under step).verdict = r.verdict := by
  obtain ⟨violations, fault⟩ := r
  cases violations with
  | nil => rfl
  | cons v rest => rfl

/-- A report with the whole check made says no more than the report. -/
theorem throughout_verdict (r : Report) : Below r.holdsThroughout.toOption r.verdict := by
  obtain ⟨violations, fault⟩ := r
  cases fault with
  | some fault => exact .none _
  | none => cases violations <;> exact .refl _

theorem each_verdict (firstOnly : Bool) (report : α → Report) (items : List α) :
    Below (each firstOnly report items).verdict (allHold (items.map fun x => (report x).verdict)) := by
  induction items with
  | nil => exact .refl _
  | cons x rest ih =>
    rw [each, List.map_cons]
    generalize report x = first
    obtain ⟨violations, fault⟩ := first
    cases violations with
    | cons v others =>
      have negative : verdict ⟨v :: others, fault⟩ = some false := rfl
      rw [negative, allHold_cons_false]
      split <;> exact .refl _
    | nil =>
      cases fault with
      | some fault => exact .none _
      | none =>
        have positive : verdict ⟨[], none⟩ = some true := rfl
        rw [positive, allHold_cons_true, if_neg (by simp)]
        exact ih

end Report

/-! ### Keywords -/

/-- Whether all of some demands are met. -/
def met (judged : Value → Value → Option Bool) (ds : List Demand) : Option Bool :=
  allHold (ds.map (Demand.verdict judged))

/-- A check of the parts of a place, whose findings are judgements of them. -/
structure PartsAgree (root : Value) (check : Checker) (context : Context) (judged : Value → Value → Option Bool) :
    Prop where
  dialect : context.dialect = .draft4
  formatless : context.checksFormats = false
  part : ∀ schema data, Reached root schema → Below (descend check context schema data).verdict (judged schema data)
  whole : ∀ schema data, Reached root schema →
    Below (descend check { context with firstOnly := false } schema data).holdsThroughout.toOption (judged schema data)
  valid : ∀ schema data, Reached root schema → Below (isValid check context schema data).toOption (judged schema data)

section Keywords

variable {root : Value} {check : Checker} {context : Context} {judged : Value → Value → Option Bool}
variable {fields : List (Atom × Value)} {argument : Value}

theorem met_singleton (d : Demand) : met judged [d] = d.verdict judged := allHold_singleton _

private theorem each_met {α : Type} {report : α → Report} {items : List α} {ds : α → List Demand}
    (below : ∀ x ∈ items, Below (report x).verdict (met judged (ds x))) :
    Below (context.each report items).verdict (met judged (items.flatMap ds)) := by
  have flat := allHold_flatMap (fun x => (ds x).map (Demand.verdict judged)) items
  rw [← List.map_flatMap] at flat
  exact ((Report.each_verdict _ report items).trans (allHold_map_below below)).trans flat

private theorem each_met_map {α : Type} {report : α → Report} {items : List α} {d : α → Demand}
    (below : ∀ x ∈ items, Below (report x).verdict ((d x).verdict judged)) :
    Below (context.each report items).verdict (met judged (items.map d)) := by
  rw [met, List.map_map]
  exact (Report.each_verdict _ report items).trans (allHold_map_below below)

theorem PartsAgree.into (agree : PartsAgree root check context judged) {schema : Value} (reached : Reached root schema)
    (step : Step) (data : Value) : Below (descendInto check context step schema data).verdict (judged schema data) := by
  have here := agree.part schema data reached
  unfold descendInto
  split
  · exact here
  · rwa [Report.under_verdict]

private theorem descendEach_met (agree : PartsAgree root check context judged) (reached : Reached root argument)
    (places : List (Value × Nat)) :
    Below (descendEach check context argument places).verdict (met judged ((places.map Prod.fst).map (.holds argument))) := by
  rw [List.map_map]
  exact each_met_map fun place _ => agree.into reached _ _

private theorem descendTuple_met (agree : PartsAgree root check context judged) {schemas : List Value}
    (reached : ∀ schema ∈ schemas, Reached root schema) (items : List Value) :
    Below (descendTuple check context schemas items).verdict (met judged (List.zipWith .holds schemas items)) := by
  have pairs : List.zipWith Demand.holds schemas items =
      (items.zip schemas).zipIdx.map fun place => .holds place.1.2 place.1.1 := by
    rw [List.zipWith_comm, ← List.map_uncurry_zip_eq_zipWith]
    conv_lhs => rw [← List.zipIdx_map_fst 0 (items.zip schemas)]
    rw [List.map_map]
    rfl
  rw [pairs]
  refine each_met_map fun place member => agree.into (reached _ ?_) _ _
  exact (List.of_mem_zip (List.fst_mem_of_mem_zipIdx member)).2

private theorem items_met (agree : PartsAgree root check context judged)
    (form : IsObject argument ∨ ∃ items, argument = .list items)
    (reached : ∀ part ∈ schemasUnder argument .items, Reached root part) (items : List Value) :
    Below (itemsKeyword check context fields argument items).verdict (met judged (itemDemands argument items)) := by
  unfold itemsKeyword
  rw [agree.dialect]
  rcases form with ⟨inner, rfl⟩ | ⟨schemas, rfl⟩
  · have each := descendEach_met agree (reached _ (List.mem_singleton.2 rfl)) items.zipIdx
    rwa [List.zipIdx_map_fst] at each
  · exact descendTuple_met agree reached items

private theorem furtherItems_met (agree : PartsAgree root check context judged)
    (form : IsObject argument ∨ ∃ b, argument = .bool b)
    (tuple : ∀ v, argument? fields "items" = some v → IsObject v ∨ ∃ items, v = .list items)
    (reached : Reached root argument) (items : List Value) :
    Below (additionalItems check context fields argument items).verdict
      (met judged (furtherItemDemands fields argument items)) := by
  unfold additionalItems furtherItemDemands
  cases given : argument? fields "items" with
  | none => exact .refl _
  | some v =>
    rcases tuple v given with ⟨inner, rfl⟩ | ⟨schemas, rfl⟩
    · exact .refl _
    · rcases form with ⟨inner, rfl⟩ | ⟨allowed, rfl⟩
      · have each := descendEach_met agree reached (items.zipIdx.drop schemas.length)
        rwa [List.map_drop, List.zipIdx_map_fst] at each
      · dsimp only
        rw [met_singleton]
        exact Report.test_verdict _ _

private theorem properties_met (agree : PartsAgree root check context judged) (form : IsObject argument)
    (reached : ∀ part ∈ mapped argument, Reached root part) (properties : List (Atom × Value)) :
    Below (Schema.properties check context argument properties).verdict
      (met judged (propertyDemands argument properties)) := by
  obtain ⟨schemas, rfl⟩ := form
  apply each_met
  intro entry member
  dsimp only
  cases entryOf? properties entry.1 with
  | some v =>
    rw [Option.toList_some, List.map_singleton, met_singleton]
    exact agree.into (reached _ (List.mem_map_of_mem member)) _ _
  | none =>
    rw [agree.dialect, if_neg nofun]
    exact .refl _

private theorem patterns_met (agree : PartsAgree root check context judged) (form : IsObject argument)
    (reached : ∀ part ∈ mapped argument, Reached root part) (properties : List (Atom × Value)) :
    Below (patternProperties check context argument properties).verdict
      (met judged (patternDemands argument properties)) := by
  obtain ⟨patterns, rfl⟩ := form
  apply each_met
  intro entry member
  apply each_met
  intro property _
  apply Report.attempt_verdict
  intro found ok
  rw [ok]
  cases found with
  | true =>
    change Below _ (met judged [.holds entry.2 property.2])
    rw [met_singleton]
    exact agree.into (reached _ (List.mem_map_of_mem member)) _ _
  | false => exact .refl _

private theorem furtherProperties_met (agree : PartsAgree root check context judged)
    (form : IsObject argument ∨ ∃ b, argument = .bool b) (named : mapsNames fields "properties" = true)
    (matched : mapsNames fields "patternProperties" = true) (reached : Reached root argument)
    (properties : List (Atom × Value)) : Below (additionalProperties check context fields argument properties).verdict
      (met judged (furtherPropertyDemands fields argument properties)) := by
  apply Report.attempt_verdict
  intro extras ok
  rw [furtherPropertyDemands, named, matched, Bool.and_self, if_pos rfl, ok]
  rcases form with ⟨inner, rfl⟩ | ⟨allowed, rfl⟩
  · exact each_met_map fun property _ => agree.into reached _ _
  · dsimp only
    rw [met_singleton]
    exact Report.test_verdict _ _

private theorem dependencies_met (agree : PartsAgree root check context judged) (form : IsObject argument)
    (reached : ∀ part ∈ mapped argument, Reached root part) (properties : List (Atom × Value)) :
    Below (dependencies check context argument properties).verdict
      (met judged (dependencyDemands argument properties)) := by
  obtain ⟨dependencies, rfl⟩ := form
  apply each_met
  intro entry member
  have part := agree.part entry.2 (.obj properties) (reached _ (List.mem_map_of_mem member))
  dsimp only
  cases (entryOf? properties entry.1).isSome with
  | false => exact .refl _
  | true =>
    rw [if_pos rfl, if_pos rfl, agree.dialect, if_neg nofun]
    obtain ⟨name, dependency⟩ := entry
    cases dependency with
    | list needed =>
      apply each_met_map
      intro name _
      apply Report.attempt_verdict
      intro found ok
      rw [Demand.verdict, ok]
      exact Report.test_verdict _ _
    | _ =>
      rw [met_singleton]
      exact part

private theorem found_of_firstValid (agree : PartsAgree root check context judged) {data : Value} {schemas : List Value}
    (reached : ∀ part ∈ schemas, Reached root part) {found : Option (Value × List Value)}
    (ok : firstValid check context data schemas = .ok found) :
    match found with
    | none => ∀ schema ∈ schemas, judged schema data = some false
    | some (first, rest) => ∃ before, schemas = before ++ first :: rest ∧
      (∀ schema ∈ before, judged schema data = some false) ∧ judged first data = some true := by
  induction schemas with
  | nil =>
    cases ok
    exact nofun
  | cons schema rest ih =>
    obtain ⟨valid, judgement, ok⟩ := bind_eq_ok.1 ok
    have said := agree.whole schema data (reached _ List.mem_cons_self) valid (by rw [judgement]; rfl)
    cases valid with
    | true =>
      cases ok
      exact ⟨[], rfl, nofun, said⟩
    | false =>
      have later := ih (fun part member => reached part (List.mem_cons_of_mem _ member)) ok
      cases found with
      | none => exact List.forall_mem_cons.2 ⟨said, later⟩
      | some found =>
        obtain ⟨before, rfl, earlier, first⟩ := later
        exact ⟨schema :: before, rfl, List.forall_mem_cons.2 ⟨said, earlier⟩, first⟩

private theorem anyOf_met (agree : PartsAgree root check context judged) {schemas : List Value}
    (reached : ∀ part ∈ schemas, Reached root part) (data : Value) :
    Below (anyOf check context (.list schemas) data).verdict (anyHold (schemas.map fun s => judged s data)) := by
  apply Report.attempt_verdict
  intro found ok
  have first := found_of_firstValid agree reached ok
  suffices said : anyHold (schemas.map fun s => judged s data) = some found.isSome by
    rw [said]
    exact Report.test_verdict _ _
  cases found with
  | none =>
    apply anyHold_of_negative
    intro v member
    obtain ⟨schema, inside, rfl⟩ := List.mem_map.1 member
    exact first schema inside
  | some found =>
    obtain ⟨before, rfl, -, positive⟩ := first
    rw [anyHold, if_pos]
    · rfl
    · exact List.mem_map.2 ⟨found.1, by simp, positive⟩

private theorem more_of_filterM (agree : PartsAgree root check context judged) {data : Value} {schemas more : List Value}
    (reached : ∀ part ∈ schemas, Reached root part)
    (ok : schemas.filterM (fun s => isValid check context s data) = .ok more) :
    none ∉ schemas.map (fun s => judged s data) ∧
      (schemas.map fun s => judged s data).count (some true) = more.length := by
  induction schemas generalizing more with
  | nil =>
    cases ok
    exact ⟨nofun, rfl⟩
  | cons schema rest ih =>
    rw [filterM_cons] at ok
    obtain ⟨valid, judgement, ok⟩ := bind_eq_ok.1 ok
    obtain ⟨others, later, ok⟩ := bind_eq_ok.1 ok
    obtain ⟨known, count⟩ := ih (fun part member => reached part (List.mem_cons_of_mem _ member)) later
    have said := agree.valid schema data (reached _ List.mem_cons_self) valid (by rw [judgement]; rfl)
    rw [List.map_cons, said]
    cases valid with
    | true =>
      cases ok
      exact ⟨by simpa using known, by simpa using count⟩
    | false =>
      cases ok
      exact ⟨by simpa using known, by simpa using count⟩

private theorem oneOf_met (agree : PartsAgree root check context judged) {schemas : List Value}
    (reached : ∀ part ∈ schemas, Reached root part) (data : Value) :
    Below (oneOf check context (.list schemas) data).verdict (oneHolds (schemas.map fun s => judged s data)) := by
  apply Report.attempt_verdict
  intro found ok
  have first := found_of_firstValid agree reached ok
  cases found with
  | none =>
    have none_ : oneHolds (schemas.map fun s => judged s data) = some false := by
      rw [← List.append_nil (schemas.map fun s => judged s data)]
      refine oneHolds_skip (fun v member => ?_) []
      obtain ⟨schema, inside, rfl⟩ := List.mem_map.1 member
      exact first schema inside
    rw [none_]
    exact Report.violation_verdict _
  | some found =>
    obtain ⟨before, rfl, negative, positive⟩ := first
    apply Report.attempt_verdict
    intro more ok
    have reached : ∀ part ∈ found.2, Reached root part := fun part member => reached part (by simp [member])
    obtain ⟨known, count⟩ := more_of_filterM agree reached ok
    rw [List.map_append, List.map_cons, positive, oneHolds_skip, oneHolds_cons_true known, count]
    · cases more <;> exact Report.test_verdict _ _
    · intro v member
      obtain ⟨schema, inside, rfl⟩ := List.mem_map.1 member
      exact negative schema inside

private theorem negation_met (agree : PartsAgree root check context judged) (reached : Reached root argument)
    (data : Value) : Below (negation check context argument data).verdict ((judged argument data).map not) := by
  apply Report.attempt_verdict
  intro valid ok
  rw [agree.valid argument data reached valid (by rw [ok]; rfl)]
  exact Report.test_verdict _ _

private theorem held_met {passed : Except Fault Bool} {cause : Cause} :
    Below (Report.attempt passed fun found => .test found cause).verdict passed.toOption := by
  apply Report.attempt_verdict
  intro found ok
  rw [ok]
  exact Report.test_verdict _ _

private theorem limit_met {test : Number → Bool} {cause : Cause} :
    Below (Report.attempt (limitOf argument) fun limit => .test (test limit) cause).verdict
      ((limitOf argument).toOption.map test) := by
  apply Report.attempt_verdict
  intro limit ok
  rw [ok]
  exact Report.test_verdict _ _

/-- A flag that is given is read by its truth. -/
theorem flag?_truthy {name : String} {b : Bool} (given : flag? fields name = some b) :
    (argument? fields name).any Value.isTruthy = b := by
  unfold flag? at given
  split at given
  next absent =>
    rw [absent]
    exact Option.some.inj given
  next inner found =>
    rw [found]
    exact Option.some.inj given
  next => cases given

private theorem maximum_met (dialect : context.dialect = .draft4) (flagged : flag? fields "exclusiveMaximum" ≠ none)
    (data : Value) (n : Number) : Below (maximum context fields argument data n).verdict
      (passes fields "exclusiveMaximum" (fun limit => !limit.lt n) (fun limit => !limit.le n) argument) := by
  obtain ⟨exclusive, given⟩ := Option.ne_none_iff_exists'.1 flagged
  have early : decide (Dialect.draft4.rank ≤ 4) = true := rfl
  rw [passes, given, Option.bind_some, maximum, dialect, early, Bool.true_and, flag?_truthy given]
  cases exclusive <;> exact limit_met

private theorem minimum_met (dialect : context.dialect = .draft4) (flagged : flag? fields "exclusiveMinimum" ≠ none)
    (data : Value) (n : Number) : Below (minimum context fields argument data n).verdict
      (passes fields "exclusiveMinimum" (fun limit => !n.lt limit) (fun limit => !n.le limit) argument) := by
  obtain ⟨exclusive, given⟩ := Option.ne_none_iff_exists'.1 flagged
  have early : decide (Dialect.draft4.rank ≤ 4) = true := rfl
  rw [passes, given, Option.bind_some, minimum, dialect, early, Bool.true_and, flag?_truthy given]
  cases exclusive <;> exact limit_met

private theorem type_met (dialect : context.dialect = .draft4) (data : Value) :
    Below (typeKeyword check context argument data).verdict
      (typeNames argument >>= anyHolds (hasNamedType { dialect := .draft4, scope := {} } data)).toOption := by
  have named : hasNamedType context data = hasNamedType { dialect := .draft4, scope := {} } data := by
    funext name
    unfold hasNamedType
    rw [dialect]
  rw [typeKeyword, dialect, if_neg nofun, named]
  exact held_met

private theorem number_met {report : Number → Report} {verdict : Number → Option Bool} {data : Value}
    (below : ∀ n, Below (report n).verdict (verdict n)) :
    Below (match Number.ofValue? data with
      | some n => report n
      | none => Report.ok).verdict (allHold ((Number.ofValue? data).toList.map verdict)) := by
  cases Number.ofValue? data with
  | none => exact .refl _
  | some n =>
    rw [Option.toList_some, List.map_singleton, allHold_singleton]
    exact below n

/-- Whether the arguments of a keyword are atoms, or lists of atoms. -/
def takesPlain : Keyword → Bool
  | .ref | .allOf | .anyOf | .oneOf | .not | .enum | .items | .additionalItems | .properties | .patternProperties
  | .additionalProperties | .dependencies => false
  | _ => true

private theorem form_of_takesPlain {kind : Keyword} (plain : takesPlain kind = true) :
    HasForm kind argument = (isPlain argument = true) := by
  cases kind <;> first
    | rfl
    | exact absurd plain Bool.false_ne_true

private theorem demands_of_takesPlain {kind : Keyword} (plain : takesPlain kind = true) (form : isPlain argument = true)
    (data : Value) : demands fields kind argument data = (assertions fields kind argument data).map .plain := by
  refine Eq.trans (b := if isPlain argument then (assertions fields kind argument data).map .plain else meaningless) ?_
    (if_pos form)
  cases kind <;> first
    | rfl
    | exact absurd plain Bool.false_ne_true

/-- A keyword that holds no schemas. -/
private theorem assertion_met (agree : PartsAgree root check context judged) (shaped : Shaped fields) {kind : Keyword}
    (known : Dialect.draft4.knows kind = true) (plain : takesPlain kind = true) (data : Value) :
    Below (keyword check context fields kind argument data).verdict (allHold (assertions fields kind argument data)) := by
  have single {r : Report} {verdict : Option Bool} (below : Below r.verdict verdict) :
      Below r.verdict (allHold [verdict]) := by
    rwa [allHold_singleton]
  cases kind with
  | type => exact single (type_met agree.dialect data)
  | required => cases data with
    | obj properties =>
      apply Report.attempt_verdict
      intro names ok
      rw [assertions, ok]
      exact (Report.each_verdict _ _ _).trans (allHold_map_below fun name _ => held_met)
    | _ => exact .refl _
  | maximum => exact number_met (maximum_met agree.dialect shaped.above data)
  | minimum => exact number_met (minimum_met agree.dialect shaped.below data)
  | multipleOf => exact number_met fun n => held_met
  | maxItems | minItems => cases data with
    | list items => exact single limit_met
    | _ => exact .refl _
  | uniqueItems => cases data with
    | list items => exact single (Report.test_verdict _ _)
    | _ => exact .refl _
  | maxProperties | minProperties => cases data with
    | obj properties => exact single limit_met
    | _ => exact .refl _
  | maxLength | minLength => cases data with
    | atom a => cases a with
      | text s => exact single limit_met
      | _ => exact .refl _
    | _ => exact .refl _
  | pattern => cases data with
    | atom a => cases a with
      | text s => exact single held_met
      | _ => exact .refl _
    | _ => exact .refl _
  | format => cases data with
    | atom a => cases a with
      | text s =>
        rw [keyword, agree.formatless, Bool.false_and, if_neg Bool.false_ne_true]
        exact .refl _
      | _ => exact .refl _
    | _ => exact .refl _
  | _ => first
    | exact absurd known Bool.false_ne_true
    | exact absurd plain Bool.false_ne_true

/-- What the check of a keyword of draft 4 finds is what its demands come to. -/
theorem keyword_met (agree : PartsAgree root check context judged) (shaped : Shaped fields) {kind : Keyword}
    (known : Dialect.draft4.knows kind = true) (other : kind ≠ .ref) (entry : (.text kind.name, argument) ∈ fields)
    (reached : ∀ part ∈ schemasUnder argument kind, Reached root part) (data : Value) :
    Below (keyword check context fields kind argument data).verdict (met judged (demands fields kind argument data)) := by
  have form := shaped.form kind argument known entry
  have given (kind : Keyword) (known : Dialect.draft4.knows kind = true) {v : Value}
      (found : argument? fields kind.name = some v) : HasForm kind v :=
    shaped.form kind v known (Entries.mem_of_lookup_eq_some found)
  have maps (kind : Keyword) (known : Dialect.draft4.knows kind = true)
      (mapping : ∀ v, HasForm kind v = IsObject v) : mapsNames fields kind.name = true := by
    unfold mapsNames
    cases found : argument? fields kind.name with
    | none => rfl
    | some v =>
      obtain ⟨inner, rfl⟩ := mapping v ▸ given kind known found
      rfl
  have plainly (plain : takesPlain kind = true) :
      Below (keyword check context fields kind argument data).verdict (met judged (demands fields kind argument data)) := by
    rw [form_of_takesPlain plain] at form
    rw [demands_of_takesPlain plain form, met, List.map_map]
    have same : Demand.verdict judged ∘ .plain = id := rfl
    rw [same, List.map_id]
    exact assertion_met agree shaped known plain data
  cases kind with
  | ref => exact absurd rfl other
  | allOf =>
    obtain ⟨schemas, rfl⟩ := form
    exact each_met_map fun schema member => agree.part schema data (reached schema member)
  | anyOf =>
    obtain ⟨schemas, rfl⟩ := form
    change Below _ (met judged [.any schemas data])
    rw [met_singleton]
    exact anyOf_met agree reached data
  | oneOf =>
    obtain ⟨schemas, rfl⟩ := form
    change Below _ (met judged [.one schemas data])
    rw [met_singleton]
    exact oneOf_met agree reached data
  | not =>
    rw [demands, met_singleton]
    exact negation_met agree (reached argument List.mem_cons_self) data
  | enum =>
    obtain ⟨members, rfl⟩ := form
    rw [demands, met_singleton]
    exact Report.test_verdict _ _
  | items => cases data with
    | list items => exact items_met agree form reached items
    | _ => exact .refl _
  | additionalItems => cases data with
    | list items =>
      exact furtherItems_met agree form (fun v found => given .items rfl found) (reached argument List.mem_cons_self) items
    | _ => exact .refl _
  | properties => cases data with
    | obj properties => exact properties_met agree form reached properties
    | _ => exact .refl _
  | patternProperties => cases data with
    | obj properties => exact patterns_met agree form reached properties
    | _ => exact .refl _
  | additionalProperties => cases data with
    | obj properties =>
      have named := maps .properties rfl fun _ => rfl
      have matched := maps .patternProperties rfl fun _ => rfl
      exact furtherProperties_met agree form named matched (reached argument List.mem_cons_self) properties
    | _ => exact .refl _
  | dependencies => cases data with
    | obj properties => exact dependencies_met agree form reached properties
    | _ => exact .refl _
  | _ => exact plainly rfl

end Keywords

/-! ### Checks -/

/-- Whether checks of all places that can be come to find what a judgement says. -/
def CheckerAgrees (root : Value) (check : Checker) (judged : Value → Value → Option Bool) : Prop :=
  ∀ context part data, Context.At root context → context.checksFormats = false → Reached root part →
    Below (check .draft4 context part data).verdict (judged part data)

section Root

variable {root : Value} {names : List String} {check : Checker} {context : Context}
variable {judged : Value → Value → Option Bool}

private theorem agrees_of_found (agrees : CheckerAgrees root check judged)
    (constants : ∀ b data, judged (.bool b) data = some b) (formatless : context.checksFormats = false)
    {part data : Value} (reached : Reached root part) {r : Report} (found : Found root check context part data r) :
    Below r.verdict (judged part data) := by
  cases found with
  | allowed same =>
    rw [same, constants]
    exact .refl _
  | never same =>
    rw [same, constants]
    exact Report.violation_verdict _
  | stopped _ => exact .none _
  | checked => exact agrees _ part data ⟨rfl, rfl⟩ formatless reached

private theorem isValid_agrees (settled : SettledRoot names root) (agrees : CheckerAgrees root check judged)
    (constants : ∀ b data, judged (.bool b) data = some b) (at_ : context.At root)
    (formatless : context.checksFormats = false) {part : Value} (reached : Reached root part) (data : Value) :
    Below (isValid check context part data).toOption (judged part data) := by
  unfold isValid
  split
  · rw [constants]
    exact .refl _
  next =>
    rw [at_.1]
    cases named : Dialect.ofSchema .draft4 part with
    | error fault => exact .none _
    | ok dialect =>
      obtain rfl := ofSchema_reached settled reached named
      exact agrees _ part data ⟨rfl, at_.2⟩ formatless reached

theorem partsAgree (settled : SettledRoot names root) (agrees : CheckerAgrees root check judged)
    (constants : ∀ b data, judged (.bool b) data = some b) (at_ : context.At root)
    (formatless : context.checksFormats = false) : PartsAgree root check context judged where
  dialect := at_.1
  formatless := formatless
  part _ data reached := agrees_of_found agrees constants formatless reached (descend_found settled at_ reached data)
  whole schema data reached := by
    have throughout : Context.At root { context with firstOnly := false } := at_
    have plain : Context.checksFormats { context with firstOnly := false } = false := formatless
    have below := agrees_of_found agrees constants plain reached (descend_found settled throughout reached data)
    exact (Report.throughout_verdict _).trans below
  valid _ data reached := isValid_agrees settled agrees constants at_ formatless reached data

/-- What the check by the target of a reference finds is the judgement of the target. -/
private theorem reference_agrees (closed : Closed root) (settled : SettledRoot names root)
    (agrees : CheckerAgrees root check judged) (constants : ∀ b data, judged (.bool b) data = some b)
    (at_ : context.At root) (formatless : context.checksFormats = false) {fields : List (Atom × Value)} {ref : Value}
    (reached : Reached root (.obj fields)) (given : fields.lookup (.text "$ref") = some ref) (data : Value) :
    ∃ text body, ref = .text text ∧ targetIn root text = some body ∧
      Below (reference check context ref data).verdict (judged body data) := by
  obtain ⟨text, name, body, rfl, named, there, target, found⟩ := reference_found closed settled at_ reached given data
  refine ⟨text, body, rfl, ?_, agrees_of_found agrees constants formatless target found⟩
  rw [targetIn, named]
  exact there

/-- One level of a check agrees with one step of judgement. -/
private theorem checkLevel_agrees (closed : Closed root) (settled : SettledRoot names root)
    (shaped : ∀ fields, Reached root (.obj fields) → Shaped fields) {n : Nat}
    (agrees : CheckerAgrees root check (judge (targetIn root) (n + 1))) :
    CheckerAgrees root (checkLevel check) (judge (targetIn root) (n + 2)) := by
  intro context part data at_ formatless reached
  cases part with
  | obj fields =>
    rw [checkLevel_object at_.1]
    cases shown : shownRef? fields with
    | some ref =>
      have given := lookup_of_shownRef? shown
      obtain ⟨text, body, rfl, leads, below⟩ :=
        reference_agrees closed settled agrees (fun _ _ => rfl) at_ formatless reached given data
      rw [judge_reference shown, leads, Option.bind_some]
      have one := Report.each_verdict context.firstOnly (fun _ : Unit => reference check context (.text text) data) [()]
      rw [List.map_singleton, allHold_singleton] at one
      exact one.trans below
    | none =>
      rw [judge_keywords shown]
      have parts := partsAgree settled agrees (fun _ _ => rfl) at_ formatless
      apply each_met
      intro f member
      cases given : keywordOf? .draft4 f.1 with
      | none => exact .refl _
      | some kind =>
        obtain ⟨entry, known, noRef, inside⟩ := keyword_reached closed reached shown member given
        exact keyword_met parts (shaped fields reached) known noRef entry inside data
  | atom a =>
    cases a with
    | bool b => cases b with
      | true => exact .refl _
      | false => exact Report.violation_verdict _
    | _ => exact .none _
  | _ => exact .none _

/-- What a check of any depth finds is the judgement after as many steps. -/
theorem checkWithin_agrees (closed : Closed root) (settled : SettledRoot names root)
    (shaped : ∀ fields, Reached root (.obj fields) → Shaped fields) (n : Nat) :
    CheckerAgrees root (checkWithin n) (judge (targetIn root) (n + 1)) := by
  induction n with
  | zero => exact fun _ _ _ _ _ _ => .none _
  | succ n ih => exact checkLevel_agrees closed settled shaped ih

/-- What a check by a closed root schema finds of data is the judgement of the data. -/
theorem check_agrees (closed : Closed root) (settled : SettledRoot names root)
    (shaped : ∀ fields, Reached root (.obj fields) → Shaped fields) (data : Value) :
    Below (Schema.check root data).verdict (judge (targetIn root) (nestingLimit + 1) root data) := by
  apply Report.attempt_verdict
  intro scope ok
  obtain rfl := scope_of_ofRoot settled ok
  exact checkWithin_agrees closed settled shaped nestingLimit _ root data ⟨rfl, rfl⟩ rfl .root

end Root

end SwaggerGate.Schema
