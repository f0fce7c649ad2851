import SwaggerGate.Proofs.Schema.Nonnull
import SwaggerGate.Proofs.Schema.Safe
import SwaggerGate.Proofs.Schema.Widening
import SwaggerGate.Proofs.Schema.WellFormed

/-! Checks by widened schemas. A check of data without null ends by a schema as it does by the same
schema widened: keyword by keyword, and from there through all places of a root schema. -/
namespace SwaggerGate.Schema

/-! ### Keywords -/

/-- Two contexts of draft 4 in which checks by related schemas end alike, for data without null. -/
structure Akin (check : Checker) (kin : Value → Value → Prop) (context other : Context) : Prop where
  draft : context.dialect = .draft4 ∧ other.dialect = .draft4
  flags : context.checksFormats = other.checksFormats ∧ context.firstOnly = other.firstOnly
  widens : ∀ part part', kin part part' → Widens part part'
  descend : ∀ part part' data, kin part part' → Nonnull data →
    (Schema.descend check context part data).EndsAs (Schema.descend check other part' data)
  throughout : ∀ part part' data, kin part part' → Nonnull data →
    (Schema.descend check { context with firstOnly := false } part data).EndsAs
      (Schema.descend check { other with firstOnly := false } part' data)
  isValid : ∀ part part' data, kin part part' → Nonnull data →
    Schema.isValid check context part data = Schema.isValid check other part' data

/-- Schemas are related to their widened forms if each is. -/
theorem kin_of_widens {kin : Value → Value → Prop} {schemas schemas' : List Value}
    (known : ∀ part ∈ schemas, ∀ part', Widens part part' → kin part part') (each : List.Forall₂ Widens schemas schemas') :
    List.Forall₂ kin schemas schemas' := by
  induction each with
  | nil => exact .nil
  | cons head _ ih =>
    exact .cons (known _ List.mem_cons_self _ head) (ih fun part member => known part (List.mem_cons_of_mem _ member))

/-- An object of keywords in the forms that draft 4 gives, whose literals widening leaves as they are. -/
structure Widenable (fields : List (Atom × Value)) : Prop where
  shaped : Shaped fields
  distinct : (Entries.keys fields).Nodup
  maps : ∀ kind ∈ [Keyword.properties, .patternProperties, .dependencies], ∀ entries,
    (.text kind.name, .obj entries) ∈ fields → ∀ entry ∈ entries, ∀ a, entry.2 ≠ .atom a
  literal : ∀ argument, (.text "enum", argument) ∈ fields → Widens argument argument

section Keywords

variable {check : Checker} {kin : Value → Value → Prop} {context other : Context} (akin : Akin check kin context other)
include akin

theorem Akin.each {α β : Type} {R : α → β → Prop} {report : α → Report} {report' : β → Report} {items : List α}
    {items' : List β} (related : List.Forall₂ R items items')
    (ends : ∀ a ∈ items, ∀ b, R a b → (report a).EndsAs (report' b)) :
    (context.each report items).EndsAs (other.each report' items') := by
  rw [Context.each, Context.each, ← akin.flags.2]
  exact .each related ends

theorem Akin.each_same {α : Type} {report report' : α → Report} {items : List α}
    (ends : ∀ a ∈ items, (report a).EndsAs (report' a)) : (context.each report items).EndsAs (other.each report' items) :=
  akin.each (R := Eq) (List.forall₂_eq_eq_eq ▸ rfl) fun a member _ same => same ▸ ends a member

theorem Akin.descendInto {part part' data : Value} (related : kin part part') (nonnull : Nonnull data) (step : Step) :
    (Schema.descendInto check context step part data).EndsAs (Schema.descendInto check other step part' data) := by
  have ends := akin.descend part part' data related nonnull
  have widens := akin.widens part part' related
  rcases widens.bool_or with ⟨b, rfl, rfl⟩ | ⟨plain, plain'⟩
  · exact ends
  · rw [descendInto_eq plain, descendInto_eq plain']
    exact ends.under step

private theorem descendEach_akin {schema schema' : Value} (related : kin schema schema') {items : List (Value × Nat)}
    (nonnull : ∀ item ∈ items, Nonnull item.1) :
    (descendEach check context schema items).EndsAs (descendEach check other schema' items) :=
  akin.each_same fun item member => akin.descendInto related (nonnull item member) _

omit akin in
private theorem zip_related {schemas schemas' : List Value} (related : List.Forall₂ kin schemas schemas') :
    ∀ (items : List Value) (n : Nat), List.Forall₂ (fun p q => p.1.1 = q.1.1 ∧ p.2 = q.2 ∧ kin p.1.2 q.1.2)
      ((items.zip schemas).zipIdx n) ((items.zip schemas').zipIdx n) := by
  induction related with
  | nil => simp
  | cons head _ ih =>
    intro items n
    cases items with
    | nil => exact .nil
    | cons item rest => exact .cons ⟨rfl, rfl, head⟩ (ih rest (n + 1))

private theorem descendTuple_akin {schemas schemas' : List Value} (related : List.Forall₂ kin schemas schemas')
    {items : List Value} (nonnull : Nonnull (.list items)) :
    (descendTuple check context schemas items).EndsAs (descendTuple check other schemas' items) := by
  refine akin.each (zip_related related items 0) ?_
  rintro ⟨⟨v, s⟩, i⟩ member ⟨⟨v', s'⟩, i'⟩ ⟨rfl, rfl, head⟩
  exact akin.descendInto head (nonnull.item v (List.of_mem_zip (List.fst_mem_of_mem_zipIdx member)).1) _

private theorem firstValid_akin {data : Value} (nonnull : Nonnull data) {schemas schemas' : List Value}
    (related : List.Forall₂ kin schemas schemas') :
    Both (Option.Rel fun found found' => kin found.1 found'.1 ∧ List.Forall₂ kin found.2 found'.2)
      (firstValid check context data schemas) (firstValid check other data schemas') := by
  induction related with
  | nil => exact .ok .none
  | @cons s s' rest rest' head tail ih =>
    rw [firstValid, firstValid, (akin.throughout s s' data head nonnull).holdsThroughout]
    refine (Both.of_eq rfl).bind fun valid _ same => ?_
    subst same
    cases valid with
    | true => exact .ok (.some ⟨head, tail⟩)
    | false => exact ih

private theorem filter_akin {data : Value} (nonnull : Nonnull data) {schemas schemas' : List Value}
    (related : List.Forall₂ kin schemas schemas') :
    Both (List.Forall₂ kin) (schemas.filterM fun s => isValid check context s data)
      (schemas'.filterM fun s => isValid check other s data) := by
  induction related with
  | nil => exact .ok .nil
  | @cons s s' rest rest' head _ ih =>
    rw [filterM_cons, filterM_cons, akin.isValid s s' data head nonnull]
    refine (Both.of_eq rfl).bind fun keep _ same => ih.bind fun kept kept' more => ?_
    subst same
    cases keep with
    | true => exact .ok (.cons head more)
    | false => exact .ok more

private theorem allShowable_akin {schemas schemas' : List Value} (related : List.Forall₂ kin schemas schemas') :
    schemas.all Value.isShowable = schemas'.all Value.isShowable := by
  induction related with
  | nil => rfl
  | @cons s s' rest rest' head _ ih =>
    rw [List.all_cons, List.all_cons, ih, isShowable_widened s s' (akin.widens s s' head)]

private theorem anyOf_akin {data : Value} (nonnull : Nonnull data) {schemas schemas' : List Value}
    (related : List.Forall₂ kin schemas schemas') :
    (anyOf check context (.list schemas) data).EndsAs (anyOf check other (.list schemas') data) := by
  refine .attempt (firstValid_akin akin nonnull related) fun found found' same => ?_
  cases same with
  | none => exact .test _ rfl
  | some _ => exact .test _ rfl

private theorem oneOf_akin {data : Value} (nonnull : Nonnull data) {schemas schemas' : List Value}
    (related : List.Forall₂ kin schemas schemas') :
    (oneOf check context (.list schemas) data).EndsAs (oneOf check other (.list schemas') data) := by
  refine .attempt (firstValid_akin akin nonnull related) fun found found' same => ?_
  cases same with
  | none => exact .violation rfl
  | @some found found' same =>
    obtain ⟨first, rest⟩ := same
    refine .attempt (filter_akin akin nonnull rest) fun more more' others => ?_
    have empty : more.isEmpty = more'.isEmpty := by
      cases others <;> rfl
    rw [empty]
    refine .test _ ?_
    have shown := allShowable_akin akin (List.rel_append others (.cons first .nil))
    simp only [Cause.shown, List.all_cons, shown]

private theorem negation_akin {schema schema' data : Value} (related : kin schema schema') (nonnull : Nonnull data) :
    (negation check context schema data).EndsAs (negation check other schema' data) := by
  refine .attempt_same (akin.isValid schema schema' data related nonnull) fun valid _ => .test _ ?_
  simp only [Cause.shown, List.all_cons, isShowable_widened _ _ (akin.widens _ _ related)]

private theorem allOf_akin {data : Value} (nonnull : Nonnull data) {schemas schemas' : List Value}
    (related : List.Forall₂ kin schemas schemas') :
    (context.each (fun s => Schema.descend check context s data) schemas).EndsAs
      (other.each (fun s => Schema.descend check other s data) schemas') :=
  akin.each related fun s _ s' same => akin.descend s s' data same nonnull

private theorem itemsKeyword_akin {fields ws : List (Atom × Value)} {argument argument' : Value} {items : List Value}
    (form : HasForm .items argument) (widens : Widens argument argument')
    (known : ∀ part ∈ schemasUnder argument .items, ∀ part', Widens part part' → kin part part')
    (nonnull : Nonnull (.list items)) :
    (itemsKeyword check context fields argument items).EndsAs (itemsKeyword check other ws argument' items) := by
  unfold itemsKeyword
  rw [akin.draft.1, akin.draft.2]
  rcases form with ⟨inner, rfl⟩ | ⟨schemas, rfl⟩
  · obtain ⟨inner', rfl, -⟩ := widens_object.1 widens
    refine descendEach_akin akin (known _ (List.mem_singleton.2 rfl) _ widens) fun item member => ?_
    exact nonnull.item item.1 (List.fst_mem_of_mem_zipIdx member)
  · obtain ⟨schemas', rfl, each⟩ := widens_list.1 widens
    exact descendTuple_akin akin (kin_of_widens known each) nonnull

omit akin in
private theorem additionalItems_tuple {fields : List (Atom × Value)} {tuple : Value}
    (given : fields.lookup (.text "items") = some tuple) (plain : ¬ IsObject tuple) (argument : Value)
    (items : List Value) : additionalItems check context fields argument items = .attempt tuple.size fun covered =>
      match argument with
      | .obj _ => descendEach check context argument (items.zipIdx.drop covered)
      | _ => .test (argument.isTruthy || items.length ≤ covered) (.extraItems (items.drop covered)) := by
  unfold additionalItems argument?
  rw [given]
  cases tuple with
  | obj fields => exact absurd ⟨fields, rfl⟩ plain
  | _ => rfl

omit akin in
private theorem additionalItems_same {fields : List (Atom × Value)}
    (whole : ∀ tuple, fields.lookup (.text "items") = some tuple → IsObject tuple) (argument : Value)
    (items : List Value) : additionalItems check context fields argument items = .ok := by
  unfold additionalItems argument?
  split
  · rfl
  · rfl
  next tuple other given =>
    obtain ⟨inner, rfl⟩ := whole tuple given
    exact absurd rfl (other inner)

private theorem additionalItems_akin {fields ws : List (Atom × Value)} {argument argument' : Value} {items : List Value}
    (each : WidensFields (isWidened fields) fields ws) (form : HasForm .additionalItems argument)
    (related : kin argument argument') (nonnull : Nonnull (.list items)) :
    (additionalItems check context fields argument items).EndsAs (additionalItems check other ws argument' items) := by
  rcases each.argument (.text "items") (by decide) with ⟨absent, absent'⟩ | ⟨v, w, given, given', widens⟩
  · rw [additionalItems_same (by simp [absent]), additionalItems_same (by simp [absent'])]
    exact .refl _
  · by_cases whole : IsObject v
    · rw [additionalItems_same (by simpa [given] using whole),
        additionalItems_same (by simpa [given'] using widens.isObject.2 whole)]
      exact .refl _
    · rw [additionalItems_tuple given whole, additionalItems_tuple given' (fun object => whole (widens.isObject.1 object))]
      refine .attempt_same widens.size.symm fun covered _ => ?_
      rcases form with ⟨inner, rfl⟩ | ⟨b, rfl⟩
      · obtain ⟨inner', rfl, -⟩ := widens_object.1 (akin.widens _ _ related)
        refine descendEach_akin akin related fun item member => ?_
        exact nonnull.item item.1 (List.fst_mem_of_mem_zipIdx (List.mem_of_mem_drop member))
      · obtain rfl := (akin.widens _ _ related).eq_of_atom
        exact .refl _

omit akin in
/-- Widened keywords beside an argument cover the properties that they do. -/
theorem uncovered_widened {fields ws : List (Atom × Value)} (shaped : Shaped fields)
    (each : WidensFields (isWidened fields) fields ws) (properties : List (Atom × Value)) :
    uncovered ws properties = uncovered fields properties := by
  have object (name : String) (kind : Keyword) (same : kind.name = name) (known : Dialect.draft4.knows kind = true)
      (maps : ∀ argument, HasForm kind argument = IsObject argument) (other : Atom.text name ≠ .text "type") :
      (argument? fields name = none ∧ argument? ws name = none) ∨ ∃ inner inner', argument? fields name = some (.obj inner) ∧
        argument? ws name = some (.obj inner') ∧ WidensFields (isWidened inner) inner inner' := by
    rcases each.argument _ other with absent | ⟨v, w, given, given', widens⟩
    · exact .inl absent
    · have form := shaped.form kind v known (same ▸ Entries.mem_of_lookup_eq_some given)
      rw [maps] at form
      obtain ⟨inner, rfl⟩ := form
      obtain ⟨inner', rfl, related⟩ := widens_object.1 widens
      exact .inr ⟨inner, inner', given, given', related⟩
  have patterns : joinedPatterns ws = joinedPatterns fields := by
    unfold joinedPatterns
    rcases object "patternProperties" .patternProperties rfl rfl (fun _ => rfl) (by decide) with
      ⟨absent, absent'⟩ | ⟨inner, inner', given, given', related⟩
    · rw [absent, absent']
    · simp only [given, given', related.members]
  unfold uncovered
  rw [patterns]
  rcases object "properties" .properties rfl rfl (fun _ => rfl) (by decide) with
    ⟨absent, absent'⟩ | ⟨inner, inner', given, given', related⟩
  · simp only [absent, absent']
  · have holds (key : Atom) : (Value.obj inner').holds (.atom key) = (Value.obj inner).holds (.atom key) :=
      congrArg Except.ok (related.isSome_entryOf? key)
    simp only [given, given', holds]

private theorem additionalProperties_akin {fields ws : List (Atom × Value)} {argument argument' : Value}
    {properties : List (Atom × Value)} (shaped : Shaped fields) (each : WidensFields (isWidened fields) fields ws)
    (form : HasForm .additionalProperties argument) (related : kin argument argument')
    (nonnull : Nonnull (.obj properties)) :
    (additionalProperties check context fields argument properties).EndsAs
      (additionalProperties check other ws argument' properties) := by
  refine .attempt_same (uncovered_widened shaped each properties).symm fun extras found => ?_
  rcases form with ⟨inner, rfl⟩ | ⟨b, rfl⟩
  · obtain ⟨inner', rfl, -⟩ := widens_object.1 (akin.widens _ _ related)
    refine akin.each_same fun f member => akin.descendInto related (nonnull.property f ?_) _
    obtain ⟨patterns, -, found⟩ := bind_eq_ok.1 found
    exact ((mem_of_filterM found f).1 member).1
  · obtain rfl := (akin.widens _ _ related).eq_of_atom
    refine .test _ ?_
    cases argument? fields "patternProperties" <;> cases argument? ws "patternProperties" <;> rfl

private theorem patternProperties_akin {entries entries' properties : List (Atom × Value)}
    (each : WidensEntries entries entries') (known : ∀ entry ∈ entries, ∀ w, Widens entry.2 w → kin entry.2 w)
    (nonnull : Nonnull (.obj properties)) :
    (patternProperties check context (.obj entries) properties).EndsAs
      (patternProperties check other (.obj entries') properties) := by
  refine akin.each each ?_
  rintro ⟨name, schema⟩ member ⟨name', schema'⟩ ⟨rfl, widens⟩
  refine akin.each_same fun f inside => .attempt_same rfl fun found _ => ?_
  split
  · exact akin.descendInto (known _ member schema' widens) (nonnull.property f inside) _
  · exact .refl _

private theorem properties_akin {entries entries' properties : List (Atom × Value)}
    (each : WidensEntries entries entries') (known : ∀ entry ∈ entries, ∀ w, Widens entry.2 w → kin entry.2 w)
    (nonnull : Nonnull (.obj properties)) :
    (Schema.properties check context (.obj entries) properties).EndsAs
      (Schema.properties check other (.obj entries') properties) := by
  refine akin.each each ?_
  rintro ⟨name, schema⟩ member ⟨name', schema'⟩ ⟨rfl, widens⟩
  dsimp only
  split
  next v found => exact akin.descendInto (known _ member schema' widens) (nonnull.entryOf? found) _
  next =>
    rw [akin.draft.1, akin.draft.2]
    exact .refl _

private theorem missing_akin {needed needed' : List Value} (each : List.Forall₂ Widens needed needed') (name : Atom)
    (properties : List (Atom × Value)) :
    (missing context needed name (.obj properties)).EndsAs (missing other needed' name (.obj properties)) := by
  refine akin.each each fun each _ each' widens => .attempt_same (widens.holds properties).symm fun found _ => .test _ ?_
  simp only [Cause.shown, List.all_cons, isShowable_widened _ _ widens]

private theorem dependencies_akin {entries entries' properties : List (Atom × Value)}
    (each : WidensEntries entries entries') (known : ∀ entry ∈ entries, ∀ w, Widens entry.2 w → kin entry.2 w)
    (nonnull : Nonnull (.obj properties)) :
    (dependencies check context (.obj entries) properties).EndsAs (dependencies check other (.obj entries') properties) := by
  refine akin.each each ?_
  rintro ⟨name, dependency⟩ member ⟨name', dependency'⟩ ⟨same, widens⟩
  obtain rfl : name' = name := same
  replace widens : Widens dependency dependency' := widens
  have descends := akin.descend _ _ _ (known _ member dependency' widens) nonnull
  dsimp only
  split
  · rw [akin.draft.1, akin.draft.2]
    rcases widens.cases with ⟨rfl, notList, -⟩ | ⟨needed, needed', rfl, rfl, each⟩ | ⟨inner, inner', rfl, rfl, -⟩
    · cases dependency' with
      | list needed => exact absurd rfl (notList needed)
      | _ => exact descends
    · exact missing_akin akin each name' properties
    · exact descends
  · exact .refl _

/-- Beside a type, data without null has the type of null by none. -/
private theorem type_akin {argument argument' data : Value} {widened : Bool} (plain : isPlain argument = true)
    (wide : WidensArgument widened (.text "type") argument argument')
    (text : widened = true → ∃ s, argument = .text s) (nonnull : Nonnull data) :
    (typeKeyword check context argument data).EndsAs (typeKeyword check other argument' data) := by
  have named : hasNamedType context data = hasNamedType other data := by
    funext name
    simp only [hasNamedType, akin.draft.1, akin.draft.2]
  have null : hasNamedType other data (.text "null") = .ok false := by
    have known : Dialect.draft4.type? "null" = some .null := rfl
    simp only [hasNamedType, akin.draft.2, known, nonnull.hasType_null]
  unfold typeKeyword
  rw [akin.draft.1, akin.draft.2]
  simp only [reduceCtorEq, if_false, named]
  unfold WidensArgument at wide
  split at wide
  next both =>
    obtain ⟨s, rfl⟩ := text (Bool.and_eq_true_iff.1 both).1
    subst wide
    -- the second type is the one that the data does not have
    refine .attempt_same ?_ fun passed _ => .test _ rfl
    change anyHolds _ [.text s] = anyHolds _ [.text s, .text "null"]
    simp only [anyHolds, null]
    cases hasNamedType other data (.text s) with
    | error fault => rfl
    | ok has => cases has <;> rfl
  next =>
    rw [wide.eq_of_plain plain]
    exact .refl _

/-- A keyword of draft 4 that is no reference finds data without null alike, widened or not. -/
theorem Akin.keyword {fields ws : List (Atom × Value)} (able : Widenable fields)
    (each : WidensFields (isWidened fields) fields ws) {keyword_ : Keyword} {argument argument' : Value}
    (draft4 : Dialect.draft4.knows keyword_ = true) (notRef : keyword_ ≠ .ref)
    (entry : (.text keyword_.name, argument) ∈ fields)
    (wide : WidensArgument (isWidened fields) (.text keyword_.name) argument argument')
    (known : ∀ part ∈ schemasUnder argument keyword_, ∀ part', Widens part part' → kin part part')
    {data : Value} (nonnull : Nonnull data) :
    (Schema.keyword check context fields keyword_ argument data).EndsAs
      (Schema.keyword check other ws keyword_ argument' data) := by
  have form := able.shaped.form keyword_ argument draft4 entry
  have single (other : Atom.text keyword_.name ≠ .text "type") (h : schemasUnder argument keyword_ = [argument]) :
      kin argument argument' :=
    known argument (by simp [h]) argument' (wide.widens other)
  have listed (other : Atom.text keyword_.name ≠ .text "type") (form : ∃ items, argument = .list items)
      (h : schemasUnder argument keyword_ = listedSchemas argument) : ∃ schemas schemas', argument = .list schemas ∧
        argument' = .list schemas' ∧ List.Forall₂ kin schemas schemas' := by
    obtain ⟨schemas, rfl⟩ := form
    obtain ⟨schemas', rfl, related⟩ := widens_list.1 (wide.widens other)
    rw [h] at known
    exact ⟨schemas, schemas', rfl, rfl, kin_of_widens known related⟩
  have mapping (maps : keyword_ ∈ [Keyword.properties, .patternProperties, .dependencies])
      (other : Atom.text keyword_.name ≠ .text "type") (form : IsObject argument)
      (h : schemasUnder argument keyword_ = mapped argument) : ∃ entries entries', argument = .obj entries ∧
        argument' = .obj entries' ∧ WidensEntries entries entries' ∧
          ∀ entry ∈ entries, ∀ w, Widens entry.2 w → kin entry.2 w := by
    obtain ⟨entries, rfl⟩ := form
    obtain ⟨entries', rfl, related⟩ := (widens_map (able.maps keyword_ maps entries entry)).1 (wide.widens other)
    refine ⟨entries, entries', rfl, rfl, related, fun one member => known one.2 ?_⟩
    rw [h]
    exact List.mem_map.2 ⟨one, member, rfl⟩
  have plain (other : Atom.text keyword_.name ≠ .text "type") (form : isPlain argument = true) : argument' = argument :=
    (wide.widens other).eq_of_plain form
  cases keyword_ with
  | ref => exact absurd rfl notRef
  | not => exact negation_akin akin (single (by decide) rfl) nonnull
  | allOf =>
    obtain ⟨schemas, schemas', rfl, rfl, related⟩ := listed (by decide) form rfl
    exact allOf_akin akin nonnull related
  | anyOf =>
    obtain ⟨schemas, schemas', rfl, rfl, related⟩ := listed (by decide) form rfl
    exact anyOf_akin akin nonnull related
  | oneOf =>
    obtain ⟨schemas, schemas', rfl, rfl, related⟩ := listed (by decide) form rfl
    exact oneOf_akin akin nonnull related
  | additionalItems => cases data with
    | list items => exact additionalItems_akin akin each form (single (by decide) rfl) nonnull
    | _ => exact .refl _
  | items => cases data with
    | list items => exact itemsKeyword_akin akin form (wide.widens (by decide)) known nonnull
    | _ => exact .refl _
  | additionalProperties => cases data with
    | obj properties => exact additionalProperties_akin akin able.shaped each form (single (by decide) rfl) nonnull
    | _ => exact .refl _
  | properties => cases data with
    | obj properties =>
      obtain ⟨entries, entries', rfl, rfl, related, known⟩ := mapping (by simp) (by decide) form rfl
      exact properties_akin akin related known nonnull
    | _ => exact .refl _
  | patternProperties => cases data with
    | obj properties =>
      obtain ⟨entries, entries', rfl, rfl, related, known⟩ := mapping (by simp) (by decide) form rfl
      exact patternProperties_akin akin related known nonnull
    | _ => exact .refl _
  | dependencies => cases data with
    | obj properties =>
      obtain ⟨entries, entries', rfl, rfl, related, known⟩ := mapping (by simp) (by decide) form rfl
      exact dependencies_akin akin related known nonnull
    | _ => exact .refl _
  | enum =>
    obtain rfl := (wide.widens (by decide)).unique (able.literal argument entry)
    exact .refl _
  | type => exact type_akin akin form wide (fun wide => text_of_widened able.distinct wide argument entry) nonnull
  | required =>
    obtain rfl := plain (by decide) form
    cases data with
    | obj properties =>
      refine .of_eq ?_
      simp only [Schema.keyword, Schema.required, Context.each, akin.flags.2]
    | _ => exact .refl _
  | format =>
    obtain rfl := plain (by decide) form
    refine .of_eq ?_
    cases data with
    | atom a => cases a with
      | text s => simp only [Schema.keyword, akin.flags.1]
      | _ => rfl
    | _ => rfl
  | maximum =>
    obtain rfl := plain (by decide) form
    refine .of_eq ?_
    have flag := each.any_isTruthy (show Atom.text "exclusiveMaximum" ≠ .text "type" by decide)
    simp only [Schema.keyword, maximum, akin.draft.1, akin.draft.2, flag]
  | minimum =>
    obtain rfl := plain (by decide) form
    refine .of_eq ?_
    have flag := each.any_isTruthy (show Atom.text "exclusiveMinimum" ≠ .text "type" by decide)
    simp only [Schema.keyword, minimum, akin.draft.1, akin.draft.2, flag]
  | multipleOf =>
    obtain rfl := plain (by decide) form
    exact .refl _
  | uniqueItems | maxItems | minItems | maxProperties | minProperties =>
    obtain rfl := plain (by decide) form
    refine .of_eq ?_
    cases data <;> rfl
  | pattern | maxLength | minLength =>
    obtain rfl := plain (by decide) form
    refine .of_eq ?_
    cases data with
    | atom a => cases a <;> rfl
    | _ => rfl
  | _ => cases draft4

end Keywords

/-! ### Root schemas -/

/-- A root schema in the forms that draft 4 gives, and the same widened. -/
structure WidenedRoot (root root' : Value) : Prop where
  closed : Closed root
  settled : ∃ names, SettledRoot names root
  able : ∀ fields, Reached root (.obj fields) → Widenable fields
  bodies : WidensEntries (embeddedIn root) (embeddedIn root')
  widens : Widens root root'

/-- Whether a check of data without null ends alike at each place of a root schema, widened or not. -/
def EndsAlike (root root' : Value) (check : Checker) : Prop :=
  ∀ context other part part' data, Context.At root context → Context.At root' other →
    context.checksFormats = other.checksFormats → context.firstOnly = other.firstOnly → Reached root part →
      Widens part part' → Nonnull data → (check .draft4 context part data).EndsAs (check .draft4 other part' data)

section Roots

variable {root root' : Value} {check : Checker} {context other : Context} (both : WidenedRoot root root')
  (alike : EndsAlike root root' check) (at_ : context.At root) (at_' : other.At root')
  (formats : context.checksFormats = other.checksFormats) (first : context.firstOnly = other.firstOnly)
include both alike at_ at_' formats first

private theorem checkIn_widened {part part' data : Value} (reached : Reached root part) (widens : Widens part part')
    (nonnull : Nonnull data) :
    (checkIn check context (rootScope root) part data).EndsAs (checkIn check other (rootScope root') part' data) := by
  rcases widens.bool_or with ⟨b, rfl, rfl⟩ | ⟨plain, plain'⟩
  · rw [checkIn_bool, checkIn_bool]
    exact .refl _
  · rw [checkIn_eq plain, checkIn_eq plain', at_.1, at_'.1]
    refine .attempt_same widens.ofSchema.symm fun dialect named => ?_
    obtain rfl := ofSchema_reached both.settled.choose_spec reached named
    exact alike _ _ part part' data ⟨rfl, rfl⟩ ⟨rfl, rfl⟩ formats first reached widens nonnull

private theorem descend_widened {part part' data : Value} (reached : Reached root part) (widens : Widens part part')
    (nonnull : Nonnull data) : (descend check context part data).EndsAs (descend check other part' data) := by
  have here := checkIn_widened both alike at_ at_' formats first reached widens nonnull
  rcases widens.bool_or with ⟨b, rfl, rfl⟩ | ⟨plain, plain'⟩
  · rw [descend_bool, descend_bool]
    exact .refl _
  · have noAddress := (id_reached both.settled.choose_spec reached).2
    have noAddress' : ∀ address, (Resource.mk .draft4 part').id? ≠ .ok (some address) := by
      rwa [widens.id?]
    rw [descend_eq plain, descend_eq plain', at_.1, at_'.1, at_.2, at_'.2, inside_of_plain noAddress,
      inside_of_plain noAddress', widens.id?]
    exact .attempt_map fun _ => here

omit first in
private theorem isValid_ends {part part' data : Value} (reached : Reached root part) (widens : Widens part part')
    (nonnull : Nonnull data) : isValid check context part data = isValid check other part' data := by
  rcases widens.bool_or with ⟨b, rfl, rfl⟩ | ⟨plain, plain'⟩
  · rfl
  · rw [isValid_eq plain, isValid_eq plain', at_.1, at_'.1, widens.ofSchema]
    cases named : Dialect.ofSchema .draft4 part with
    | error fault => rfl
    | ok dialect =>
      obtain rfl := ofSchema_reached both.settled.choose_spec reached named
      exact (alike { context with dialect := .draft4, firstOnly := true }
        { other with dialect := .draft4, firstOnly := true } part part' data ⟨rfl, at_.2⟩ ⟨rfl, at_'.2⟩ formats rfl
        reached widens nonnull).holds

theorem WidenedRoot.akin : Akin check (fun part part' => Reached root part ∧ Widens part part') context other where
  draft := ⟨at_.1, at_'.1⟩
  flags := ⟨formats, first⟩
  widens _ _ related := related.2
  descend _ _ _ related nonnull := descend_widened both alike at_ at_' formats first related.1 related.2 nonnull
  throughout _ _ _ related nonnull :=
    have at_ : Context.At root { context with firstOnly := false } := at_
    have at_' : Context.At root' { other with firstOnly := false } := at_'
    descend_widened both alike at_ at_' formats rfl related.1 related.2 nonnull
  isValid _ _ _ related nonnull := isValid_ends both alike at_ at_' formats related.1 related.2 nonnull

private theorem reference_ends {fields : List (Atom × Value)} {ref data : Value} (reached : Reached root (.obj fields))
    (given : fields.lookup (.text "$ref") = some ref) (nonnull : Nonnull data) :
    (reference check context ref data).EndsAs (reference check other ref data) := by
  obtain ⟨text, name, body, rfl, named, found⟩ := both.closed fields ref reached given
  obtain ⟨target, leads⟩ := lookUp_reached both.settled.choose_spec reached given named found
  obtain ⟨body', found', widens⟩ : ∃ body', (embeddedIn root').lookup (.text name) = some body' ∧ Widens body body' := by
    rcases both.bodies.lookup (.text name) with ⟨absent, -⟩ | ⟨v, w, known, known', widens⟩
    · rw [absent] at found
      cases found
    · rw [known] at found
      cases found
      exact ⟨w, known', widens⟩
  have noAddress : ∀ address, (Resource.mk .draft4 body').id? ≠ .ok (some address) := by
    rw [widens.id?]
    exact (id_reached both.settled.choose_spec target).2
  have leads' := lookUp_embedded named found' noAddress
  change (Report.attempt ((context.scope.lookUp text).mapError Fault.ofLookUp) _).EndsAs
    (Report.attempt ((other.scope.lookUp text).mapError Fault.ofLookUp) _)
  rw [at_.2, at_'.2, leads, leads', widens.id?]
  cases (Resource.mk .draft4 body).id? with
  | error fault => exact .refl (.stop (.ofLookUp fault))
  | ok address => exact checkIn_widened both alike at_ at_' formats first target widens nonnull

end Roots

private theorem checkLevel_ends {root root' : Value} {check : Checker} (both : WidenedRoot root root')
    (alike : EndsAlike root root' check) : EndsAlike root root' (checkLevel check) := by
  intro context other part part' data at_ at_' formats first reached widens nonnull
  have akin := both.akin alike at_ at_' formats first
  rcases widens.cases with ⟨rfl, notList, notObject⟩ | ⟨items, items', rfl, rfl, -⟩ | ⟨fields, ws, rfl, rfl, each⟩
  · cases part' with
    | obj fields => exact absurd rfl (notObject fields)
    | atom a => cases a with
      | bool b => cases b <;> exact .refl _
      | _ => exact .refl _
    | _ => exact .refl _
  · exact .refl _
  · rw [checkLevel_object at_.1, checkLevel_object at_'.1]
    cases shown : shownRef? fields with
    | some ref =>
      have given := lookup_of_shownRef? shown
      obtain ⟨text, -, -, rfl, -⟩ := both.closed fields ref reached given
      rw [each.shown_text shown]
      refine akin.each_same fun f member => ?_
      obtain rfl := List.mem_singleton.1 member
      exact reference_ends both alike at_ at_' formats first reached given nonnull
    | none =>
      rw [each.shown_none shown]
      refine akin.each each fun f member w same => ?_
      obtain ⟨key, argument⟩ := f
      obtain ⟨key', argument'⟩ := w
      obtain ⟨rfl, wide⟩ := same
      dsimp only
      split
      next kind given =>
        obtain ⟨-, known, noRef, inside⟩ := keyword_reached both.closed reached shown member given
        obtain ⟨rfl, -⟩ := keyword_key given
        exact akin.keyword (both.able fields reached) each known noRef member wide
          (fun part under part' widens => ⟨inside part under, widens⟩) nonnull
      next => exact .refl _

/-- Checks of data without null end alike in a root schema and in the same widened. -/
theorem checkWithin_ends {root root' : Value} (both : WidenedRoot root root') (n : Nat) :
    EndsAlike root root' (checkWithin n) := by
  induction n with
  | zero => exact fun _ _ _ _ _ _ _ _ _ _ _ _ => .refl _
  | succ n ih => exact checkLevel_ends both ih

/-- A check of data without null ends alike by a root schema and by the same widened. -/
theorem check_ends {root root' data : Value} (both : WidenedRoot root root') (nonnull : Nonnull data) :
    (Schema.check root data).EndsAs (Schema.check root' data) := by
  unfold Schema.check checkRoot
  have noAddress := (id_reached both.settled.choose_spec .root).2
  refine .attempt (R := fun scope scope' => scope = rootScope root ∧ scope' = rootScope root') ?_ ?_
  · cases id : (Resource.mk .draft4 root).id? with
    | error fault =>
      rw [Scope.ofRoot, Scope.ofRoot, both.widens.id?, id]
      exact .error fault
    | ok address => cases address with
      | some address => exact absurd id (noAddress address)
      | none =>
        rw [ofRoot_eq id, ofRoot_eq (both.widens.id?.trans id)]
        exact .ok ⟨rfl, rfl⟩
  · rintro _ _ ⟨rfl, rfl⟩
    exact checkWithin_ends both nestingLimit _ _ root root' data ⟨rfl, rfl⟩ ⟨rfl, rfl⟩ rfl rfl .root both.widens nonnull

end SwaggerGate.Schema
