import SwaggerGate.Proofs.Schema.Compiled
import SwaggerGate.Proofs.Schema.Meaning

/-! Demands of matching schemas. Two schemas match if they have the same keys, with literal
data equal and schemas related; then they demand the same, up to related schemas. -/
namespace SwaggerGate.Schema

/-- How a value and a related one are built: alike, but for the entries of objects. -/
inductive Form (R : Value → Value → Prop) : Value → Value → Prop where
  | atom (a : Atom) : Form R (.atom a) (.atom a)
  | set (members : List Atom) : Form R (.set members) (.set members)
  | pair (a b : Value) : Form R (.pair a b) (.pair a b)
  | list {items cs : List Value} : List.Forall₂ R items cs → Form R (.list items) (.list cs)
  | obj (fields cs : List (Atom × Value)) : Form R (.obj fields) (.obj cs)

/-- How maps of names to related schemas are built; what maps no names only stays none. -/
inductive MapForm (R : Value → Value → Prop) : Value → Value → Prop where
  | obj {fields cs : List (Atom × Value)} : List.Forall₂ (fun f c => c.1 = f.1 ∧ R f.2 c.2) fields cs →
      MapForm R (.obj fields) (.obj cs)
  | other {v c : Value} : ¬ IsObject v → ¬ IsObject c → MapForm R v c

/-- Whether the arguments of a key match. -/
def ArgumentMatch (R : Value → Value → Prop) (key : Atom) (v c : Value) : Prop :=
  if isLiteralKey key then c = v else if isSchemaMapKey key then MapForm R v c else R v c

/-- Whether two entries of objects of keywords match. -/
def FieldMatch (R : Value → Value → Prop) (field other : Atom × Value) : Prop :=
  other.1 = field.1 ∧ ArgumentMatch R field.1 field.2 other.2

section Matching

variable {R : Value → Value → Prop}

private theorem Form.isPlain {v c : Value} (forms : ∀ v c, R v c → Form R v c) (form : Form R v c) :
    isPlain c = isPlain v ∧ (isPlain v = true → c = v) := by
  cases form with
  | atom a => exact ⟨rfl, fun _ => rfl⟩
  | set members => exact ⟨rfl, fun _ => rfl⟩
  | pair a b => exact ⟨rfl, fun _ => rfl⟩
  | obj fields cs => exact ⟨rfl, nofun⟩
  | @list items cs each =>
    induction each with
    | nil => exact ⟨rfl, fun _ => rfl⟩
    | @cons v c rest rest' head tail ih =>
      simp only [Schema.isPlain, List.all_cons, Bool.and_eq_true, Value.list.injEq] at ih ⊢
      cases forms v c head with
      | atom a =>
        refine ⟨by rw [ih.1], fun plain => ?_⟩
        rw [ih.2 plain.2]
      | _ => exact ⟨rfl, fun plain => absurd plain.1 Bool.false_ne_true⟩

private theorem keys_of_related {fields cs : List (Atom × Value)}
    (each : List.Forall₂ (fun f c => c.1 = f.1 ∧ R f.2 c.2) fields cs) :
    cs.map Prod.fst = fields.map Prod.fst := by
  induction each with
  | nil => rfl
  | cons head _ ih => rw [List.map_cons, List.map_cons, head.1, ih]

private theorem forall₂_flatMap {α β γ δ : Type} {P : α → β → Prop} {Q : γ → δ → Prop} {f : α → List γ} {g : β → List δ}
    {l : List α} {l' : List β} (related : List.Forall₂ P l l')
    (each : ∀ a ∈ l, ∀ b, P a b → List.Forall₂ Q (f a) (g b)) : List.Forall₂ Q (l.flatMap f) (l'.flatMap g) := by
  induction related with
  | nil => exact .nil
  | @cons a b rest rest' head _ ih =>
    rw [List.flatMap_cons, List.flatMap_cons]
    refine List.rel_append (each a List.mem_cons_self b head) (ih fun x inside => ?_)
    exact each x (List.mem_cons_of_mem _ inside)

private theorem forall₂_map_same {α γ δ : Type} {Q : γ → δ → Prop} {f : α → γ} {g : α → δ} (l : List α)
    (each : ∀ a ∈ l, Q (f a) (g a)) : List.Forall₂ Q (l.map f) (l.map g) := by
  rw [List.forall₂_map_left_iff, List.forall₂_map_right_iff]
  exact List.forall₂_same.2 each

private theorem meaningless_related : List.Forall₂ (Demand.Related R) meaningless meaningless :=
  .cons (.plain none) .nil

private theorem related_inside {P : Value → Prop} {ss cs : List Value} (each : List.Forall₂ R ss cs)
    (inside : ∀ s ∈ ss, P s) : List.Forall₂ (fun s c => P s ∧ R s c) ss cs :=
  (List.forall₂_and_left ss cs).2 ⟨inside, each⟩

theorem mapsNames_of_not_object {fields : List (Atom × Value)} {name : String} {v : Value}
    (given : argument? fields name = some v) (plain : ¬ IsObject v) : mapsNames fields name = false := by
  rw [mapsNames, given]
  cases v with
  | obj inner => exact absurd ⟨inner, rfl⟩ plain
  | _ => rfl

/-- Whether two objects of keywords map the same names to schemas under a keyword. -/
private def SameNames (fields others : List (Atom × Value)) (name : String) : Prop :=
  (argument? fields name = none ∧ argument? others name = none) ∨
    ∃ schemas others', argument? fields name = some (.obj schemas) ∧ argument? others name = some (.obj others') ∧
      others'.map Prod.fst = schemas.map Prod.fst

private theorem isSome_entryOf? {schemas others : List (Atom × Value)}
    (same : others.map Prod.fst = schemas.map Prod.fst) (key : Atom) :
    (entryOf? others key).isSome = (entryOf? schemas key).isSome := by
  have known (l : List (Atom × Value)) : (entryOf? l key).isSome = (l.map Prod.fst).any fun k => k.sameKey key := by
    rw [entryOf?, Option.isSome_map, Bool.eq_iff_iff, List.find?_isSome, List.any_map, List.any_eq_true]
    rfl
  rw [known, known, same]

/-- What is covered by the properties of a schema depends on their names only. -/
private theorem uncovered_of_sameNames {fields others : List (Atom × Value)}
    (names : SameNames fields others "properties") (patterns : SameNames fields others "patternProperties")
    (properties : List (Atom × Value)) : uncovered others properties = uncovered fields properties := by
  have joined : joinedPatterns others = joinedPatterns fields := by
    unfold joinedPatterns
    rcases patterns with ⟨absent, absent'⟩ | ⟨schemas, others', given, given', same⟩
    · rw [absent, absent']
    · have members : (Value.obj others').members = (Value.obj schemas).members := by
        have atoms (l : List (Atom × Value)) : (Value.obj l).members = .ok ((l.map Prod.fst).map .atom) := by
          rw [Value.members, List.map_map]
          rfl
        rw [atoms, atoms, same]
      simp only [given, given', members]
  unfold uncovered
  rw [joined]
  rcases names with ⟨absent, absent'⟩ | ⟨schemas, others', given, given', same⟩
  · rw [absent, absent']
  · simp only [given, given', Value.holds, isSome_entryOf? same]

private theorem zipWith_related {P : Value → Value → Prop} {ss cs : List Value} (each : List.Forall₂ P ss cs) :
    ∀ items : List Value, List.Forall₂ (Demand.Related P) (List.zipWith .holds ss items) (List.zipWith .holds cs items) := by
  induction each with
  | nil => exact fun _ => .nil
  | cons head _ ih =>
    intro items
    cases items with
    | nil => exact .nil
    | cons item items => exact .cons (.holds item head) (ih items)

private theorem itemDemands_matched {v c : Value} (forms : ∀ v c, R v c → Form R v c) (related : R v c)
    (items : List Value) :
    List.Forall₂ (Demand.Related fun s p => s ∈ schemasUnder v .items ∧ R s p) (itemDemands v items)
      (itemDemands c items) := by
  cases forms v c related with
  | obj inner cs =>
    exact forall₂_map_same items fun item _ => .holds item ⟨List.mem_singleton.2 rfl, related⟩
  | list tuple => exact zipWith_related (related_inside tuple fun s member => member) items
  | _ => exact meaningless_related

private theorem propertyDemands_matched {v c : Value} (related : MapForm R v c) (properties : List (Atom × Value)) :
    List.Forall₂ (Demand.Related fun s p => s ∈ mapped v ∧ R s p) (propertyDemands v properties)
      (propertyDemands c properties) := by
  cases related with
  | @obj schemas cs each =>
    refine forall₂_flatMap each fun f member g ⟨key, related⟩ => ?_
    rw [key]
    exact forall₂_map_same _ fun data _ => .holds data ⟨List.mem_map.2 ⟨f, member, rfl⟩, related⟩
  | other plain plain' =>
    have none_ (w : Value) (plain : ¬ IsObject w) : propertyDemands w properties = meaningless := by
      cases w with
      | obj inner => exact absurd ⟨inner, rfl⟩ plain
      | _ => rfl
    rw [none_ v plain, none_ c plain']
    exact meaningless_related

private theorem patternDemands_matched {v c : Value} (related : MapForm R v c) (properties : List (Atom × Value)) :
    List.Forall₂ (Demand.Related fun s p => s ∈ mapped v ∧ R s p) (patternDemands v properties)
      (patternDemands c properties) := by
  cases related with
  | @obj patterns cs each =>
    refine forall₂_flatMap each fun f member g ⟨key, related⟩ => ?_
    apply forall₂_flatMap (List.forall₂_same.2 fun p _ => rfl)
    intro p _ q same
    obtain rfl : p = q := same
    rw [key]
    cases patternHolds (.atom f.1) (Value.atom p.1).plainText with
    | error fault => exact meaningless_related
    | ok found =>
      cases found with
      | false => exact .nil
      | true => exact .cons (.holds p.2 ⟨List.mem_map.2 ⟨f, member, rfl⟩, related⟩) .nil
  | other plain plain' =>
    have none_ (w : Value) (plain : ¬ IsObject w) : patternDemands w properties = meaningless := by
      cases w with
      | obj inner => exact absurd ⟨inner, rfl⟩ plain
      | _ => rfl
    rw [none_ v plain, none_ c plain']
    exact meaningless_related

section Keywords

variable {fields others : List (Atom × Value)} (each : List.Forall₂ (FieldMatch R) fields others)

include each

private theorem lookup_matched (name : String) :
    (argument? fields name = none ∧ argument? others name = none) ∨
      ∃ v c, argument? fields name = some v ∧ argument? others name = some c ∧ ArgumentMatch R (.text name) v c :=
  lookup_related each (.text name)

/-- Under a keyword that maps names, matching schemas have the same names, or none has any. -/
private theorem names_matched (name : String) (map : isSchemaMapKey (.text name) = true)
    (noLiteral : isLiteralKey (.text name) = false) :
    SameNames fields others name ∧ mapsNames others name = true ∧ mapsNames fields name = true ∨
      mapsNames others name = false ∧ mapsNames fields name = false := by
  rcases lookup_matched each name with ⟨absent, absent'⟩ | ⟨v, c, given, given', argument⟩
  · refine .inl ⟨.inl ⟨absent, absent'⟩, ?_, ?_⟩
    · rw [mapsNames, absent']
    · rw [mapsNames, absent]
  · simp only [ArgumentMatch, noLiteral, map, Bool.false_eq_true, if_false, if_true] at argument
    cases argument with
    | obj schemas =>
      refine .inl ⟨.inr ⟨_, _, given, given', keys_of_related schemas⟩, ?_, ?_⟩
      · rw [mapsNames, given']
      · rw [mapsNames, given]
    | other plain plain' =>
      exact .inr ⟨mapsNames_of_not_object given' plain', mapsNames_of_not_object given plain⟩

variable (forms : ∀ v c, R v c → Form R v c)

include forms

private theorem flag_matched {name : String} (map : isSchemaMapKey (.text name) = false)
    (noLiteral : isLiteralKey (.text name) = false) : flag? others name = flag? fields name := by
  unfold flag?
  rcases lookup_matched each name with ⟨absent, absent'⟩ | ⟨v, c, given, given', argument⟩
  · rw [absent, absent']
  · simp only [ArgumentMatch, noLiteral, map, Bool.false_eq_true, if_false] at argument
    rw [given, given']
    cases forms v c argument <;> rfl

private theorem assertions_matched (kind : Keyword) (argument data : Value) :
    assertions others kind argument data = assertions fields kind argument data := by
  have above : flag? others "exclusiveMaximum" = flag? fields "exclusiveMaximum" := flag_matched each forms rfl rfl
  have below : flag? others "exclusiveMinimum" = flag? fields "exclusiveMinimum" := flag_matched each forms rfl rfl
  unfold assertions passes
  rw [above, below]

private theorem furtherItemDemands_matched {v c : Value} (related : R v c) (items : List Value) :
    List.Forall₂ (Demand.Related fun s p => s ∈ schemasUnder v .additionalItems ∧ R s p)
      (furtherItemDemands fields v items) (furtherItemDemands others c items) := by
  unfold furtherItemDemands
  rcases lookup_matched each "items" with ⟨absent, absent'⟩ | ⟨tuple, tuple', given, given', argument⟩
  · rw [absent, absent']
    exact .nil
  · rw [given, given']
    have argument : R tuple tuple' := argument
    cases forms tuple tuple' argument with
    | obj inner cs => exact .nil
    | @list ss cs schemas =>
      have same : cs.length = ss.length := schemas.length_eq.symm
      cases forms v c related with
      | obj inner cs =>
        simp only [same]
        exact forall₂_map_same _ fun item _ => .holds item ⟨List.mem_singleton.2 rfl, related⟩
      | atom a =>
        simp only [same]
        cases a with
        | bool allowed => exact .cons (.plain _) .nil
        | _ => exact meaningless_related
      | _ => exact meaningless_related
    | _ => exact meaningless_related

private theorem furtherPropertyDemands_matched {v c : Value} (related : R v c) (properties : List (Atom × Value)) :
    List.Forall₂ (Demand.Related fun s p => s ∈ schemasUnder v .additionalProperties ∧ R s p)
      (furtherPropertyDemands fields v properties) (furtherPropertyDemands others c properties) := by
  unfold furtherPropertyDemands
  rcases names_matched each "properties" rfl rfl with ⟨names, maps, maps'⟩ | ⟨none_, none'⟩
  · rcases names_matched each "patternProperties" rfl rfl with ⟨patterns, more, more'⟩ | ⟨none_, none'⟩
    · rw [maps, maps', more, more', uncovered_of_sameNames names patterns]
      cases uncovered fields properties with
      | error fault => exact meaningless_related
      | ok extras =>
        cases forms v c related with
        | obj inner cs =>
          exact forall₂_map_same extras fun p _ => .holds p.2 ⟨List.mem_singleton.2 rfl, related⟩
        | atom a =>
          cases a with
          | bool allowed => exact .cons (.plain _) .nil
          | _ => exact meaningless_related
        | _ => exact meaningless_related
    · rw [none_, none', Bool.and_false, Bool.and_false]
      exact meaningless_related
  · rw [none_, none', Bool.false_and, Bool.false_and]
    exact meaningless_related

omit each in
private theorem listedDemands_matched {make : List Value → List Demand}
    (makes : ∀ ss cs, List.Forall₂ (fun s p => s ∈ ss ∧ R s p) ss cs →
      List.Forall₂ (Demand.Related fun s p => s ∈ ss ∧ R s p) (make ss) (make cs)) {v c : Value} : R v c →
    List.Forall₂ (Demand.Related fun s p => s ∈ listedSchemas v ∧ R s p)
      (match v with
        | .list schemas => make schemas
        | _ => meaningless)
      (match c with
        | .list schemas => make schemas
        | _ => meaningless) := by
  intro related
  cases forms v c related with
  | list members => exact makes _ _ (related_inside members fun s member => member)
  | _ => exact meaningless_related

/-- A keyword makes matching demands if its arguments match; dependencies are left out. -/
theorem demands_matched {kind : Keyword} {v c : Value} (known : Dialect.draft4.knows kind = true)
    (other : kind ≠ .dependencies) (argument : ArgumentMatch R (.text kind.name) v c) (data : Value) :
    List.Forall₂ (Demand.Related fun s p => s ∈ schemasUnder v kind ∧ R s p) (demands fields kind v data)
      (demands others kind c data) := by
  have asserted (related : R v c) : List.Forall₂ (Demand.Related fun s p => s ∈ schemasUnder v kind ∧ R s p)
      (if isPlain v then (assertions fields kind v data).map .plain else meaningless)
      (if isPlain c then (assertions others kind c data).map .plain else meaningless) := by
    obtain ⟨same, equal⟩ := (forms v c related).isPlain forms
    rw [same]
    split
    next plain =>
      rw [equal plain, assertions_matched each forms]
      exact forall₂_map_same _ fun verdict _ => .plain verdict
    next => exact meaningless_related
  cases kind with
  | ref => exact meaningless_related
  | dependencies => exact absurd rfl other
  | enum =>
    obtain rfl : c = v := argument
    cases c with
    | list members => exact .cons (.plain _) .nil
    | _ => exact meaningless_related
  | not => exact .cons (.fails data ⟨List.mem_singleton.2 rfl, argument⟩) .nil
  | allOf =>
    refine listedDemands_matched forms (fun ss cs related => ?_) argument
    rw [List.forall₂_map_left_iff, List.forall₂_map_right_iff]
    exact related.imp fun s p h => .holds data h
  | anyOf => exact listedDemands_matched forms (fun ss cs related => .cons (.any data related) .nil) argument
  | oneOf => exact listedDemands_matched forms (fun ss cs related => .cons (.one data related) .nil) argument
  | items => cases data with
    | list items => exact itemDemands_matched forms argument items
    | _ => exact .nil
  | additionalItems => cases data with
    | list items => exact furtherItemDemands_matched each forms argument items
    | _ => exact .nil
  | properties => cases data with
    | obj properties => exact propertyDemands_matched argument properties
    | _ => exact .nil
  | patternProperties => cases data with
    | obj properties => exact patternDemands_matched argument properties
    | _ => exact .nil
  | additionalProperties => cases data with
    | obj properties => exact furtherPropertyDemands_matched each forms argument properties
    | _ => exact .nil
  | type | required | maximum | minimum | multipleOf | maxItems | minItems | maxLength | minLength | maxProperties
  | minProperties | pattern | format | uniqueItems => exact asserted argument
  | _ => cases known

/-- Matching schemas make matching demands, of schemas right inside them. -/
theorem demandsOf_matched (apart : ∀ v, (.text "dependencies", v) ∉ fields) (data : Value) :
    List.Forall₂ (Demand.Related fun s p => s ∈ schemasInside fields ∧ R s p) (demandsOf fields data)
      (demandsOf others data) := by
  refine forall₂_flatMap each fun f member g ⟨key, argument⟩ => ?_
  rw [key]
  cases given : keywordOf? .draft4 f.1 with
  | none => exact .nil
  | some kind =>
    obtain ⟨named, known⟩ := keyword_key given
    have entry : (.text kind.name, f.2) ∈ fields := named ▸ member
    have other : kind ≠ .dependencies := by
      rintro rfl
      exact apart f.2 entry
    rw [named] at argument
    apply (demands_matched each forms known other argument data).imp
    intro d e related
    exact related.imp fun s p h => ⟨mem_schemasInside.2 ⟨kind, f.2, entry, known, h.1⟩, h.2⟩

end Keywords

end Matching

end SwaggerGate.Schema
