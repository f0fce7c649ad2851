import SwaggerGate.Proofs.Schema.Record

/-! The object schemas of an operation, as its parameters make them. Each parameter adds to a
draft, the schema for payloads holds what the one for bodies holds, and an object schema is the
schema of a record. -/
namespace SwaggerGate.Compile

open Schema

/-! ### What parameters add -/

section Draft

variable {definitions : Definitions} {draft next : Draft} {p : Parameter}

/-- A parameter outside the body adds a property for payloads, unless it has no type or is a file. -/
theorem Draft.add_other (other : p.location ≠ some .body) (ok : draft.add definitions p = .ok next) :
    (next = draft ∧ ∀ type, p.type = some type → type = .file) ∨ ∃ type, p.type = some type ∧ next = { draft with
      payloadProperties := addProperty draft.payloadProperties (.text p.name)
        (propertySchema { type, enum := p.enum, items := p.items })
      payloadRequired := if p.required then addMissing draft.payloadRequired [.text p.name]
        else draft.payloadRequired } := by
  unfold Draft.add at ok
  split at ok
  next body => exact absurd body other
  next none_ _ =>
    cases ok
    exact .inl ⟨rfl, fun type given => by rw [none_] at given; cases given⟩
  next file _ =>
    cases ok
    exact .inl ⟨rfl, fun type given => by rw [file] at given; exact (Option.some.inj given).symm⟩
  next type _ given _ =>
    cases ok
    exact .inr ⟨type, given, rfl⟩

theorem Draft.add_body (body : p.location = some .body) (ok : draft.add definitions p = .ok next) :
    ∃ part, bodyPart definitions (p.schema.getD []) = .ok part ∧ next =
      { properties := addProperties draft.properties part.properties
        required := addMissing draft.required part.required
        payloadProperties := addProperties draft.payloadProperties part.properties
        payloadRequired := addMissing draft.payloadRequired part.required
        kept := draft.kept ++ part.kept } := by
  unfold Draft.add at ok
  rw [body] at ok
  obtain ⟨part, made, ok⟩ := bind_eq_ok.1 ok
  cases ok
  exact ⟨part, made, rfl⟩

/-- The parts of a body's schema that is an object after inlining. -/
theorem bodyPart_of_inlined {schema fields : List (Atom × Value)} {kept : List String}
    (inlined : Schema.inline definitions (.obj schema) = .ok (.obj fields, kept)) (parts : HasParts fields) :
    bodyPart definitions schema = .ok ⟨propertiesIn fields, requiredIn fields, kept⟩ := by
  have properties : given? (.obj fields) "properties" = none ∧ propertiesIn fields = [] ∨
      given? (.obj fields) "properties" = some (.obj (propertiesIn fields)) := by
    cases found : fields.lookup (.text "properties") with
    | none => exact .inl ⟨by simp [given?, Value.field?, found], by simp only [propertiesIn, found]⟩
    | some v =>
      obtain rfl := parts.properties v found
      cases some_ : propertiesIn fields with
      | nil => exact .inl ⟨by simp [given?, Value.field?, found, some_, Option.filter_some, Value.isTruthy], rfl⟩
      | cons _ _ => exact .inr (by simp [given?, Value.field?, found, some_, Option.filter_some, Value.isTruthy])
  have required : given? (.obj fields) "required" = none ∧ requiredIn fields = [] ∨
      given? (.obj fields) "required" = some (.list (requiredIn fields)) := by
    cases found : fields.lookup (.text "required") with
    | none => exact .inl ⟨by simp [given?, Value.field?, found], by simp only [requiredIn, found]⟩
    | some v =>
      obtain rfl := parts.required v found
      cases some_ : requiredIn fields with
      | nil => exact .inl ⟨by simp [given?, Value.field?, found, some_, Option.filter_some, Value.isTruthy], rfl⟩
      | cons _ _ => exact .inr (by simp [given?, Value.field?, found, some_, Option.filter_some, Value.isTruthy])
  rw [bodyPart, inlined]
  rcases properties with ⟨properties, nothing⟩ | properties <;> rcases required with ⟨required, nothing'⟩ | required
  all_goals
    simp only [bind, Except.bind, *]
    rfl

private theorem draft_of_others : ∀ {parameters : List Parameter} {draft next : Draft},
    (∀ p ∈ parameters, p.location ≠ some .body) → parameters.foldlM (Draft.add definitions) draft = .ok next →
      next.properties = draft.properties ∧ next.required = draft.required ∧ next.kept = draft.kept := by
  intro parameters draft next others ok
  refine foldlM_invariant (P := fun next : Draft =>
    next.properties = draft.properties ∧ next.required = draft.required ∧ next.kept = draft.kept)
    (fun p member a a' same ok => ?_) ⟨rfl, rfl, rfl⟩ ok
  obtain ⟨rfl, -⟩ | ⟨type, -, rfl⟩ := Draft.add_other (others p member) ok
  · exact same
  · exact same

/-- With a single body parameter, a draft has the properties, required names and kept references
of its schema. -/
theorem draft_of_body {parameters : List Parameter} (single : parameters.filter (·.location == some .body) = [p]) :
    ∀ {draft next : Draft}, parameters.foldlM (Draft.add definitions) draft = .ok next →
      ∃ part, bodyPart definitions (p.schema.getD []) = .ok part ∧
        next.properties = addProperties draft.properties part.properties ∧
        next.required = addMissing draft.required part.required ∧ next.kept = draft.kept ++ part.kept := by
  induction parameters with
  | nil => cases single
  | cons q rest ih =>
    intro draft next ok
    rw [List.foldlM_cons] at ok
    obtain ⟨middle, first, later⟩ := bind_eq_ok.1 ok
    by_cases body : q.location = some .body
    · rw [List.filter_cons_of_pos (by simpa using body)] at single
      obtain ⟨rfl, none_⟩ := List.cons.inj single
      have others (r : Parameter) (member : r ∈ rest) : r.location ≠ some .body := by
        simpa using List.filter_eq_nil_iff.1 none_ r member
      obtain ⟨part, made, rfl⟩ := Draft.add_body body first
      exact ⟨part, made, draft_of_others others later⟩
    · rw [List.filter_cons_of_neg (by simpa using body)] at single
      obtain ⟨rfl, -⟩ | ⟨type, -, rfl⟩ := Draft.add_other body first
      · exact ih single later
      · have known := ih single later
        exact known

end Draft

/-! ### Added properties and names -/

theorem sameKey_text {a : Atom} {name : String} : a.sameKey (.text name) = true ↔ a = .text name := by
  cases a <;> simp [Atom.sameKey, Atom.loosened, Atom.equal]

theorem text_sameKey {a : Atom} {name : String} : (Atom.text name).sameKey a = true ↔ a = .text name := by
  cases a with
  | text s => simp [Atom.sameKey, Atom.loosened, Atom.equal, eq_comm (a := name)]
  | _ => simp [Atom.sameKey, Atom.loosened, Atom.equal]

section Added

variable {properties more : List (Atom × Value)} {name : Atom} {schema : Value}

theorem subset_addProperty : properties ⊆ addProperty properties name schema := by
  unfold addProperty
  split
  · exact List.Subset.refl _
  · exact List.subset_append_left _ _

theorem subset_addProperties : properties ⊆ addProperties properties more := by
  unfold addProperties
  induction more generalizing properties with
  | nil => exact List.Subset.refl _
  | cons entry rest ih => exact List.Subset.trans subset_addProperty ih

/-- A text among the keys that are added is a key afterwards, old or new. -/
theorem key_of_addProperties {key : String} (member : .text key ∈ Entries.keys more) :
    .text key ∈ Entries.keys (addProperties properties more) := by
  induction more generalizing properties with
  | nil => cases member
  | cons entry rest ih =>
    rw [addProperties, List.foldl_cons]
    rcases List.mem_cons.1 member with same | later
    · refine List.map_subset _ subset_addProperties ?_
      unfold addProperty
      split
      next old =>
        rw [entryOf?, Option.isSome_map, List.find?_isSome] at old
        obtain ⟨known, inside, here⟩ := old
        rw [← same, sameKey_text] at here
        exact here ▸ List.mem_map_of_mem inside
      next => simp [same]
    · exact ih later

/-- A property is added where no key is equal to its own. -/
theorem addProperty_of_fresh (fresh : ∀ entry ∈ properties, entry.1.sameKey name = false) :
    addProperty properties name schema = properties ++ [(name, schema)] := by
  have absent : entryOf? properties name = none := by
    rw [entryOf?, Option.map_eq_none_iff, List.find?_eq_none]
    intro entry member
    simp [fresh entry member]
  rw [addProperty, absent]
  rfl

/-- Keys stay apart as properties are added. -/
theorem addProperty_apart (apart : (Entries.keys properties).Pairwise fun a b => a.sameKey b = false) :
    (Entries.keys (addProperty properties name schema)).Pairwise fun a b => a.sameKey b = false := by
  unfold addProperty
  split
  · exact apart
  next fresh =>
    rw [entryOf?, Option.isSome_map, List.find?_isSome] at fresh
    rw [Entries.keys, List.map_append, List.pairwise_append]
    refine ⟨apart, List.pairwise_singleton _ _, fun a known b new => ?_⟩
    obtain ⟨entry, inside, rfl⟩ := List.mem_map.1 known
    obtain rfl := List.mem_singleton.1 new
    simpa using fun same => fresh ⟨entry, inside, same⟩

theorem addProperties_apart (apart : (Entries.keys properties).Pairwise fun a b => a.sameKey b = false) :
    (Entries.keys (addProperties properties more)).Pairwise fun a b => a.sameKey b = false := by
  unfold addProperties
  induction more generalizing properties with
  | nil => exact apart
  | cons entry rest ih => exact ih (addProperty_apart apart)

theorem mem_addMissing {members names : List Value} {v : Value} (member : v ∈ addMissing members names) :
    v ∈ members ∨ v ∈ names := by
  unfold addMissing at member
  induction names generalizing members with
  | nil => exact .inl member
  | cons name rest ih =>
    rcases ih member with known | later
    · dsimp only at known
      split at known
      · exact .inl known
      · rcases List.mem_append.1 known with old | new
        · exact .inl old
        · exact .inr (List.mem_singleton.1 new ▸ List.mem_cons_self)
    · exact .inr (List.mem_cons_of_mem _ later)

theorem subset_addMissing {members names : List Value} : members ⊆ addMissing members names := by
  unfold addMissing
  induction names generalizing members with
  | nil => exact List.Subset.refl _
  | cons name rest ih =>
    refine List.Subset.trans ?_ ih
    dsimp only
    split
    · exact List.Subset.refl _
    · exact List.subset_append_left _ _

theorem text_mem_addMissing {members names : List Value} {name : String} (member : .text name ∈ names) :
    .text name ∈ addMissing members names := by
  induction names generalizing members with
  | nil => cases member
  | cons first rest ih =>
    rw [addMissing, List.foldl_cons]
    rcases List.mem_cons.1 member with rfl | later
    · apply subset_addMissing
      split
      next known =>
        obtain ⟨other, inside, same⟩ := List.any_eq_true.1 known
        obtain rfl : other = .text name := by
          cases other with
          | atom a => rw [Value.same, text_sameKey] at same; rw [same]
          | _ => cases same
        exact inside
      next => exact List.mem_append_right _ List.mem_cons_self
    · exact ih later

end Added

/-- Properties with keys of their own are all added. -/
theorem addProperties_of_distinct {properties more : List (Atom × Value)}
    (distinct : (Entries.keys (properties ++ more)).Pairwise fun a b => a.sameKey b = false) :
    addProperties properties more = properties ++ more := by
  induction more generalizing properties with
  | nil => exact (List.append_nil properties).symm
  | cons entry rest ih =>
    have added : addProperty properties entry.1 entry.2 = properties ++ [entry] := by
      refine addProperty_of_fresh fun known member => ?_
      rw [Entries.keys, List.map_append, List.pairwise_append] at distinct
      exact distinct.2.2 known.1 (List.mem_map_of_mem member) entry.1 (by simp)
    have split : properties ++ entry :: rest = properties ++ [entry] ++ rest := by simp
    rw [split] at distinct ⊢
    rw [← ih distinct, addProperties, List.foldl_cons, added]
    rfl

/-- Required names that are not there yet are all added. -/
theorem addMissing_of_nodup {names more : List String} (distinct : (names ++ more).Nodup) :
    addMissing (names.map .text) (more.map .text) = (names ++ more).map .text := by
  induction more generalizing names with
  | nil => simp [addMissing]
  | cons name rest ih =>
    have fresh : ((names.map Value.text).any (Value.text name).same) = false := by
      rw [List.any_eq_false]
      rintro _ member equal
      obtain ⟨other, known, rfl⟩ := List.mem_map.1 member
      have same : name = other := by simpa [Value.same, Atom.sameKey, Atom.loosened, Atom.equal] using equal
      exact (List.nodup_append.1 distinct).2.2 other known name List.mem_cons_self same.symm
    have split : names ++ name :: rest = names ++ [name] ++ rest := by simp
    have added : names.map Value.text ++ [.text name] = (names ++ [name]).map .text := by simp
    rw [split] at distinct ⊢
    rw [← ih distinct, List.map_cons, addMissing, List.foldl_cons, fresh, if_neg Bool.false_ne_true, added]
    rfl

/-! ### Properties of payloads -/

/-- The names of the parameters outside the body. -/
def otherNames (parameters : List Parameter) : List String :=
  (parameters.filter (·.location != some .body)).map Parameter.name

theorem name_mem_otherNames {parameters : List Parameter} {p : Parameter} (member : p ∈ parameters)
    (other : p.location ≠ some .body) : p.name ∈ otherNames parameters :=
  List.mem_map_of_mem (List.mem_filter.2 ⟨member, by simpa using other⟩)

/-- Whether the names of the parameters outside the body are told apart from each other, and from
the properties of the body. -/
structure NamedApart (parameters : List Parameter) (properties : List (Atom × Value)) : Prop where
  distinct : (otherNames parameters).Nodup
  fresh : ∀ name ∈ otherNames parameters, .text name ∉ Entries.keys properties

instance (parameters : List Parameter) (properties : List (Atom × Value)) : Decidable (NamedApart parameters properties) :=
  decidable_of_iff ((otherNames parameters).Nodup ∧ ∀ name ∈ otherNames parameters, .text name ∉ Entries.keys properties)
    ⟨fun h => ⟨h.1, h.2⟩, fun h => ⟨h.distinct, h.fresh⟩⟩

section Payload

variable {definitions : Definitions} {parameters : List Parameter} {draft next start : Draft}

theorem Draft.add_grows {p : Parameter} (ok : draft.add definitions p = .ok next) :
    draft.properties ⊆ next.properties ∧ draft.payloadProperties ⊆ next.payloadProperties ∧
      draft.payloadRequired ⊆ next.payloadRequired := by
  by_cases body : p.location = some .body
  · obtain ⟨part, -, rfl⟩ := add_body body ok
    exact ⟨subset_addProperties, subset_addProperties, subset_addMissing⟩
  · obtain ⟨rfl, -⟩ | ⟨type, -, rfl⟩ := add_other body ok
    · exact ⟨List.Subset.refl _, List.Subset.refl _, List.Subset.refl _⟩
    · refine ⟨List.Subset.refl _, subset_addProperty, ?_⟩
      dsimp only
      split
      · exact subset_addMissing
      · exact List.Subset.refl _

theorem Draft.fold_grows (ok : parameters.foldlM (Draft.add definitions) start = .ok draft) :
    start.properties ⊆ draft.properties ∧ start.payloadProperties ⊆ draft.payloadProperties ∧
      start.payloadRequired ⊆ draft.payloadRequired := by
  refine foldlM_invariant (P := fun d : Draft => start.properties ⊆ d.properties ∧
    start.payloadProperties ⊆ d.payloadProperties ∧ start.payloadRequired ⊆ d.payloadRequired) ?_
    ⟨List.Subset.refl _, List.Subset.refl _, List.Subset.refl _⟩ ok
  intro p _ d d' known step
  obtain ⟨properties, payload, required⟩ := add_grows step
  exact ⟨List.Subset.trans known.1 properties, List.Subset.trans known.2.1 payload,
    List.Subset.trans known.2.2 required⟩

/-- The properties of a draft have keys of their own. -/
theorem Draft.fold_apart (ok : parameters.foldlM (Draft.add definitions) {} = .ok draft) :
    (Entries.keys draft.properties).Pairwise (fun a b => a.sameKey b = false) ∧
      (Entries.keys draft.payloadProperties).Pairwise fun a b => a.sameKey b = false := by
  refine foldlM_invariant (P := fun d : Draft => (Entries.keys d.properties).Pairwise (fun a b => a.sameKey b = false) ∧
    (Entries.keys d.payloadProperties).Pairwise fun a b => a.sameKey b = false) ?_ ⟨.nil, .nil⟩ ok
  intro p _ d d' known step
  by_cases body : p.location = some .body
  · obtain ⟨part, -, rfl⟩ := add_body body step
    exact ⟨addProperties_apart known.1, addProperties_apart known.2⟩
  · obtain ⟨rfl, -⟩ | ⟨type, -, rfl⟩ := add_other body step
    · exact known
    · exact ⟨known.1, addProperty_apart known.2⟩

/-- Where one parameter stands among those of a draft: after some, before the others. -/
theorem Draft.fold_split {p : Parameter} (member : p ∈ parameters)
    (ok : parameters.foldlM (Draft.add definitions) start = .ok draft) :
    ∃ front back before after, parameters = front ++ p :: back ∧
      front.foldlM (Draft.add definitions) start = .ok before ∧ before.add definitions p = .ok after ∧
      back.foldlM (Draft.add definitions) after = .ok draft := by
  obtain ⟨front, back, rfl⟩ := List.append_of_mem member
  rw [List.foldlM_append] at ok
  obtain ⟨before, first, ok⟩ := bind_eq_ok.1 ok
  rw [List.foldlM_cons] at ok
  obtain ⟨after, here, last⟩ := bind_eq_ok.1 ok
  exact ⟨front, back, before, after, rfl, first, here, last⟩

/-- No property that a body schema declares has the name of a parameter outside the body. -/
theorem bodyPart_fresh (ok : parameters.foldlM (Draft.add definitions) start = .ok draft)
    (apart : NamedApart parameters draft.properties) {p : Parameter} (member : p ∈ parameters)
    (body : p.location = some .body) {part : BodyPart} (made : bodyPart definitions (p.schema.getD []) = .ok part) :
    ∀ name ∈ otherNames parameters, .text name ∉ Entries.keys part.properties := by
  intro name known inside
  obtain ⟨front, back, before, after, -, -, here, last⟩ := Draft.fold_split member ok
  obtain ⟨part', made', rfl⟩ := Draft.add_body body here
  cases made.symm.trans made'
  have key : .text name ∈ Entries.keys (addProperties before.properties part.properties) := key_of_addProperties inside
  exact apart.fresh name known (List.map_subset _ (Draft.fold_grows last).1 key)

/-- Whether a property has one of some names. -/
def isNamed (names : List String) (entry : Atom × Value) : Bool := (names.map Atom.text).contains entry.1

theorem isNamed_iff {names : List String} {entry : Atom × Value} :
    isNamed names entry = true ↔ ∃ name ∈ names, entry.1 = .text name := by
  simp [isNamed, eq_comm]

theorem filter_addProperty {names : List String} {properties : List (Atom × Value)} {entry : Atom × Value}
    (other : isNamed names entry = false) :
    (addProperty properties entry.1 entry.2).filter (fun e => !isNamed names e) =
      addProperty (properties.filter fun e => !isNamed names e) entry.1 entry.2 := by
  -- an entry whose key is equal to that of the new one has none of the names either
  have kept (e : Atom × Value) (same : e.1.sameKey entry.1 = true) : isNamed names e = false := by
    rw [Bool.eq_false_iff] at other ⊢
    intro named
    obtain ⟨name, known, text⟩ := isNamed_iff.1 named
    rw [text, text_sameKey] at same
    exact other (isNamed_iff.2 ⟨name, known, same⟩)
  have found : (entryOf? (properties.filter fun e => !isNamed names e) entry.1).isSome =
      (entryOf? properties entry.1).isSome := by
    rw [entryOf?, entryOf?, Option.isSome_map, Option.isSome_map, List.find?_filter]
    congr 2
    funext e
    cases same : e.1.sameKey entry.1 with
    | true => simp [kept e same]
    | false => simp
  unfold addProperty
  rw [found]
  split
  · rfl
  · rw [List.filter_append, List.filter_cons_of_pos (by simp [other]), List.filter_nil]

theorem filter_addProperty_named {names : List String} {properties : List (Atom × Value)} {name : String} {schema : Value}
    (known : name ∈ names) : (addProperty properties (.text name) schema).filter (fun e => !isNamed names e) =
      properties.filter fun e => !isNamed names e := by
  have named : isNamed names (.text name, schema) = true := isNamed_iff.2 ⟨name, known, rfl⟩
  unfold addProperty
  split
  · rfl
  · rw [List.filter_append, List.filter_cons_of_neg (by simp [named]), List.filter_nil, List.append_nil]

theorem filter_addProperties {names : List String} {properties more : List (Atom × Value)}
    (others : ∀ entry ∈ more, isNamed names entry = false) :
    (addProperties properties more).filter (fun e => !isNamed names e) =
      addProperties (properties.filter fun e => !isNamed names e) more := by
  unfold addProperties
  induction more generalizing properties with
  | nil => rfl
  | cons entry rest ih =>
    rw [List.foldl_cons, List.foldl_cons, ih fun e member => others e (List.mem_cons_of_mem _ member),
      filter_addProperty (others entry List.mem_cons_self)]

/-- Without the names of the parameters outside the body, the properties of payloads are those of
bodies. -/
theorem payload_filter (ok : parameters.foldlM (Draft.add definitions) {} = .ok draft)
    (apart : NamedApart parameters draft.properties) :
    draft.payloadProperties.filter (fun e => !isNamed (otherNames parameters) e) = draft.properties := by
  refine foldlM_invariant (P := fun d : Draft =>
    d.payloadProperties.filter (fun e => !isNamed (otherNames parameters) e) = d.properties) ?_ rfl ok
  intro p member d d' same step
  by_cases body : p.location = some .body
  · obtain ⟨part, made, rfl⟩ := Draft.add_body body step
    have fresh := bodyPart_fresh ok apart member body made
    have others (entry : Atom × Value) (inside : entry ∈ part.properties) :
        isNamed (otherNames parameters) entry = false := by
      rw [Bool.eq_false_iff]
      intro named
      obtain ⟨name, known, text⟩ := isNamed_iff.1 named
      exact fresh name known (text ▸ List.mem_map_of_mem inside)
    exact (filter_addProperties others).trans (congrArg (addProperties · part.properties) same)
  · obtain ⟨rfl, -⟩ | ⟨type, -, rfl⟩ := Draft.add_other body step
    · exact same
    · exact (filter_addProperty_named (name_mem_otherNames member body)).trans same

theorem properties_subset_payload (ok : parameters.foldlM (Draft.add definitions) {} = .ok draft)
    (apart : NamedApart parameters draft.properties) : draft.properties ⊆ draft.payloadProperties := by
  rw [← payload_filter ok apart]
  exact List.filter_sublist.subset

theorem required_subset_payload (ok : parameters.foldlM (Draft.add definitions) {} = .ok draft) {name : String}
    (needed : .text name ∈ draft.required) : .text name ∈ draft.payloadRequired := by
  refine foldlM_invariant (P := fun d : Draft => Value.text name ∈ d.required → Value.text name ∈ d.payloadRequired) ?_
    id ok needed
  intro p _ d d' known step needed
  by_cases body : p.location = some .body
  · obtain ⟨part, -, rfl⟩ := Draft.add_body body step
    rcases mem_addMissing needed with old | new
    · exact subset_addMissing (known old)
    · exact text_mem_addMissing new
  · have grown := (Draft.add_grows step).2.2
    obtain ⟨rfl, -⟩ | ⟨type, -, rfl⟩ := Draft.add_other body step
    · exact known needed
    · exact grown (known needed)

/-- A parameter outside the body is a property of payloads, and is required of them where it is
required at all. -/
theorem property_of_parameter (ok : parameters.foldlM (Draft.add definitions) {} = .ok draft)
    (apart : NamedApart parameters draft.properties) {p : Parameter} (member : p ∈ parameters)
    (other : p.location ≠ some .body) {type : ParamType} (typed : p.type = some type) (value : type ≠ .file) :
    (.text p.name, propertySchema { type, enum := p.enum, items := p.items }) ∈ draft.payloadProperties ∧
      (p.required = true → .text p.name ∈ draft.payloadRequired) := by
  obtain ⟨front, back, before, after, split, first, here, last⟩ := Draft.fold_split member ok
  have fresh : ∀ entry ∈ before.payloadProperties, entry.1 ≠ .text p.name := by
    refine foldlM_invariant (P := fun d : Draft => ∀ entry ∈ d.payloadProperties, entry.1 ≠ .text p.name) ?_ (by simp) first
    intro q earlier d d' known step entry inside same
    have declared : q ∈ parameters := split ▸ List.mem_append_left _ earlier
    by_cases body : q.location = some .body
    · obtain ⟨part, made, rfl⟩ := Draft.add_body body step
      rcases mem_addProperties inside with old | new
      · exact known entry old same
      · exact bodyPart_fresh ok apart declared body made p.name (name_mem_otherNames member other)
          (same ▸ List.mem_map_of_mem new)
    · obtain ⟨rfl, -⟩ | ⟨type, -, rfl⟩ := Draft.add_other body step
      · exact known entry inside same
      · rcases mem_addProperty inside with old | rfl
        · exact known entry old same
        · have distinct := apart.distinct
          rw [split, otherNames, List.filter_append, List.map_append, List.nodup_append] at distinct
          have named : q.name = p.name := Atom.text.inj same
          refine distinct.2.2 q.name (name_mem_otherNames earlier body) p.name ?_ named
          exact name_mem_otherNames List.mem_cons_self other
  obtain ⟨-, file⟩ | ⟨type', given, rfl⟩ := Draft.add_other other here
  · exact absurd (file type typed) value
  · cases typed.symm.trans given
    obtain ⟨-, payload, required⟩ := Draft.fold_grows last
    have apartHere (entry : Atom × Value) (inside : entry ∈ before.payloadProperties) :
        entry.1.sameKey (.text p.name) = false := by
      rw [Bool.eq_false_iff, ne_eq, sameKey_text]
      exact fresh entry inside
    constructor
    · apply payload
      rw [addProperty_of_fresh apartHere]
      exact List.mem_append_right _ List.mem_cons_self
    · intro needed
      apply required
      rw [if_pos needed]
      exact text_mem_addMissing List.mem_cons_self

end Payload

/-! ### Object schemas -/

section Parts

variable {properties : List (Atom × Value)} {required : List Value} {bodies : List (String × Value)}

private theorem lookup_properties :
    (objectFields properties required bodies).lookup (.text "properties") = some (.obj properties) := by
  simp [objectFields, Entries.lookup_cons_if]

theorem lookup_required : (objectFields properties required bodies).lookup (.text "required") =
    if required.isEmpty then none else some (.list required) := by
  by_cases none_ : required.isEmpty <;> by_cases noBodies : bodies.isEmpty <;>
    simp [objectFields, Entries.lookup_cons_if, none_, noBodies]

theorem propertiesIn_objectFields : propertiesIn (objectFields properties required bodies) = properties := by
  simp only [propertiesIn, lookup_properties]

theorem requiredIn_objectFields : requiredIn (objectFields properties required bodies) = required := by
  by_cases none_ : required.isEmpty
  · simp [requiredIn, lookup_required, List.isEmpty_iff.1 none_]
  · simp [requiredIn, lookup_required, none_]

theorem hasParts_objectFields : HasParts (objectFields properties required bodies) where
  properties v given := by
    rw [propertiesIn_objectFields]
    rw [lookup_properties] at given
    exact (Option.some.inj given).symm
  required v given := by
    rw [requiredIn_objectFields]
    rw [lookup_required] at given
    split at given
    · cases given
    · exact (Option.some.inj given).symm

/-- An object schema is the schema of a record. -/
theorem isRecord_objectFields (distinct : (Entries.keys properties).Pairwise fun a b => a.sameKey b = false) :
    IsRecord (objectFields properties required bodies) where
  type := by simp [objectFields]
  keywords key member kind given := by
    obtain ⟨f, inside, rfl⟩ := List.mem_map.1 member
    rcases mem_objectFields inside with rfl | rfl | rfl | other
    · cases given
      exact .inl rfl
    · cases given
      exact .inr (.inl rfl)
    · cases given
      exact .inr (.inr (.inl rfl))
    · rw [other] at given
      cases given
  address := lookup_objectFields (by decide)
  distinct := by
    by_cases none_ : required.isEmpty <;> by_cases noBodies : bodies.isEmpty <;>
      simp [objectFields, Entries.keys, none_, noBodies]
  properties v given := by
    rw [lookup_properties] at given
    cases given
    exact distinct

end Parts

end SwaggerGate.Compile
