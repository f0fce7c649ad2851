import SwaggerGate.Proofs.Schema.Places

/-! Compiled schemas place by place. Each place of an inlined schema is that of a place of
the schema, or of a definition, that it was made from; the references that remain are cuts. -/
namespace SwaggerGate.Schema

theorem lookup_related {κ : Type} [DecidableEq κ] {R : κ → Value → Value → Prop} {fields inlined : List (κ × Value)}
    (related : List.Forall₂ (fun f c => c.1 = f.1 ∧ R f.1 f.2 c.2) fields inlined) (key : κ) :
    (fields.lookup key = none ∧ inlined.lookup key = none) ∨
      ∃ v c, fields.lookup key = some v ∧ inlined.lookup key = some c ∧ R key v c := by
  induction related with
  | nil => exact .inl ⟨rfl, rfl⟩
  | @cons f c rest rest' head _ ih =>
    obtain ⟨k, v⟩ := f
    obtain ⟨k', c⟩ := c
    obtain ⟨rfl, r⟩ := head
    simp only [Entries.lookup_cons_if]
    by_cases same : key = k'
    · subst same
      simp only [if_true]
      exact .inr ⟨v, c, rfl, rfl, r⟩
    · simp only [if_neg same]
      exact ih

theorem keys_related {κ : Type} {R : κ × Value → κ × Value → Prop} {fields inlined : List (κ × Value)}
    (related : List.Forall₂ (fun f c => c.1 = f.1 ∧ R f c) fields inlined) :
    Entries.keys inlined = Entries.keys fields := by
  induction related with
  | nil => rfl
  | cons head _ ih =>
    rw [Entries.keys, List.map_cons, head.1]
    exact congrArg _ ih

theorem exists_related {α β : Type} {R : α → β → Prop} {l : List α} {l' : List β} (related : List.Forall₂ R l l')
    {b : β} (member : b ∈ l') : ∃ a ∈ l, R a b := by
  induction related with
  | nil => cases member
  | cons head _ ih =>
    rcases List.mem_cons.1 member with rfl | later
    · exact ⟨_, List.mem_cons_self, head⟩
    · obtain ⟨a, inside, r⟩ := ih later
      exact ⟨a, List.mem_cons_of_mem _ inside, r⟩

theorem mem_related {R : Atom → Value → Value → Prop} {fields inlined : List (Atom × Value)}
    (related : List.Forall₂ (fun f c => c.1 = f.1 ∧ R f.1 f.2 c.2) fields inlined) {key : Atom} {c : Value}
    (member : (key, c) ∈ inlined) : ∃ v, (key, v) ∈ fields ∧ R key v c := by
  obtain ⟨⟨key', v⟩, inside, same, r⟩ := exists_related related member
  obtain rfl : key = key' := same
  exact ⟨v, inside, r⟩

/-- Definitions as documents have them: all are objects. -/
def AreObjects (definitions : Definitions) : Prop := ∀ entry ∈ definitions, IsObject entry.2

section Inlined

variable {definitions : Definitions} {names : List String}

/-- Whether a value is a schema with its references inlined, in any nesting of definitions, up
to cuts in some names. -/
def Compiles (definitions : Definitions) (names : List String) (schema c : Value) : Prop :=
  ∃ depth stack, Inlines (replacement definitions depth stack) names false schema c

theorem Compiles.ofInlined {depth : Nat} {stack kept : List String} {schema c : Value}
    (ok : inlineWithin definitions depth stack schema = .ok (c, kept)) (inside : kept ⊆ names) :
    Compiles definitions names schema c :=
  ⟨depth, stack, kept, inlineWithin_eq definitions depth stack schema ▸ ok, inside⟩

/-- Whether a schema is followed to another by its reference, and by those after it. -/
def LeadsTo (definitions : Definitions) : Value → Value → Prop :=
  Relation.ReflTransGen fun schema body => ∃ ref name, refText? schema = some ref ∧
    definition definitions ref = .ok (name, body)

/-- What a schema leads to is the schema itself or a definition. -/
theorem LeadsTo.origin {schema source : Value} (leads : LeadsTo definitions schema source) :
    source = schema ∨ ∃ name, definitions.lookup name = some source := by
  rcases Relation.ReflTransGen.cases_tail leads with same | ⟨_, -, ref, name, -, found⟩
  · exact .inl same
  · exact .inr ⟨name, (definition_eq_ok.1 found).2⟩

/-- A compiled schema is a cut, or it was made from what the schema leads to, an object of
keywords or plain data. -/
theorem bare_source (depth : Nat) : ∀ (stack : List String) (schema c : Value),
    Inlines (replacement definitions depth stack) names false schema c →
      (∃ name ∈ names, c = cut name) ∨
        ∃ source, LeadsTo definitions schema source ∧ refText? source = none ∧
          ∃ less ≤ depth, ∃ stack, Inlines (replacement definitions less stack) names false source c := by
  induction depth with
  | zero =>
    intro stack schema c inlines
    cases given : refText? schema with
    | none => exact .inr ⟨schema, .refl, given, 0, Nat.le_refl _, stack, inlines⟩
    | some ref =>
      obtain ⟨kept, ok, inside⟩ := inlines.reference given
      obtain ⟨name, body, -, ⟨rfl, rfl, -⟩ | ⟨less, impossible, -⟩⟩ := replacement_cases ok
      · exact .inl ⟨name, inside List.mem_cons_self, rfl⟩
      · cases impossible
  | succ depth ih =>
    intro stack schema c inlines
    cases given : refText? schema with
    | none => exact .inr ⟨schema, .refl, given, depth + 1, Nat.le_refl _, stack, inlines⟩
    | some ref =>
      obtain ⟨kept, ok, inside⟩ := inlines.reference given
      obtain ⟨name, body, named, ⟨rfl, rfl, -⟩ | ⟨less, more, -, inner⟩⟩ := replacement_cases ok
      · exact .inl ⟨name, inside List.mem_cons_self, rfl⟩
      · cases more
        rw [inlineWithin_eq] at inner
        rcases ih (name :: stack) body c ⟨kept, inner, inside⟩ with cutting | ⟨source, leads, bare, less, few, rest⟩
        · exact .inl cutting
        · exact .inr ⟨source, .head ⟨ref, name, given, named⟩ leads, bare, less, Nat.le_succ_of_le few, rest⟩

theorem isObject_of_lookup (objects : AreObjects definitions) {name : String} {body : Value}
    (found : definitions.lookup name = some body) : IsObject body :=
  objects (name, body) (Entries.mem_of_lookup_eq_some found)

/-- An object of keywords compiles to an object. -/
theorem Compiles.isObject (objects : AreObjects definitions) {schema c : Value}
    (compiles : Compiles definitions names schema c) (object : IsObject schema) : IsObject c := by
  obtain ⟨depth, stack, inlines⟩ := compiles
  rcases bare_source depth stack schema c inlines with ⟨name, -, rfl⟩ | ⟨source, leads, bare, depth, -, stack, inlines⟩
  · exact ⟨_, rfl⟩
  · have object : IsObject source := by
      rcases leads.origin with rfl | ⟨name, found⟩
      · exact object
      · exact isObject_of_lookup objects found
    obtain ⟨fields, rfl⟩ := object
    obtain ⟨cs, rfl, -⟩ := inlines.fields bare
    exact ⟨cs, rfl⟩

/-- Inlining makes an object of objects only. -/
theorem Inlines.source_object {replace : String → Except CompileFailure Inlined} {inMap : Bool} {v : Value}
    {fields : List (Atom × Value)} (inlines : Inlines replace names inMap v (.obj fields)) : IsObject v := by
  cases v with
  | obj outer => exact ⟨outer, rfl⟩
  | atom a => cases inlines.atom
  | set members => cases inlines.set
  | pair a b => cases inlines.pair
  | list items => obtain ⟨cs, same, -⟩ := inlines.list; cases same
  | loop levels ofObject => exact absurd inlines Inlines.not_loop

/-- Inlining makes no atom of anything else. -/
theorem Inlines.source_atom (objects : AreObjects definitions) {depth : Nat} {stack : List String} {inMap : Bool}
    {v : Value} {a : Atom} (inlines : Inlines (replacement definitions depth stack) names inMap v (.atom a)) :
    v = .atom a := by
  cases v with
  | atom b => exact inlines.atom.symm
  | list items => obtain ⟨cs, same, -⟩ := inlines.list; cases same
  | set members => cases inlines.set
  | pair a b => cases inlines.pair
  | loop levels ofObject => exact absurd inlines Inlines.not_loop
  | obj fields =>
    cases inMap with
    | true => obtain ⟨cs, same, -⟩ := inlines.schemas; cases same
    | false =>
      have object : IsObject (.atom a) := Compiles.isObject objects ⟨depth, stack, inlines⟩ ⟨fields, rfl⟩
      obtain ⟨_, same⟩ := object
      cases same

/-- An object of a compiled schema: its reference is a cut, and it names no address and no
other dialect. -/
structure Settled (names : List String) (fields : List (Atom × Value)) : Prop where
  reference : ∀ ref, fields.lookup (.text "$ref") = some ref → ∃ name ∈ names, ref = .text (definitionRef name)
  address : ∀ id, fields.lookup (.text "id") = some (.text id) → id.toList.head? = some '#'
  dialect : ∀ url dialect, fields.lookup (.text "$schema") = some (.text url) →
    Dialect.named .draft4 (.text url) = .ok dialect → dialect = .draft4

/-- Whether a part of a compiled schema stands for a legible schema: that schema compiled, or
left as it is for want of references. -/
def Stands (definitions : Definitions) (names : List String) (schema part : Value) : Prop :=
  Readable schema ∧ (Compiles definitions names schema part ∨ part = schema ∧ mentionsRef schema = false)

private theorem lookup_ref_of_free {fields : List (Atom × Value)} (free : mentionsRefFields fields = false) :
    fields.lookup (.text "$ref") = none := by
  induction fields with
  | nil => rfl
  | cons f rest ih =>
    obtain ⟨key, v⟩ := f
    simp only [mentionsRefFields, Bool.or_eq_false_iff, beq_eq_false_iff_ne] at free
    rw [Entries.lookup_cons_if, if_neg (Ne.symm free.1.1), ih free.2]

private theorem free_of_mem {fields : List (Atom × Value)} (free : mentionsRefFields fields = false)
    {entry : Atom × Value} (member : entry ∈ fields) : mentionsRef entry.2 = false := by
  induction fields with
  | nil => cases member
  | cons f rest ih =>
    simp only [mentionsRefFields, Bool.or_eq_false_iff] at free
    rcases List.mem_cons.1 member with rfl | later
    · exact free.1.2
    · exact ih free.2 later

private theorem free_of_item {items : List Value} (free : mentionsRefItems items = false) {v : Value}
    (member : v ∈ items) : mentionsRef v = false := by
  induction items with
  | nil => cases member
  | cons first rest ih =>
    simp only [mentionsRefItems, Bool.or_eq_false_iff] at free
    rcases List.mem_cons.1 member with rfl | later
    · exact free.1
    · exact ih free.2 later

private theorem free_hereditary : Hereditary fun v => mentionsRef v = false where
  atom _ := rfl
  item free _ member := free_of_item free member
  entry free _ member := free_of_mem free member
  pair free := by rwa [mentionsRef, Bool.or_eq_false_iff] at free

theorem Within.eq_of_not_object {schema part : Value} (plain : ¬ IsObject schema) (within : Within schema part) :
    part = schema := by
  induction within with
  | self => rfl
  | inside _ _ _ ih => exact absurd ⟨_, ih.symm⟩ plain

theorem Readable.of_not_object {schema : Value} (plain : ¬ IsObject schema) : Readable schema :=
  fun _ within _ => absurd ⟨_, (within.eq_of_not_object plain).symm⟩ plain

theorem Readable.schemaInside {fields : List (Atom × Value)} (readable : Readable (.obj fields))
    (bare : fields.lookup (.text "$ref") = none) {part : Value} (member : part ∈ schemasInside fields) :
    Readable part :=
  readable.part (.inside .self (shownRef?_of_bare bare) member)

/-- A part of a list of compiled schemas stands for a part of the list that it was made from. -/
private theorem listed_stands (objects : AreObjects definitions) {depth : Nat} {stack : List String}
    {v argument part : Value} (inlines : Inlines (replacement definitions depth stack) names false v argument)
    (readable : ∀ schema ∈ listedSchemas v, Readable schema)
    (pairs : ∀ a b, v = .pair a b → mentionsRef a = false ∧ mentionsRef b = false)
    (member : part ∈ listedSchemas argument) : ∃ schema, Stands definitions names schema part := by
  have atoms (a : Atom) : ∃ schema, Stands definitions names schema (.atom a) :=
    ⟨.atom a, .of_not_object (by rintro ⟨_, same⟩; cases same), .inr ⟨rfl, rfl⟩⟩
  cases v with
  | atom a =>
    obtain rfl := inlines.atom
    cases a with
    | text s => obtain ⟨c, -, rfl⟩ := List.mem_map.1 member; exact atoms _
    | bytes b => obtain ⟨c, -, rfl⟩ := List.mem_map.1 member; exact atoms _
    | _ => cases member
  | set members =>
    obtain rfl := inlines.set
    obtain ⟨a, -, rfl⟩ := List.mem_map.1 member
    exact atoms a
  | pair a b =>
    obtain rfl := inlines.pair
    have free := pairs a b rfl
    refine ⟨part, readable part member, .inr ⟨rfl, ?_⟩⟩
    rcases List.mem_cons.1 member with rfl | second
    · exact free.1
    · obtain rfl := List.mem_singleton.1 second
      exact free.2
  | list items =>
    obtain ⟨cs, rfl, each⟩ := inlines.list
    obtain ⟨schema, inside, compiled⟩ := exists_related each member
    exact ⟨schema, readable schema inside, .inl ⟨depth, stack, compiled⟩⟩
  | obj fields =>
    obtain ⟨fields', rfl⟩ := Compiles.isObject objects ⟨depth, stack, inlines⟩ ⟨fields, rfl⟩
    obtain ⟨f, -, rfl⟩ := List.mem_map.1 member
    exact atoms _
  | loop levels ofObject => exact absurd inlines Inlines.not_loop

/-- A part of a map of compiled schemas stands for a part of the map that it was made from. -/
private theorem mapped_stands {depth : Nat} {stack : List String} {v argument part : Value}
    (inlines : Inlines (replacement definitions depth stack) names true v argument)
    (readable : ∀ schema ∈ mapped v, Readable schema) (member : part ∈ mapped argument) :
    ∃ schema, Stands definitions names schema part := by
  cases v with
  | obj fields =>
    obtain ⟨cs, rfl, each⟩ := inlines.schemas
    obtain ⟨c, inside, rfl⟩ := List.mem_map.1 member
    obtain ⟨f, source, -, compiled⟩ := exists_related each inside
    exact ⟨f.2, readable f.2 (List.mem_map.2 ⟨f, source, rfl⟩), .inl ⟨depth, stack, compiled⟩⟩
  | atom a => cases inlines.atom; cases member
  | set members => cases inlines.set; cases member
  | pair a b => cases inlines.pair; cases member
  | list items => obtain ⟨cs, rfl, -⟩ := inlines.list; cases member
  | loop levels ofObject => exact absurd inlines Inlines.not_loop

mutual
/-- Without references, inlining changes nothing. -/
theorem substitute_free {replace : String → Except CompileFailure Inlined} : ∀ (inMap : Bool) (v c : Value)
    (kept : List String), mentionsRef v = false → substitute replace inMap v = .ok (c, kept) → c = v
  | _, .atom _, c, kept, _, ok => by cases ok; rfl
  | _, .set _, c, kept, _, ok => by cases ok; rfl
  | _, .pair _ _, c, kept, _, ok => by cases ok; rfl
  | _, .loop _ _, c, kept, _, ok => by cases ok
  | inMap, .list items, c, kept, free, ok => by
    obtain ⟨cs, inner, rfl⟩ := substitute_list_eq_ok.1 ok
    rw [substituteItems_free items cs _ free inner]
  | true, .obj fields, c, kept, free, ok => by
    obtain ⟨cs, inner, rfl⟩ := substitute_map_eq_ok.1 ok
    rw [substituteSchemas_free fields cs _ free inner]
  | false, .obj fields, c, kept, free, ok => by
    have bare : refText? (.obj fields) = none := by simp [refText?, lookup_ref_of_free free]
    obtain ⟨cs, inner, rfl⟩ := (substitute_keywords_eq_ok bare).1 ok
    rw [substituteFields_free fields cs _ free inner]
private theorem substituteItems_free {replace : String → Except CompileFailure Inlined} : ∀ (items cs : List Value)
    (kept : List String), mentionsRefItems items = false → substituteItems replace items = .ok (cs, kept) → cs = items
  | [], cs, kept, _, ok => by cases ok; rfl
  | v :: rest, cs, kept, free, ok => by
    simp only [mentionsRefItems, Bool.or_eq_false_iff] at free
    obtain ⟨c, first, cs', more, head, tail, rfl, rfl⟩ := substituteItems_cons_eq_ok.1 ok
    rw [substitute_free false v c first free.1 head, substituteItems_free rest cs' more free.2 tail]
private theorem substituteSchemas_free {replace : String → Except CompileFailure Inlined} :
    ∀ (fields cs : List (Atom × Value)) (kept : List String), mentionsRefFields fields = false →
      substituteSchemas replace fields = .ok (cs, kept) → cs = fields
  | [], cs, kept, _, ok => by cases ok; rfl
  | (key, v) :: rest, cs, kept, free, ok => by
    simp only [mentionsRefFields, Bool.or_eq_false_iff] at free
    obtain ⟨c, first, cs', more, head, tail, rfl, rfl⟩ := substituteSchemas_cons_eq_ok.1 ok
    rw [substitute_free false v c first free.1.2 head, substituteSchemas_free rest cs' more free.2 tail]
private theorem substituteFields_free {replace : String → Except CompileFailure Inlined} :
    ∀ (fields cs : List (Atom × Value)) (kept : List String), mentionsRefFields fields = false →
      substituteFields replace fields = .ok (cs, kept) → cs = fields
  | [], cs, kept, _, ok => by cases ok; rfl
  | (key, v) :: rest, cs, kept, free, ok => by
    simp only [mentionsRefFields, Bool.or_eq_false_iff] at free
    obtain ⟨c, first, cs', more, head, tail, rfl, rfl⟩ := substituteFields_cons_eq_ok.1 ok
    have same : c = v := by
      by_cases literal : isLiteralKey key = true
      · rw [if_pos literal] at head
        exact head.1
      · rw [if_neg literal] at head
        exact substitute_free (isSchemaMapKey key) v c first free.1.2 head
    rw [same, substituteFields_free rest cs' more free.2 tail]
end

/-- A compiled dependency stands for the dependency that it was made from. -/
private theorem dependencies_stands {depth : Nat} {stack : List String}
    {v argument part : Value} (inlines : Inlines (replacement definitions depth stack) names false v argument)
    (readable : ∀ schema ∈ mapped v, Readable schema)
    (bare : ∀ schemas, v = .obj schemas → refText? (.obj schemas) = none)
    (free : ∀ schemas, v = .obj schemas → ∀ entry ∈ schemas, isLiteralKey entry.1 || isSchemaMapKey entry.1 →
      mentionsRef entry.2 = false)
    (member : part ∈ mapped argument) : ∃ schema, Stands definitions names schema part := by
  cases v with
  | obj schemas =>
    obtain ⟨cs, rfl, each⟩ := inlines.fields (bare schemas rfl)
    obtain ⟨c, inside, rfl⟩ := List.mem_map.1 member
    obtain ⟨f, source, -, compiled⟩ := exists_related each inside
    have readable := readable f.2 (List.mem_map.2 ⟨f, source, rfl⟩)
    refine ⟨f.2, readable, ?_⟩
    unfold InlinesArgument at compiled
    by_cases literal : isLiteralKey f.1 = true
    · rw [if_pos literal] at compiled
      exact .inr ⟨compiled, free schemas rfl f source (by simp [literal])⟩
    · rw [if_neg literal] at compiled
      cases named : isSchemaMapKey f.1 with
      | false => exact .inl ⟨depth, stack, named ▸ compiled⟩
      | true =>
        have free := free schemas rfl f source (by simp [named])
        obtain ⟨kept, ok, -⟩ := compiled
        exact .inr ⟨substitute_free _ _ _ kept free ok, free⟩
  | atom a => cases inlines.atom; cases member
  | set members => cases inlines.set; cases member
  | pair a b => cases inlines.pair; cases member
  | list items => obtain ⟨cs, rfl, -⟩ := inlines.list; cases member
  | loop levels ofObject => exact absurd inlines Inlines.not_loop

/-- What an object that stands for a legible schema was made from, unless it is a cut. -/
private theorem Stands.cases {schema : Value} {fields : List (Atom × Value)}
    (stands : Stands definitions names schema (.obj fields))
    (readable : ∀ name body, definitions.lookup name = some body → Readable body) :
    (∃ name ∈ names, .obj fields = cut name) ∨
      (∃ source, Readable (.obj source) ∧ refText? (.obj source) = none ∧
        ∃ depth stack, List.Forall₂ (InlinesField (replacement definitions depth stack) names) source fields) ∨
      Readable (.obj fields) ∧ mentionsRefFields fields = false := by
  obtain ⟨legible, ⟨depth, stack, inlines⟩ | ⟨rfl, free⟩⟩ := stands
  · rcases bare_source depth stack schema _ inlines with cutting | ⟨source, leads, bare, depth, -, stack, inlines⟩
    · exact .inl cutting
    · right; left
      have legible : Readable source := by
        rcases leads.origin with rfl | ⟨name, found⟩
        · exact legible
        · exact readable name source found
      obtain ⟨source, rfl⟩ := inlines.source_object
      obtain ⟨cs, same, each⟩ := inlines.fields bare
      cases same
      exact ⟨source, legible, bare, depth, stack, each⟩
  · exact .inr (.inr ⟨legible, free⟩)

theorem Stands.bare_or_cut {schema : Value} {fields : List (Atom × Value)}
    (stands : Stands definitions names schema (.obj fields))
    (readable : ∀ name body, definitions.lookup name = some body → Readable body) :
    fields.lookup (.text "$ref") = none ∨ ∃ name, .obj fields = cut name := by
  rcases stands.cases readable with ⟨name, -, same⟩ | ⟨source, legible, bare, depth, stack, each⟩ | ⟨-, free⟩
  · exact .inr ⟨name, same⟩
  · rcases lookup_related each (.text "$ref") with ⟨-, absent⟩ | ⟨v, c, found, -, -⟩
    · exact .inl absent
    · rw [(legible source .self bare).bare] at found
      cases found
  · exact .inl (lookup_ref_of_free free)

private theorem text_of_inlined (objects : AreObjects definitions) {depth : Nat} {stack : List String}
    {source fields : List (Atom × Value)}
    (each : List.Forall₂ (InlinesField (replacement definitions depth stack) names) source fields)
    {key : Atom} (plain : isLiteralKey key = false) {text : String} (given : fields.lookup key = some (.text text)) :
    source.lookup key = some (.text text) := by
  rcases lookup_related each key with ⟨-, absent⟩ | ⟨v, c, found, inlined, related⟩
  · rw [absent] at given
    cases given
  · rw [inlined] at given
    cases given
    rw [InlinesArgument, plain] at related
    rw [found, Inlines.source_atom objects related]

/-- Every object in a compiled schema is settled. -/
theorem Stands.settled (objects : AreObjects definitions)
    (readable : ∀ name body, definitions.lookup name = some body → Readable body) {schema : Value}
    {fields : List (Atom × Value)} (stands : Stands definitions names schema (.obj fields)) : Settled names fields := by
  rcases stands.cases readable with ⟨name, member, same⟩ | ⟨source, legible, bare, depth, stack, each⟩ | ⟨legible, free⟩
  · cases same
    refine ⟨fun ref given => ⟨name, member, (Option.some.inj given).symm⟩, ?_, ?_⟩
    · rintro id ⟨⟩
    · rintro url dialect ⟨⟩
  · have legible := legible source .self bare
    refine ⟨fun ref given => ?_, fun id given => ?_, fun url dialect given => ?_⟩
    · rcases lookup_related each (.text "$ref") with ⟨-, absent⟩ | ⟨v, c, found, -, -⟩
      · rw [absent] at given
        cases given
      · rw [legible.bare] at found
        cases found
    · exact legible.address id (text_of_inlined objects each rfl given)
    · exact legible.dialect url dialect (text_of_inlined objects each rfl given)
  · have bare := lookup_ref_of_free free
    have legible := legible fields .self (by rw [refText?, bare])
    refine ⟨fun ref given => ?_, legible.address, legible.dialect⟩
    rw [bare] at given
    cases given

/-- Every place right inside a compiled schema stands for a legible schema again. -/
theorem Stands.inside (objects : AreObjects definitions)
    (readable : ∀ name body, definitions.lookup name = some body → Readable body) {schema part : Value}
    {fields : List (Atom × Value)} (stands : Stands definitions names schema (.obj fields))
    (shown : shownRef? fields = none) (member : part ∈ schemasInside fields) :
    ∃ inner, Stands definitions names inner part := by
  rcases stands.cases readable with ⟨name, -, same⟩ | ⟨source, legible, bare, depth, stack, each⟩ | ⟨legible, free⟩
  · cases same
    cases shown
  · have here := legible source .self bare
    obtain ⟨kind, argument, entry, known, under⟩ := mem_schemasInside.1 member
    obtain ⟨v, given, inlines⟩ := mem_related each entry
    have readable (part : Value) (under : part ∈ schemasUnder v kind) : Readable part :=
      legible.schemaInside here.bare (mem_schemasInside.2 ⟨kind, v, given, known, under⟩)
    have single (shape : schemasUnder v kind = [v])
        (inlines : Inlines (replacement definitions depth stack) names false v argument) :
        ∃ inner, Stands definitions names inner argument :=
      ⟨v, readable v (by rw [shape]; exact List.mem_cons_self), .inl ⟨depth, stack, inlines⟩⟩
    have pairs (a b : Value) (shape : v = .pair a b) : mentionsRef a = false ∧ mentionsRef b = false := by
      subst shape
      have free (part : Value) (one : part ∈ [a, b]) : mentionsRef part = false :=
        here.unread part (List.mem_flatMap.2 ⟨_, given, one⟩)
      exact ⟨free a (by simp), free b (by simp)⟩
    have several (shape : schemasUnder v kind = listedSchemas v)
        (inlines : Inlines (replacement definitions depth stack) names false v argument)
        (under : part ∈ listedSchemas argument) : ∃ inner, Stands definitions names inner part :=
      listed_stands objects inlines (fun schema inside => readable schema (shape ▸ inside)) pairs under
    cases kind with
    | not | additionalItems | additionalProperties =>
      obtain rfl := List.mem_singleton.1 under
      exact single rfl inlines
    | allOf | anyOf | oneOf => exact several rfl inlines under
    | items =>
      rcases mem_items under with ⟨⟨inner, rfl⟩, rfl⟩ | ⟨plain, inside⟩
      · obtain ⟨outer, rfl⟩ := inlines.source_object
        exact single rfl inlines
      · have plain : ¬ IsObject v := fun object => plain (Compiles.isObject objects ⟨depth, stack, inlines⟩ object)
        exact several (schemasUnder_items plain) inlines inside
    | properties | patternProperties => exact mapped_stands inlines (fun schema inside => readable schema inside) under
    | dependencies =>
      refine dependencies_stands inlines (fun schema inside => readable schema inside) ?_ ?_ under
      · rintro schemas rfl
        exact here.dependencies schemas given
      · rintro schemas rfl entry inside clash
        refine here.unread entry.2 (List.mem_flatMap.2 ⟨_, given, ?_⟩)
        exact List.mem_map.2 ⟨entry, List.mem_filter.2 ⟨inside, clash⟩, rfl⟩
    | _ => cases under
  · have bare := lookup_ref_of_free free
    exact ⟨part, legible.schemaInside bare member, .inr ⟨rfl, free_hereditary.inside free member⟩⟩

end Inlined

/-! ### Root schemas -/

/-- Every reference that a check against a root schema can come to is a text that names a
definition of the root. -/
def Closed (root : Value) : Prop :=
  ∀ fields ref, Reached root (.obj fields) → fields.lookup (.text "$ref") = some ref →
    ∃ text name body, ref = .text text ∧ targetName? text = some name ∧
      (embeddedIn root).lookup (.text name) = some body

/-- A root schema whose places are settled, with cuts in some names. -/
def SettledRoot (names : List String) (root : Value) : Prop :=
  ∀ fields, Reached root (.obj fields) → Settled names fields

end SwaggerGate.Schema
