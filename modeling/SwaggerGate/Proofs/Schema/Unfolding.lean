import SwaggerGate.Proofs.Schema.Matching
import SwaggerGate.Proofs.Schema.Roots

/-! Inlining preserves meaning. A schema read with its references as definitions, and its
inlined form read with its cuts as embedded bodies, unfold to the same keywords; one of the
two may only be some references ahead of the other. -/
namespace SwaggerGate.Schema

/-- What a reference means among definitions. -/
def meaningIn (definitions : Definitions) (ref : String) : Option Value :=
  (definition definitions ref).toOption.map Prod.snd

/-- What a reference leads to inside a root schema. -/
def targetIn (root : Value) (ref : String) : Option Value :=
  (targetName? ref).bind fun name => (embeddedIn root).lookup (.text name)

/-- A schema whose references are texts at all of its places, with names mapped to schemas by
`properties` and `patternProperties` only. -/
def Straight (schema : Value) : Prop :=
  ∀ fields, Within schema (.obj fields) → refText? (.obj fields) = none →
    fields.lookup (.text "$ref") = none ∧ ∀ v, (.text "dependencies", v) ∉ fields

/-- Whether cuts in some names lead, in a root schema, to the bodies of their definitions. -/
def LeadBack (definitions : Definitions) (names : List String) (root : Value) : Prop :=
  ∀ name ∈ names, ∃ source body, definitions.lookup name = some source ∧
    targetIn root (definitionRef name) = some body ∧
    Inlines (replacement definitions definitions.length [name]) names false source body

/-- Whether an object is no reference and maps no names to schemas by `dependencies`, computed. -/
def isStraight (fields : List (Atom × Value)) : Bool :=
  (fields.lookup (.text "$ref")).isNone && fields.all fun f => f.1 != .text "dependencies"

theorem straight_of_isStraight {n : Nat} {schema : Value} (h : isEverywhere isStraight n schema = true) :
    Straight schema := by
  refine of_isEverywhere (fun fields h => ?_) h
  simp only [isStraight, Bool.and_eq_true, Option.isNone_iff_eq_none, List.all_eq_true, bne_iff_ne] at h
  exact ⟨h.1, fun v member => h.2 _ member rfl⟩

theorem Straight.part {schema part : Value} (h : Straight schema) (within : Within schema part) : Straight part :=
  fun fields inside => h fields (within.trans inside)

theorem Straight.inside {fields : List (Atom × Value)} (straight : Straight (.obj fields))
    (shown : shownRef? fields = none) {part : Value} (member : part ∈ schemasInside fields) : Straight part :=
  straight.part (.inside .self shown member)

section Inlined

variable {definitions : Definitions} {names : List String} {depth : Nat} {stack : List String}

theorem Inlines.form (objects : AreObjects definitions) {v c : Value}
    (inlines : Inlines (replacement definitions depth stack) names false v c) :
    Form (Inlines (replacement definitions depth stack) names false) v c := by
  cases v with
  | atom a =>
    rw [inlines.atom]
    exact .atom a
  | set members =>
    rw [inlines.set]
    exact .set members
  | pair a b =>
    rw [inlines.pair]
    exact .pair a b
  | list items =>
    obtain ⟨cs, rfl, each⟩ := inlines.list
    exact .list each
  | obj fields =>
    obtain ⟨cs, rfl⟩ := Compiles.isObject objects ⟨depth, stack, inlines⟩ ⟨fields, rfl⟩
    exact .obj fields cs
  | loop levels ofObject => exact absurd inlines Inlines.not_loop

theorem Inlines.mapForm {replace : String → Except CompileFailure Inlined} {v c : Value}
    (inlines : Inlines replace names true v c) : MapForm (Inlines replace names false) v c := by
  have other {v c : Value} (plain : ¬ IsObject v) (inlines : Inlines replace names true v c) :
      MapForm (Inlines replace names false) v c := by
    refine .other plain ?_
    rintro ⟨cs, rfl⟩
    exact plain inlines.source_object
  cases v with
  | obj fields =>
    obtain ⟨cs, rfl, each⟩ := inlines.schemas
    exact .obj each
  | _ => exact other (by rintro ⟨_, same⟩; cases same) inlines

theorem InlinesField.matched {replace : String → Except CompileFailure Inlined} {field inlined : Atom × Value}
    (h : InlinesField replace names field inlined) : FieldMatch (Inlines replace names false) field inlined := by
  obtain ⟨key, argument⟩ := h
  refine ⟨key, ?_⟩
  unfold InlinesArgument at argument
  unfold ArgumentMatch
  split
  next literal => rwa [if_pos literal] at argument
  next literal =>
    rw [if_neg literal] at argument
    split
    next map =>
      rw [map] at argument
      exact argument.mapForm
    next map => rwa [Bool.eq_false_iff.2 map] at argument

private theorem fields_inlined (straight : Straight (.obj fields)) (bare : refText? (.obj fields) = none) {c : Value}
    (inlines : Inlines (replacement definitions depth stack) names false (.obj fields) c) :
    ∃ cs, c = .obj cs ∧ shownRef? fields = none ∧ shownRef? cs = none ∧
      List.Forall₂ (FieldMatch (Inlines (replacement definitions depth stack) names false)) fields cs := by
  obtain ⟨cs, rfl, each⟩ := inlines.fields bare
  have absent := (straight fields .self bare).1
  refine ⟨cs, rfl, shownRef?_of_bare absent, ?_, each.imp fun f c h => h.matched⟩
  rcases lookup_related each (.text "$ref") with ⟨-, absent'⟩ | ⟨v, c, given, -, -⟩
  · exact shownRef?_of_bare absent'
  · rw [absent] at given
    cases given

theorem shownRef?_of_refText? {schema : Value} {ref : String} (given : refText? schema = some ref) :
    ∃ fields, schema = .obj fields ∧ shownRef? fields = some (.text ref) := by
  cases schema with
  | obj fields =>
    refine ⟨fields, rfl, ?_⟩
    rw [shownRef?, argument?, refText?_lookup.1 given]
    rfl
  | _ => cases given

theorem judge_cut {resolve : String → Option Value} (name : String) (n : Nat) (data : Value) :
    judge resolve (n + 1) (cut name) data =
      (resolve (definitionRef name)).bind fun target => judge resolve n target data := by
  have shown : shownRef? [(.text "$ref", .text (definitionRef name))] = some (.text (definitionRef name)) := rfl
  exact judge_reference shown n data

theorem meaningIn_of_definition {ref name : String} {body : Value}
    (found : definition definitions ref = .ok (name, body)) : meaningIn definitions ref = some body := by
  rw [meaningIn, found]
  rfl

variable {root : Value}

/-- How a schema and its inlined form unfold: a reference is cut, which leads back to its
definition, or has its definition inlined with less depth left; keywords ask for related demands;
what is no object means the same as its inlined form. -/
inductive Unfolds (definitions : Definitions) (names : List String) (root : Value) (depth : Nat)
    (stack : List String) : Value → Value → Prop where
  | leadsBack {fields : List (Atom × Value)} {ref name : String} {body target : Value} :
      shownRef? fields = some (.text ref) → meaningIn definitions ref = some body → Straight body →
      targetIn root (definitionRef name) = some target →
      Inlines (replacement definitions definitions.length [name]) names false body target →
      Unfolds definitions names root depth stack (.obj fields) (cut name)
  | deeper {fields : List (Atom × Value)} {ref name : String} {body c : Value} {less : Nat} :
      shownRef? fields = some (.text ref) → meaningIn definitions ref = some body → Straight body → depth = less + 1 →
      Inlines (replacement definitions less (name :: stack)) names false body c →
      Unfolds definitions names root depth stack (.obj fields) c
  | keywords {fields cs : List (Atom × Value)} : shownRef? fields = none → shownRef? cs = none →
      (∀ data, List.Forall₂ (Demand.Related fun s c =>
        Straight s ∧ Inlines (replacement definitions depth stack) names false s c)
          (demandsOf fields data) (demandsOf cs data)) →
      Unfolds definitions names root depth stack (.obj fields) (.obj cs)
  | same {v c : Value} : (∀ (first second : String → Option Value) (n m : Nat) (data : Value),
      judge first (n + 1) v data = judge second (m + 1) c data) → Unfolds definitions names root depth stack v c

theorem Inlines.unfolds (objects : AreObjects definitions)
    (straight : ∀ name body, definitions.lookup name = some body → Straight body)
    (leadBack : LeadBack definitions names root) {s c : Value} (legible : Straight s)
    (inlines : Inlines (replacement definitions depth stack) names false s c) :
    Unfolds definitions names root depth stack s c := by
  cases given : refText? s with
  | some ref =>
    obtain ⟨kept, ok, inside⟩ := inlines.reference given
    obtain ⟨fields, rfl, shown⟩ := shownRef?_of_refText? given
    obtain ⟨name, body, named, ways⟩ := replacement_cases ok
    have found := (definition_eq_ok.1 named).2
    have means := meaningIn_of_definition named
    obtain ⟨rfl, rfl, -⟩ | ⟨less, rfl, -, inner⟩ := ways
    · obtain ⟨source, target, found', leads, inlines⟩ := leadBack name (inside List.mem_cons_self)
      rw [found] at found'
      cases found'
      exact .leadsBack shown means (straight name body found) leads inlines
    · rw [inlineWithin_eq] at inner
      exact .deeper shown means (straight name body found) rfl ⟨kept, inner, inside⟩
  | none =>
    cases form : inlines.form objects with
    | obj fields cs =>
      obtain ⟨_, same, shown, shown', each⟩ := fields_inlined legible given inlines
      cases same
      have apart := (legible fields .self given).2
      refine .keywords shown shown' fun data => ?_
      refine (demandsOf_matched each (fun _ _ h => h.form objects) apart data).imp fun d e related => ?_
      exact related.imp fun s c h => ⟨legible.inside shown h.1, h.2⟩
    | atom a => exact .same fun _ _ _ _ _ => by cases a <;> rfl
    | _ => exact .same fun _ _ _ _ _ => rfl

/-- What is known of a schema is known of its inlined form. -/
theorem judge_inlined (objects : AreObjects definitions)
    (straight : ∀ name body, definitions.lookup name = some body → Straight body)
    (leadBack : LeadBack definitions names root) (n : Nat) : ∀ (depth : Nat) (stack : List String) (s c data : Value),
      Inlines (replacement definitions depth stack) names false s c → Straight s →
        Below (judge (meaningIn definitions) n s data) (judge (targetIn root) n c data) := by
  induction n with
  | zero => exact fun _ _ _ _ _ _ _ => .none _
  | succ n ih =>
    intro depth stack s c data inlines legible
    cases inlines.unfolds objects straight leadBack legible with
    | leadsBack shown means body leads whole =>
      rw [judge_reference shown, means, Option.bind_some, judge_cut, leads, Option.bind_some]
      exact ih _ _ _ _ data whole body
    | deeper shown means body lower inner =>
      rw [judge_reference shown, means, Option.bind_some]
      exact (ih _ _ _ c data inner body).trans (judge_succ n c data)
    | keywords shown shown' related =>
      rw [judge_keywords shown, judge_keywords shown']
      exact allHold_related (fun s c part h => ih depth stack s c part h.2 h.1) (related data)
    | same equal =>
      rw [equal _ (targetIn root) n n data]
      exact .refl _

/-- What is known of an inlined schema is known of the schema, after as many more steps as
references can follow one another. -/
theorem judge_source (objects : AreObjects definitions)
    (straight : ∀ name body, definitions.lookup name = some body → Straight body)
    (leadBack : LeadBack definitions names root) (n : Nat) : ∀ (depth : Nat) (stack : List String) (s c data : Value),
      depth ≤ definitions.length → Inlines (replacement definitions depth stack) names false s c → Straight s →
        Below (judge (targetIn root) n c data) (judge (meaningIn definitions) (n * (definitions.length + 2)) s data) := by
  induction n with
  | zero => exact fun _ _ _ _ _ _ _ _ => .none _
  | succ n ih =>
    -- The references that lead to the keywords of a place are counted by the depth left.
    suffices steps : ∀ (depth : Nat) (stack : List String) (s c data : Value), depth ≤ definitions.length →
        Inlines (replacement definitions depth stack) names false s c → Straight s →
          Below (judge (targetIn root) (n + 1) c data)
            (judge (meaningIn definitions) (n * (definitions.length + 2) + depth + 2) s data) by
      intro depth stack s c data few inlines legible
      refine (steps depth stack s c data few inlines legible).trans (judge_mono ?_ s data)
      rw [Nat.succ_mul]
      omega
    intro depth
    induction depth using Nat.strongRecOn with
    | ind depth deeper =>
      intro stack s c data few inlines legible
      cases inlines.unfolds objects straight leadBack legible with
      | leadsBack shown means body leads whole =>
        rw [judge_reference shown, means, Option.bind_some, judge_cut, leads, Option.bind_some]
        exact (ih _ _ _ _ data (Nat.le_refl _) whole body).trans (judge_mono (by omega) _ data)
      | @deeper _ _ name _ _ less shown means body lower inner =>
        subst lower
        rw [judge_reference shown, means, Option.bind_some]
        exact deeper less (by omega) (name :: stack) _ c data (by omega) inner body
      | keywords shown shown' related =>
        rw [judge_keywords shown, judge_keywords shown']
        refine allHold_related (fun c s part h => ?_) ((related data).flip.imp fun d e h => h.flip)
        exact (ih depth stack s c part few h.2 h.1).trans (judge_mono (by omega) s part)
      | same equal =>
        rw [← equal (meaningIn definitions) (targetIn root) _ n data]
        exact .refl _

end Inlined

/-! ### Schemas that mean the same -/

/-- Whether two schemas accept and reject the same data, each with its own reading of
references. -/
def MeansSame (first second : String → Option Value) (s c : Value) : Prop :=
  ∀ data, (Accepts first s data ↔ Accepts second c data) ∧ (Rejects first s data ↔ Rejects second c data)

/-- Definitions as the meaning of inlined schemas asks for them: all are straight, and no name
on a cycle of references has a percent escape. -/
structure StraightDefinitions (definitions : Definitions) : Prop where
  straight : ∀ name body, definitions.lookup name = some body → Straight body
  plain : ∀ name, OnCycle definitions name → Url.hasEscape name.toList = false

section Meaning

variable {definitions : Definitions} {names kept : List String} {bodies : List (String × Value)} {root : Value}

theorem MeansSame.of_inlines (objects : AreObjects definitions)
    (straight : ∀ name body, definitions.lookup name = some body → Straight body)
    (leadBack : LeadBack definitions names root) {depth : Nat} (few : depth ≤ definitions.length)
    {stack : List String} {s c : Value} (inlines : Inlines (replacement definitions depth stack) names false s c)
    (legible : Straight s) : MeansSame (meaningIn definitions) (targetIn root) s c := by
  intro data
  have inlined (n : Nat) := judge_inlined objects straight leadBack n depth stack s c data inlines legible
  have source (n : Nat) := judge_source objects straight leadBack n depth stack s c data few inlines legible
  refine ⟨⟨?_, ?_⟩, ⟨?_, ?_⟩⟩
  · rintro ⟨n, known⟩
    exact ⟨n, inlined n true known⟩
  · rintro ⟨n, known⟩
    exact ⟨_, source n true known⟩
  · rintro ⟨n, known⟩
    exact ⟨n, inlined n false known⟩
  · rintro ⟨n, known⟩
    exact ⟨_, source n false known⟩

/-- Embedded bodies are what the cuts in their names lead back to. -/
theorem Embedding.leadBack (embedding : Embedding definitions kept bodies)
    (plain : ∀ name, OnCycle definitions name → Url.hasEscape name.toList = false)
    (embeds : bodies ≠ [] → embeddedIn root = bodies.map fun f => (.text f.1, f.2)) :
    LeadBack definitions (Entries.keys bodies) root := by
  intro name member
  obtain ⟨body, found⟩ := Entries.mem_keys_iff.1 member
  obtain ⟨cyclic, source, inner, given, ok, inside⟩ := embedding.body _ (Entries.mem_of_lookup_eq_some found)
  refine ⟨source, body, given, ?_, inner, ?_, inside⟩
  · rw [targetIn, targetName?_definitionRef (plain name cyclic), Option.bind_some, embeds, lookup_record, found]
    rintro rfl
    cases found
  · rw [← inlineWithin_eq]
    exact ok

/-- A schema and its inlined form in a root with the embedded definitions mean the same. -/
theorem inline_meansSame (objects : AreObjects definitions) (definite : StraightDefinitions definitions)
    {all : List String} (embedding : Embedding definitions all bodies)
    (embeds : bodies ≠ [] → embeddedIn root = bodies.map fun f => (.text f.1, f.2)) {s c : Value}
    (legible : Straight s) (inlined : inline definitions s = .ok (c, kept)) (inside : kept ⊆ all) :
    MeansSame (meaningIn definitions) (targetIn root) s c := by
  have leadBack := embedding.leadBack definite.plain embeds
  have inlines : Inlines (replacement definitions definitions.length []) (Entries.keys bodies) false s c :=
    ⟨kept, inlineWithin_eq definitions definitions.length [] s ▸ inlined, List.Subset.trans inside embedding.covers⟩
  exact .of_inlines objects definite.straight leadBack (Nat.le_refl _) inlines legible

/-- Schemas that are inlined one after another mean the same in a root with the definitions
embedded that stay cut in any of them. -/
theorem inlineAll_meansSame (objects : AreObjects definitions) (definite : StraightDefinitions definitions)
    {schemas : List Value} {inlined : List Inlined} (straight : ∀ s ∈ schemas, Straight s)
    (ok : schemas.mapM (inline definitions) = .ok inlined)
    (embedded : Schema.embedded definitions (inlined.flatMap Prod.snd) = .ok bodies)
    (embeds : bodies ≠ [] → embeddedIn root = bodies.map fun f => (.text f.1, f.2)) :
    List.Forall₂ (fun s c => MeansSame (meaningIn definitions) (targetIn root) s c.1) schemas inlined := by
  have each := forall₂_of_mapM ok
  have cyclic : ∀ name ∈ inlined.flatMap Prod.snd, OnCycle definitions name := by
    intro name member
    obtain ⟨c, inside, kept⟩ := List.mem_flatMap.1 member
    obtain ⟨s, -, ok⟩ := exists_related each inside
    exact inline_onCycle ok name kept
  have embedding := embedded_closed cyclic embedded
  obtain ⟨same, pairs⟩ := List.forall₂_iff_zip.1 each
  refine List.forall₂_iff_zip.2 ⟨same, fun {s c} member => ?_⟩
  obtain ⟨left, right⟩ := List.of_mem_zip member
  apply inline_meansSame objects definite embedding embeds (straight s left) (pairs member)
  intro name kept
  exact List.mem_flatMap.2 ⟨c, right, kept⟩

end Meaning

end SwaggerGate.Schema
