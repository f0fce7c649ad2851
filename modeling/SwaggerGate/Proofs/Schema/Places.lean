import SwaggerGate.Proofs.Schema.Embedded
import SwaggerGate.Proofs.Schema.Reference
import SwaggerGate.Schema.Check

/-! Places of schemas inside schemas, as checks of draft 4 come to them: below the keywords
that hold schemas, and through references at the definitions of the root. -/
namespace SwaggerGate.Schema

def IsObject (v : Value) : Prop := ∃ fields, v = .obj fields

instance : DecidablePred IsObject
  | .obj fields => isTrue ⟨fields, rfl⟩
  | .atom _ | .list _ | .set _ | .pair .. | .loop .. => isFalse nofun

/-- The members of a sequence of schemas. -/
def listedSchemas (argument : Value) : List Value :=
  match argument.members with
  | .ok members => members
  | .error _ => []

/-- The schemas that an object maps names to. -/
def mapped : Value → List Value
  | .obj fields => fields.map Prod.snd
  | _ => []

/-- The schemas under a keyword that data, or a part of it, may be checked against. -/
def schemasUnder (argument : Value) : Keyword → List Value
  | .not | .additionalItems | .additionalProperties => [argument]
  | .items => match argument with
    | .obj _ => [argument]
    | _ => listedSchemas argument
  | .allOf | .anyOf | .oneOf => listedSchemas argument
  | .properties | .patternProperties | .dependencies => mapped argument
  | _ => []

/-- The schemas right inside an object of keywords. -/
def schemasInside (fields : List (Atom × Value)) : List Value :=
  fields.flatMap fun f => match keywordOf? .draft4 f.1 with
    | some kind => schemasUnder f.2 kind
    | none => []

/-- The reference of an object, which hides the keywords beside it unless it is nothing. -/
def shownRef? (fields : List (Atom × Value)) : Option Value := (argument? fields "$ref").filter (· != .null)

/-- The places in a schema, up to its references. -/
inductive Within (schema : Value) : Value → Prop where
  | self : Within schema schema
  | inside {fields : List (Atom × Value)} {part : Value} : Within schema (.obj fields) → shownRef? fields = none →
      part ∈ schemasInside fields → Within schema part

/-- The definitions that a root schema embeds. -/
def embeddedIn : Value → List (Atom × Value)
  | .obj fields => match fields.lookup (.text "definitions") with
    | some (.obj bodies) => bodies
    | _ => []
  | _ => []

/-- The places that a check against a root schema can come to, references followed. -/
inductive Reached (root : Value) : Value → Prop where
  | root : Reached root root
  | inside {fields : List (Atom × Value)} {part : Value} : Reached root (.obj fields) → shownRef? fields = none →
      part ∈ schemasInside fields → Reached root part
  | target {fields : List (Atom × Value)} {ref name : String} {body : Value} : Reached root (.obj fields) →
      fields.lookup (.text "$ref") = some (.text ref) → targetName? ref = some name →
      (embeddedIn root).lookup (.text name) = some body → Reached root body

theorem lookup_of_shownRef? {fields : List (Atom × Value)} {ref : Value} (shown : shownRef? fields = some ref) :
    fields.lookup (.text "$ref") = some ref :=
  (Option.filter_eq_some_iff.1 shown).1

theorem shownRef?_of_bare {fields : List (Atom × Value)} (bare : fields.lookup (.text "$ref") = none) :
    shownRef? fields = none := by
  rw [shownRef?, argument?, bare]
  rfl

theorem refText?_of_not_shown {fields : List (Atom × Value)} (hidden : shownRef? fields = none) :
    refText? (.obj fields) = none := by
  cases given : refText? (.obj fields) with
  | none => rfl
  | some ref =>
    rw [shownRef?, argument?, refText?_lookup.1 given] at hidden
    cases hidden

theorem Within.trans {a b c : Value} (ab : Within a b) (bc : Within b c) : Within a c := by
  induction bc with
  | self => exact ab
  | inside _ shown member ih => exact .inside ih shown member

/-- A cut has no places but itself. -/
theorem Within.eq_cut {name : String} {part : Value} (within : Within (cut name) part) : part = cut name := by
  induction within with
  | self => rfl
  | inside _ shown _ ih =>
    cases ih
    cases shown

theorem keyword_key {key : Atom} {kind : Keyword} (given : keywordOf? .draft4 key = some kind) :
    key = .text kind.name ∧ Dialect.draft4.knows kind = true := by
  cases key with
  | text name =>
    obtain ⟨named, known⟩ := Option.filter_eq_some_iff.1 given
    have same := List.find?_some named
    rw [beq_iff_eq] at same
    exact ⟨by rw [same], known⟩
  | _ => cases given

theorem mem_schemasInside {fields : List (Atom × Value)} {part : Value} :
    part ∈ schemasInside fields ↔
      ∃ kind argument, (.text kind.name, argument) ∈ fields ∧ Dialect.draft4.knows kind = true ∧
        part ∈ schemasUnder argument kind := by
  unfold schemasInside
  rw [List.mem_flatMap]
  constructor
  · rintro ⟨⟨key, argument⟩, member, under⟩
    split at under
    next kind given =>
      obtain ⟨rfl, known⟩ := keyword_key given
      exact ⟨kind, argument, member, known, under⟩
    next => cases under
  · rintro ⟨kind, argument, member, known, under⟩
    refine ⟨_, member, ?_⟩
    have given : keywordOf? .draft4 (.text kind.name) = some kind := by
      refine Option.filter_eq_some_iff.2 ⟨?_, known⟩
      cases kind <;> rfl
    rw [given]
    exact under

theorem schemasUnder_items {argument : Value} (plain : ¬ IsObject argument) :
    schemasUnder argument .items = listedSchemas argument := by
  cases argument with
  | obj fields => exact absurd ⟨fields, rfl⟩ plain
  | _ => rfl

theorem mem_listed {argument : Value} {members : List Value} (ok : argument.members = .ok members) :
    listedSchemas argument = members := by
  rw [listedSchemas, ok]

theorem mem_mapped {argument : Value} {entries : List (Atom × Value)} (ok : argument.entries = .ok entries)
    {entry : Atom × Value} (member : entry ∈ entries) : entry.2 ∈ mapped argument := by
  cases argument with
  | obj fields =>
    cases ok
    exact List.mem_map.2 ⟨entry, member, rfl⟩
  | _ => cases ok

theorem mem_items {argument part : Value} (member : part ∈ schemasUnder argument .items) :
    (IsObject argument ∧ part = argument) ∨ (¬ IsObject argument ∧ part ∈ listedSchemas argument) := by
  cases argument with
  | obj fields => exact .inl ⟨⟨fields, rfl⟩, List.mem_singleton.1 member⟩
  | _ => exact .inr ⟨nofun, member⟩

/-! ### What holds of all parts -/

/-- Whether what holds of a value holds of the values right inside it, and of every atom. -/
structure Hereditary (P : Value → Prop) : Prop where
  atom : ∀ a, P (.atom a)
  item : ∀ {items : List Value}, P (.list items) → ∀ v ∈ items, P v
  entry : ∀ {fields : List (Atom × Value)}, P (.obj fields) → ∀ f ∈ fields, P f.2
  pair : ∀ {a b : Value}, P (.pair a b) → P a ∧ P b

section Hereditary

variable {P : Value → Prop} (hereditary : Hereditary P)
include hereditary

theorem Hereditary.listed {v part : Value} (holds : P v) (member : part ∈ listedSchemas v) : P part := by
  have atoms {α : Type} {l : List α} {atom : α → Atom} (member : part ∈ l.map fun x => .atom (atom x)) : P part := by
    obtain ⟨x, -, rfl⟩ := List.mem_map.1 member
    exact hereditary.atom _
  cases v with
  | atom a =>
    cases a with
    | text s => exact atoms member
    | bytes b => exact atoms member
    | _ => cases member
  | list items => exact hereditary.item holds part member
  | obj fields => exact atoms member
  | set members => exact atoms member
  | pair a b =>
    rcases List.mem_cons.1 member with rfl | second
    · exact (hereditary.pair holds).1
    · obtain rfl := List.mem_singleton.1 second
      exact (hereditary.pair holds).2
  | loop levels ofObject => cases member

theorem Hereditary.mapped {v part : Value} (holds : P v) (member : part ∈ mapped v) : P part := by
  cases v with
  | obj fields =>
    obtain ⟨f, inside, rfl⟩ := List.mem_map.1 member
    exact hereditary.entry holds f inside
  | _ => cases member

theorem Hereditary.under {kind : Keyword} {argument part : Value} (holds : P argument)
    (member : part ∈ schemasUnder argument kind) : P part := by
  cases kind with
  | not | additionalItems | additionalProperties => rwa [List.mem_singleton.1 member]
  | allOf | anyOf | oneOf => exact hereditary.listed holds member
  | properties | patternProperties | dependencies => exact hereditary.mapped holds member
  | items =>
    rcases mem_items member with ⟨-, rfl⟩ | ⟨-, inside⟩
    · exact holds
    · exact hereditary.listed holds inside
  | _ => cases member

/-- What holds of an object of keywords holds of the schemas right inside it. -/
theorem Hereditary.inside {fields : List (Atom × Value)} (holds : P (.obj fields)) {part : Value}
    (member : part ∈ schemasInside fields) : P part := by
  obtain ⟨kind, argument, entry, -, under⟩ := mem_schemasInside.1 member
  exact hereditary.under (hereditary.entry holds _ entry) under

/-- What holds of a root schema holds of all places that a check can come to. -/
theorem Hereditary.reached {root : Value} (holds : P root) {part : Value} (reached : Reached root part) : P part := by
  induction reached with
  | root => exact holds
  | inside _ _ member ih => exact hereditary.inside ih member
  | target _ _ _ found =>
    unfold embeddedIn at found
    split at found
    next fields =>
      split at found
      next bodies given =>
        have bodies_ := hereditary.entry holds _ (Entries.mem_of_lookup_eq_some given)
        exact hereditary.entry bodies_ _ (Entries.mem_of_lookup_eq_some found)
      next => cases found
    next => cases found

end Hereditary

/-- One level of a check by an object: its reference alone, or else all its keywords. -/
theorem checkLevel_object {check : Checker} {context : Context} (draft : context.dialect = .draft4)
    (fields : List (Atom × Value)) (data : Value) :
    checkLevel check .draft4 context (.obj fields) data = context.each (fun f => match keywordOf? .draft4 f.1 with
      | some kind => keyword check context fields kind f.2 data
      | none => .ok) (match shownRef? fields with
        | some ref => [(.text "$ref", ref)]
        | none => fields) := by
  unfold checkLevel
  rw [draft]
  rfl

/-! ### What inlining can read -/

mutual
/-- Whether a reference stands anywhere inside a value. -/
def mentionsRef : Value → Bool
  | .list items => mentionsRefItems items
  | .obj fields => mentionsRefFields fields
  | .pair a b => mentionsRef a || mentionsRef b
  | _ => false
def mentionsRefItems : List Value → Bool
  | [] => false
  | v :: rest => mentionsRef v || mentionsRefItems rest
def mentionsRefFields : List (Atom × Value) → Bool
  | [] => false
  | (key, v) :: rest => key == .text "$ref" || mentionsRef v || mentionsRefFields rest
end

/-- The schemas inside an object that inlining takes for data or for maps: those of a pair,
and dependencies of a property that is named like a keyword with such an argument. -/
def unread (fields : List (Atom × Value)) : List Value :=
  fields.flatMap fun
    | (_, .pair a b) => [a, b]
    | (.text "dependencies", .obj dependencies) =>
      (dependencies.filter fun d => isLiteralKey d.1 || isSchemaMapKey d.1).map Prod.snd
    | _ => []

/-- An object of keywords, without a reference, that inlining reads as checks do. It names no
address and no other dialect, and no schema that stands unread in it has a reference. -/
structure Legible (fields : List (Atom × Value)) : Prop where
  bare : fields.lookup (.text "$ref") = none
  address : ∀ id, fields.lookup (.text "id") = some (.text id) → id.toList.head? = some '#'
  dialect : ∀ url dialect, fields.lookup (.text "$schema") = some (.text url) →
    Dialect.named .draft4 (.text url) = .ok dialect → dialect = .draft4
  dependencies : ∀ schemas, (.text "dependencies", .obj schemas) ∈ fields → refText? (.obj schemas) = none
  unread : ∀ part ∈ unread fields, mentionsRef part = false

/-- A schema that is legible at each of its places, references aside. -/
def Readable (schema : Value) : Prop :=
  ∀ fields, Within schema (.obj fields) → refText? (.obj fields) = none → Legible fields

theorem Readable.part {schema part : Value} (h : Readable schema) (within : Within schema part) : Readable part :=
  fun fields inside => h fields (within.trans inside)

/-! ### Deciding what can be read -/

private def namesNoAddress (fields : List (Atom × Value)) : Bool :=
  match fields.lookup (.text "id") with
  | some (.text id) => id.toList.head? == some '#'
  | _ => true

private def namesNoDialect (fields : List (Atom × Value)) : Bool :=
  match fields.lookup (.text "$schema") with
  | some (.text url) => match Dialect.named .draft4 (.text url) with
    | .ok dialect => dialect == .draft4
    | .error _ => true
  | _ => true

private def mapsDependencies (fields : List (Atom × Value)) : Bool :=
  fields.all fun
    | (.text "dependencies", .obj schemas) => (refText? (.obj schemas)).isNone
    | _ => true

/-- Whether an object is legible, computed. -/
def isLegible (fields : List (Atom × Value)) : Bool :=
  (fields.lookup (.text "$ref")).isNone && namesNoAddress fields && namesNoDialect fields && mapsDependencies fields &&
    (unread fields).all fun part => !mentionsRef part

theorem legible_of_isLegible {fields : List (Atom × Value)} (h : isLegible fields = true) : Legible fields := by
  simp only [isLegible, Bool.and_eq_true, Option.isNone_iff_eq_none, List.all_eq_true, Bool.not_eq_true'] at h
  obtain ⟨⟨⟨⟨bare, address⟩, dialect⟩, dependencies⟩, unread⟩ := h
  refine ⟨bare, fun id given => ?_, fun url named given ok => ?_, fun schemas member => ?_, unread⟩
  · rw [namesNoAddress, given] at address
    exact beq_iff_eq.1 address
  · rw [namesNoDialect, given] at dialect
    simp only [ok] at dialect
    exact beq_iff_eq.1 dialect
  · exact Option.isNone_iff_eq_none.1 (List.all_eq_true.1 dependencies _ member)

/-- Whether a test of objects that are no references is passed at each place of a schema, as
deep as a number of steps. -/
def isEverywhere (test : List (Atom × Value) → Bool) : Nat → Value → Bool
  | 0, _ => false
  | n + 1, .obj fields =>
    (refText? (.obj fields)).isSome || test fields && (schemasInside fields).all (isEverywhere test n)
  | _ + 1, _ => true

theorem Within.head {schema part : Value} (within : Within schema part) :
    part = schema ∨ ∃ fields inner, schema = .obj fields ∧ shownRef? fields = none ∧ inner ∈ schemasInside fields ∧
      Within inner part := by
  induction within with
  | self => exact .inl rfl
  | @inside fields part _ shown member ih =>
    rcases ih with same | ⟨outer, inner, rfl, hidden, first, rest⟩
    · exact .inr ⟨fields, part, same.symm, shown, member, .self⟩
    · exact .inr ⟨outer, inner, rfl, hidden, first, .inside rest shown member⟩

/-- What the test of an object shows holds at each place of a schema that passes it everywhere. -/
theorem of_isEverywhere {test : List (Atom × Value) → Bool} {P : List (Atom × Value) → Prop}
    (sound : ∀ fields, test fields = true → P fields) {n : Nat} : ∀ {schema : Value}, isEverywhere test n schema = true →
      ∀ fields, Within schema (.obj fields) → refText? (.obj fields) = none → P fields := by
  induction n with
  | zero => exact fun impossible => by cases impossible
  | succ n ih =>
    intro schema h fields within bare
    rcases within.head with same | ⟨outer, inner, rfl, shown, first, rest⟩
    · subst same
      simp only [isEverywhere, bare, Option.isSome_none, Bool.false_or, Bool.and_eq_true] at h
      exact sound fields h.1
    · have plain := refText?_of_not_shown shown
      simp only [isEverywhere, plain, Option.isSome_none, Bool.false_or, Bool.and_eq_true] at h
      exact ih (List.all_eq_true.1 h.2 inner first) fields rest bare

theorem readable_of_isLegible {n : Nat} {schema : Value} (h : isEverywhere isLegible n schema = true) :
    Readable schema :=
  of_isEverywhere (fun _ => legible_of_isLegible) h

/-! ### Checks by constants and by other schemas -/

theorem checkIn_bool (check : Checker) (context : Context) (scope : Scope) (b : Bool) (data : Value) :
    checkIn check context scope (.bool b) data = .test b (.neverValid data) := by
  cases b <;> rfl

theorem descend_bool (check : Checker) (context : Context) (b : Bool) (data : Value) :
    descend check context (.bool b) data = .test b (.neverValid data) :=
  checkIn_bool check context context.scope b data

section Plain

variable {check : Checker} {context : Context} {schema : Value} (plain : ∀ b, schema ≠ .bool b)
include plain

theorem checkIn_eq (scope : Scope) (data : Value) : checkIn check context scope schema data =
    .attempt (Dialect.ofSchema context.dialect schema) fun dialect =>
      check context.dialect { context with dialect, scope } schema data := by
  unfold checkIn
  split
  · exact absurd rfl (plain true)
  · exact absurd rfl (plain false)
  · rfl

theorem descend_eq (data : Value) : descend check context schema data =
    .attempt (context.scope.inside ⟨context.dialect, schema⟩) fun scope => checkIn check context scope schema data := by
  unfold descend
  split
  next b => exact absurd rfl (plain b)
  next => rfl

theorem isValid_eq (data : Value) : isValid check context schema data = Dialect.ofSchema context.dialect schema >>=
    fun dialect => (check dialect { context with dialect, firstOnly := true } schema data).holds := by
  unfold isValid
  split
  next b => exact absurd rfl (plain b)
  next => rfl

theorem descendInto_eq (step : Step) (data : Value) :
    descendInto check context step schema data = (descend check context schema data).under step := by
  unfold descendInto
  split
  next b => exact absurd rfl (plain b)
  next => rfl

end Plain

theorem IsObject.ne_bool {schema : Value} (object : IsObject schema) (b : Bool) : schema ≠ .bool b := by
  obtain ⟨fields, rfl⟩ := object
  nofun

end SwaggerGate.Schema
