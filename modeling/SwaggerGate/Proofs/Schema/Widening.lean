import SwaggerGate.Proofs.Schema.Compiled
import SwaggerGate.Proofs.Schema.Meaning
import SwaggerGate.Schema.Nullable

/-! Widening place by place. A value that is widened keeps its form: lists their lengths, objects
their keys, and atoms stay. Only the type of a nullable schema is replaced, by a list. -/
namespace SwaggerGate.Schema

/-- Whether a value is another one widened. -/
def Widens (v w : Value) : Prop := widenNullable v = .ok w

/-- Whether an entry's value is that of another object, which may widen its type. -/
def WidensArgument (widened : Bool) (key : Atom) (v w : Value) : Prop :=
  if widened && key = .text "type" then w = .list [v, .text "null"] else Widens v w

/-- Whether entries are other ones widened, each by itself. -/
def WidensEntries {κ : Type} (entries ws : List (κ × Value)) : Prop :=
  List.Forall₂ (fun f w => w.1 = f.1 ∧ Widens f.2 w.2) entries ws

/-- Whether entries are those of another object, which may widen its type. -/
def WidensFields (widened : Bool) (fields ws : List (Atom × Value)) : Prop :=
  List.Forall₂ (fun f w => w.1 = f.1 ∧ WidensArgument widened f.1 f.2 w.2) fields ws

theorem isWidened_iff {fields : List (Atom × Value)} : isWidened fields = true ↔
    fields.lookup (.text "x-nullable") = some (.bool true) ∧ ∃ s, fields.lookup (.text "type") = some (.text s) := by
  rw [isWidened, Bool.and_eq_true, beq_iff_eq]
  refine and_congr Iff.rfl ?_
  split
  next s given => exact iff_of_true rfl ⟨s, given⟩
  next other =>
    refine iff_of_false Bool.false_ne_true ?_
    rintro ⟨s, given⟩
    exact other s given

/-- A type that is widened is one text. -/
theorem text_of_widened {fields : List (Atom × Value)} (distinct : (Entries.keys fields).Nodup)
    (wide : isWidened fields = true) : ∀ v, (.text "type", v) ∈ fields → ∃ s, v = .text s := by
  intro v member
  obtain ⟨-, s, given⟩ := isWidened_iff.1 wide
  rw [Entries.lookup_eq_some_of_mem distinct member] at given
  exact ⟨s, Option.some.inj given⟩

section Forms

variable {v w : Value} {widened : Bool}

private theorem widenItems_eq_ok {items ws : List Value} : widenItems items = .ok ws ↔ List.Forall₂ Widens items ws := by
  induction items generalizing ws with
  | nil => simp [widenItems, eq_comm]
  | cons v rest ih =>
    rw [widenItems, bind_eq_ok, List.forall₂_cons_left_iff]
    constructor
    · rintro ⟨first, head, ok⟩
      obtain ⟨others, tail, ok⟩ := bind_eq_ok.1 ok
      cases ok
      exact ⟨first, others, head, ih.1 tail, rfl⟩
    · rintro ⟨first, others, head, tail, rfl⟩
      exact ⟨first, head, bind_eq_ok.2 ⟨others, ih.2 tail, rfl⟩⟩

private theorem widenFields_eq_ok {fields ws : List (Atom × Value)} :
    widenFields widened fields = .ok ws ↔ WidensFields widened fields ws := by
  induction fields generalizing ws with
  | nil => simp [widenFields, WidensFields, eq_comm]
  | cons f rest ih =>
    obtain ⟨key, v⟩ := f
    have argument (w : Value) : (if widened && key = .text "type" then Except.ok (.list [v, .text "null"])
        else widenNullable v) = .ok w ↔ WidensArgument widened key v w := by
      unfold WidensArgument
      split
      · rw [Except.ok.injEq, eq_comm]
      · exact Iff.rfl
    have step : widenFields widened ((key, v) :: rest) = (if widened && key = .text "type"
        then Except.ok (.list [v, .text "null"]) else widenNullable v) >>= fun w =>
          widenFields widened rest >>= fun others => .ok ((key, w) :: others) := by
      rw [widenFields]
      split <;> rfl
    unfold WidensFields at ih ⊢
    rw [step, bind_eq_ok, List.forall₂_cons_left_iff]
    constructor
    · rintro ⟨w, head, ok⟩
      obtain ⟨others, tail, ok⟩ := bind_eq_ok.1 ok
      cases ok
      exact ⟨(key, w), others, ⟨rfl, (argument w).1 head⟩, ih.1 tail, rfl⟩
    · rintro ⟨⟨key', w⟩, others, ⟨rfl, head⟩, tail, rfl⟩
      exact ⟨w, (argument w).2 head, bind_eq_ok.2 ⟨others, ih.2 tail, rfl⟩⟩

theorem widens_list {items : List Value} :
    Widens (.list items) w ↔ ∃ ws, w = .list ws ∧ List.Forall₂ Widens items ws := by
  rw [Widens, widenNullable, bind_eq_ok]
  simp only [widenItems_eq_ok, pure, Except.pure, Except.ok.injEq]
  exact exists_congr fun ws => by rw [and_comm, eq_comm]

theorem widens_object {fields : List (Atom × Value)} :
    Widens (.obj fields) w ↔ ∃ ws, w = .obj ws ∧ WidensFields (isWidened fields) fields ws := by
  rw [Widens, widenNullable, bind_eq_ok]
  simp only [widenFields_eq_ok, pure, Except.pure, Except.ok.injEq]
  exact exists_congr fun ws => by rw [and_comm, eq_comm]

/-- An object that maps names to schemas is widened entry by entry. -/
theorem widens_map {entries : List (Atom × Value)} (schemas : ∀ entry ∈ entries, ∀ a, entry.2 ≠ .atom a) :
    Widens (.obj entries) w ↔ ∃ ws, w = .obj ws ∧ WidensEntries entries ws := by
  have narrow : isWidened entries = false := by
    rw [isWidened, Bool.and_eq_false_iff]
    left
    rw [beq_eq_false_iff_ne]
    intro given
    exact schemas _ (Entries.mem_of_lookup_eq_some given) _ rfl
  rw [widens_object, narrow]
  rfl

/-- A value is widened to itself, unless it is a list or an object. -/
theorem Widens.cases (h : Widens v w) :
    (w = v ∧ (∀ items, v ≠ .list items) ∧ ∀ fields, v ≠ .obj fields) ∨
      (∃ items ws, v = .list items ∧ w = .list ws ∧ List.Forall₂ Widens items ws) ∨
        ∃ fields ws, v = .obj fields ∧ w = .obj ws ∧ WidensFields (isWidened fields) fields ws := by
  cases v with
  | list items =>
    obtain ⟨ws, rfl, each⟩ := widens_list.1 h
    exact .inr (.inl ⟨items, ws, rfl, rfl, each⟩)
  | obj fields =>
    obtain ⟨ws, rfl, each⟩ := widens_object.1 h
    exact .inr (.inr ⟨fields, ws, rfl, rfl, each⟩)
  | loop levels ofObject => cases h
  | atom a => cases h; exact .inl ⟨rfl, nofun, nofun⟩
  | set members => cases h; exact .inl ⟨rfl, nofun, nofun⟩
  | pair a b => cases h; exact .inl ⟨rfl, nofun, nofun⟩

theorem widens_atom (a : Atom) : Widens (.atom a) (.atom a) := by
  rw [Widens, widenNullable]

theorem Widens.eq_of_atom {a : Atom} (h : Widens (.atom a) w) : w = .atom a := by
  rw [Widens, widenNullable] at h
  exact (Except.ok.inj h).symm

theorem Widens.atom_iff (h : Widens v w) (a : Atom) : w = .atom a ↔ v = .atom a := by
  rcases h.cases with ⟨rfl, -, -⟩ | ⟨items, ws, rfl, rfl, -⟩ | ⟨fields, ws, rfl, rfl, -⟩
  · exact Iff.rfl
  · exact iff_of_false nofun nofun
  · exact iff_of_false nofun nofun

/-- Both of a value and its widened form are the same constant, or neither is one. -/
theorem Widens.bool_or (h : Widens v w) :
    (∃ b, v = .bool b ∧ w = .bool b) ∨ (∀ b, v ≠ .bool b) ∧ ∀ b, w ≠ .bool b := by
  by_cases constant : ∃ b, v = .bool b
  · obtain ⟨b, rfl⟩ := constant
    exact .inl ⟨b, rfl, (h.atom_iff (.bool b)).2 rfl⟩
  · rw [not_exists] at constant
    exact .inr ⟨constant, fun b same => constant b ((h.atom_iff (.bool b)).1 same)⟩

theorem Widens.unique {other : Value} (h : Widens v w) (h' : Widens v other) : w = other :=
  Except.ok.inj (h.symm.trans h')

theorem Widens.isObject (h : Widens v w) : IsObject w ↔ IsObject v := by
  rcases h.cases with ⟨rfl, -, -⟩ | ⟨items, ws, rfl, rfl, -⟩ | ⟨fields, ws, rfl, rfl, -⟩
  · exact Iff.rfl
  · constructor <;> rintro ⟨fields, same⟩ <;> cases same
  · exact iff_of_true ⟨ws, rfl⟩ ⟨fields, rfl⟩

theorem WidensFields.keys {fields ws : List (Atom × Value)} (each : WidensFields widened fields ws) :
    Entries.keys ws = Entries.keys fields :=
  keys_related each

/-- An argument that holds no schemas is not widened, unless it is a type. -/
theorem Widens.eq_of_plain (h : Widens v w) (plain : isPlain v = true) : w = v := by
  rcases h.cases with ⟨same, -, -⟩ | ⟨items, ws, rfl, rfl, each⟩ | ⟨fields, ws, rfl, rfl, -⟩
  · exact same
  · have atoms : ∀ item ∈ items, ∃ a, item = .atom a := by
      intro item member
      have atom := List.all_eq_true.1 plain item member
      cases item with
      | atom a => exact ⟨a, rfl⟩
      | _ => cases atom
    clear h plain
    induction each with
    | nil => rfl
    | @cons item w rest ws head tail ih =>
      obtain ⟨a, rfl⟩ := atoms item List.mem_cons_self
      have others := ih fun other member => atoms other (List.mem_cons_of_mem _ member)
      rw [head.eq_of_atom, Value.list.inj others]
  · cases plain

mutual
/-- A widened value can be shown if the value can. -/
theorem isShowable_widened : ∀ v w : Value, Widens v w → w.isShowable = v.isShowable
  | .atom a, w, h => by rw [h.eq_of_atom]
  | .set members, w, h => by cases h; rfl
  | .pair a b, w, h => by cases h; rfl
  | .loop levels ofObject, w, h => by cases h
  | .list items, w, h => by
    obtain ⟨ws, rfl, each⟩ := widens_list.1 h
    exact areShowable_widened items ws each
  | .obj fields, w, h => by
    obtain ⟨ws, rfl, each⟩ := widens_object.1 h
    exact fieldsShowable_widened (isWidened fields) fields ws each
private theorem areShowable_widened : ∀ items ws : List Value, List.Forall₂ Widens items ws →
    Value.areShowable ws = Value.areShowable items
  | [], ws, each => by cases each; rfl
  | v :: rest, ws, each => by
    obtain ⟨w, others, head, tail, rfl⟩ := List.forall₂_cons_left_iff.1 each
    rw [Value.areShowable, Value.areShowable, isShowable_widened v w head, areShowable_widened rest others tail]
private theorem fieldsShowable_widened (widened : Bool) : ∀ fields ws : List (Atom × Value),
    WidensFields widened fields ws → Value.fieldsShowable ws = Value.fieldsShowable fields
  | [], ws, each => by cases each; rfl
  | (key, v) :: rest, ws, each => by
    obtain ⟨⟨key', w⟩, others, ⟨same, head⟩, tail, rfl⟩ := List.forall₂_cons_left_iff.1 each
    obtain rfl : key' = key := same
    have argument : w.isShowable = v.isShowable := by
      change WidensArgument widened key' v w at head
      unfold WidensArgument at head
      split at head
      · rw [head]
        simp [Value.isShowable, Value.areShowable, Atom.isShowable]
      · exact isShowable_widened v w head
    rw [Value.fieldsShowable, Value.fieldsShowable, argument, fieldsShowable_widened widened rest others tail]
end

theorem Widens.isTruthy (h : Widens v w) : w.isTruthy = v.isTruthy := by
  rcases h.cases with ⟨rfl, -, -⟩ | ⟨items, ws, rfl, rfl, each⟩ | ⟨fields, ws, rfl, rfl, each⟩
  · rfl
  · cases each <;> rfl
  · unfold WidensFields at each
    cases each <;> rfl

theorem Widens.size (h : Widens v w) : w.size = v.size := by
  rcases h.cases with ⟨rfl, -, -⟩ | ⟨items, ws, rfl, rfl, each⟩ | ⟨fields, ws, rfl, rfl, each⟩
  · rfl
  · exact congrArg Except.ok each.length_eq.symm
  · simp only [Value.size, Value.members, Except.map, List.length_map, List.Forall₂.length_eq each]

/-- Whether a widened value is a key of an object is what it is of the value. -/
theorem Widens.holds (h : Widens v w) (properties : List (Atom × Value)) :
    (Value.obj properties).holds w = (Value.obj properties).holds v := by
  rcases h.cases with ⟨rfl, -, -⟩ | ⟨items, ws, rfl, rfl, -⟩ | ⟨fields, ws, rfl, rfl, -⟩ <;> rfl

end Forms

/-! ### Entries -/

section Maps

variable {κ : Type} [DecidableEq κ] {entries ws : List (κ × Value)} (each : WidensEntries entries ws)
include each

theorem WidensEntries.lookup (key : κ) : (entries.lookup key = none ∧ ws.lookup key = none) ∨
    ∃ v w, entries.lookup key = some v ∧ ws.lookup key = some w ∧ Widens v w :=
  lookup_related (R := fun _ => Widens) each key

theorem WidensEntries.lookup_isNone (key : κ) : (ws.lookup key).isNone = (entries.lookup key).isNone := by
  rcases each.lookup key with ⟨absent, absent'⟩ | ⟨v, w, given, given', -⟩
  · rw [absent, absent']
  · rw [given, given']
    rfl

end Maps

section Entries

variable {fields ws : List (Atom × Value)} {widened : Bool}

theorem WidensArgument.widens {key : Atom} {v w : Value} (argument : WidensArgument widened key v w)
    (other : key ≠ .text "type") : Widens v w := by
  rwa [WidensArgument, if_neg (by simp [other])] at argument

variable (each : WidensFields widened fields ws)
include each

/-- Beside the type, an argument is given where a widened one is. -/
theorem WidensFields.argument (key : Atom) (other : key ≠ .text "type") :
    (fields.lookup key = none ∧ ws.lookup key = none) ∨
      ∃ v w, fields.lookup key = some v ∧ ws.lookup key = some w ∧ Widens v w := by
  rcases lookup_related (R := WidensArgument widened) each key with absent | ⟨v, w, given, given', argument⟩
  · exact .inl absent
  · exact .inr ⟨v, w, given, given', argument.widens other⟩

theorem WidensFields.lookup_atom {key : Atom} (other : key ≠ .text "type") (a : Atom) :
    ws.lookup key = some (.atom a) ↔ fields.lookup key = some (.atom a) := by
  rcases each.argument _ other with ⟨absent, absent'⟩ | ⟨v, w, given, given', argument⟩
  · rw [absent, absent']
  · rw [given, given', Option.some.injEq, Option.some.injEq]
    exact argument.atom_iff a

theorem WidensFields.any_isTruthy {name : String} (other : Atom.text name ≠ .text "type") :
    (argument? ws name).any Value.isTruthy = (argument? fields name).any Value.isTruthy := by
  unfold argument?
  rcases each.argument _ other with ⟨absent, absent'⟩ | ⟨v, w, given, given', widens⟩
  · rw [absent, absent']
  · rw [given, given', Option.any_some, Option.any_some, widens.isTruthy]

/-- An object has its keys as members. -/
theorem WidensFields.members : (Value.obj ws).members = (Value.obj fields).members := by
  have same := congrArg (List.map Value.atom) (WidensFields.keys each)
  rw [Entries.keys, Entries.keys, List.map_map, List.map_map] at same
  exact congrArg Except.ok same

theorem WidensFields.isSome_entryOf? (key : Atom) : (entryOf? ws key).isSome = (entryOf? fields key).isSome := by
  unfold entryOf? WidensFields at *
  induction each with
  | nil => rfl
  | cons head _ ih =>
    rw [List.find?_cons, List.find?_cons, head.1]
    split
    · rfl
    · exact ih

theorem WidensFields.refText? : Schema.refText? (.obj ws) = Schema.refText? (.obj fields) := by
  apply Option.ext
  intro ref
  exact refText?_lookup.trans ((each.lookup_atom (by decide) _).trans refText?_lookup.symm)

theorem WidensFields.shown_none (hidden : shownRef? fields = none) : shownRef? ws = none := by
  unfold shownRef? argument? at hidden ⊢
  rcases each.argument (.text "$ref") (by decide) with ⟨-, absent⟩ | ⟨v, w, given, given', argument⟩
  · rw [absent]
    rfl
  · rw [given, Option.filter_eq_none_iff] at hidden
    have null : v = .null := by simpa using hidden v rfl
    rw [given', (argument.atom_iff .null).2 null]
    rfl

theorem WidensFields.shown_text {ref : String} (shown : shownRef? fields = some (.text ref)) :
    shownRef? ws = some (.text ref) := by
  rw [shownRef?, argument?, (each.lookup_atom (by decide) _).2 (lookup_of_shownRef? shown)]
  rfl

end Entries

section Forms

variable {v w : Value}

private theorem atom_mem_widened {items ws : List Value} (each : List.Forall₂ Widens items ws) (a : Atom) :
    Value.atom a ∈ ws ↔ Value.atom a ∈ items := by
  induction each with
  | nil => exact Iff.rfl
  | cons head _ ih => rw [List.mem_cons, List.mem_cons, ih, eq_comm, head.atom_iff, eq_comm]

private theorem Widens.named (h : Widens v w) : Dialect.named .draft4 w = Dialect.named .draft4 v := by
  rcases h.cases with ⟨rfl, -, -⟩ | ⟨items, ws, rfl, rfl, -⟩ | ⟨fields, ws, rfl, rfl, -⟩ <;> rfl

/-- A widened schema names the dialect that the schema does. -/
theorem Widens.ofSchema (h : Widens v w) : Dialect.ofSchema .draft4 w = Dialect.ofSchema .draft4 v := by
  rcases h.cases with ⟨rfl, -, -⟩ | ⟨items, ws, rfl, rfl, each⟩ | ⟨fields, ws, rfl, rfl, each⟩
  · rfl
  · have same : ws.contains (.text "$schema") = items.contains (.text "$schema") := by
      rw [Bool.eq_iff_iff, List.contains_iff_mem, List.contains_iff_mem]
      exact atom_mem_widened each _
    rw [Dialect.ofSchema, Dialect.ofSchema, same]
  · rcases each.argument (.text "$schema") (by decide) with ⟨absent, absent'⟩ | ⟨v, w, given, given', argument⟩
    · simp only [Dialect.ofSchema, absent, absent']
    · simp only [Dialect.ofSchema, given, given', argument.named]

private theorem WidensFields.idOfFields {fields ws : List (Atom × Value)} {widened : Bool}
    (each : WidensFields widened fields ws) : Resource.idOfFields .draft4 ws = Resource.idOfFields .draft4 fields := by
  have key : Resource.idKey .draft4 = "id" := rfl
  have reference : (ws.lookup (.text "$ref")).isSome = (fields.lookup (.text "$ref")).isSome := by
    rcases each.argument (.text "$ref") (by decide) with ⟨absent, absent'⟩ | ⟨v, w, given, given', -⟩
    · rw [absent, absent']
    · rw [given, given']
      rfl
  unfold Resource.idOfFields
  rw [reference, key]
  rcases each.argument (.text "id") (by decide) with ⟨absent, absent'⟩ | ⟨v, w, given, given', argument⟩
  · rw [absent, absent']
  · rw [given, given']
    rcases argument.cases with ⟨rfl, -, -⟩ | ⟨items, ws, rfl, rfl, -⟩ | ⟨fields, ws, rfl, rfl, -⟩ <;> rfl

/-- A widened schema names the address that the schema does. -/
theorem Widens.id? (h : Widens v w) : (Resource.mk .draft4 w).id? = (Resource.mk .draft4 v).id? := by
  rcases h.cases with ⟨rfl, -, -⟩ | ⟨items, ws, rfl, rfl, each⟩ | ⟨fields, ws, rfl, rfl, each⟩
  · rfl
  · have same : ws.any (Value.same (.text "$ref")) = items.any (Value.same (.text "$ref")) := by
      clear h
      induction each with
      | nil => rfl
      | @cons item w rest ws head _ ih =>
        have first : Value.same (.text "$ref") w = Value.same (.text "$ref") item := by
          rcases head.cases with ⟨rfl, -, -⟩ | ⟨items, ws, rfl, rfl, -⟩ | ⟨fields, ws, rfl, rfl, -⟩ <;> rfl
        rw [List.any_cons, List.any_cons, first, ih]
    have holds : (Value.list ws).holds (.text "$ref") = (Value.list items).holds (.text "$ref") := congrArg Except.ok same
    simp only [Resource.id?, holds]
  · exact each.idOfFields

end Forms

end SwaggerGate.Schema
