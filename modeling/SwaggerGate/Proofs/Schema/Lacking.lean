import SwaggerGate.Proofs.Schema.Findings

/-! Missing properties. Wherever a check reports one, the path of its violation leads to an
object of the data that does not have it; in JSON data, the pointer of the path names that
object alone. -/
namespace SwaggerGate

namespace Value

mutual
/-- Whether a JSON text can write a value; the keys of its objects are distinct texts. -/
def isJson : Value → Bool
  | .atom .null | .atom (.bool _) | .atom (.int _) | .atom (.float _) | .atom (.text _) => true
  | .list items => areJson items
  | .obj fields => decide (Entries.keys fields).Nodup && fieldsAreJson fields
  | _ => false
def areJson : List Value → Bool
  | [] => true
  | v :: rest => isJson v && areJson rest
def fieldsAreJson : List (Atom × Value) → Bool
  | [] => true
  | (.text _, v) :: rest => isJson v && fieldsAreJson rest
  | _ => false
end

theorem areJson_iff {items : List Value} : areJson items = true ↔ ∀ v ∈ items, isJson v = true := by
  induction items with
  | nil => simp [areJson]
  | cons v rest ih => simp [areJson, ih]

theorem fieldsAreJson_iff {fields : List (Atom × Value)} :
    fieldsAreJson fields = true ↔ ∀ f ∈ fields, (∃ name, f.1 = .text name) ∧ isJson f.2 = true := by
  induction fields with
  | nil => simp [fieldsAreJson]
  | cons f rest ih =>
    obtain ⟨key, v⟩ := f
    cases key <;> simp [fieldsAreJson, ih]

theorem isJson_object {fields : List (Atom × Value)} : isJson (.obj fields) = true ↔
    (Entries.keys fields).Nodup ∧ ∀ f ∈ fields, (∃ name, f.1 = .text name) ∧ isJson f.2 = true := by
  rw [isJson, Bool.and_eq_true, decide_eq_true_eq, fieldsAreJson_iff]

end Value

namespace Pointer

theorem intText_natCast (n : Nat) : intText n = String.ofList (Nat.toDigits 10 n) := by
  rw [intText, if_neg (by omega), Int.natAbs_natCast]
  rfl

theorem intText_inj {m n : Nat} : intText m = intText n ↔ m = n := by
  have read (n : Nat) : Nat.ofDigitChars 10 (Nat.toDigits 10 n) 0 = n :=
    Nat.ofDigitChars_toDigits (by decide) (by decide)
  rw [intText_natCast, intText_natCast, String.ofList_inj]
  constructor
  · intro same
    rw [← read m, same, read]
  · rintro rfl
    rfl

end Pointer

namespace Schema

/-- What is missing at a path of data: a name that is listed, from the object that the path
leads to; or a name that is marked in the oldest dialect, from the object one step outside. -/
inductive Lacks (data : Value) : List Step → Value → Value → Value → Prop where
  | listed {path : List Step} {fields : List (Atom × Value)} {name names : Value} {members : List Value} :
    Locates data path (.obj fields) → (Value.obj fields).holds name = .ok false → names.members = .ok members →
      name ∈ members → Lacks data path name names (.obj fields)
  | marked {path : List Step} {fields : List (Atom × Value)} {name mark : Value} :
    Locates data path (.obj fields) → (Value.obj fields).holds name = .ok false → mark.isTruthy = true →
      Lacks data (path ++ [.key "required"]) name mark (.obj fields)

theorem Lacks.holds {data name names found : Value} {path : List Step} (lacks : Lacks data path name names found) :
    found.holds name = .ok false := by
  cases lacks with
  | listed _ absent => exact absent
  | marked _ absent => exact absent

/-- What is missing where no step leads is missing from the whole, and listed. -/
theorem Lacks.whole {data name names found : Value} {path : List Step} (lacks : Lacks data path name names found)
    (top : path = []) : found = data ∧ ∃ members, names.members = .ok members ∧ name ∈ members := by
  cases lacks with
  | listed located _ given member =>
    subst top
    cases located
    exact ⟨rfl, _, given, member⟩
  | marked => simp at top

/-- Whether a violation, if it is about a missing property, is right about the data. -/
def Founded (data : Value) (v : Violation) : Prop :=
  ∀ name names found, v.cause = .required name names found → Lacks data v.path name names found

theorem Founded.step {data part : Value} {step : Step} {v : Violation}
    (inside : ∀ {path : List Step} {target : Value}, Locates part path target → Locates data (step :: path) target)
    (founded : Founded part v) : Founded data { v with path := step :: v.path } := by
  intro name names found cause
  obtain ⟨path, _⟩ := v
  cases founded name names found cause with
  | listed located absent given member => exact .listed (inside located) absent given member
  | marked located absent marked => exact .marked (inside located) absent marked

/-- An atom has no properties to miss. -/
theorem Founded.of_atom {a : Atom} {v : Violation} (founded : Founded (.atom a) v) (data : Value) : Founded data v := by
  have none_ {path : List Step} {fields : List (Atom × Value)} : ¬ Locates (.atom a) path (.obj fields) := nofun
  intro name names found cause
  obtain ⟨path, _⟩ := v
  cases founded name names found cause with
  | listed located => exact absurd located none_
  | marked located => exact absurd located none_

theorem holds_entry {fields : List (Atom × Value)} {name : Atom} (absent : entryOf? fields name = none) :
    (Value.obj fields).holds (.atom name) = .ok false := by
  rw [Value.holds, absent]
  rfl

/-- A text names no entry but its own. -/
theorem name_of_text {key : String} {name : Atom}
    (names : Atom.text key = name ∨ (Atom.text key).sameKey name = true) : name = .text key := by
  rcases names with rfl | same
  · rfl
  · cases name with
    | text other =>
      have equal : (Atom.text key == Atom.text other) = true := same
      exact (beq_iff_eq.1 equal).symm
    | _ => cases same

/-- In JSON data, one pointer leads to one part only. -/
theorem Locates.unique {data a b : Value} {path other : List Step} (json : data.isJson = true)
    (located : Locates data path a) (located' : Locates data other b)
    (same : path.map Pointer.stepText = other.map Pointer.stepText) : a = b := by
  induction located generalizing other with
  | here v =>
    cases located' with
    | here => rfl
    | item => cases same
    | entry => cases same
  | item found _ ih =>
    cases located' with
    | here => cases same
    | item found' located' =>
      rw [List.map_cons, List.map_cons, List.cons.injEq] at same
      obtain rfl := Pointer.intText_inj.1 same.1
      obtain rfl := Option.some.inj (found.symm.trans found')
      exact ih (Value.areJson_iff.1 json _ (List.mem_of_getElem? found)) located' same.2
  | entry member names _ ih =>
    cases located' with
    | here => cases same
    | entry member' names' located' =>
      rw [List.map_cons, List.map_cons, List.cons.injEq] at same
      obtain ⟨distinct, parts⟩ := Value.isJson_object.1 json
      obtain ⟨⟨key, text⟩, inner⟩ := parts _ member
      obtain ⟨⟨key', text'⟩, -⟩ := parts _ member'
      dsimp only at text text' inner
      subst text text'
      obtain rfl := name_of_text names
      obtain rfl := name_of_text names'
      obtain rfl : key = key' := same.1
      have found := Entries.lookup_eq_some_of_mem distinct member
      rw [Entries.lookup_eq_some_of_mem distinct member'] at found
      obtain rfl := Option.some.inj found
      exact ih inner located' same.2

private theorem founded_local : IsLocal Founded where
  part inside founded := founded.step inside
  type _ _ := nofun
  required absent given member := by
    rintro _ _ _ ⟨⟩
    exact .listed (.here _) absent given member
  other data plain := by
    rintro _ _ _ rfl
    cases plain

/-- Whatever a check of data reports as missing is missing. -/
theorem check_founded (schema data : Value) : (Schema.check schema data).All (Founded data) := by
  refine check_all founded_local (fun _ founded => founded.of_atom _) (fun {fields name mark} absent marked => ?_) schema data
  rintro _ _ _ ⟨⟩
  have here : Locates (.obj fields) [] (.obj fields) := .here _
  exact .marked here (holds_entry absent) marked

end Schema
end SwaggerGate
