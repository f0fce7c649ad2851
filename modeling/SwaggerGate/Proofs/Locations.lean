import SwaggerGate.Proofs.Missing
import SwaggerGate.Proofs.Scalar

/-! Where issues are. The path of an issue is a pointer into the data that it is about: read back,
it walks to a value of the data, and what the message says of a type or of missing properties is
said of this value. -/
namespace SwaggerGate

open Schema

namespace Pointer

/-- The place in a list that a token names. -/
def index? (token : String) : Option Nat :=
  if Scalar.isDigits token.toList then some (Text.decimalNumber token.toList) else none

/-- The value that tokens walk to: below an object by its key, below a list by a place in it. -/
def walk? : List String → Value → Option Value
  | [], v => some v
  | token :: rest, .obj fields => (fields.lookup (.text token)).bind (walk? rest)
  | token :: rest, .list items => (index? token).bind fun i => (items[i]?).bind (walk? rest)
  | _ :: _, _ => none

theorem index?_intText (i : Nat) : index? (intText i) = some i := by
  have digits := Scalar.isDigits_iff.2 (Scalar.isDigits_toDigits i)
  rw [index?, intText_natCast, String.toList_ofList, if_pos digits]
  exact congrArg some (Nat.ofDigitChars_toDigits (by decide) (by decide))

end Pointer

namespace Schema

/-- In JSON data, steps that lead to a part are walked as texts. -/
theorem Locates.walk?_eq {data found : Value} {path : List Step} (json : data.isJson = true)
    (located : Locates data path found) : Pointer.walk? (path.map Pointer.stepText) data = some found := by
  induction located with
  | here v => rfl
  | @item items i part target path given _ ih =>
    have inner := ih (Value.areJson_iff.1 json _ (List.mem_of_getElem? given))
    rw [List.map_cons, Pointer.stepText, Pointer.walk?, Pointer.index?_intText]
    simp only [Option.bind_some, given, inner]
  | entry member names _ ih =>
    obtain ⟨distinct, parts⟩ := Value.isJson_object.1 json
    obtain ⟨⟨key, text⟩, inner⟩ := parts _ member
    dsimp only at text inner
    subst text
    obtain rfl := name_of_text names
    rw [List.map_cons, keyStep, Pointer.stepText, Pointer.walk?, Entries.lookup_eq_some_of_mem distinct member]
    exact ih inner

/-- Whether a cause, if it is a type or a missing property, is told of a value. -/
def Cause.IsOf : Cause → Value → Prop
  | .type _ value, found => value = found
  | .required name names value, found => value = found ∧ IsObject found ∧
    ∃ members, names.members = .ok members ∧ name ∈ members ∧ found.holds name = .ok false
  | _, _ => True

theorem Cause.isOf_of_isOther {cause : Cause} (other : cause.isOther = true) (found : Value) : cause.IsOf found := by
  cases cause with
  | type | required => cases other
  | _ => trivial

/-- Whether a violation is told of the value that its path leads to. -/
def Violation.IsLocated (data : Value) (v : Violation) : Prop := ∃ found, Locates data v.path found ∧ v.cause.IsOf found

theorem isLocated_local : IsLocal Violation.IsLocated where
  part inside := fun ⟨found, located, told⟩ => ⟨found, inside located, told⟩
  type _ data := ⟨data, .here data, rfl⟩
  required absent given member := ⟨_, .here _, rfl, ⟨_, rfl⟩, _, given, member, absent⟩
  other data plain := ⟨data, .here data, Cause.isOf_of_isOther plain data⟩

/-- What a violation is told of in any dialect: the value that its path leads to, a key of the object
there, or an object one step outside that lacks a property which marks itself required. -/
inductive Violation.IsPlaced (data : Value) : Violation → Prop where
  | value {v : Violation} : v.IsLocated data → IsPlaced data v
  | key {v : Violation} {fields : List (Atom × Value)} {f : Atom × Value} : Locates data v.path (.obj fields) →
    f ∈ fields → v.cause.IsOf (.atom f.1) → IsPlaced data v
  | mark {path : List Step} {fields : List (Atom × Value)} {name : Atom} {mark : Value} :
    Locates data path (.obj fields) → entryOf? fields name = none →
      IsPlaced data ⟨path ++ [.key "required"], .required (.atom name) mark (.obj fields)⟩

theorem isPlaced_local : IsLocal Violation.IsPlaced where
  part inside placed := by
    cases placed with
    | value located => exact .value (isLocated_local.part inside located)
    | key located member told => exact .key (inside located) member told
    | mark located absent => exact .mark (inside located) absent
  type expected data := .value (isLocated_local.type expected data)
  required absent given member := .value (isLocated_local.required absent given member)
  other data plain := .value (isLocated_local.other data plain)

theorem check_isPlaced (schema data : Value) : (Schema.check schema data).All (Violation.IsPlaced data) := by
  refine check_all isPlaced_local (fun {_ _ v} member placed => ?_) (fun absent _ => .mark (.here _) absent) schema data
  -- no step leads into a key, so what is told of it is told where its object is
  obtain ⟨path, cause⟩ := v
  cases placed with
  | value located =>
    obtain ⟨found, located, told⟩ := located
    cases located
    exact .key (.here _) member told
  | key located => cases located
  | mark located => cases located

end Schema

namespace Body

/-- Every issue is told of a violation. -/
theorem violation_of_issuesAfter {violations : List Violation} : ∀ {reported : List String} {issues : List Issue},
    issuesAfter reported violations = .ok issues → ∀ issue ∈ issues, ∃ v ∈ violations, issueOf v = .ok issue := by
  induction violations with
  | nil =>
    rintro reported issues ⟨⟩ issue member
    cases member
  | cons v rest ih =>
    intro reported issues ok issue member
    obtain ⟨-, -, ok⟩ | ⟨told, others, here, rfl, below⟩ := issuesAfter_cons ok
    · obtain ⟨v', inside, told⟩ := ih ok issue member
      exact ⟨v', List.mem_cons_of_mem _ inside, told⟩
    · rcases List.mem_cons.1 member with rfl | later
      · exact ⟨v, List.mem_cons_self, here⟩
      · obtain ⟨v', inside, told⟩ := ih below issue later
        exact ⟨v', List.mem_cons_of_mem _ inside, told⟩

/-- Whether the message of an issue, told of a violation, is right about a value: it says the type of
the value where it is about a type, and where it is about missing properties it names such as the
value lacks. -/
structure Describes (issue : Issue) (v : Violation) (found : Value) : Prop where
  type : ∀ expected value, v.cause = .type expected value →
    ∃ names, issue.message = "Type mismatch. Expected " ++ names ++ " but got " ++ found.kindName ++ "."
  required : ∀ name names value, v.cause = .required name names value → IsObject found ∧
    ∃ lacking, missingMessage lacking = .ok issue.message ∧ name ∈ lacking ∧ ∀ n ∈ lacking, found.holds n = .ok false

theorem describes {issue : Issue} {v : Violation} {found : Value} (told : issueOf v = .ok issue)
    (isOf : v.cause.IsOf found) : Describes issue v found := by
  obtain ⟨path, cause⟩ := v
  obtain ⟨message, worded, same⟩ := bind_eq_ok.1 told
  cases same
  refine ⟨?_, ?_⟩
  · rintro expected value rfl
    cases isOf
    obtain ⟨types, -, worded⟩ := bind_eq_ok.1 worded
    obtain ⟨titles, -, worded⟩ := bind_eq_ok.1 worded
    cases worded
    exact ⟨_, rfl⟩
  · rintro name names value rfl
    obtain ⟨rfl, object, members, given, member, absent⟩ := isOf
    obtain ⟨_, given', worded⟩ := bind_eq_ok.1 worded
    cases given.symm.trans given'
    obtain ⟨lacking, lacks, worded⟩ := bind_eq_ok.1 worded
    have exactly := mem_missingNames lacks
    exact ⟨object, lacking, worded, (exactly name).2 ⟨member, absent⟩, fun n named => ((exactly n).1 named).2⟩

end Body
end SwaggerGate
