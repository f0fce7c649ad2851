import SwaggerGate.Proofs.Parameters
import SwaggerGate.Proofs.Scalar

/-! Parameters that come to no outcome. Numbers are converted from texts and to them up to a
number of digits, and structures are written up to a depth; a value beyond that ends the
validation of parameters in a fault, and nothing else does. -/
namespace SwaggerGate

/-! ### Integer texts of too many digits -/

namespace Scalar

/-- Whether a text is a sign, or none, and more digits than are converted. -/
def IsOverlong (text : String) : Prop :=
  ∃ sign digits, text.toList = sign ++ digits ∧ (sign = [] ∨ sign = ['-'] ∨ sign = ['+']) ∧
    digits.all Text.isAsciiDigit = true ∧ Text.maxIntegerDigits < digits.length

theorem readInteger_eq_tooLong {text : String} : readInteger text = .tooLong ↔ IsOverlong text := by
  constructor
  · intro read
    obtain ⟨n, integer⟩ := exists_isInteger fun none_ => nomatch read.symm.trans none_
    rw [integer.readInteger_eq] at read
    split at read
    next long =>
      unfold IsOverlong
      generalize text.toList = cs at integer long
      obtain ⟨signed, digits⟩ := integer
      rw [countP_append signed digits] at long
      exact ⟨_, _, rfl, isSign_iff.1 ⟨_, signed⟩, digits.all, long⟩
    next => cases read
  · rintro ⟨sign, digits, split, signs, decimal, long⟩
    obtain ⟨negative, signed⟩ := isSign_iff.2 signs
    have some_ : digits ≠ [] := by
      rintro rfl
      cases long
    have digits_ : IsDigits digits := ⟨some_, fun c member => Text.isAsciiDigit_iff.1 (List.all_eq_true.1 decimal c member)⟩
    have integer := IsInteger.parts signed digits_
    rw [← split] at integer
    rw [integer.readInteger_eq, split, countP_append signed digits_, if_pos long]

end Scalar

namespace Parameters

/-! ### Values that are not written -/

/-- Whether a value is an integer of more digits than are written. -/
def IsUnwritable (v : Value) : Prop := ∃ n, v = .int n ∧ (Atom.int n).isShowable = false

theorem scalarText?_eq_error {v : Value} {fault : Fault} :
    scalarText? v = .error fault ↔ IsUnwritable v ∧ fault = .longInteger := by
  constructor
  · intro failed
    cases v with
    | atom a =>
      cases a with
      | int n =>
        rw [scalarText?] at failed
        split at failed
        next => cases failed
        next long =>
          cases failed
          exact ⟨⟨n, rfl, Bool.eq_false_iff.2 long⟩, rfl⟩
      | _ => cases failed
    | _ => cases failed
  · rintro ⟨⟨n, rfl, long⟩, rfl⟩
    rw [scalarText?, if_neg (Bool.eq_false_iff.1 long)]

/-- Whether an enumeration has a member that is not written before any member with a text. -/
def StopsBefore (members : List Value) (text : String) : Prop :=
  ∃ front v back, members = front ++ v :: back ∧ (∀ m ∈ front, scalarText? m ≠ .ok (some text)) ∧ IsUnwritable v

theorem not_stopsBefore_nil {text : String} : ¬ StopsBefore [] text := by
  rintro ⟨front, v, back, split, -⟩
  exact absurd split (by simp)

theorem stopsBefore_cons {member : Value} {rest : List Value} {text : String} :
    StopsBefore (member :: rest) text ↔
      IsUnwritable member ∨ scalarText? member ≠ .ok (some text) ∧ StopsBefore rest text := by
  constructor
  · rintro ⟨front, v, back, split, others, unwritable⟩
    cases front with
    | nil =>
      cases split
      exact .inl unwritable
    | cons first front =>
      cases split
      exact .inr ⟨others member List.mem_cons_self, front, v, back, rfl,
        fun m inside => others m (List.mem_cons_of_mem _ inside), unwritable⟩
  · rintro (unwritable | ⟨other, front, v, back, rfl, others, unwritable⟩)
    · exact ⟨[], member, rest, rfl, nofun, unwritable⟩
    · exact ⟨member :: front, v, back, rfl, List.forall_mem_cons.2 ⟨other, others⟩, unwritable⟩

theorem isMemberText_eq_error {text : String} {members : List Value} {fault : Fault} :
    isMemberText text members = .error fault ↔ StopsBefore members text ∧ fault = .longInteger := by
  induction members with
  | nil => simp [isMemberText, not_stopsBefore_nil]
  | cons member rest ih =>
    rw [isMemberText, stopsBefore_cons]
    cases written : scalarText? member with
    | error other =>
      obtain ⟨unwritable, rfl⟩ := scalarText?_eq_error.1 written
      simp [unwritable, bind, Except.bind, eq_comm]
    | ok found =>
      have writable : ¬ IsUnwritable member := fun unwritable => by
        rw [scalarText?_eq_error.2 ⟨unwritable, rfl⟩] at written
        cases written
      by_cases same : found = some text
      · simp [same, writable, bind, Except.bind, pure, Except.pure]
      · simp [same, writable, bind, Except.bind, ih]

theorem enumHolds_eq_error {enum : Option (List Value)} {text : Option String} {fault : Fault} :
    enumHolds enum text = .error fault ↔
      (∃ members s, enum = some members ∧ text = some s ∧ StopsBefore members s) ∧ fault = .longInteger := by
  unfold enumHolds
  split
  · simp
  · simp
  · simp [isMemberText_eq_error]

/-- Only a structure has no text of its own, and is written as a whole. -/
theorem enumIssue_eq_error {name : String} {text : Option String} {value : Value} {fault : Fault} :
    enumIssue name text value = .error fault ↔ text = none ∧
      (value.isShowable = false ∧ fault = .longInteger ∨
        value.isShowable = true ∧ Json.writingLimit < value.depth ∧ fault = .endless) := by
  unfold enumIssue shownText
  cases text with
  | some s => simp [bind, Except.bind, pure, Except.pure]
  | none =>
    by_cases written : value.isShowable = true
    · by_cases deep : Json.writingLimit < value.depth
      · simp [written, deep, bind, Except.bind, eq_comm]
      · simp [written, deep, bind, Except.bind, pure, Except.pure]
    · simp [written, bind, Except.bind, eq_comm]

theorem scalarIssue?_eq_error {name : String} {type : ParamType} {text : Option String} {fault : Fault} :
    scalarIssue? name type text = .error fault ↔
      type = .integer ∧ (∃ s, text = some s ∧ Scalar.IsOverlong s) ∧ fault = .longInteger := by
  unfold scalarIssue?
  cases type with
  | integer =>
    cases text with
    | none => simp
    | some s => cases read : Scalar.readInteger s <;> simp [read, ← Scalar.readInteger_eq_tooLong, eq_comm]
  | number => cases text.bind Scalar.number? <;> simp
  | boolean => cases text.bind Scalar.boolean? <;> simp
  | _ => simp

theorem firstIssue_eq_error {α : Type} {check : α → Except Fault (Option Issue)} {l : List α} {fault : Fault} :
    firstIssue check l = .error fault ↔
      ∃ front x back, l = front ++ x :: back ∧ (∀ u ∈ front, check u = .ok none) ∧ check x = .error fault :=
  firstIssue_eq_iff nofun

/-! ### The steps of a check -/

/-- Whether a value has a text, or none as a structure, that an enumeration lets through. -/
def Admits (enum : Option (List Value)) (value : Value) (text : Option String) : Prop :=
  scalarText? value = .ok text ∧ enumHolds enum text = .ok true

section Check

variable {name : String} {d : Items} {value : Value} {text : Option String}

theorem check_eq (name : String) (d : Items) (value : Value) : check name d value =
    (do
      let text ← scalarText? value
      if !(← enumHolds d.enum text) then return some (← enumIssue name text value)
      match d.type, d.items with
        | .array, some inner => firstIssue (check name inner) (elements d.collectionFormat value text)
        | .array, none => firstIssue anyIssue? (elements d.collectionFormat value text)
        | _, _ => scalarIssue? name d.type text) := by
  cases d
  exact check.eq_1 ..

theorem check_of_unwritten {fault : Fault} (unwritten : scalarText? value = .error fault) :
    check name d value = .error fault := by
  rw [check_eq, unwritten]
  rfl

theorem check_of_stopped {fault : Fault} (written : scalarText? value = .ok text)
    (stopped : enumHolds d.enum text = .error fault) : check name d value = .error fault := by
  rw [check_eq, written]
  simp only [bind, Except.bind, stopped]

theorem check_of_refused (written : scalarText? value = .ok text) (refused : enumHolds d.enum text = .ok false) :
    check name d value = (enumIssue name text value).map some := by
  rw [check_eq, written]
  simp only [bind, Except.bind, refused]
  rfl

theorem check_of_admitted (admits : Admits d.enum value text) : check name d value =
    match d.type, d.items with
    | .array, some inner => firstIssue (check name inner) (elements d.collectionFormat value text)
    | .array, none => firstIssue anyIssue? (elements d.collectionFormat value text)
    | _, _ => scalarIssue? name d.type text := by
  rw [check_eq, admits.1]
  simp only [bind, Except.bind, admits.2]
  rfl

/-- A check that ends has the text of its value, and has looked it up in the enumeration. -/
theorem exists_text_of_check {found : Option Issue} (ends : check name d value = .ok found) :
    ∃ text, scalarText? value = .ok text ∧ (enumHolds d.enum text = .ok false ∨ Admits d.enum value text) := by
  rw [check_eq] at ends
  obtain ⟨text, written, ends⟩ := bind_eq_ok.1 ends
  obtain ⟨holds, looked, -⟩ := bind_eq_ok.1 ends
  refine ⟨text, written, ?_⟩
  cases holds with
  | false => exact .inl looked
  | true => exact .inr ⟨written, looked⟩

theorem check_of_array {inner : Items} (admits : Admits d.enum value text) (type : d.type = .array)
    (given : d.items = some inner) :
    check name d value = firstIssue (check name inner) (elements d.collectionFormat value text) := by
  rw [check_of_admitted admits, type, given]

theorem check_of_bare (admits : Admits d.enum value text) (type : d.type = .array) (given : d.items = none) :
    check name d value = firstIssue anyIssue? (elements d.collectionFormat value text) := by
  rw [check_of_admitted admits, type, given]

theorem check_of_scalar (admits : Admits d.enum value text) (type : d.type ≠ .array) :
    check name d value = scalarIssue? name d.type text := by
  rw [check_of_admitted admits]
  split
  next array _ => exact absurd array type
  next array _ => exact absurd array type
  next => rfl

/-- The descriptor of the elements of an array: strings, if it has none. -/
def elementOf (d : Items) : Items := d.items.getD {}

theorem check_of_elements (admits : Admits d.enum value text) (type : d.type = .array) :
    check name d value = firstIssue (check name (elementOf d)) (elements d.collectionFormat value text) := by
  cases given : d.items with
  | some inner => rw [check_of_array admits type given, elementOf, given, Option.getD_some]
  | none =>
    -- a string passes with any text, as an element without a descriptor does
    have bare : check name {} = anyIssue? := by
      funext v
      cases written : scalarText? v <;> rw [check_eq, anyIssue?, written] <;> rfl
    rw [check_of_bare admits type given, elementOf, given, Option.getD_none, bare]

end Check

/-! ### Checks that end in a fault -/

/-- What ends the check of a value against a descriptor in a fault. -/
inductive Breaks (name : String) : Items → Value → Fault → Prop where
  /-- The value itself is not written. -/
  | value {items value} : IsUnwritable value → Breaks name items value .longInteger
  /-- A member that is not written stands before all members with the text of the value. -/
  | member {items value text members} : scalarText? value = .ok (some text) → items.enum = some members →
      StopsBefore members text → Breaks name items value .longInteger
  /-- A structure, which no enumeration lets through, has an integer in it that is not written. -/
  | inside {items value members} : scalarText? value = .ok none → items.enum = some members →
      value.isShowable = false → Breaks name items value .longInteger
  /-- Such a structure nests more deeply than structures are written. -/
  | deep {items value members} : scalarText? value = .ok none → items.enum = some members →
      value.isShowable = true → Json.writingLimit < value.depth → Breaks name items value .endless
  /-- The text is to be an integer, and is one of too many digits. -/
  | digits {items value text} : Admits items.enum value (some text) → items.type = .integer →
      Scalar.IsOverlong text → Breaks name items value .longInteger
  /-- The check of an element does, and all elements before it pass. -/
  | element {items inner value text front v back fault} : Admits items.enum value text →
      items.type = .array → items.items = some inner →
      elements items.collectionFormat value text = front ++ v :: back →
      (∀ u ∈ front, check name inner u = .ok none) → Breaks name inner v fault → Breaks name items value fault
  /-- An element that is checked against nothing is not written. -/
  | bare {items value text v} : Admits items.enum value text → items.type = .array → items.items = none →
      v ∈ elements items.collectionFormat value text → IsUnwritable v → Breaks name items value .longInteger

/-- Where elements are checked against nothing, the first that is not written ends the check. -/
theorem firstIssue_anyIssue?_eq_error {l : List Value} {fault : Fault} :
    firstIssue anyIssue? l = .error fault ↔ (∃ v ∈ l, IsUnwritable v) ∧ fault = .longInteger := by
  induction l with
  | nil => simp [firstIssue]
  | cons v rest ih =>
    cases written : scalarText? v with
    | error other =>
      obtain ⟨unwritable, rfl⟩ := scalarText?_eq_error.1 written
      simp [firstIssue, anyIssue?, written, Except.map, unwritable, eq_comm]
    | ok text =>
      have writable : ¬ IsUnwritable v := by
        intro unwritable
        rw [scalarText?_eq_error.2 ⟨unwritable, rfl⟩] at written
        cases written
      simp [firstIssue, anyIssue?, written, Except.map, writable, ih]

theorem Breaks.check_eq_error {name : String} {d : Items} {value : Value} {fault : Fault}
    (breaks : Breaks name d value fault) : check name d value = .error fault := by
  induction breaks with
  | value unwritable => exact check_of_unwritten (scalarText?_eq_error.2 ⟨unwritable, rfl⟩)
  | member written given stops =>
    exact check_of_stopped written (enumHolds_eq_error.2 ⟨⟨_, _, given, rfl, stops⟩, rfl⟩)
  | inside written given hidden =>
    rw [check_of_refused written (by rw [given, enumHolds]), enumIssue_eq_error.2 ⟨rfl, .inl ⟨hidden, rfl⟩⟩]
    rfl
  | deep written given shown deep =>
    rw [check_of_refused written (by rw [given, enumHolds]), enumIssue_eq_error.2 ⟨rfl, .inr ⟨shown, deep, rfl⟩⟩]
    rfl
  | digits admits type overlong =>
    rw [check_of_scalar admits (by simp [type])]
    exact scalarIssue?_eq_error.2 ⟨type, ⟨_, rfl, overlong⟩, rfl⟩
  | element admits type given split passed _ ih =>
    rw [check_of_array admits type given]
    exact firstIssue_eq_error.2 ⟨_, _, _, split, passed, ih⟩
  | bare admits type given inside unwritable =>
    rw [check_of_bare admits type given]
    exact firstIssue_anyIssue?_eq_error.2 ⟨⟨_, inside, unwritable⟩, rfl⟩

theorem breaks_of_check (name : String) : ∀ (d : Items) (value : Value) {fault : Fault},
    check name d value = .error fault → Breaks name d value fault
  | ⟨type, enum, items, format, extra⟩, value, fault, failed => by
    have inner : ∀ inner, items = some inner → ∀ v fault, check name inner v = .error fault → Breaks name inner v fault := by
      rintro inner rfl v fault
      exact breaks_of_check name inner v
    cases written : scalarText? value with
    | error other =>
      obtain ⟨unwritable, rfl⟩ := scalarText?_eq_error.1 written
      cases (check_of_unwritten written).symm.trans failed
      exact .value unwritable
    | ok text =>
      cases holds : enumHolds enum text with
      | error other =>
        obtain ⟨⟨members, s, given, rfl, stops⟩, rfl⟩ := enumHolds_eq_error.1 holds
        cases (check_of_stopped written holds).symm.trans failed
        exact .member written given stops
      | ok holds' =>
        cases holds' with
        | false =>
          obtain ⟨members, rfl⟩ : ∃ members, enum = some members := by
            cases enum with
            | none => cases holds
            | some members => exact ⟨members, rfl⟩
          rw [check_of_refused written holds] at failed
          obtain ⟨rfl, ⟨hidden, rfl⟩ | ⟨shown, deep, rfl⟩⟩ := enumIssue_eq_error.1 (map_eq_error.1 failed)
          · exact .inside written rfl hidden
          · exact .deep written rfl shown deep
        | true =>
          have admits : Admits enum value text := ⟨written, holds⟩
          by_cases array : type = .array
          · cases items with
            | some item =>
              rw [check_of_array admits array rfl] at failed
              obtain ⟨front, v, back, split, passed, stops⟩ := firstIssue_eq_error.1 failed
              exact .element admits array rfl split passed (inner item rfl v fault stops)
            | none =>
              rw [check_of_bare admits array rfl] at failed
              obtain ⟨⟨v, inside, unwritable⟩, rfl⟩ := firstIssue_anyIssue?_eq_error.1 failed
              exact .bare admits array rfl inside unwritable
          · rw [check_of_scalar admits array] at failed
            obtain ⟨integer, ⟨s, rfl, overlong⟩, rfl⟩ := scalarIssue?_eq_error.1 failed
            exact .digits admits integer overlong

/-- What ends the validation of parameters in a fault: the check of one with a value does, and
all parameters before it pass. -/
def BreaksOff (parameters : List Parameter) (params : List (Atom × Value)) (fault : Fault) : Prop :=
  ∃ front p back d value, parameters = front ++ p :: back ∧ (∀ q ∈ front, parameterIssue? params q = .ok none) ∧
    descriptor? p = some d ∧ Query.lookup? params p.name = some value ∧ Breaks p.name d value fault

theorem parameterIssue?_eq_error {params : List (Atom × Value)} {p : Parameter} {fault : Fault} :
    parameterIssue? params p = .error fault ↔
      ∃ d value, descriptor? p = some d ∧ Query.lookup? params p.name = some value ∧ Breaks p.name d value fault := by
  unfold parameterIssue?
  cases descriptor? p with
  | none => simp
  | some d =>
    cases Query.lookup? params p.name with
    | none => simp
    | some value =>
      simp only [Option.some.injEq, exists_eq_left', ↓existsAndEq, true_and]
      exact ⟨breaks_of_check p.name d value, Breaks.check_eq_error⟩

theorem validate_eq_error {parameters : List Parameter} {params : List (Atom × Value)} {fault : Fault} :
    validate parameters params = .error fault ↔ BreaksOff parameters params fault := by
  rw [validate, map_eq_error, firstIssue_eq_error]
  constructor
  · rintro ⟨front, p, back, split, passed, stops⟩
    obtain ⟨d, value, declared, found, breaks⟩ := parameterIssue?_eq_error.1 stops
    exact ⟨front, p, back, d, value, split, passed, declared, found, breaks⟩
  · rintro ⟨front, p, back, d, value, split, passed, declared, found, breaks⟩
    exact ⟨front, p, back, split, passed, parameterIssue?_eq_error.2 ⟨d, value, declared, found, breaks⟩⟩

/-- Parameters are accepted or told one issue, whatever they declare and whatever they hold,
unless a number has too many digits to be converted or a structure is too deep to be written
where the validation comes to it. -/
theorem validate_outcome_unless_breaks (parameters : List Parameter) (params : List (Atom × Value)) :
    (∀ text, Scalar.readInteger text = .tooLong ↔ Scalar.IsOverlong text) ∧
    (∀ name d value fault, check name d value = .error fault ↔ Breaks name d value fault) ∧
    (∀ fault, validate parameters params = .error fault ↔ BreaksOff parameters params fault) ∧
    ((∀ fault, ¬ BreaksOff parameters params fault) →
      validate parameters params = .ok .ok ∨ ∃ issue, validate parameters params = .ok (.invalid issue)) := by
  refine ⟨fun _ => Scalar.readInteger_eq_tooLong,
    fun name d value fault => ⟨breaks_of_check name d value, Breaks.check_eq_error⟩,
    fun _ => validate_eq_error, fun steady => ?_⟩
  cases found : firstIssue (parameterIssue? params) parameters with
  | error fault =>
    have failed : validate parameters params = .error fault := by rw [validate, found]; rfl
    exact absurd (validate_eq_error.1 failed) (steady fault)
  | ok issue =>
    rw [validate, found]
    cases issue with
    | none => exact .inl rfl
    | some issue => exact .inr ⟨issue, rfl⟩

/-- Whatever text of too many digits stands for an integer in the query, a description that
requires one there is compiled to an operation whose validation ends in a fault. -/
theorem exists_fault_of_overlong {text : String} (overlong : Scalar.IsOverlong text) :
    ∃ registry o, Source.registry ⟨fun _ => none⟩
        [.data (Validation.requiring "/x" [("type", .text "integer")])] = .ok registry ∧
      o ∈ registry.operations ∧ validate o.parameters [(.text "q", .text text)] = .error .longInteger := by
  have compiled : (Source.registry ⟨fun _ => none⟩
        [.data (Validation.requiring "/x" [("type", .text "integer")])]).toOption.any (fun registry =>
      registry.operations.any fun o => o.parameters.length == 1 && o.parameters.any fun p =>
        p.name == "q" && (descriptor? p).any fun d => d.type == .integer && d.enum.isNone) = true := by
    decide +kernel
  obtain ⟨registry, compiled, found⟩ := any_toOption_eq_true.1 compiled
  obtain ⟨o, member, found⟩ := List.any_eq_true.1 found
  obtain ⟨alone, found⟩ := Bool.and_eq_true_iff.1 found
  obtain ⟨p, single⟩ := List.length_eq_one_iff.1 (eq_of_beq alone)
  refine ⟨registry, o, compiled, member, ?_⟩
  rw [single, List.any_cons, List.any_nil, Bool.or_false] at found
  obtain ⟨name, found⟩ := Bool.and_eq_true_iff.1 found
  obtain ⟨d, declared, found⟩ := (Option.any_eq_true _ _).1 found
  obtain ⟨type, free⟩ := Bool.and_eq_true_iff.1 found
  have admits : Admits d.enum (.text text) (some text) := by
    rw [Option.isNone_iff_eq_none.1 free]
    exact ⟨rfl, rfl⟩
  have value : Query.lookup? [(.text "q", .text text)] p.name = some (.text text) := by
    rw [eq_of_beq name, Query.lookup?_of_plain (by decide) (by decide), Entries.lookup_cons_if, if_pos rfl]
    simp
  exact validate_eq_error.2
    ⟨[], p, [], d, _, single, by simp, declared, value, .digits admits (eq_of_beq type) overlong⟩

/-- The text of a number of ones. -/
def ones (n : Nat) : String := String.ofList (List.replicate n '1')

theorem isOverlong_ones {n : Nat} (many : Text.maxIntegerDigits < n) : Scalar.IsOverlong (ones n) := by
  refine ⟨[], List.replicate n '1', String.toList_ofList, .inl rfl, ?_, by rwa [List.length_replicate]⟩
  rw [List.all_eq_true]
  intro c inside
  rw [List.eq_of_mem_replicate inside]
  decide

/-- An integer of one digit too many is read as none and told no mismatch. -/
theorem fault_of_ones :
    Scalar.readInteger (ones 4301) = .tooLong ∧
      ∃ registry o, Source.registry ⟨fun _ => none⟩
          [.data (Validation.requiring "/x" [("type", .text "integer")])] = .ok registry ∧
        o ∈ registry.operations ∧ validate o.parameters [(.text "q", .text (ones 4301))] = .error .longInteger :=
  have overlong : Scalar.IsOverlong (ones 4301) := isOverlong_ones (by decide)
  ⟨Scalar.readInteger_eq_tooLong.2 overlong, exists_fault_of_overlong overlong⟩

end Parameters
end SwaggerGate
