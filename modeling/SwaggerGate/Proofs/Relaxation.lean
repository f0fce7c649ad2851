import SwaggerGate.Proofs.Overlong

/-! Relaxed descriptors. A descriptor whose types are wider and whose enumerations are longer, or
dropped, refuses no value that the descriptor before let through; it comes to no outcome at most
where an enumeration has been given an integer that is not written. -/
namespace SwaggerGate

namespace Parameters

/-- Whether every text of a type is one of another. -/
def Below (type wider : ParamType) : Prop := type = wider ∨ wider = .string ∨ type = .integer ∧ wider = .number

/-- Whether an enumeration is dropped, or becomes another as a relation says. -/
inductive EnumRelaxed (R : List Value → List Value → Prop) : Option (List Value) → Option (List Value) → Prop where
  | dropped (enum : Option (List Value)) : EnumRelaxed R enum none
  | extended {members more : List Value} : R members more → EnumRelaxed R (some members) (some more)

/-- Whether a descriptor becomes another as types are widened and enumerations relaxed at each
level, elements without a descriptor being strings. An array that stays one keeps its format. -/
inductive Relaxed (R : List Value → List Value → Prop) : Items → Items → Prop where
  | scalar {d wider : Items} : Below d.type wider.type → wider.type ≠ .array → EnumRelaxed R d.enum wider.enum →
      Relaxed R d wider
  | array {d wider : Items} : d.type = .array → wider.type = .array → EnumRelaxed R d.enum wider.enum →
      d.collectionFormat = wider.collectionFormat → Relaxed R (elementOf d) (elementOf wider) → Relaxed R d wider

/-- Whether an enumeration at some level of a descriptor has a property. -/
inductive SomeEnum (P : List Value → Prop) : Items → Prop where
  | here {d : Items} {members : List Value} : d.enum = some members → P members → SomeEnum P d
  | inside {d : Items} : d.type = .array → SomeEnum P (elementOf d) → SomeEnum P d

/-! ### Members of enumerations -/

section Members

variable {text : String} {members more : List Value}

theorem isMemberText_cons (text : String) (first : Value) (rest : List Value) :
    isMemberText text (first :: rest) =
      (scalarText? first).bind fun found => if found = some text then .ok true else isMemberText text rest := by
  rw [isMemberText]
  cases scalarText? first <;> simp [bind, Except.bind, pure, Except.pure]

theorem exists_mem_of_isMemberText (listed : isMemberText text members = .ok true) :
    ∃ m ∈ members, scalarText? m = .ok (some text) := by
  induction members with
  | nil => cases listed
  | cons first rest ih =>
    rw [isMemberText_cons] at listed
    obtain ⟨found, written, listed⟩ := bind_eq_ok.1 listed
    split at listed
    next same => exact ⟨first, List.mem_cons_self, same ▸ written⟩
    next =>
      obtain ⟨m, member, written⟩ := ih listed
      exact ⟨m, List.mem_cons_of_mem _ member, written⟩

/-- A member with a text is found, unless one that is not written is met before. -/
theorem isMemberText_of_written {m : Value} (written : scalarText? m = .ok (some text)) (member : m ∈ members) :
    isMemberText text members = .ok true ∨
      isMemberText text members = .error .longInteger ∧ ∃ v ∈ members, IsUnwritable v := by
  induction members with
  | nil => cases member
  | cons first rest ih =>
    rw [isMemberText_cons]
    cases found : scalarText? first with
    | error fault =>
      obtain ⟨unwritable, rfl⟩ := scalarText?_eq_error.1 found
      exact .inr ⟨rfl, first, List.mem_cons_self, unwritable⟩
    | ok other =>
      by_cases same : other = some text
      · exact .inl (by rw [same]; simp [Except.bind])
      · have later : m ∈ rest := by
          refine (List.mem_cons.1 member).resolve_left ?_
          rintro rfl
          exact same (Except.ok.inj (found.symm.trans written))
        simp only [Except.bind, if_neg same]
        exact (ih later).imp_right fun ⟨failed, v, inside, unwritable⟩ =>
          ⟨failed, v, List.mem_cons_of_mem _ inside, unwritable⟩

/-- What stands behind a member that is found is not looked at. -/
theorem isMemberText_append (listed : isMemberText text members = .ok true) (behind : List Value) :
    isMemberText text (members ++ behind) = .ok true := by
  induction members with
  | nil => cases listed
  | cons first rest ih =>
    rw [isMemberText_cons] at listed
    obtain ⟨found, written, listed⟩ := bind_eq_ok.1 listed
    rw [List.cons_append, isMemberText_cons, written]
    split at listed
    next same => simp [Except.bind, same]
    next other => simpa [Except.bind, other] using ih listed

end Members

/-! ### Checks by relaxed descriptors -/

section Check

variable {name : String} {d wider : Items} {value : Value} {text : Option String}

/-- What a value that passes has passed: the enumeration, and then the elements or the type. -/
theorem admits_of_check (accepted : check name d value = .ok none) : ∃ text, Admits d.enum value text ∧
    (d.type = .array → firstIssue (check name (elementOf d)) (elements d.collectionFormat value text) = .ok none) ∧
    (d.type ≠ .array → scalarIssue? name d.type text = .ok none) := by
  cases written : scalarText? value with
  | error fault => cases (check_of_unwritten written).symm.trans accepted
  | ok text =>
    cases holds : enumHolds d.enum text with
    | error fault => cases (check_of_stopped written holds).symm.trans accepted
    | ok passed =>
      cases passed with
      | false =>
        rw [check_of_refused written holds] at accepted
        obtain ⟨issue, -, accepted⟩ := map_eq_ok.1 accepted
        cases accepted
      | true =>
        have admits : Admits d.enum value text := ⟨written, holds⟩
        exact ⟨text, admits, fun type => check_of_elements admits type ▸ accepted,
          fun type => check_of_scalar admits type ▸ accepted⟩

theorem scalarIssue?_of_below {type wider : ParamType} (below : Below type wider) (scalar : wider ≠ .array)
    (passed : type ≠ .array → scalarIssue? name type text = .ok none) : scalarIssue? name wider text = .ok none := by
  rcases below with rfl | rfl | ⟨rfl, rfl⟩
  · exact passed scalar
  · rfl
  · have passed := passed nofun
    cases text with
    | none => cases passed
    | some s =>
      cases read : Scalar.readInteger s with
      | value n =>
        obtain ⟨x, number⟩ := (Scalar.readInteger_eq_value_iff.1 read).1.exists_number?
        simp [scalarIssue?, number]
      | tooLong => simp [scalarIssue?, read] at passed
      | noInteger => simp [scalarIssue?, read] at passed

/-- A search that meets no issue ends in nothing but a fault. -/
theorem firstIssue_none_or_error {α : Type} {check : α → Except Fault (Option Issue)} {fault : Fault} {l : List α}
    (each : ∀ x ∈ l, check x = .ok none ∨ check x = .error fault) :
    firstIssue check l = .ok none ∨ firstIssue check l = .error fault := by
  induction l with
  | nil => exact .inl rfl
  | cons x rest ih =>
    rw [firstIssue_cons]
    rcases each x List.mem_cons_self with passed | failed
    · rw [passed]
      exact ih fun y member => each y (List.mem_cons_of_mem _ member)
    · rw [failed]
      exact .inr rfl

variable {R : List Value → List Value → Prop} {P : List Value → Prop}

/-- Whether texts that are found in an enumeration are found in a related one, unless that has a
property and the search for them stops. -/
def Keeps (R : List Value → List Value → Prop) (P : List Value → Prop) : Prop :=
  ∀ members more text, R members more → isMemberText text members = .ok true →
    isMemberText text more = .ok true ∨ isMemberText text more = .error .longInteger ∧ P more

theorem EnumRelaxed.admits (keeps : Keeps R P) (relaxed : EnumRelaxed R d.enum wider.enum)
    (admits : Admits d.enum value text) :
    Admits wider.enum value text ∨ enumHolds wider.enum text = .error .longInteger ∧ SomeEnum P wider := by
  obtain ⟨written, holds⟩ := admits
  generalize before : d.enum = enum, after : wider.enum = enum' at relaxed holds
  cases relaxed with
  | dropped => exact .inl ⟨written, rfl⟩
  | extended related =>
    cases text with
    | none => cases holds
    | some s =>
      exact (keeps _ _ s related holds).imp (fun found => ⟨written, found⟩)
        fun ⟨stopped, property⟩ => ⟨stopped, .here after property⟩

/-- What a descriptor lets through a relaxed one lets through, or stops at an enumeration. -/
theorem Relaxed.check_of_accepted (keeps : Keeps R P) (relaxed : Relaxed R d wider)
    (accepted : check name d value = .ok none) :
    check name wider value = .ok none ∨ check name wider value = .error .longInteger ∧ SomeEnum P wider := by
  induction relaxed generalizing value with
  | scalar below type enum =>
    obtain ⟨text, admits, -, passed⟩ := admits_of_check accepted
    rcases enum.admits keeps admits with still | ⟨stopped, property⟩
    · rw [check_of_scalar still type]
      exact .inl (scalarIssue?_of_below below type passed)
    · exact .inr ⟨check_of_stopped admits.1 stopped, property⟩
  | @array d wider type wide enum format _ ih =>
    obtain ⟨text, admits, passed, -⟩ := admits_of_check accepted
    rcases enum.admits keeps admits with still | ⟨stopped, property⟩
    · have each : ∀ v ∈ elements wider.collectionFormat value text, check name (elementOf wider) v = .ok none ∨
          check name (elementOf wider) v = .error .longInteger ∧ SomeEnum P (elementOf wider) := fun v inside =>
        ih (firstIssue_of_mem (passed type) v (format ▸ inside))
      rw [check_of_elements still wide]
      by_cases property : SomeEnum P (elementOf wider)
      · exact (firstIssue_none_or_error fun v inside => (each v inside).imp_right And.left).imp_right fun failed =>
          ⟨failed, .inside wide property⟩
      · exact .inl (firstIssue_eq_none fun v inside => (each v inside).resolve_right fun failed => property failed.2)
    · exact .inr ⟨check_of_stopped admits.1 stopped, property⟩

end Check

theorem not_someEnum_false (d : Items) : ¬ SomeEnum (fun _ => False) d := by
  intro found
  induction found with
  | here _ never => exact never
  | inside _ _ ih => exact ih

/-- A value that passes is never refused as its descriptor is relaxed. It passes again where
enumerations are dropped or members added behind the others; where they are added anywhere, it
passes, or the check ends in a fault and an enumeration has an integer that is not written. -/
theorem check_of_relaxed {name : String} {d : Items} {value : Value} (accepted : check name d value = .ok none)
    (wider : Items) :
    (Relaxed (· <+: ·) d wider → check name wider value = .ok none) ∧
    (Relaxed (· ⊆ ·) d wider → check name wider value = .ok none ∨
      check name wider value = .error .longInteger ∧
        SomeEnum (fun members => ∃ m ∈ members, IsUnwritable m) wider) := by
  constructor
  · intro relaxed
    refine (relaxed.check_of_accepted (P := fun _ => False) ?_ accepted).resolve_right fun failed =>
      not_someEnum_false wider failed.2
    rintro members more text ⟨behind, rfl⟩ listed
    exact .inl (isMemberText_append listed behind)
  · intro relaxed
    refine relaxed.check_of_accepted ?_ accepted
    intro members more text subset listed
    obtain ⟨m, member, written⟩ := exists_mem_of_isMemberText listed
    exact isMemberText_of_written written (subset member)

/-- A list of some integers, separated by blanks. -/
def ratings : Items :=
  { type := .array, collectionFormat := "ssv", items := some { type := .integer, enum := some [.int 1, .int 2] } }

/-- The integers become numbers with another one behind, or strings that are restricted no longer. -/
theorem check_of_relaxed_ratings :
    let numbers : Items :=
      { type := .number, enum := some [.int 1, .int 2, .float (Double.ofDecimal false 5 (-1))] }
    let more : Items := { ratings with items := some numbers }
    let free : Items := { ratings with items := none }
    check "q" ratings (.text "2 1") = .ok none ∧
      Relaxed (· <+: ·) ratings more ∧ check "q" more (.text "2 1") = .ok none ∧
      Relaxed (· ⊆ ·) ratings free ∧ (check "q" free (.text "2 1") = .ok none ∨
        check "q" free (.text "2 1") = .error .longInteger ∧
          SomeEnum (fun members => ∃ m ∈ members, IsUnwritable m) free) := by
  intro numbers more free
  have accepted : check "q" ratings (.text "2 1") = .ok none := by decide +kernel
  have longer : Relaxed (· <+: ·) ratings more := by
    refine .array rfl rfl (.dropped _) rfl (.scalar (.inr (.inr ⟨rfl, rfl⟩)) nofun (.extended ?_))
    exact List.prefix_append [Value.int 1, Value.int 2] _
  have wider : Relaxed (· ⊆ ·) ratings free :=
    .array rfl rfl (.dropped _) rfl (.scalar (.inr (.inl rfl)) nofun (.dropped _))
  exact ⟨accepted, longer, (check_of_relaxed accepted more).1 longer, wider, (check_of_relaxed accepted free).2 wider⟩

/-- An integer that is not written, added before the only member, ends the check of its text. -/
theorem relaxed_stops_at_added_member :
    let d : Items := { enum := some [.text "a"] }
    let wider : Items := { enum := some [.int integerBound, .text "a"] }
    Relaxed (· ⊆ ·) d wider ∧ check "q" d (.text "a") = .ok none ∧
      check "q" wider (.text "a") = .error .longInteger := by
  refine ⟨.scalar (.inl rfl) nofun (.extended ?_), by decide, by decide +kernel⟩
  exact List.subset_cons_self _ _

end Parameters
end SwaggerGate
