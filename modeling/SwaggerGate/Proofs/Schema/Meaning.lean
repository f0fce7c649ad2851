import SwaggerGate.Proofs.Schema.Places
import Mathlib.Data.List.Forall2

/-! What schemas of draft 4 mean. The keywords of a schema make demands of data and of its
parts; what a reference leads to is a parameter. An argument of a form that draft 4 does not
give means nothing, and a verdict is one that holds whatever such arguments would mean. -/
namespace SwaggerGate.Schema

/-! ### Open verdicts -/

/-- Whether all of some verdicts are positive: a negative one decides, an open one does not. -/
def allHold (verdicts : List (Option Bool)) : Option Bool :=
  if some false ∈ verdicts then some false else if none ∈ verdicts then none else some true

/-- Whether any of some verdicts is positive. -/
def anyHold (verdicts : List (Option Bool)) : Option Bool :=
  if some true ∈ verdicts then some true else if none ∈ verdicts then none else some false

/-- Whether exactly one of some verdicts is positive. -/
def oneHolds (verdicts : List (Option Bool)) : Option Bool :=
  if 2 ≤ verdicts.count (some true) then some false
  else if none ∈ verdicts then none else some (verdicts.count (some true) == 1)

/-- Whether a verdict, once it is known, is the other one. -/
def Below (a b : Option Bool) : Prop := ∀ verdict, a = some verdict → b = some verdict

theorem Below.refl (a : Option Bool) : Below a a := fun _ h => h

theorem Below.none (a : Option Bool) : Below none a := nofun

theorem Below.trans {a b c : Option Bool} (ab : Below a b) (bc : Below b c) : Below a c :=
  fun verdict h => bc verdict (ab verdict h)

theorem Below.negated {a b : Option Bool} (h : Below a b) : Below (a.map not) (b.map not) := by
  intro verdict known
  obtain ⟨inner, given, rfl⟩ := Option.map_eq_some_iff.1 known
  rw [h inner given]
  rfl

section Lists

variable {l l' : List (Option Bool)}

private theorem mem_of_below {verdict : Bool} (below : List.Forall₂ Below l l') (member : some verdict ∈ l) :
    some verdict ∈ l' := by
  induction below with
  | nil => cases member
  | cons head _ ih =>
    rcases List.mem_cons.1 member with same | later
    · exact List.mem_cons.2 (.inl (head verdict same.symm).symm)
    · exact List.mem_cons_of_mem _ (ih later)

/-- Verdicts that are all known are those above them. -/
private theorem eq_of_below (below : List.Forall₂ Below l l') (known : none ∉ l) : l' = l := by
  induction below with
  | nil => rfl
  | @cons a b rest rest' head _ ih =>
    rw [List.mem_cons, not_or] at known
    rw [ih known.2]
    cases a with
    | none => exact absurd rfl known.1
    | some verdict => rw [head verdict rfl]

private theorem count_of_below (below : List.Forall₂ Below l l') : l.count (some true) ≤ l'.count (some true) := by
  induction below with
  | nil => exact Nat.le_refl _
  | @cons a b rest rest' head _ ih =>
    simp only [List.count_cons]
    by_cases positive : a = some true
    · simp only [positive, head true positive, beq_self_eq_true, if_true]
      omega
    · rw [if_neg (by simpa using positive)]
      omega

theorem allHold_below (below : List.Forall₂ Below l l') : Below (allHold l) (allHold l') := by
  intro verdict h
  unfold allHold at h
  split at h
  next negative =>
    cases h
    rw [allHold, if_pos (mem_of_below below negative)]
  next allowed =>
    split at h
    · cases h
    next known =>
      rw [eq_of_below below known, allHold, if_neg allowed, if_neg known]
      exact h

theorem anyHold_below (below : List.Forall₂ Below l l') : Below (anyHold l) (anyHold l') := by
  intro verdict h
  unfold anyHold at h
  split at h
  next positive =>
    cases h
    rw [anyHold, if_pos (mem_of_below below positive)]
  next allowed =>
    split at h
    · cases h
    next known =>
      rw [eq_of_below below known, anyHold, if_neg allowed, if_neg known]
      exact h

theorem oneHolds_below (below : List.Forall₂ Below l l') : Below (oneHolds l) (oneHolds l') := by
  intro verdict h
  unfold oneHolds at h
  split at h
  next several =>
    cases h
    rw [oneHolds, if_pos (Nat.le_trans several (count_of_below below))]
  next few =>
    split at h
    · cases h
    next known =>
      rw [eq_of_below below known, oneHolds, if_neg few, if_neg known]
      exact h

theorem allHold_eq_true : allHold l = some true ↔ ∀ verdict ∈ l, verdict = some true := by
  unfold allHold
  constructor
  · intro h verdict member
    split at h
    · cases h
    next allowed =>
      split at h
      · cases h
      next known =>
        cases verdict with
        | none => exact absurd member known
        | some b =>
          cases b with
          | true => rfl
          | false => exact absurd member allowed
  · intro each
    rw [if_neg fun member => absurd (each _ member) (by simp), if_neg fun member => absurd (each _ member) (by simp)]

theorem allHold_eq_false : allHold l = some false ↔ some false ∈ l := by
  unfold allHold
  constructor
  · intro h
    split at h
    next negative => exact negative
    · split at h <;> cases h
  · intro negative
    rw [if_pos negative]

end Lists

/-! ### Demands -/

/-- What a keyword demands. -/
inductive Demand where
  /-- What needs no other schema: it is known to hold or not, or means nothing. -/
  | plain (verdict : Option Bool)
  | holds (schema data : Value)
  | any (schemas : List Value) (data : Value)
  | one (schemas : List Value) (data : Value)
  | fails (schema data : Value)
deriving Repr

/-- Whether a demand is met, given a judgement of schemas on data. -/
def Demand.verdict (judge : Value → Value → Option Bool) : Demand → Option Bool
  | .plain verdict => verdict
  | .holds schema data => judge schema data
  | .any schemas data => anyHold (schemas.map fun s => judge s data)
  | .one schemas data => oneHolds (schemas.map fun s => judge s data)
  | .fails schema data => (judge schema data).map not

/-- The demand of an argument that means nothing. -/
def meaningless : List Demand := [.plain none]

/-- Whether an argument is one of keywords that hold no schemas: an atom, or a list of atoms. -/
def isPlain : Value → Bool
  | .atom _ => true
  | .list items => items.all fun
    | .atom _ => true
    | _ => false
  | _ => false

/-- A flag beside a keyword. -/
def flag? (fields : List (Atom × Value)) (name : String) : Option Bool :=
  match argument? fields name with
  | none => some false
  | some (.bool b) => some b
  | some _ => none

/-- Whether a number passes a limit, which the flag of a name makes exclusive. -/
def passes (fields : List (Atom × Value)) (flag : String) (inclusive exclusive : Number → Bool) (argument : Value) :
    Option Bool :=
  (flag? fields flag).bind fun isExclusive =>
    (limitOf argument).toOption.map fun limit => if isExclusive then exclusive limit else inclusive limit

/-- The verdicts of a keyword that holds no schemas. -/
def assertions (fields : List (Atom × Value)) (kind : Keyword) (argument data : Value) : List (Option Bool) :=
  let number (verdict : Number → Option Bool) : List (Option Bool) := (Number.ofValue? data).toList.map verdict
  let atLeast (size : Nat) : List (Option Bool) :=
    [(limitOf argument).toOption.map fun limit => !Number.lt (.int size) limit]
  let atMost (size : Nat) : List (Option Bool) :=
    [(limitOf argument).toOption.map fun limit => !limit.lt (.int size)]
  match kind, data with
  | .type, _ => [(typeNames argument >>= anyHolds (hasNamedType { dialect := .draft4, scope := {} } data)).toOption]
  | .required, .obj _ => match argument.members with
    | .ok names => names.map fun name => (data.holds name).toOption
    | .error _ => [none]
  | .maximum, _ => number fun n => passes fields "exclusiveMaximum" (fun limit => !limit.lt n) (fun limit => !limit.le n) argument
  | .minimum, _ => number fun n => passes fields "exclusiveMinimum" (fun limit => !n.lt limit) (fun limit => !n.le limit) argument
  | .multipleOf, _ => number fun n => (limitOf argument >>= isMultiple n).toOption
  | .maxItems, .list items => atMost items.length
  | .minItems, .list items => atLeast items.length
  | .maxLength, .text s => atMost s.length
  | .minLength, .text s => atLeast s.length
  | .maxProperties, .obj properties => atMost properties.length
  | .minProperties, .obj properties => atLeast properties.length
  | .pattern, .text s => [(patternHolds argument s).toOption]
  | .uniqueItems, .list items => [some (!argument.isTruthy || Value.distinct items)]
  | _, _ => []

/-- One schema for all items, or one for each of the first ones. -/
def itemDemands (argument : Value) (items : List Value) : List Demand :=
  match argument with
  | .obj fields => items.map (.holds (.obj fields))
  | .list schemas => List.zipWith .holds schemas items
  | _ => meaningless

/-- A schema for the items after those that have one of their own, or whether there may be any. -/
def furtherItemDemands (fields : List (Atom × Value)) (argument : Value) (items : List Value) : List Demand :=
  match argument? fields "items" with
  | none | some (.obj _) => []
  | some (.list schemas) => match argument with
    | .obj inner => (items.drop schemas.length).map (.holds (.obj inner))
    | .bool allowed => [.plain (some (allowed || items.length ≤ schemas.length))]
    | _ => meaningless
  | some _ => meaningless

def propertyDemands (argument : Value) (properties : List (Atom × Value)) : List Demand :=
  match argument with
  | .obj schemas => schemas.flatMap fun f => (entryOf? properties f.1).toList.map (.holds f.2)
  | _ => meaningless

def patternDemands (argument : Value) (properties : List (Atom × Value)) : List Demand :=
  match argument with
  | .obj patterns => patterns.flatMap fun f => properties.flatMap fun p =>
    match patternHolds (.atom f.1) (Value.atom p.1).plainText with
    | .ok found => if found then [.holds f.2 p.2] else []
    | .error _ => meaningless
  | _ => meaningless

/-- Whether a keyword that maps names to schemas is given none or an object. -/
def mapsNames (fields : List (Atom × Value)) (name : String) : Bool :=
  match argument? fields name with
  | none | some (.obj _) => true
  | some _ => false

/-- A schema for the properties that no other keyword covers, or whether there may be any. -/
def furtherPropertyDemands (fields : List (Atom × Value)) (argument : Value) (properties : List (Atom × Value)) :
    List Demand :=
  if mapsNames fields "properties" && mapsNames fields "patternProperties" then
    match uncovered fields properties with
    | .error _ => meaningless
    | .ok extras => match argument with
      | .obj inner => extras.map fun p => .holds (.obj inner) p.2
      | .bool allowed => [.plain (some (allowed || extras.isEmpty))]
      | _ => meaningless
  else meaningless

def dependencyDemands (argument : Value) (properties : List (Atom × Value)) : List Demand :=
  match argument with
  | .obj dependencies => dependencies.flatMap fun f =>
    if (entryOf? properties f.1).isSome then
      match f.2 with
      | .list needed => needed.map fun name => .plain ((Value.obj properties).holds name).toOption
      | schema => [.holds schema (.obj properties)]
    else []
  | _ => meaningless

/-- The demands of one keyword. -/
def demands (fields : List (Atom × Value)) (kind : Keyword) (argument data : Value) : List Demand :=
  match kind with
  | .allOf => match argument with
    | .list schemas => schemas.map fun s => .holds s data
    | _ => meaningless
  | .anyOf => match argument with
    | .list schemas => [.any schemas data]
    | _ => meaningless
  | .oneOf => match argument with
    | .list schemas => [.one schemas data]
    | _ => meaningless
  | .not => [.fails argument data]
  | .enum => match argument with
    | .list members => [.plain (some (members.any fun m => m.equal data))]
    | _ => meaningless
  | .items => match data with
    | .list items => itemDemands argument items
    | _ => []
  | .additionalItems => match data with
    | .list items => furtherItemDemands fields argument items
    | _ => []
  | .properties => match data with
    | .obj properties => propertyDemands argument properties
    | _ => []
  | .patternProperties => match data with
    | .obj properties => patternDemands argument properties
    | _ => []
  | .additionalProperties => match data with
    | .obj properties => furtherPropertyDemands fields argument properties
    | _ => []
  | .dependencies => match data with
    | .obj properties => dependencyDemands argument properties
    | _ => []
  | .ref => meaningless
  | kind => if isPlain argument then (assertions fields kind argument data).map .plain else meaningless

/-- The demands of all keywords of a schema. -/
def demandsOf (fields : List (Atom × Value)) (data : Value) : List Demand :=
  fields.flatMap fun f => match keywordOf? .draft4 f.1 with
    | some kind => demands fields kind f.2 data
    | none => []

/-! ### Judgements -/

/-- The verdict on data under a schema, as far as it is known after a number of steps. A
reference means what it leads to, whatever stands beside it. -/
def judge (resolve : String → Option Value) : Nat → Value → Value → Option Bool
  | 0, _, _ => none
  | n + 1, schema, data => match schema with
    | .bool allowed => some allowed
    | .obj fields => match shownRef? fields with
      | some (.text ref) => (resolve ref).bind fun target => judge resolve n target data
      | some _ => none
      | none => allHold ((demandsOf fields data).map (Demand.verdict (judge resolve n)))
    | _ => none

/-- Whether data is valid under a schema. -/
def Accepts (resolve : String → Option Value) (schema data : Value) : Prop :=
  ∃ n, judge resolve n schema data = some true

/-- Whether data is invalid under a schema. -/
def Rejects (resolve : String → Option Value) (schema data : Value) : Prop :=
  ∃ n, judge resolve n schema data = some false

/-- Whether two demands are the same but for their schemas, which are related. -/
inductive Demand.Related (R : Value → Value → Prop) : Demand → Demand → Prop where
  | plain (verdict : Option Bool) : Related R (.plain verdict) (.plain verdict)
  | holds {s c : Value} (data : Value) : R s c → Related R (.holds s data) (.holds c data)
  | any {ss cs : List Value} (data : Value) : List.Forall₂ R ss cs → Related R (.any ss data) (.any cs data)
  | one {ss cs : List Value} (data : Value) : List.Forall₂ R ss cs → Related R (.one ss data) (.one cs data)
  | fails {s c : Value} (data : Value) : R s c → Related R (.fails s data) (.fails c data)

section Related

variable {R : Value → Value → Prop} {first second : Value → Value → Option Bool}

private theorem map_below (below : ∀ s c data, R s c → Below (first s data) (second c data)) {ss cs : List Value}
    (related : List.Forall₂ R ss cs) (data : Value) :
    List.Forall₂ Below (ss.map fun s => first s data) (cs.map fun c => second c data) := by
  rw [List.forall₂_map_left_iff, List.forall₂_map_right_iff]
  exact related.imp fun s c h => below s c data h

/-- What is known of a demand is known of a related one, by judgements that know as much. -/
theorem Demand.Related.below (below : ∀ s c data, R s c → Below (first s data) (second c data)) {d e : Demand}
    (related : Related R d e) : Below (d.verdict first) (e.verdict second) := by
  cases related with
  | plain verdict => exact .refl verdict
  | holds data h => exact below _ _ data h
  | any data each => exact anyHold_below (map_below below each data)
  | one data each => exact oneHolds_below (map_below below each data)
  | fails data h => exact (below _ _ data h).negated

theorem Demand.Related.refl (reflexive : ∀ s, R s s) (d : Demand) : Related R d d := by
  have each (ss : List Value) : List.Forall₂ R ss ss := List.forall₂_same.2 fun s _ => reflexive s
  cases d with
  | plain verdict => exact .plain verdict
  | holds s data => exact .holds data (reflexive s)
  | any ss data => exact .any data (each ss)
  | one ss data => exact .one data (each ss)
  | fails s data => exact .fails data (reflexive s)

theorem Demand.Related.imp {S : Value → Value → Prop} (implies : ∀ s c, R s c → S s c) {d e : Demand}
    (related : Related R d e) : Related S d e := by
  cases related with
  | plain verdict => exact .plain verdict
  | holds data h => exact .holds data (implies _ _ h)
  | any data each => exact .any data (each.imp implies)
  | one data each => exact .one data (each.imp implies)
  | fails data h => exact .fails data (implies _ _ h)

theorem Demand.Related.flip {d e : Demand} (related : Related R d e) : Related (fun c s => R s c) e d := by
  cases related with
  | plain verdict => exact .plain verdict
  | holds data h => exact .holds data h
  | any data each => exact .any data each.flip
  | one data each => exact .one data each.flip
  | fails data h => exact .fails data h

/-- The verdict on all of some demands is known where that on related ones is. -/
theorem allHold_related (below : ∀ s c data, R s c → Below (first s data) (second c data)) {ds es : List Demand}
    (related : List.Forall₂ (Demand.Related R) ds es) :
    Below (allHold (ds.map (Demand.verdict first))) (allHold (es.map (Demand.verdict second))) := by
  refine allHold_below ?_
  rw [List.forall₂_map_left_iff, List.forall₂_map_right_iff]
  exact related.imp fun d e h => h.below below

end Related

section Judge

variable {resolve : String → Option Value}

theorem judge_reference {fields : List (Atom × Value)} {ref : String} (shown : shownRef? fields = some (.text ref))
    (n : Nat) (data : Value) :
    judge resolve (n + 1) (.obj fields) data = (resolve ref).bind fun target => judge resolve n target data := by
  rw [judge]
  simp only [shown]

theorem judge_keywords {fields : List (Atom × Value)} (bare : shownRef? fields = none) (n : Nat) (data : Value) :
    judge resolve (n + 1) (.obj fields) data = allHold ((demandsOf fields data).map (Demand.verdict (judge resolve n))) := by
  rw [judge]
  simp only [bare]

/-- A verdict that is known after some steps stays known. -/
theorem judge_succ (n : Nat) : ∀ schema data : Value, Below (judge resolve n schema data) (judge resolve (n + 1) schema data) := by
  induction n with
  | zero => exact fun _ _ => .none _
  | succ n ih =>
    intro schema data
    cases schema with
    | obj fields =>
      cases shown : shownRef? fields with
      | none =>
        rw [judge_keywords shown, judge_keywords shown]
        have same : List.Forall₂ (Demand.Related Eq) (demandsOf fields data) (demandsOf fields data) :=
          List.forall₂_same.2 fun d _ => Demand.Related.refl (fun _ => rfl) d
        refine allHold_related (fun s c part same => ?_) same
        subst same
        exact ih s part
      | some ref =>
        by_cases text : ∃ s, ref = .text s
        · obtain ⟨s, rfl⟩ := text
          rw [judge_reference shown, judge_reference shown]
          cases resolve s with
          | none => exact .none _
          | some target => exact ih target data
        · have unknown : judge resolve (n + 1) (.obj fields) data = none := by
            rw [judge]
            simp only [shown]
            split
            next s same => exact absurd ⟨s, Option.some.inj same⟩ text
            next => rfl
            next impossible => cases impossible
          rw [unknown]
          exact .none _
    | atom a => cases a <;> exact fun _ h => h
    | _ => exact fun _ h => h

theorem judge_mono {n m : Nat} (le : n ≤ m) (schema data : Value) :
    Below (judge resolve n schema data) (judge resolve m schema data) := by
  induction le with
  | refl => exact .refl _
  | step _ ih => exact ih.trans (judge_succ _ schema data)

/-- No data is both valid and invalid under a schema. -/
theorem Accepts.not_rejects {schema data : Value} (accepts : Accepts resolve schema data) :
    ¬ Rejects resolve schema data := by
  rintro ⟨m, negative⟩
  obtain ⟨n, positive⟩ := accepts
  have yes := judge_mono (Nat.le_max_left n m) schema data true positive
  have no := judge_mono (Nat.le_max_right n m) schema data false negative
  rw [yes] at no
  cases no

end Judge

end SwaggerGate.Schema
