import SwaggerGate.Proofs.Payload
import SwaggerGate.Proofs.Schema.Akin
import SwaggerGate.Proofs.Schema.Widened

/-! Nullable types and data without null. Widening the nullable types of definitions changes no
verdict on data in which no null occurs, where it leaves the members of enums as they are. -/
namespace SwaggerGate

open Schema

namespace Schema

/-- Whether widening leaves every enum as it is that a check can come to. -/
def KeepsEnums (root : Value) : Prop :=
  ∀ fields argument, Reached root (.obj fields) → (.text "enum", argument) ∈ fields → Widens argument argument

mutual
/-- Whether widening leaves all enums inside a value as they are. -/
def keepsEnums : Value → Bool
  | .list items => itemsKeepEnums items
  | .obj fields => fieldsKeepEnums fields
  | .pair a b => keepsEnums a && keepsEnums b
  | _ => true
def itemsKeepEnums : List Value → Bool
  | [] => true
  | v :: rest => keepsEnums v && itemsKeepEnums rest
def fieldsKeepEnums : List (Atom × Value) → Bool
  | [] => true
  | (key, v) :: rest =>
    (key != .text "enum" || (widenNullable v).toOption == some v) && keepsEnums v && fieldsKeepEnums rest
end

theorem itemsKeepEnums_iff {items : List Value} : itemsKeepEnums items = true ↔ ∀ v ∈ items, keepsEnums v = true := by
  induction items with
  | nil => simp [itemsKeepEnums]
  | cons v rest ih => simp [itemsKeepEnums, ih]

theorem fieldsKeepEnums_iff {fields : List (Atom × Value)} : fieldsKeepEnums fields = true ↔
    ∀ f ∈ fields, (f.1 = .text "enum" → Widens f.2 f.2) ∧ keepsEnums f.2 = true := by
  induction fields with
  | nil => simp [fieldsKeepEnums]
  | cons f rest ih =>
    have same : ((widenNullable f.2).toOption == some f.2) = true ↔ Widens f.2 f.2 := by
      unfold Widens
      cases widenNullable f.2 <;> simp [Except.toOption]
    obtain ⟨key, v⟩ := f
    simp only [fieldsKeepEnums, Bool.and_eq_true, Bool.or_eq_true, bne_iff_ne, same, ih, List.forall_mem_cons,
      ← imp_iff_not_or, ne_eq]

theorem keepsEnums_hereditary : Hereditary fun v => keepsEnums v = true where
  atom _ := rfl
  item h := itemsKeepEnums_iff.1 h
  entry h f member := (fieldsKeepEnums_iff.1 h f member).2
  pair h := Bool.and_eq_true_iff.1 h

theorem keepsEnums_of_test {root : Value} (h : keepsEnums root = true) : KeepsEnums root :=
  fun _ _ reached entry => (fieldsKeepEnums_iff.1 (keepsEnums_hereditary.reached h reached) _ entry).1 rfl

section Roots

variable {root root' : Value}

/-- At all its places, a well-formed root schema that keeps its enums can be widened. -/
theorem widenable_reached (wellFormed : isWellFormed root = .ok true) (distinct : DistinctKeys root)
    (keeps : KeepsEnums root) (fields : List (Atom × Value)) (reached : Reached root (.obj fields)) : Widenable fields where
  shaped := shaped_of_isWellFormed wellFormed distinct fields reached
  distinct := distinct fields reached
  maps _ maps _ given :=
    (passes_reached wellFormed distinct reached ⟨fields, rfl⟩).mapped_ne_atom (distinct fields reached) maps given
  literal argument entry := keeps fields argument reached entry

/-- The definitions that are embedded in a widened root are those of the root, each widened. -/
theorem embeddedIn_widened (wellFormed : isWellFormed root = .ok true) (widens : Widens root root') :
    WidensEntries (embeddedIn root) (embeddedIn root') := by
  have whole := passes_of_isWellFormed wellFormed
  obtain ⟨fields, rfl⟩ := whole.object
  obtain ⟨ws, rfl, each⟩ := widens_object.1 widens
  rcases each.argument (.text "definitions") (by decide) with ⟨absent, absent'⟩ | ⟨v, w, given, given', inner⟩
  · rw [embeddedIn, embeddedIn, absent, absent']
    exact .nil
  · rcases inner.cases with ⟨rfl, -, notObject⟩ | ⟨items, items', rfl, rfl, -⟩ | ⟨bodies, bodies', rfl, rfl, related⟩
    · cases w with
      | obj bodies => exact absurd rfl (notObject bodies)
      | _ =>
        simp only [embeddedIn, given, given']
        exact .nil
    · simp only [embeddedIn, given, given']
      exact .nil
    · -- a mark of the definitions themselves would be a definition, and that is an object
      have narrow : isWidened bodies = false := by
        rw [Bool.eq_false_iff]
        intro wide
        have marked : (embeddedIn (.obj fields)).lookup (.text "x-nullable") = some (.bool true) := by
          rw [embeddedIn, given]
          exact (isWidened_iff.1 wide).1
        obtain ⟨_, same⟩ := (whole.embedded marked).object
        cases same
      rw [narrow] at related
      simp only [embeddedIn, given, given']
      exact related

end Roots

end Schema

/-- A model compiled with definitions, and with the same ones widened. -/
theorem Compile.model_widenedRoot {definitions definitions' : Definitions}
    (wide : WidensDefinitions definitions definitions') (objects' : AreObjects definitions')
    (readable : AreReadable definitions) {name : String} {root root' : Value}
    (compiled : Compile.model definitions name = .ok root) (compiled' : Compile.model definitions' name = .ok root')
    (closed : Closed root) (keeps : KeepsEnums root) : WidenedRoot root root' := by
  obtain ⟨fields, kept, bodies, -, -, -, wellFormed⟩ := Compile.model_schema wide.objects compiled
  obtain ⟨bodies, whole⟩ := Compile.model_compiled wide.objects readable compiled
  have distinct := distinctKeys_of_hasDistinctKeys (Compile.model_distinct wide.objects wide.distinct compiled)
  have widens := Compile.model_widened wide objects' compiled compiled'
  exact ⟨closed, ⟨_, whole.settled⟩, widenable_reached wellFormed distinct keeps, embeddedIn_widened wellFormed widens,
    widens⟩

namespace ResponseValidator

/-- The validator of definitions that are not widened. -/
def unwidened (documents : List Document) : ResponseValidator := ⟨(Merged.ofDocuments documents).definitions, []⟩

theorem accepted_iff {validator : ResponseValidator} (fresh : validator.compiled = []) {name : String} {root : Value}
    (compiled : Compile.model validator.definitions name = .ok root) (calls : List (String × Value)) (data : Value) :
    ((validator.after calls).validate name data).1 = .ok .ok ↔ Schema.check root data = .ok := by
  obtain ⟨still, keeps⟩ := after_keeps calls (keeps_of_fresh fresh)
  rw [validate_eq keeps (still.symm ▸ compiled), mapError_eq_ok]
  exact Body.accepted_iff

/-- Widening the nullable types of definitions changes no verdict on data without null: by a model
that is compiled with and without it, after any calls, such data is accepted by both validators or
by neither. -/
theorem accepted_unwidened_iff {files : Files} {sources : List Source} {documents : List Document}
    (read : Source.documents files sources = .ok documents)
    (distinct : AreDistinct (Merged.ofDocuments documents).definitions)
    (readable : AreReadable (Merged.ofDocuments documents).definitions) {validator : ResponseValidator}
    (made : ofDocuments documents = .ok validator) {name : String} {root root' : Value}
    (compiled : Compile.model (Merged.ofDocuments documents).definitions name = .ok root)
    (compiled' : Compile.model validator.definitions name = .ok root') (closed : Closed root) (keeps : KeepsEnums root)
    (calls others : List (String × Value)) {data : Value} (nonnull : Nonnull data) :
    ((validator.after calls).validate name data).1 = .ok .ok ↔
      (((unwidened documents).after others).validate name data).1 = .ok .ok := by
  have objects' := ofDocuments_objects read made
  obtain ⟨definitions, widens, made⟩ := bind_eq_ok.1 made
  cases made
  have wide : WidensDefinitions (Merged.ofDocuments documents).definitions definitions :=
    ⟨Source.documents_objects read, distinct, widensEntries_of_widened widens⟩
  have both := Compile.model_widenedRoot wide objects' readable compiled compiled' closed keeps
  have compiled : Compile.model (unwidened documents).definitions name = .ok root := compiled
  rw [accepted_iff rfl compiled' calls, accepted_iff rfl compiled others]
  exact (check_ends both nonnull).ok_iff.symm

/-- The entries of a schema of one type that null has too. -/
def nullable (type : String) : List (String × Value) := [("type", .text type), ("x-nullable", .bool true)]

/-- A document with one definition, a tree, whose nullable types stand at its root, in a property, below
`not` and below `anyOf`; one of them is data, as a default. -/
def nullableTree : Value :=
  let properties : Value := .record
    [("label", .record (nullable "string" ++ [("default", .record (nullable "string"))])),
      ("kind", .record [("enum", .texts ["oak", "elm"])]),
      ("mark", .record [("not", .record (nullable "integer"))]),
      ("size", .record [("anyOf", .list [.record (nullable "integer"), .record (nullable "boolean")])]),
      ("child", cut "Tree")]
  .record
    [("paths", .record []),
      ("definitions", .record [("Tree", .record (nullable "object" ++ [("properties", properties)]))])]

/-- A tree inside a tree. -/
def grownTree : Value :=
  .record [("label", .text "a"), ("mark", .text "b"), ("child", .record [("kind", .text "elm"), ("size", .int 3)])]

theorem accepted_unwidened_iff_tree : ∃ documents validator,
    Source.documents ⟨fun _ => none⟩ [.data nullableTree] = .ok documents ∧ ofDocuments documents = .ok validator ∧
      Nonnull grownTree ∧ (validator.validate "Tree" grownTree).1 = .ok .ok ∧
      ((unwidened documents).validate "Tree" grownTree).1 = .ok .ok := by
  have tested : (Source.documents ⟨fun _ => none⟩ [.data nullableTree]).toOption.any (fun documents =>
      ((Merged.ofDocuments documents).definitions.all fun entry =>
        hasDistinctKeys entry.2 && isEverywhere isLegible 4 entry.2 && !Url.hasEscape entry.1.toList) &&
      (Compile.model (Merged.ofDocuments documents).definitions "Tree").toOption.any keepsEnums &&
      (ofDocuments documents).toOption.any fun validator =>
        (Compile.model validator.definitions "Tree").toOption.isSome &&
        decide ((validator.validate "Tree" grownTree).1 = .ok .ok)) = true := by
    decide +kernel
  obtain ⟨documents, read, tested⟩ := any_toOption_eq_true.1 tested
  simp only [Bool.and_eq_true, List.all_eq_true, Bool.not_eq_true'] at tested
  obtain ⟨⟨each, plain⟩, wide⟩ := tested
  obtain ⟨root, compiled, keeps⟩ := any_toOption_eq_true.1 plain
  obtain ⟨validator, made, wide⟩ := any_toOption_eq_true.1 wide
  obtain ⟨wide, accepted⟩ := Bool.and_eq_true_iff.1 wide
  obtain ⟨root', compiled'⟩ : ∃ root', Compile.model validator.definitions "Tree" = .ok root' := by
    cases made' : Compile.model validator.definitions "Tree" with
    | error failure => rw [made'] at wide; cases wide
    | ok root' => exact ⟨root', rfl⟩
  have readable : AreReadable (Merged.ofDocuments documents).definitions := fun name body found =>
    readable_of_isLegible (each _ (Entries.mem_of_lookup_eq_some found)).1.2
  have closed : Closed root := by
    obtain ⟨bodies, whole⟩ := Compile.model_compiled (Source.documents_objects read) readable compiled
    refine closed_of_plain whole fun name cycle => ?_
    obtain ⟨body, found⟩ := cycle.defined
    exact (each _ (Entries.mem_of_lookup_eq_some found)).2
  have nonnull : Nonnull grownTree := by
    unfold Nonnull
    decide +kernel
  have same := accepted_unwidened_iff read (fun entry member => (each entry member).1.1) readable made compiled compiled'
    closed (keepsEnums_of_test keeps) [] [] nonnull
  have accepted := of_decide_eq_true accepted
  exact ⟨documents, validator, read, made, nonnull, accepted, same.1 accepted⟩

/-- A document with one definition, whose only value is a schema of a nullable text. -/
def nullableLiteral : Value :=
  .record
    [("paths", .record []),
      ("definitions", .record [("M", .record [("enum", .list [.record (nullable "string")])])])]

/-- A literal is widened like a schema: the value that an enum allows is refused as soon as the
definitions are widened. -/
theorem accepted_apart_literal :
    let data : Value := .record (nullable "string")
    ∃ documents validator, Source.documents ⟨fun _ => none⟩ [.data nullableLiteral] = .ok documents ∧
      ofDocuments documents = .ok validator ∧ Nonnull data ∧
      ((unwidened documents).validate "M" data).1 = .ok .ok ∧
      (validator.validate "M" data).1 = .ok (.invalid
        ⟨"Value \x7b\"type\": \"string\", \"x-nullable\": true\x7d is not allowed in enum.", "#"⟩) := by
  intro data
  have tested : (Source.documents ⟨fun _ => none⟩ [.data nullableLiteral]).toOption.any (fun documents =>
      decide (((unwidened documents).validate "M" data).1 = .ok .ok) &&
      (ofDocuments documents).toOption.any fun validator => decide ((validator.validate "M" data).1 = .ok (.invalid
        ⟨"Value \x7b\"type\": \"string\", \"x-nullable\": true\x7d is not allowed in enum.", "#"⟩))) = true := by
    decide +kernel
  obtain ⟨documents, read, tested⟩ := any_toOption_eq_true.1 tested
  obtain ⟨plain, wide⟩ := Bool.and_eq_true_iff.1 tested
  obtain ⟨validator, made, wide⟩ := any_toOption_eq_true.1 wide
  have nonnull : Nonnull data := by
    unfold Nonnull
    decide +kernel
  exact ⟨documents, validator, read, made, nonnull, of_decide_eq_true plain, of_decide_eq_true wide⟩

end ResponseValidator

end SwaggerGate
