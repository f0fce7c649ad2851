import SwaggerGate.Proofs.Entries
import SwaggerGate.Proofs.Schema.Inline
import SwaggerGate.Proofs.Schema.Limits
import SwaggerGate.Source
import Mathlib.Tactic.MkIffOfInductiveProp

/-! Failures of compilation. A compilation ends with a registry or with an error of the
documents, and with nothing else, where the files are texts that the parser can tell of, the
schemas are trees, those of bodies have properties and required names to walk through, and what
is assembled of them is within the limits of the check of schemas. -/
namespace SwaggerGate

/-- Whether a compilation that ends early has met an error of the documents. -/
def Faultless {α : Type} (result : Except CompileFailure α) : Prop := ∀ fault, result ≠ .error (.fault fault)

section Faultless

variable {α β σ : Type}

theorem Faultless.ok (a : α) : Faultless (.ok a) := nofun

theorem Faultless.fail (e : CompileError) : Faultless (CompileError.fail e : Except CompileFailure α) := nofun

theorem Faultless.bind {first : Except CompileFailure α} {next : α → Except CompileFailure β} (faultless : Faultless first)
    (then_ : ∀ a, first = .ok a → Faultless (next a)) : Faultless (first >>= next) := by
  cases first with
  | ok a => exact then_ a rfl
  | error failure =>
    intro fault same
    exact faultless fault (congrArg Except.error (Except.error.inj same))

theorem Faultless.map {first : Except CompileFailure α} {f : α → β} (faultless : Faultless first) :
    Faultless (first.map f) := by
  cases first with
  | ok a => exact .ok _
  | error failure =>
    intro fault same
    exact faultless fault (congrArg Except.error (Except.error.inj same))

theorem Faultless.mapM {f : α → Except CompileFailure β} {l : List α} (each : ∀ a ∈ l, Faultless (f a)) :
    Faultless (l.mapM f) := by
  induction l with
  | nil => exact .ok _
  | cons a rest ih =>
    rw [List.mapM_cons]
    refine (each a List.mem_cons_self).bind fun b _ => ?_
    exact (ih fun c member => each c (List.mem_cons_of_mem _ member)).bind fun _ _ => .ok _

theorem Faultless.foldlM {f : σ → α → Except CompileFailure σ} {l : List α} (each : ∀ a ∈ l, ∀ s, Faultless (f s a)) :
    ∀ start, Faultless (l.foldlM f start) := by
  induction l with
  | nil => exact fun start => .ok start
  | cons a rest ih =>
    intro start
    rw [List.foldlM_cons]
    exact (each a List.mem_cons_self start).bind fun next _ => ih (fun b member => each b (List.mem_cons_of_mem _ member)) next

/-- What has met no fault has a result or an error of the documents. -/
theorem Faultless.cases {result : Except CompileFailure α} (faultless : Faultless result) :
    (∃ a, result = .ok a) ∨ ∃ e, result = .error (.error e) := by
  cases result with
  | ok a => exact .inl ⟨a, rfl⟩
  | error failure => cases failure with
    | error e => exact .inr ⟨e, rfl⟩
    | fault fault => exact absurd rfl (faultless fault)

/-- What is asked of a result if there is one can be tested. -/
instance decidableForallOk {ε : Type} (x : Except ε α) (P : α → Prop) [DecidablePred P] :
    Decidable (∀ a, x = .ok a → P a) :=
  match x with
  | .ok a => decidable_of_iff (P a) ⟨fun holds _ same => Except.ok.inj same ▸ holds, fun each => each a rfl⟩
  | .error _ => isTrue nofun

end Faultless

/-! ### Inlining -/

namespace Schema

section Substitute

variable {replace : String → Except CompileFailure Inlined}

mutual
theorem substitute_faultless (faultless : ∀ ref, Faultless (replace ref)) : ∀ (inMap : Bool) (v : Value),
    v.isTree = true → Faultless (substitute replace inMap v)
  | _, .atom _, _ | _, .set _, _ | _, .pair _ _, _ => .ok _
  | _, .list items, tree => (substituteItems_faultless faultless items tree).bind fun _ _ => .ok _
  | inMap, .obj fields, tree => by
    rw [substitute]
    split
    next => exact faultless _
    next => cases inMap with
      | true => exact (substituteSchemas_faultless faultless fields tree).bind fun _ _ => .ok _
      | false => exact (substituteFields_faultless faultless fields tree).bind fun _ _ => .ok _
  | _, .loop .., tree => by cases tree
theorem substituteItems_faultless (faultless : ∀ ref, Faultless (replace ref)) : ∀ items, Value.areTrees items = true →
    Faultless (substituteItems replace items)
  | [], _ => .ok _
  | v :: rest, trees => by
    obtain ⟨tree, later⟩ := Bool.and_eq_true_iff.1 trees
    have first := substitute_faultless faultless false v tree
    exact first.bind fun _ _ => (substituteItems_faultless faultless rest later).bind fun _ _ => .ok _
theorem substituteSchemas_faultless (faultless : ∀ ref, Faultless (replace ref)) : ∀ fields,
    Value.fieldsAreTrees fields = true →
    Faultless (substituteSchemas replace fields)
  | [], _ => .ok _
  | (_, v) :: rest, trees => by
    obtain ⟨tree, later⟩ := Bool.and_eq_true_iff.1 trees
    have first := substitute_faultless faultless false v tree
    exact first.bind fun _ _ => (substituteSchemas_faultless faultless rest later).bind fun _ _ => .ok _
theorem substituteFields_faultless (faultless : ∀ ref, Faultless (replace ref)) : ∀ fields,
    Value.fieldsAreTrees fields = true →
    Faultless (substituteFields replace fields)
  | [], _ => .ok _
  | (key, v) :: rest, trees => by
    obtain ⟨tree, later⟩ := Bool.and_eq_true_iff.1 trees
    have others (c : Value) (kept : List String) : Faultless (do
        let (rest, more) ← substituteFields replace rest
        return ((key, c) :: rest, kept ++ more)) :=
      (substituteFields_faultless faultless rest later).bind fun _ _ => .ok _
    rw [substituteFields]
    split
    · exact others v []
    · exact (substitute_faultless faultless _ v tree).bind fun (c, kept) _ => others c kept
end

end Substitute

theorem refName_faultless (section_ ref : String) : Faultless (refName section_ ref) := by
  unfold refName
  dsimp only
  split
  · split
    · exact .fail _
    · exact .ok _
  · exact .fail _

section Inline

variable {definitions : Definitions} (trees : ∀ entry ∈ definitions, entry.2.isTree = true)
include trees

omit trees in
private theorem definition_faultless (ref : String) : Faultless (definition definitions ref) := by
  refine (refName_faultless _ _).bind fun name _ => ?_
  split
  · exact .ok _
  · exact .fail _

private theorem tree_of_lookup {name : String} {body : Value} (found : definitions.lookup name = some body) :
    body.isTree = true :=
  trees _ (Entries.mem_of_lookup_eq_some found)

/-- The inlining of trees meets no fault, at any depth. -/
theorem inlineWithin_faultless {schema : Value} (tree : schema.isTree = true) : ∀ (depth : Nat) (stack : List String),
    Faultless (inlineWithin definitions depth stack schema) := by
  intro depth
  induction depth generalizing schema with
  | zero =>
    intro stack
    rw [inlineWithin_eq]
    refine substitute_faultless (fun ref => (definition_faultless ref).bind fun entry _ => ?_) false schema tree
    dsimp only
    split <;> exact .ok _
  | succ depth ih =>
    intro stack
    rw [inlineWithin_eq]
    refine substitute_faultless (fun ref => (definition_faultless ref).bind fun entry found => ?_) false schema tree
    dsimp only
    split
    · exact .ok _
    · exact ih (tree_of_lookup trees (definition_eq_ok.1 found).2) _

theorem inline_faultless {schema : Value} (tree : schema.isTree = true) : Faultless (inline definitions schema) :=
  inlineWithin_faultless trees tree _ _

theorem embedded_faultless (kept : List String) : Faultless (embedded definitions kept) := by
  have within (n : Nat) : ∀ pending done, Faultless (embedWithin definitions n pending done) := by
    induction n with
    | zero => exact fun _ _ => .ok _
    | succ n ih =>
      intro pending done
      rw [embedWithin]
      split
      next => exact .ok _
      next name _ =>
        refine (inlineWithin_faultless trees ?_ _ _).bind fun _ _ => ih _ _
        cases found : definitions.lookup name with
        | some body => exact tree_of_lookup trees found
        | none => rfl
  exact within _ _ _

end Inline

/-- Whether a schema is within the limits of the check of schemas. -/
@[mk_iff]
structure IsModest (schema : Value) : Prop where
  plain : IsPlain schema
  flat : 3 * schema.depth + 6 ≤ nestingLimit

instance : DecidablePred IsPlain := fun v => decidable_of_iff (v.isShowable = true ∧ patternsFit v = true)
  ⟨fun ⟨showable, patterns⟩ => ⟨showable, patterns⟩, fun plain => ⟨plain.showable, plain.patterns⟩⟩

instance : DecidablePred IsModest := fun v => decidable_of_iff' _ (isModest_iff v)

end Schema

/-! ### Operations -/

namespace Compile

open Schema

/-- Whether the schema of a body can be walked through, once its references are inlined. -/
@[mk_iff]
structure IsWalkable (definitions : Definitions) (schema : Value) : Prop where
  tree : schema.isTree = true
  properties : ∀ found, inline definitions schema = .ok found → ∀ v ∈ given? found.1 "properties", IsObject v
  required : ∀ found, inline definitions schema = .ok found →
    ∀ v ∈ given? found.1 "required", v.members.toOption.isSome = true

instance (definitions : Definitions) (schema : Value) : Decidable (IsWalkable definitions schema) :=
  decidable_of_iff' _ (isWalkable_iff definitions schema)

/-- Whether bodies among the parameters of an operation can be walked through, and what is
assembled of the parameters is within the limits of the check of schemas. -/
@[mk_iff]
structure AreManageable (definitions : Definitions) (parameters : List Parameter) : Prop where
  bodies : ∀ p ∈ parameters, p.location = some .body → IsWalkable definitions (.obj (p.schema.getD []))
  schemas : ∀ draft, parameters.foldlM (Draft.add definitions) {} = .ok draft →
    ∀ bodies, Schema.embedded definitions draft.kept = .ok bodies →
      IsModest (objectSchema draft.properties draft.required bodies) ∧
      IsModest (objectSchema draft.payloadProperties draft.payloadRequired bodies)

instance (definitions : Definitions) (parameters : List Parameter) : Decidable (AreManageable definitions parameters) :=
  decidable_of_iff' _ (areManageable_iff definitions parameters)

/-- What merged documents need for a compilation without a fault. -/
@[mk_iff]
structure IsManageable (merged : Merged) : Prop where
  definitions : ∀ entry ∈ merged.definitions, entry.2.isTree = true
  parameters : ∀ task ∈ tasks merged, ∀ parameters,
    effectiveParameters merged task.place task.path task.endpoint = .ok parameters →
      AreManageable merged.definitions parameters

instance : DecidablePred IsManageable := fun merged => decidable_of_iff' _ (isManageable_iff merged)

theorem lookUp_faultless (shared : List (String × Parameter)) (place : String) (p : Parameter) :
    Faultless (lookUp shared place p) := by
  have complete (found : Parameter) : Faultless (if found.name = "" ∨ found.location = none then
      CompileError.fail (.incompleteParameter place) else return found) := by
    split
    · exact .fail _
    · exact .ok _
  unfold lookUp
  split
  · exact complete p
  · refine (refName_faultless _ _).bind fun name _ => ?_
    split
    · exact (Faultless.fail _).bind fun found _ => complete found
    · split
      · exact (Faultless.fail _).bind fun found _ => complete found
      · exact complete _

theorem effectiveParameters_faultless (merged : Merged) (place : String) (path : PathItem) (endpoint : Endpoint) :
    Faultless (effectiveParameters merged place path endpoint) := by
  refine (Faultless.mapM fun p _ => lookUp_faultless _ _ p).bind fun _ _ => ?_
  exact (Faultless.mapM fun p _ => lookUp_faultless _ _ p).bind fun _ _ => .ok _

private theorem ok_of_isSome {α : Type} {x : Except Fault α} (some_ : x.toOption.isSome = true) : ∃ a, x = .ok a := by
  cases x with
  | ok a => exact ⟨a, rfl⟩
  | error fault => cases some_

theorem orFault_faultless {α : Type} {x : Except Fault α} {a : α} (ok : x = .ok a) : Faultless (orFault x) := by
  rw [ok]
  exact .ok a

section Add

variable {definitions : Definitions} (trees : ∀ entry ∈ definitions, entry.2.isTree = true)
include trees

omit trees in
theorem withRequired_faultless {inlined : Value} {kept : List String}
    (names : ∀ v ∈ given? inlined "required", v.members.toOption.isSome = true) (properties : List (Atom × Value)) :
    Faultless (do
      let required ← match given? inlined "required" with
        | none => pure []
        | some v => orFault v.members
      return { properties, required, kept : BodyPart }) := by
  cases given : given? inlined "required" with
  | none => exact .ok _
  | some v =>
    obtain ⟨members, found⟩ := ok_of_isSome (names v given)
    exact (orFault_faultless found).bind fun _ _ => .ok _

theorem bodyPart_faultless {schema : List (Atom × Value)} (walkable : IsWalkable definitions (.obj schema)) :
    Faultless (bodyPart definitions schema) := by
  refine (inline_faultless trees walkable.tree).bind fun (inlined, kept) found => ?_
  have names := walkable.required (inlined, kept) found
  dsimp only
  split
  next => exact withRequired_faultless names []
  next v given =>
    obtain ⟨fields, rfl⟩ := walkable.properties (inlined, kept) found v given
    exact (orFault_faultless rfl).bind fun properties _ => withRequired_faultless names properties

theorem add_faultless (draft : Draft) {p : Parameter}
    (walkable : p.location = some .body → IsWalkable definitions (.obj (p.schema.getD []))) :
    Faultless (draft.add definitions p) := by
  unfold Draft.add
  split
  next body => exact (bodyPart_faultless trees (walkable body)).bind fun _ _ => .ok _
  all_goals exact .ok _

end Add

theorem checked_faultless (place : String) {schema : Value} (modest : IsModest schema) : Faultless (checked place schema) := by
  obtain ⟨wellFormed, found⟩ := isWellFormed_total modest.plain modest.flat
  refine (orFault_faultless found).bind fun passed _ => ?_
  split
  · exact .ok _
  · exact .fail _

/-- The compilation of one operation meets no fault. -/
theorem compileTask_faultless {merged : Merged} (manageable : IsManageable merged) {task : Task}
    (member : task ∈ tasks merged) : Faultless (compileTask merged task) := by
  refine (effectiveParameters_faultless _ _ _ _).bind fun parameters effective => ?_
  have fits := manageable.parameters task member parameters effective
  refine Faultless.bind ?_ fun draft drafted => ?_
  · refine Faultless.foldlM (fun p inside draft => ?_) _
    exact add_faultless manageable.definitions draft (fits.bodies p inside)
  · refine (embedded_faultless manageable.definitions _).bind fun bodies found => ?_
    obtain ⟨body, payload⟩ := fits.schemas draft drafted bodies found
    exact (checked_faultless _ body).bind fun _ _ => (checked_faultless _ payload).bind fun _ _ => .ok _

theorem operations_faultless {merged : Merged} (manageable : IsManageable merged) : Faultless (operations merged) :=
  Faultless.mapM fun _ member => compileTask_faultless manageable member

end Compile

/-! ### Sources -/

/-- Whether a file can be told of: its name can name a file, and what it holds is the UTF-8 of a
text of which the parser says no more than that it is malformed, if it does not read it. -/
structure Files.IsLegible (files : Files) (name : PathName) : Prop where
  usable : '\x00' ∉ name.text.toList
  text : ∀ bytes, files.find? name.text = some (.file bytes) → ∃ text, Text.Utf8.decode? bytes = some text ∧
    ∀ fault, Yaml.read (plainBreaks text) ≠ .error (.fault fault)

namespace Source

variable {files : Files} {sources : List Source}

theorem load_faultless {name : PathName}
    (legible : suffixes.contains (Text.lower name.suffix) = true → files.IsLegible name) : Faultless (load files name) := by
  unfold load
  split
  next => exact .fail _
  next known =>
    have legible := legible (by simpa using known)
    unfold Files.text
    rw [if_neg (by simpa using legible.usable)]
    cases found : files.find? name.text with
    | none => exact .fail _
    | some entry => cases entry with
      | directory => exact .fail _
      | file bytes =>
        obtain ⟨text, decoded, told⟩ := legible.text bytes found
        simp only [decoded]
        split
        next => exact .fail _
        next fault stopped => exact absurd stopped (told fault)
        next => exact .ok _
        next => exact .fail _

theorem document_faultless {source : Source} (loads : ∀ name, source = .file name → Faultless (load files (PathName.ofText name))) :
    Faultless (source.document files) := by
  have loaded : Faultless (source.value files) := by
    cases source with
    | file name =>
      rw [value]
      exact (loads name rfl).map
    | data v => exact .ok v
  refine loaded.bind fun v _ => ?_
  split
  · exact .ok _
  · exact .fail _

/-- Compilation ends with a registry or with an error of the documents. -/
theorem registry_or_error
    (legible : ∀ name, .file name ∈ sources → suffixes.contains (Text.lower (PathName.ofText name).suffix) = true →
      files.IsLegible (PathName.ofText name))
    (manageable : ∀ documents, Source.documents files sources = .ok documents →
      Compile.IsManageable (Merged.ofDocuments documents)) :
    (∃ compiled, registry files sources = .ok compiled) ∨ ∃ e, registry files sources = .error (.error e) := by
  have read : Faultless (documents files sources) := by
    refine Faultless.mapM fun source member => document_faultless fun name file => load_faultless fun known => ?_
    subst file
    exact legible name member known
  have compiled : Faultless (registry files sources) := by
    refine read.bind fun documents found => ?_
    exact (Compile.operations_faultless (manageable documents found)).bind fun _ _ => .ok _
  exact compiled.cases

/-- A file with the definition of a leaf. -/
def leafText : String := "definitions:\n  Leaf:\n    type: object\n"

/-- A description whose one body is a leaf. -/
def leafOperation : Value :=
  let schema : Value := .record [("$ref", .text (Schema.definitionRef "Leaf"))]
  let body : Value := .record [("name", .text "b"), ("in", .text "body"), ("schema", schema)]
  .record [("paths", .record [("/x", .record [("post", .record [("parameters", .list [body])])])])]

/-- An operation, and the definition that it takes from a file. -/
theorem registry_or_error_leaf :
    let files := Files.ofList [("leaf.yaml", Text.Utf8.encode leafText.toList)]
    let sources := [.file "leaf.yaml", .data leafOperation]
    (∀ name, .file name ∈ sources → suffixes.contains (Text.lower (PathName.ofText name).suffix) = true →
      files.IsLegible (PathName.ofText name)) ∧
    (∀ documents, Source.documents files sources = .ok documents → Compile.IsManageable (Merged.ofDocuments documents)) ∧
    ((∃ compiled, registry files sources = .ok compiled) ∨ ∃ e, registry files sources = .error (.error e)) := by
  intro files sources
  have held : files.find? (PathName.ofText "leaf.yaml").text = some (.file (Text.Utf8.encode leafText.toList)) := by
    decide +kernel
  have decoded : Text.Utf8.decode? (Text.Utf8.encode leafText.toList) = some leafText.toList := by
    decide +kernel
  have parsed : (Yaml.read (Files.plainBreaks leafText.toList)).toOption.isSome = true := by
    decide +kernel
  have legible : ∀ name, .file name ∈ sources → suffixes.contains (Text.lower (PathName.ofText name).suffix) = true →
      files.IsLegible (PathName.ofText name) := by
    intro name member _
    obtain rfl : name = "leaf.yaml" := by simpa [sources] using member
    refine ⟨by decide, fun bytes found => ⟨leafText.toList, ?_, fun fault stopped => ?_⟩⟩
    · rw [← FileEntry.file.inj (Option.some.inj (held.symm.trans found))]
      exact decoded
    · rw [stopped] at parsed
      cases parsed
  have manageable : ∀ documents, Source.documents files sources = .ok documents →
      Compile.IsManageable (Merged.ofDocuments documents) := by
    decide +kernel
  exact ⟨legible, manageable, registry_or_error legible manageable⟩

/-- A description whose body has a number for its properties. -/
def numbered : Value :=
  let body : Value := .record [("name", .text "b"), ("in", .text "body"), ("schema", .record [("properties", .int 5)])]
  .record [("paths", .record [("/x", .record [("post", .record [("parameters", .list [body])])])])]

/-- Compilation walks through the properties of a body before it checks that they are an object. -/
theorem registry_fault_numbered :
    registry ⟨fun _ => none⟩ [.data numbered] = .error (.fault .notAnObject) := by
  have tested : (match registry ⟨fun _ => none⟩ [.data numbered] with
    | .error failure => decide (failure = .fault .notAnObject)
    | .ok _ => false) = true := by
    decide +kernel
  split at tested
  next failure stopped => rw [stopped, of_decide_eq_true tested]
  next => cases tested

end Source

end SwaggerGate
