import SwaggerGate.Proofs.Documents
import SwaggerGate.Proofs.Schema.Reference
import SwaggerGate.Proofs.Schema.Resolution
import SwaggerGate.Proofs.Schema.Widening

/-! Response validators over many calls. What a validator keeps are the schemas of its models, and
no call takes that away; so a call is answered as by a validator of its own, whatever was asked
before. -/
namespace SwaggerGate

open Schema

/-! ### The definition that a model is compiled from -/

section Definition

variable {definitions : Definitions} {name : String}

private theorem inline_cut (definitions : Definitions) (name : String) :
    Schema.inline definitions (cut name) = resolved definitions [] (definitionRef name) := by
  rw [Schema.inline, inlineFrom_eq (.nil definitions)]
  exact substitute_reference (refText?_lookup.2 rfl)

/-- The model of a name is read from the definition of that very name, whatever its characters. -/
theorem Compile.model_reads {body : Value} (found : definitions.lookup name = some body) :
    definition definitions (definitionRef name) = .ok (name, body) ∧
      Schema.inline definitions (cut name) = inlineFrom definitions [name] body := by
  have read := definition_eq_ok.2 ⟨refName_definitionRef name, found⟩
  refine ⟨read, ?_⟩
  rw [inline_cut, resolved_of_fresh read List.not_mem_nil]

theorem Compile.model_of_undefined (absent : definitions.lookup name = none) :
    Compile.model definitions name = .error (.error (.noDefinition (definitionRef name) name)) := by
  have read : definition definitions (definitionRef name) = .error (.error (.noDefinition (definitionRef name) name)) := by
    rw [definition, refName_definitionRef]
    simp only [bind, Except.bind, absent]
    rfl
  have inlined : Schema.inline definitions (cut name) = .error (.error (.noDefinition (definitionRef name) name)) := by
    rw [inline_cut, resolved, read]
    rfl
  unfold Compile.model
  change Schema.inline definitions (cut name) >>= _ = _
  rw [inlined]
  rfl

end Definition

namespace ResponseValidator

/-! ### Many calls -/

/-- The validator after some calls, each of a model name and data. -/
def after (validator : ResponseValidator) (calls : List (String × Value)) : ResponseValidator :=
  calls.foldl (fun current call => (current.validate call.1 call.2).2) validator

/-- Whether all schemas that a validator has kept are those of its models. -/
def Keeps (validator : ResponseValidator) : Prop :=
  ∀ name root, validator.compiled.lookup name = some root → Compile.model validator.definitions name = .ok root

theorem keeps_of_fresh {validator : ResponseValidator} (fresh : validator.compiled = []) : validator.Keeps := by
  intro name root known
  rw [fresh] at known
  cases known

/-- What the model of a name, compiled for this, tells of data. -/
def anew (definitions : Definitions) (name : String) (data : Value) : Except ResponseFailure Outcome := do
  let root ← (Compile.model definitions name).mapError .compile
  let issues ← (Body.issues root data).mapError .fault
  return Outcome.ofIssues (placeOf name) issues

theorem anew_eq {definitions : Definitions} {name : String} {root : Value}
    (compiled : Compile.model definitions name = .ok root) (data : Value) :
    anew definitions name data =
      ((Body.issues root data).map (Outcome.ofIssues (placeOf name))).mapError ResponseFailure.fault := by
  rw [anew, compiled]
  change (Body.issues root data).mapError ResponseFailure.fault >>= (fun issues => .ok _) = _
  cases Body.issues root data <;> rfl

theorem anew_of_error {definitions : Definitions} {name : String} {failure : CompileFailure}
    (failed : Compile.model definitions name = .error failure) (data : Value) :
    anew definitions name data = .error (.compile failure) := by
  rw [anew, failed]
  rfl

/-- What some calls are answered, each by the validator that the one before leaves. -/
def answers (validator : ResponseValidator) : List (String × Value) → List (Except ResponseFailure Outcome)
  | [] => []
  | call :: rest => (validator.validate call.1 call.2).1 :: (validator.validate call.1 call.2).2.answers rest

section Calls

variable {validator : ResponseValidator}

/-- The schema of a model is the one that compiling gives, kept or not. -/
private theorem model_fst (keeps : validator.Keeps) (name : String) :
    (validator.model name).map Prod.fst = Compile.model validator.definitions name := by
  unfold model
  split
  next root known => exact (keeps name root known).symm
  next =>
    cases Compile.model validator.definitions name with
    | error failure => rfl
    | ok root => rfl

private theorem model_keeps (keeps : validator.Keeps) {next : ResponseValidator} {name : String} {root : Value}
    (ok : validator.model name = .ok (root, next)) : next.definitions = validator.definitions ∧ next.Keeps := by
  have compiled := model_fst keeps name
  rw [ok] at compiled
  unfold model at ok
  split at ok
  next =>
    cases ok
    exact ⟨rfl, keeps⟩
  next =>
    obtain ⟨schema, -, ok⟩ := map_eq_ok.1 ok
    cases ok
    refine ⟨rfl, fun other root found => ?_⟩
    rw [Entries.lookup_put] at found
    split at found
    next same =>
      cases found
      rw [same]
      exact compiled.symm
    next => exact keeps other root found

private theorem validate_keeps (keeps : validator.Keeps) (name : String) (data : Value) :
    (validator.validate name data).2.definitions = validator.definitions ∧ (validator.validate name data).2.Keeps := by
  unfold validate
  split
  · exact ⟨rfl, keeps⟩
  next root next made => split <;> exact model_keeps keeps made

/-- A call is answered by the model of its name alone. -/
theorem validate_fst (keeps : validator.Keeps) (name : String) (data : Value) :
    (validator.validate name data).1 = anew validator.definitions name data := by
  rw [validate, anew, ← model_fst keeps name]
  cases validator.model name with
  | error failure => rfl
  | ok made =>
    obtain ⟨root, next⟩ := made
    simp only [Except.map, Except.mapError, bind, Except.bind]
    cases Body.issues root data <;> rfl

theorem after_keeps (calls : List (String × Value)) : ∀ {validator : ResponseValidator}, validator.Keeps →
    (validator.after calls).definitions = validator.definitions ∧ (validator.after calls).Keeps := by
  induction calls with
  | nil => exact fun keeps => ⟨rfl, keeps⟩
  | cons call rest ih =>
    intro validator keeps
    obtain ⟨same, kept⟩ := validate_keeps keeps call.1 call.2
    obtain ⟨still, after⟩ := ih kept
    exact ⟨still.trans same, after⟩

theorem answers_eq (keeps : validator.Keeps) (calls : List (String × Value)) :
    validator.answers calls = calls.map fun call => anew validator.definitions call.1 call.2 := by
  induction calls generalizing validator with
  | nil => rfl
  | cons call rest ih =>
    obtain ⟨same, kept⟩ := validate_keeps keeps call.1 call.2
    rw [answers, List.map_cons, validate_fst keeps, ih kept, same]

/-- A response is validated by the schema of its model, kept or not. -/
theorem validate_eq (keeps : validator.Keeps) {name : String} {root : Value}
    (compiled : Compile.model validator.definitions name = .ok root) (data : Value) :
    (validator.validate name data).1 =
      ((Body.issues root data).map (Outcome.ofIssues (placeOf name))).mapError ResponseFailure.fault := by
  rw [validate_fst keeps, anew_eq compiled]

/-- A fault of validating a response is one of checking data against the model. -/
theorem fault_of_validate (keeps : validator.Keeps) {name : String} {data : Value} {fault : Fault}
    (failed : (validator.validate name data).1 = .error (.fault fault)) :
    ∃ root, Compile.model validator.definitions name = .ok root ∧ Body.issues root data = .error fault := by
  rw [validate_fst keeps] at failed
  cases made : Compile.model validator.definitions name with
  | error failure =>
    rw [anew_of_error made] at failed
    cases failed
  | ok root =>
    rw [anew_eq made] at failed
    cases found : Body.issues root data with
    | ok issues =>
      rw [found] at failed
      cases failed
    | error other =>
      rw [found] at failed
      cases failed
      exact ⟨root, rfl, found⟩

end Calls

/-! ### Validators of documents -/

theorem widensEntries_of_widened {definitions definitions' : Definitions}
    (ok : widened definitions = .ok definitions') : WidensEntries definitions definitions' := by
  refine (forall₂_of_mapM ok).imp fun definition definition' same => ?_
  obtain ⟨w, widens, same⟩ := bind_eq_ok.1 same
  cases same
  exact ⟨rfl, widens⟩

section Made

variable {documents : List Document} {validator : ResponseValidator} (made : ofDocuments documents = .ok validator)

include made

theorem ofDocuments_spec :
    validator.compiled = [] ∧ WidensEntries (Merged.ofDocuments documents).definitions validator.definitions := by
  obtain ⟨definitions, ok, same⟩ := bind_eq_ok.1 made
  cases same
  exact ⟨rfl, widensEntries_of_widened ok⟩

theorem validateResponse_eq {files : Files} {sources : List Source} (read : Source.documents files sources = .ok documents)
    (name : String) (data : Value) : validateResponse files sources name data = anew validator.definitions name data := by
  have own : ofSources files sources = .ok validator := by
    rw [ofSources, read]
    change (ofDocuments documents).mapError ResponseFailure.fault = _
    rw [made]
    rfl
  rw [validateResponse, own]
  exact validate_fst (keeps_of_fresh (ofDocuments_spec made).1) name data

end Made

/-- What a validator keeps is never noticed. Any calls of one validator are answered as each would be by
a validator made for it alone, outcomes and failures alike; and after any calls the model of a defined
name is read from the definition of that name, widened, while no other name has a model. -/
theorem answers_as_fresh {files : Files} {sources : List Source} {documents : List Document}
    (read : Source.documents files sources = .ok documents) {validator : ResponseValidator}
    (made : ofDocuments documents = .ok validator) (calls : List (String × Value)) :
    validator.answers calls = calls.map (fun call => validateResponse files sources call.1 call.2) ∧
    (∀ name body, (Merged.ofDocuments documents).definitions.lookup name = some body →
      ∃ wide, widenNullable body = .ok wide ∧
        definition (validator.after calls).definitions (definitionRef name) = .ok (name, wide) ∧
        Schema.inline (validator.after calls).definitions (cut name) = inlineFrom validator.definitions [name] wide) ∧
    ∀ name, (Merged.ofDocuments documents).definitions.lookup name = none → ∀ data,
      ((validator.after calls).validate name data).1 = .error (.compile (.error (.noDefinition (definitionRef name) name))) := by
  obtain ⟨fresh, wide⟩ := ofDocuments_spec made
  obtain ⟨same, keeps⟩ := after_keeps calls (keeps_of_fresh fresh)
  refine ⟨?_, ?_, ?_⟩
  · rw [answers_eq (keeps_of_fresh fresh)]
    apply List.map_congr_left
    intro call _
    exact (validateResponse_eq made read call.1 call.2).symm
  · intro name body found
    obtain ⟨absent, -⟩ | ⟨v, w, given, given', widens⟩ := wide.lookup name
    · cases absent.symm.trans found
    cases given.symm.trans found
    rw [same]
    exact ⟨w, widens, Compile.model_reads given'⟩
  · intro name absent data
    obtain ⟨-, absent'⟩ | ⟨v, w, given, -, -⟩ := wide.lookup name
    · rw [validate_fst keeps, same]
      exact anew_of_error (Compile.model_of_undefined absent') data
    · cases given.symm.trans absent

/-- A nullable integer. -/
def perhapsCount : Value := .record [("type", .text "integer"), ("x-nullable", .bool true)]

/-- A document with a definition whose name has both marks that are escaped, one under the empty name that
refers to it, one whose reference leads nowhere, and one whose limit is told with the number that breaks it. -/
def oddlyNamed : Value :=
  let ref (name : String) : Value := .record [("$ref", .text (definitionRef name))]
  .record
    [("paths", .record []),
      ("definitions", .record
        [("a/b~", perhapsCount), ("", ref "a/b~"), ("lost", ref "nowhere"), ("small", .record [("maximum", .int 0)])])]

/-- Calls that fail, one of them only when its message is made, before others by the same names and by others. -/
def oddCalls : List (String × Value) :=
  [("lost", .null), ("small", .int (Int.ofNat (Nat.pow 10 4300))), ("a/b~", .null), ("lost", .null), ("", .text "x"), ("small", .int 0)]

theorem answers_as_fresh_oddlyNamed : ∃ documents validator,
    Source.documents ⟨fun _ => none⟩ [.data oddlyNamed] = .ok documents ∧ ofDocuments documents = .ok validator ∧
      oddCalls.map (fun call => validateResponse ⟨fun _ => none⟩ [.data oddlyNamed] call.1 call.2) =
        [.error (.compile (.error (.noDefinition (definitionRef "nowhere") "nowhere"))), .error (.fault .longInteger),
          .ok .ok, .error (.compile (.error (.noDefinition (definitionRef "nowhere") "nowhere"))),
          .ok (.invalid ⟨"Type mismatch. Expected Integer, Null but got String.", "#"⟩), .ok .ok] ∧
      (∃ wide, widenNullable perhapsCount = .ok wide ∧
        definition (validator.after oddCalls).definitions (definitionRef "a/b~") = .ok ("a/b~", wide)) ∧
      ((validator.after oddCalls).validate "else" .null).1 =
        .error (.compile (.error (.noDefinition (definitionRef "else") "else"))) := by
  have tested : (Source.documents ⟨fun _ => none⟩ [.data oddlyNamed]).toOption.any (fun documents =>
      (Merged.ofDocuments documents).definitions.lookup "a/b~" == some perhapsCount &&
      (Merged.ofDocuments documents).definitions.lookup "else" == none &&
      (ofDocuments documents).toOption.any fun validator => decide (validator.answers oddCalls =
        [.error (.compile (.error (.noDefinition (definitionRef "nowhere") "nowhere"))), .error (.fault .longInteger),
          .ok .ok, .error (.compile (.error (.noDefinition (definitionRef "nowhere") "nowhere"))),
          .ok (.invalid ⟨"Type mismatch. Expected Integer, Null but got String.", "#"⟩), .ok .ok])) = true := by
    decide +kernel
  obtain ⟨documents, read, tested⟩ := any_toOption_eq_true.1 tested
  simp only [Bool.and_eq_true, beq_iff_eq] at tested
  obtain ⟨⟨known, unknown⟩, tested⟩ := tested
  obtain ⟨validator, made, told⟩ := any_toOption_eq_true.1 tested
  obtain ⟨same, defined, others⟩ := answers_as_fresh read made oddCalls
  obtain ⟨wide, widens, found, -⟩ := defined "a/b~" perhapsCount known
  refine ⟨documents, validator, read, made, ?_, ⟨wide, widens, found⟩, others "else" unknown .null⟩
  rw [← same]
  exact of_decide_eq_true told

end ResponseValidator
end SwaggerGate
