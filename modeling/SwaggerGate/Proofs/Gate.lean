import SwaggerGate.Gate
import SwaggerGate.Proofs.Locations
import SwaggerGate.Proofs.Names
import SwaggerGate.Proofs.Publication

/-! The gate over the whole history of its process. Each request is judged on its own, against the
registry that the changes before it have left: it passes if it is marked or valid, and then it is
marked; any other is refused with its first issue, or stopped by a fault. -/
namespace SwaggerGate

namespace Pointer

/-- A pointer starts at its root; the path of a URL never does. -/
def IsRooted (path : String) : Prop := path.toList.head? = some '#'

theorem isRooted_root : IsRooted "#" := rfl

theorem isRooted_text (path : List Step) : IsRooted (text path) := by
  rw [IsRooted, toList_text]
  rfl

end Pointer

open Pointer

namespace Parameters

theorem isRooted_namePath (name : String) : IsRooted (namePath name) := by
  rw [IsRooted, toList_namePath]
  rfl

theorem isRooted_of_parameterIssue? {params : List (Atom × Value)} {p : Parameter} {issue : Issue}
    (found : parameterIssue? params p = .ok (some issue)) : IsRooted issue.path := by
  unfold parameterIssue? at found
  split at found
  · cases found
  · split at found
    · split at found <;> cases found
      exact isRooted_root
    · rw [isAt_check _ _ _ issue found]
      exact isRooted_namePath p.name

theorem isRooted_of_validate {parameters : List Parameter} {params : List (Atom × Value)} {outcome : Outcome}
    (ok : validate parameters params = .ok outcome) : ∀ issue ∈ outcome.issues, IsRooted issue.path := by
  obtain ⟨first, found, told⟩ := map_eq_ok.1 ok
  cases first with
  | none =>
    cases told
    exact List.forall_mem_nil _
  | some issue =>
    cases told
    obtain ⟨_, p, _, -, -, told⟩ := (firstIssue_eq_iff (by simp)).1 found
    exact List.forall_mem_singleton.2 (isRooted_of_parameterIssue? told)

end Parameters

theorem Body.isRooted_of_validate {o : Operation} {body : Value} {outcome : Outcome}
    (ok : validate o body = .ok outcome) : ∀ issue ∈ outcome.issues, IsRooted issue.path := by
  unfold validate at ok
  split at ok
  · cases ok
    exact List.forall_mem_nil _
  · obtain ⟨found, listed, rfl⟩ := map_eq_ok.1 ok
    rw [Outcome.issues_ofIssues]
    intro issue member
    obtain ⟨v, -, told⟩ := violation_of_issuesAfter (issuesAfter_of_issues listed) issue member
    obtain ⟨message, -, same⟩ := bind_eq_ok.1 told
    cases same
    exact isRooted_text v.path

theorem Validation.isRooted_of_validate {registry : Registry} {request : Request} {outcome : Outcome}
    (ok : validate registry request = .ok outcome) : ∀ issue ∈ outcome.issues, IsRooted issue.path := by
  cases routed : Routing.route registry request.method request.segments with
  | none =>
    simp only [validate, judge, routed, Except.map, Except.ok.injEq] at ok
    cases ok
    exact List.forall_mem_nil _
  | some o =>
    rw [validate_of_routed routed] at ok
    obtain ⟨body, validated, ok⟩ := bind_eq_ok.1 ok
    split at ok
    · exact Parameters.isRooted_of_validate ok
    · cases ok
      exact Body.isRooted_of_validate validated

theorem Outcome.head?_issues (outcome : Outcome) :
    outcome.issues.head? = none ↔ outcome = .ok ∨ outcome = .notFound := by
  cases outcome <;> simp [issues]

namespace HttpRequest

variable {r : HttpRequest}

/-- Whether a body is there to be read as JSON. -/
def HasJson (r : HttpRequest) : Prop := r.body ≠ [] ∧ isJsonType r.contentType = true

/-- What a request is validated with: its body, or null if there is none to be read as JSON. -/
inductive Reads (r : HttpRequest) : Value → Prop where
  | missing : ¬ r.HasJson → Reads r .null
  | json {body : Value} : r.HasJson → Json.readBytes r.body = .ok body → Reads r body

/-- Whether the body of a request should be JSON and is not. -/
def IsMalformed (r : HttpRequest) : Prop := r.HasJson ∧ ∃ e, e ≠ .tooDeep ∧ Json.readBytes r.body = .error e

/-- Whether the body of a request is JSON that nests too deeply to be read. -/
def IsTooDeep (r : HttpRequest) : Prop := r.HasJson ∧ Json.readBytes r.body = .error .tooDeep

theorem decodedBody?_of_missing (missing : ¬ r.HasJson) : r.decodedBody? = .ok (some .null) := by
  rw [decodedBody?, if_pos]
  rw [Bool.or_eq_true, List.isEmpty_iff, Bool.not_eq_true', ← Bool.not_eq_true]
  exact not_and_or.1 missing |>.imp_left Classical.not_not.1

theorem decodedBody?_of_json (given : r.HasJson) : r.decodedBody? = match Json.readBytes r.body with
    | .ok body => .ok (some body)
    | .error .tooDeep => .error .endless
    | .error _ => .ok none := by
  have read : ¬ (r.body.isEmpty || !isJsonType r.contentType) = true := by simp [given.1, given.2]
  exact if_neg read

theorem Reads.decodedBody? {body : Value} (reads : r.Reads body) : r.decodedBody? = .ok (some body) := by
  cases reads with
  | missing absent => exact decodedBody?_of_missing absent
  | json given ok => rw [decodedBody?_of_json given, ok]

theorem IsMalformed.decodedBody? (malformed : r.IsMalformed) : r.decodedBody? = .ok none := by
  obtain ⟨given, e, other, failed⟩ := malformed
  rw [decodedBody?_of_json given, failed]
  cases e with
  | tooDeep => exact absurd rfl other
  | malformed | longInteger => rfl

theorem IsTooDeep.decodedBody? (deep : r.IsTooDeep) : r.decodedBody? = .error .endless := by
  rw [decodedBody?_of_json deep.1, deep.2]

/-- A body is read, or malformed, or too deep. -/
theorem decoding (r : HttpRequest) : (∃ body, r.Reads body) ∨ r.IsMalformed ∨ r.IsTooDeep := by
  by_cases given : r.HasJson
  · cases read : Json.readBytes r.body with
    | ok body => exact .inl ⟨body, .json given read⟩
    | error e =>
      by_cases deep : e = .tooDeep
      · exact .inr (.inr ⟨given, deep ▸ read⟩)
      · exact .inr (.inl ⟨given, e, deep, read⟩)
  · exact .inl ⟨.null, .missing given⟩

theorem not_isRooted_urlPath (r : HttpRequest) : ¬ IsRooted r.urlPath := by
  rw [IsRooted, urlPath, String.toList_ofList]
  split
  next path =>
    rcases path with empty | slash
    · simp [empty]
    · obtain ⟨rest, same⟩ : ∃ rest, r.path.toList = '/' :: rest := by
        cases chars : r.path.toList with
        | nil => simp [chars] at slash
        | cons c rest =>
          simp only [chars, List.head?_cons, Option.some.injEq] at slash
          exact ⟨rest, by rw [slash]⟩
      rw [same]
      simp [escapedPathChar]
  next => simp

end HttpRequest

namespace Gate

/-- Whether an issue can be written: no text of it has a lone surrogate. -/
def IsWritable (issue : Issue) : Prop :=
  Text.hasSurrogate issue.message = false ∧ Text.hasSurrogate issue.path = false

theorem refuse_of_isWritable {status : Int} {issue : Issue} (writable : IsWritable issue) :
    refuse status issue = .ok (.refused status issue) := by
  simp [refuse, writable.1, writable.2]

theorem refuse_of_not_isWritable {status : Int} {issue : Issue} (unwritable : ¬ IsWritable issue) :
    refuse status issue = .error .unencodable := by
  rw [refuse, if_pos]
  simpa [IsWritable, or_iff_not_imp_left] using unwritable

section Answer

variable {status : Int} {current : Registry} {r : HttpRequest}

/-- Whether a request passes, and the mark under which the application sees it. -/
inductive Passes (current : Registry) (r : HttpRequest) : Value → Prop where
  | marked : r.mark.isTruthy = true → Passes current r r.mark
  | valid {body : Value} : r.mark.isTruthy = false → r.Reads body →
      Validation.validate current (r.request body) = .ok .ok → Passes current r (.bool true)

/-- Why a request is refused, with the status and the issue that it is to be told. -/
inductive IsRefused (status : Int) (current : Registry) (r : HttpRequest) : Int → Issue → Prop where
  | malformed : r.mark.isTruthy = false → r.IsMalformed → IsRefused status current r status malformedBody
  | notFound {body : Value} : r.mark.isTruthy = false → r.Reads body →
      Validation.validate current (r.request body) = .ok .notFound →
        IsRefused status current r 404 ⟨Outcome.notFoundMessage, r.urlPath⟩
  | invalid {body : Value} {outcome : Outcome} {issue : Issue} : r.mark.isTruthy = false → r.Reads body →
      Validation.validate current (r.request body) = .ok outcome → outcome.issues.head? = some issue →
        IsRefused status current r status issue

/-- What stops the answer to a request. -/
inductive Stops (status : Int) (current : Registry) (r : HttpRequest) : Fault → Prop where
  | tooDeep : r.mark.isTruthy = false → r.IsTooDeep → Stops status current r .endless
  | validation {body : Value} {fault : Fault} : r.mark.isTruthy = false → r.Reads body →
      Validation.validate current (r.request body) = .error fault → Stops status current r fault
  | unwritable {told : Int} {issue : Issue} : IsRefused status current r told issue → ¬ IsWritable issue →
      Stops status current r .unencodable

theorem answer_of_unmarked (unmarked : r.mark.isTruthy = false) :
    answer { failureStatus := status } current r = r.decodedBody? >>= fun
      | none => refuse status malformedBody
      | some body => Validation.validate current (r.request body) >>= reply { failureStatus := status } r := by
  rw [answer, if_neg (by simp [unmarked])]
  rfl

theorem answer_of_reads {body : Value} (unmarked : r.mark.isTruthy = false) (reads : r.Reads body) :
    answer { failureStatus := status } current r =
      Validation.validate current (r.request body) >>= reply { failureStatus := status } r := by
  rw [answer_of_unmarked unmarked, reads.decodedBody?]
  rfl

theorem Passes.answer {mark : Value} (passes : Passes current r mark) :
    answer { failureStatus := status } current r = .ok (.forwarded mark) := by
  cases passes with
  | marked given => rw [Gate.answer, if_pos given]
  | valid unmarked reads ok =>
    rw [answer_of_reads unmarked reads, ok]
    rfl

theorem IsRefused.answer {told : Int} {issue : Issue} (refused : IsRefused status current r told issue) :
    answer { failureStatus := status } current r = refuse told issue := by
  cases refused with
  | malformed unmarked malformed =>
    rw [answer_of_unmarked unmarked, malformed.decodedBody?]
    rfl
  | notFound unmarked reads ok =>
    rw [answer_of_reads unmarked reads, ok]
    rfl
  | @invalid body outcome issue unmarked reads ok first =>
    rw [answer_of_reads unmarked reads, ok]
    cases outcome with
    | ok | notFound => cases first
    | invalid | several =>
      cases first
      rfl

theorem Stops.answer {fault : Fault} (stops : Stops status current r fault) :
    answer { failureStatus := status } current r = .error fault := by
  cases stops with
  | tooDeep unmarked deep =>
    rw [answer_of_unmarked unmarked, deep.decodedBody?]
    rfl
  | validation unmarked reads failed =>
    rw [answer_of_reads unmarked reads, failed]
    rfl
  | unwritable refused unwritable => rw [refused.answer, refuse_of_not_isWritable unwritable]

/-- Each request passes, is refused, or is stopped by a fault. -/
theorem judged (status : Int) (current : Registry) (r : HttpRequest) : (∃ mark, Passes current r mark) ∨
    (∃ told issue, IsRefused status current r told issue) ∨ ∃ fault, Stops status current r fault := by
  cases marked : r.mark.isTruthy with
  | true => exact .inl ⟨_, .marked marked⟩
  | false =>
    obtain ⟨body, reads⟩ | malformed | deep := r.decoding
    · cases validated : Validation.validate current (r.request body) with
      | error fault => exact .inr (.inr ⟨fault, .validation marked reads validated⟩)
      | ok outcome =>
        cases first : outcome.issues.head? with
        | some issue => exact .inr (.inl ⟨status, issue, .invalid marked reads validated first⟩)
        | none =>
          obtain rfl | rfl := outcome.head?_issues.1 first
          · exact .inl ⟨_, .valid marked reads validated⟩
          · exact .inr (.inl ⟨_, _, .notFound marked reads validated⟩)
    · exact .inr (.inl ⟨_, _, .malformed marked malformed⟩)
    · exact .inr (.inr ⟨_, .tooDeep marked deep⟩)

theorem answer_cases (status : Int) (current : Registry) (r : HttpRequest) :
    (∃ mark, Passes current r mark ∧ answer { failureStatus := status } current r = .ok (.forwarded mark)) ∨
    (∃ told issue, IsRefused status current r told issue ∧ IsWritable issue ∧
      answer { failureStatus := status } current r = .ok (.refused told issue)) ∨
    ∃ fault, Stops status current r fault ∧ answer { failureStatus := status } current r = .error fault := by
  obtain ⟨mark, passes⟩ | ⟨told, issue, refused⟩ | ⟨fault, stops⟩ := judged status current r
  · exact .inl ⟨mark, passes, passes.answer⟩
  · by_cases writable : IsWritable issue
    · exact .inr (.inl ⟨told, issue, refused, writable, refused.answer.trans (refuse_of_isWritable writable)⟩)
    · have stops : Stops status current r .unencodable := .unwritable refused writable
      exact .inr (.inr ⟨_, stops, stops.answer⟩)
  · exact .inr (.inr ⟨fault, stops, stops.answer⟩)

theorem answer_eq_forwarded {mark : Value} :
    answer { failureStatus := status } current r = .ok (.forwarded mark) ↔ Passes current r mark := by
  refine ⟨fun answered => ?_, Passes.answer⟩
  obtain ⟨_, passes, here⟩ | ⟨_, _, _, _, here⟩ | ⟨_, _, here⟩ := answer_cases status current r
  all_goals cases answered.symm.trans here
  exact passes

theorem answer_eq_refused {told : Int} {issue : Issue} :
    answer { failureStatus := status } current r = .ok (.refused told issue) ↔
      IsRefused status current r told issue ∧ IsWritable issue := by
  refine ⟨fun answered => ?_, fun ⟨refused, writable⟩ => refused.answer.trans (refuse_of_isWritable writable)⟩
  obtain ⟨_, _, here⟩ | ⟨_, _, refused, writable, here⟩ | ⟨_, _, here⟩ := answer_cases status current r
  all_goals cases answered.symm.trans here
  exact ⟨refused, writable⟩

theorem answer_eq_error {fault : Fault} :
    answer { failureStatus := status } current r = .error fault ↔ Stops status current r fault := by
  refine ⟨fun answered => ?_, Stops.answer⟩
  obtain ⟨_, _, here⟩ | ⟨_, _, _, _, here⟩ | ⟨_, stops, here⟩ := answer_cases status current r
  all_goals cases answered.symm.trans here
  exact stops

/-- Only what leads to no operation is told the path of its URL. -/
theorem IsRefused.notFound_of_urlPath {told : Int} {issue : Issue} (refused : IsRefused status current r told issue)
    (path : issue.path = r.urlPath) :
    told = 404 ∧ issue.message = Outcome.notFoundMessage ∧ r.mark.isTruthy = false ∧
      ∃ body, r.Reads body ∧ Validation.validate current (r.request body) = .ok .notFound := by
  cases refused with
  | malformed => exact absurd (path ▸ isRooted_root) r.not_isRooted_urlPath
  | notFound unmarked reads ok => exact ⟨rfl, rfl, unmarked, _, reads, ok⟩
  | invalid _ _ ok first =>
    exact absurd (path ▸ Validation.isRooted_of_validate ok issue (List.mem_of_head? first)) r.not_isRooted_urlPath

end Answer

/-! ### Runs -/

/-- The changes of the registry among events, each with the files of its time. -/
def changes (history : List (Files × Event)) : List (Files × Publication.Event) :=
  history.filterMap fun
    | (files, .change event) => some (files, event)
    | (_, .request _) => none

/-- The answers to the requests of a history, each event with the files of its time. -/
def replies (gate : Gate) (current : Registry) : List (Files × Event) → List (Except Fault Reply)
  | [] => []
  | (files, .change event) :: rest => replies gate (Publication.step files current event) rest
  | (_, .request r) :: rest => gate.answer current r :: replies gate current rest

theorem answers_eq_replies (files : Files) (gate : Gate) (current : Registry) (events : List Event) :
    answers files gate current events = replies gate current (events.map fun event => (files, event)) := by
  induction events generalizing current with
  | nil => rfl
  | cons event rest ih =>
    cases event with
    | change event => exact ih (Publication.step files current event)
    | request r => exact congrArg (gate.answer current r :: ·) (ih current)

/-- What the changes of a history make of a registry is all that later answers depend on. -/
theorem replies_append (gate : Gate) (current : Registry) (before later : List (Files × Event)) :
    replies gate current (before ++ later) = replies gate current before ++
      replies gate ((changes before).foldl (fun current entry => Publication.step entry.1 current entry.2) current) later := by
  induction before generalizing current with
  | nil => rfl
  | cons entry rest ih =>
    obtain ⟨files, event⟩ := entry
    cases event with
    | change event => exact ih (Publication.step files current event)
    | request r => exact congrArg (gate.answer current r :: ·) (ih current)

theorem replies_of_request (gate : Gate) (before later : List (Files × Event)) (files : Files) (r : HttpRequest) :
    replies gate .empty (before ++ (files, .request r) :: later) = replies gate .empty before ++
      gate.answer (Publication.after (changes before)) r ::
        replies gate (Publication.after (changes before)) later :=
  replies_append gate .empty before ((files, .request r) :: later)

/-- A key that JSON writes as a lone surrogate. -/
def loneKey : String := String.ofList [Text.charOf 0xd800]

/-- A request whose body has a text under such a key, where there should be an integer. -/
def loneKeyRequest : HttpRequest :=
  { method := "POST", path := "/x", headers := [("content-type", "application/json")]
    body := "\x7b\"p\":\x7b\"\\ud800\":\"x\"\x7d\x7d".toList.map fun c => UInt8.ofNat c.toNat }

end Gate
end SwaggerGate
