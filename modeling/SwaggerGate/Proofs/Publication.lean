import SwaggerGate.Proofs.Fault
import SwaggerGate.Proofs.Registry
import SwaggerGate.Publication

/-! The registry of a process over its whole history. For each key it holds the operation of
the last registry that has the key, of those published since the last reset; installs that
fail leave no trace. -/
namespace SwaggerGate.Publication

/-- The current registry after events, each with the files of its time. -/
def after (history : List (Files × Event)) : Registry :=
  history.foldl (fun current entry => step entry.1 current entry.2) .empty

theorem run_eq_after (files : Files) (events : List Event) :
    run files events = after (events.map fun event => (files, event)) := by
  rw [run, after, List.foldl_map]

def isReset : Event → Bool
  | .reset => true
  | _ => false

/-- The registry that an event publishes, unless it fails or resets. -/
def published? (files : Files) : Event → Option Registry
  | .install sources => (Source.registry files sources).toOption
  | .publish registry => some registry
  | .reset => none

/-- The registries published since the last reset, the latest first. -/
def publishedSinceReset (history : List (Files × Event)) : List Registry :=
  (history.reverse.takeWhile fun entry => !isReset entry.2).filterMap fun entry => published? entry.1 entry.2

/-- Whether all registries that a history publishes from without were built. -/
def AllBuilt (history : List (Files × Event)) : Prop :=
  ∀ entry ∈ history, ∀ registry, entry.2 = .publish registry → registry.IsBuilt

theorem built_of_source {files : Files} {sources : List Source} {registry : Registry}
    (ok : Source.registry files sources = .ok registry) : registry.IsBuilt := by
  obtain ⟨documents, -, ok⟩ := bind_eq_ok.1 ok
  obtain ⟨operations, -, ok⟩ := bind_eq_ok.1 ok
  cases ok
  exact ⟨operations, rfl⟩

theorem built_of_published {files : Files} {event : Event} {registry : Registry}
    (built : ∀ registry, event = .publish registry → registry.IsBuilt)
    (publishes : published? files event = some registry) : registry.IsBuilt := by
  cases event with
  | install sources =>
    cases compiled : Source.registry files sources with
    | error failure => simp [published?, compiled, Except.toOption] at publishes
    | ok found =>
      simp only [published?, compiled, Except.toOption, Option.some.injEq] at publishes
      subst publishes
      exact built_of_source compiled
  | publish given =>
    cases publishes
    exact built registry rfl
  | reset => cases publishes

/-- What one event does: it resets, it publishes a registry, or it fails. -/
theorem step_cases (files : Files) (current : Registry) (event : Event) :
    (isReset event = true ∧ step files current event = .empty) ∨
    (isReset event = false ∧ ∃ registry, published? files event = some registry ∧
      step files current event = current.merged registry) ∨
    (isReset event = false ∧ published? files event = none ∧ step files current event = current) := by
  cases event with
  | install sources =>
    cases compiled : Source.registry files sources with
    | error failure => simp [isReset, published?, step, install, compiled, Except.toOption, Except.map]
    | ok registry => simp [isReset, published?, step, install, compiled, Except.toOption, Except.map]
  | publish registry => simp [isReset, published?, step]
  | reset => simp [isReset, step]

theorem after_append_singleton (history : List (Files × Event)) (files : Files) (event : Event) :
    after (history ++ [(files, event)]) = step files (after history) event := by
  simp [after, List.foldl_append]

theorem publishedSinceReset_append_singleton (history : List (Files × Event)) (files : Files) (event : Event) :
    publishedSinceReset (history ++ [(files, event)]) =
      if isReset event then [] else (published? files event).toList ++ publishedSinceReset history := by
  unfold publishedSinceReset
  rw [List.reverse_append, List.reverse_singleton, List.singleton_append, List.takeWhile_cons]
  cases isReset event with
  | true => rfl
  | false => cases publishes : published? files event <;> simp [publishes]

theorem after_built (history : List (Files × Event)) : (after history).IsBuilt := by
  induction history using List.reverseRecOn with
  | nil => exact .empty
  | append_singleton history entry ih =>
    obtain ⟨files, event⟩ := entry
    rw [after_append_singleton]
    obtain ⟨-, same⟩ | ⟨-, registry, -, same⟩ | ⟨-, -, same⟩ := step_cases files (after history) event
    · rw [same]
      exact .empty
    · rw [same]
      exact .merged _ registry
    · rw [same]
      exact ih

theorem get?_after {history : List (Files × Event)} (built : AllBuilt history) (key : String) :
    (after history).get? key = (publishedSinceReset history).findSome? (·.get? key) := by
  -- by the last event: it empties the registries since the last reset, adds one, or leaves them
  induction history using List.reverseRecOn with
  | nil => rfl
  | append_singleton history entry ih =>
    obtain ⟨files, event⟩ := entry
    have before := ih fun entry member => built entry (List.mem_append_left _ member)
    have last := built (files, event) (by simp)
    rw [after_append_singleton, publishedSinceReset_append_singleton]
    obtain ⟨resets, same⟩ | ⟨stays, registry, publishes, same⟩ | ⟨stays, publishes, same⟩ :=
      step_cases files (after history) event
    · rw [same, if_pos resets]
      rfl
    · have laid : registry.IsBuilt := built_of_published last publishes
      rw [same, (after_built history).get?_merged laid, before]
      rw [if_neg (by simp [stays]), publishes, Option.toList_some, List.singleton_append, List.findSome?_cons]
      cases registry.get? key <;> rfl
    · rw [same, before]
      simp [stays, publishes]

theorem step_of_failed {files : Files} {sources : List Source} {failure : CompileFailure}
    (failed : Source.registry files sources = .error failure) (current : Registry) :
    step files current (.install sources) = current := by
  simp [step, install, failed, Except.map]

/-- After any history, a key is answered by the last registry that has it, of those published
since the last reset. The operations have distinct keys and are sorted, literals first, and
the look-up by key agrees with them entry by entry. An install that fails could as well not
have been tried, and publishing a registry twice in a row is publishing it once. -/
theorem after_answers_last_published (history : List (Files × Event)) (built : AllBuilt history) :
    (∀ key, (after history).get? key = (publishedSinceReset history).findSome? (·.get? key)) ∧
    ((after history).keys.Nodup ∧
      ((after history).operations.Pairwise fun a b => patternLe a.pattern b.pattern = true) ∧
      (after history).byKey = (after history).operations.map (fun o => (o.key, o)) ∧
      (after history).keys = (after history).operations.map Operation.key ∧
      (after history).size = (after history).byKey.length ∧
      ∀ key, (after history).byKey.lookup key = (after history).get? key ∧
        (((after history).get? key).isSome = true ↔ key ∈ (after history).keys) ∧
        ∀ o, (after history).get? key = some o ↔ o ∈ (after history).operations ∧ o.key = key) ∧
    (∀ files sources failure, Source.registry files sources = .error failure →
      ∀ later, after (history ++ (files, .install sources) :: later) = after (history ++ later)) ∧
    ∀ first second registry, registry.IsBuilt →
      after (history ++ [(first, .publish registry), (second, .publish registry)]) =
        after (history ++ [(first, .publish registry)]) := by
  have whole := after_built history
  refine ⟨get?_after built, ⟨whole.nodup_keys, whole.pairwise, whole.byKey_eq, rfl, ?_, fun key => ?_⟩, ?_, ?_⟩
  · rw [whole.byKey_eq, List.length_map]
    rfl
  · exact ⟨whole.lookup_byKey key, whole.get?_isSome_iff key, whole.get?_eq_some_iff key⟩
  · intro files sources failure failed later
    unfold after
    rw [List.foldl_append, List.foldl_append, List.foldl_cons, step_of_failed failed]
  · intro first second registry laid
    have twice := whole.merged_twice laid
    rw [List.append_cons, after_append_singleton, after_append_singleton]
    exact twice

/-- A description of one path with one method, at a base path. -/
def describing (basePath template : String) : Value :=
  .record [("basePath", .text basePath), ("paths", .record [(template, .record [("get", .record [])])])]

/-- An install, an install of what is no description, and a registry laid over both. -/
def overwriting (files : Files) (registry : Registry) : List (Files × Event) :=
  [(files, .install [.data (describing "/old" "/x")]), (files, .install [.data .null]), (files, .publish registry)]

theorem after_answers_last_published_overwriting :
    ∃ registry, Source.registry ⟨fun _ => none⟩ [.data (describing "/new" "/x")] = .ok registry ∧
      AllBuilt (overwriting ⟨fun _ => none⟩ registry) ∧
      ((after (overwriting ⟨fun _ => none⟩ registry)).get? "get/x").map Operation.basePath = some (some "/new") := by
  have compiled : (Source.registry ⟨fun _ => none⟩ [.data (describing "/new" "/x")]).toOption.map
      (fun registry => (registry.get? "get/x").map Operation.basePath) = some (some (some "/new")) := by
    decide +kernel
  cases ok : Source.registry ⟨fun _ => none⟩ [.data (describing "/new" "/x")] with
  | error failure =>
    rw [ok] at compiled
    cases compiled
  | ok registry =>
    have built : AllBuilt (overwriting ⟨fun _ => none⟩ registry) := by
      intro entry member given publishes
      simp only [overwriting, List.mem_cons, List.not_mem_nil, or_false] at member
      rcases member with rfl | rfl | rfl
      · cases publishes
      · cases publishes
      · cases publishes
        exact built_of_source ok
    refine ⟨registry, rfl, built, ?_⟩
    rw [(after_answers_last_published _ built).1, publishedSinceReset, overwriting]
    rw [ok] at compiled
    cases found : registry.get? "get/x" with
    | none => simp [Except.toOption, found] at compiled
    | some o => simpa [Except.toOption, found, isReset, published?] using compiled

end SwaggerGate.Publication
