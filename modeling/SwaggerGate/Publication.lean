import SwaggerGate.Source

/-! The registry of a process. Publishing lays a registry over the current one; an install
that fails changes nothing. -/
namespace SwaggerGate.Publication

/-- What can happen to the current registry. -/
inductive Event where
  | install (sources : List Source)
  | publish (registry : Registry)
  | reset

/-- The registry that an install publishes. -/
def install (files : Files) (current : Registry) (sources : List Source) : Except CompileFailure Registry :=
  (Source.registry files sources).map current.merged

/-- The current registry after an event. -/
def step (files : Files) (current : Registry) : Event → Registry
  | .install sources => match install files current sources with
    | .ok registry => registry
    | .error _ => current
  | .publish registry => current.merged registry
  | .reset => .empty

/-- The current registry after events, from the start of a process. -/
def run (files : Files) (events : List Event) : Registry := events.foldl (step files) .empty

end SwaggerGate.Publication
