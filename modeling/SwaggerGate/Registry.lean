import SwaggerGate.Operation
import SwaggerGate.Text.Quoted

/-! Registries: operations with distinct keys in the order in which requests are matched.
Literal segments go before wildcards at the first place where two operations differ. -/
namespace SwaggerGate

/-- Whether a template segment stands for any segment. -/
def isWildcard (segment : String) : Bool := segment.toList.head? == some '\x7b'

/-- Which segments of an operation's whole path are wildcards. -/
def Operation.pattern (o : Operation) : List Bool := (o.baseSegments ++ o.templateSegments).map isWildcard

/-- The order of patterns: literal before wildcard, a shorter pattern before a longer. -/
def patternLe : List Bool → List Bool → Bool
  | [], _ => true
  | _ :: _, [] => false
  | a :: as, b :: bs => if a = b then patternLe as bs else b

structure Registry where
  operations : List Operation := []
deriving Repr

namespace Registry

def empty : Registry := {}

/-- The registry of a list of operations. Of two with one key the later counts, at the
place of the earlier. -/
def ofOperations (operations : List Operation) : Registry :=
  let latest := (Entries.ofList (operations.map fun o => (o.key, o))).map Prod.snd
  ⟨latest.mergeSort fun a b => patternLe a.pattern b.pattern⟩

def get? (registry : Registry) (key : String) : Option Operation :=
  registry.operations.find? (·.key == key)

def keys (registry : Registry) : List String := registry.operations.map Operation.key

def size (registry : Registry) : Nat := registry.operations.length

/-- The registry with the operations of another added or written over its own. -/
def merged (registry other : Registry) : Registry :=
  ofOperations (registry.operations ++ other.operations)

def display (registry : Registry) : String :=
  "Registry([" ++ String.intercalate ", " (registry.keys.map Text.quoted) ++ "])"

end Registry
end SwaggerGate
