import SwaggerGate.Schema.Resource
import SwaggerGate.Url.Join

/-! Libraries of resources by address. What a resource holds inside, other resources and
anchors, is entered only when something is not found. -/
namespace SwaggerGate.Schema

structure Library where
  resources : List (String × Resource) := []
  /-- Anchors by the address of their resource and their name. -/
  anchors : List ((String × String) × Anchor) := []
  /-- The addresses of resources that have not been explored. -/
  unexplored : List String := []
deriving Repr

/-- The address that a reference means, seen from a base. -/
def joined (base reference : String) : Except Fault String :=
  match Url.join? base.toList reference.toList with
  | some address => .ok (String.ofList address)
  | none => .error .malformedUrl

namespace Library

def add (address : String) (r : Resource) (library : Library) : Library :=
  { library with resources := Entries.put address r library.resources }

/-- Adds a resource that is yet to be explored. -/
def addRoot (address : String) (r : Resource) (library : Library) : Library :=
  { library.add address r with unexplored := library.unexplored ++ [address] }

def addAnchor (address : String) (library : Library) (named : String × Anchor) : Library :=
  { library with anchors := Entries.put (address, named.1) named.2 library.anchors }

/-- Enters a resource and all inside it, later ones first, so that of two with one address
the earlier stays. -/
def exploreWithin : Nat → String → Resource → Library → Except Fault Library
  | 0, _, _, library => .ok library
  | depth + 1, address, r, library => do
    let id ← r.id?
    let address ← match id with
      | some id => joined address id
      | none => pure address
    let library := if id.isSome then library.add address r else library
    let library := (← r.anchors).foldl (addAnchor address) library
    (← r.subresources).reverse.foldlM (fun known inner => exploreWithin depth address inner known) library
termination_by structural depth => depth

/-- The library with everything entered that its resources hold. -/
def explored (library : Library) : Except Fault Library := do
  let roots := library.unexplored.filterMap fun address => (library.resources.lookup address).map (address, ·)
  let found ← roots.reverse.foldlM (fun known root => exploreWithin (root.2.contents.depth + 1) root.1 root.2 known)
    library
  return { found with unexplored := [] }

/-- The resource of an address, and the library after the search. -/
def find? (library : Library) (address : String) : Except Fault (Option (Resource × Library)) :=
  match library.resources.lookup address with
  | some r => .ok (some (r, library))
  | none => do
    let library ← library.explored
    return (library.resources.lookup address).map fun r => (r, library)

/-- The anchor of a name in the resource of an address, and the library after the search. -/
def anchor (library : Library) (address name : String) : Except Fault (Anchor × Library) :=
  match library.anchors.lookup (address, name) with
  | some a => .ok (a, library)
  | none => do
    let explored ← library.explored
    match explored.anchors.lookup (address, name) with
    | some a => return (a, explored)
    | none => match library.resources.lookup (withoutEmptyFragment address) with
      | none => throw .unlistedAddress
      | some r => match (← r.id?).bind fun id => explored.anchors.lookup (id, name) with
        | some a => return (a, explored)
        | none => throw (if name.contains '/' then .malformedAnchor else .unknownAnchor)

end Library
end SwaggerGate.Schema
