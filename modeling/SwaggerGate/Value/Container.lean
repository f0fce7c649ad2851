import SwaggerGate.Fault
import SwaggerGate.Text.Split
import SwaggerGate.Value.Distinct

/-! Values as containers. Members can be walked and counted in lists, pairs, texts, bytes,
sets and, by their keys, objects; any other value is no container. -/
namespace SwaggerGate.Value

/-- The members of a container, in order. -/
def members : Value → Except Fault (List Value)
  | .list items => .ok items
  | .pair a b => .ok [a, b]
  | .obj fields => .ok (fields.map fun f => .atom f.1)
  | .set members => .ok (members.map .atom)
  | .text s => .ok (s.toList.map fun c => .text (String.singleton c))
  | .atom (.bytes b) => .ok (b.map fun x => .int x.toNat)
  | _ => .error .wrongArgument

/-- The number of members of a container. -/
def size (v : Value) : Except Fault Nat := v.members.map List.length

/-- The entries of an object; nothing else has entries. -/
def entries : Value → Except Fault (List (Atom × Value))
  | .obj fields => .ok fields
  | _ => .error .notAnObject

/-- Whether a value can be a key: an atom, or a pair of such values. -/
def isKey : Value → Bool
  | .atom _ => true
  | .pair a b => isKey a && isKey b
  | _ => false

/-- Whether a value is a member of a container; only what can be a key is looked for in an
object or a set, and only a text in a text. -/
def holds (container v : Value) : Except Fault Bool :=
  match container, v with
  | .obj fields, .atom a => .ok (entryOf? fields a).isSome
  | .set members, .atom a => .ok (members.any a.sameKey)
  | .set _, .set _ => .ok false
  | .obj _, v | .set _, v => if v.isKey then .ok false else .error .wrongArgument
  | .list items, v => .ok (items.any (same v))
  | .pair a b, v => .ok (same v a || same v b)
  | .text s, .text t => .ok (Text.occursIn t.toList s.toList)
  | .atom (.bytes b), .atom (.bytes part) => .ok (Text.occursIn part b)
  | .atom (.bytes b), .int n =>
    if 0 ≤ n ∧ n < 256 then .ok (b.contains (UInt8.ofNat n.toNat)) else .error .unconvertible
  | _, _ => .error .wrongArgument

/-- A value as a number, where a boolean counts as 0 or 1. -/
def looseNumber? : Value → Option Number
  | .bool b => some (.int (if b then 1 else 0))
  | v => Number.ofValue? v

end SwaggerGate.Value
