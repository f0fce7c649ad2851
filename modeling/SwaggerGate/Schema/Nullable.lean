import SwaggerGate.Fault
import SwaggerGate.Value

/-! Nullable types. A schema with `x-nullable: true` and a single type also allows null. A
value that is part of itself has no widened form. -/
namespace SwaggerGate.Schema

/-- Whether the entries of a schema widen its type. -/
def isWidened (fields : List (Atom × Value)) : Bool :=
  fields.lookup (.text "x-nullable") == some (.bool true)
    && match fields.lookup (.text "type") with
      | some (.text _) => true
      | _ => false

mutual
/-- Widens every nullable type inside a value. -/
def widenNullable : Value → Except Fault Value
  | .list items => do return .list (← widenItems items)
  | .obj fields => do return .obj (← widenFields (isWidened fields) fields)
  | .loop .. => .error .endless
  | .atom a => .ok (.atom a)
  | .set members => .ok (.set members)
  | .pair a b => .ok (.pair a b)
def widenItems : List Value → Except Fault (List Value)
  | [] => .ok []
  | v :: rest => do return (← widenNullable v) :: (← widenItems rest)
def widenFields (widened : Bool) : List (Atom × Value) → Except Fault (List (Atom × Value))
  | [] => .ok []
  | (key, v) :: rest => do
    let v ← if widened && key = .text "type" then .ok (.list [v, .text "null"]) else widenNullable v
    return (key, v) :: (← widenFields widened rest)
end

end SwaggerGate.Schema
