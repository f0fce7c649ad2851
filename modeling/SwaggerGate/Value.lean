import SwaggerGate.Double
import SwaggerGate.Entries

/-! Decoded data. A value is an atom, a list, an object with ordered entries, a set or a
pair; keys are atoms, because a description file may use any scalar as a key. Objects of
JSON texts have text keys only. A description file may also make a list or an object part
of itself; such a place holds a loop back to the value around it. -/
namespace SwaggerGate

structure Date where
  year : Nat
  month : Nat
  day : Nat
deriving DecidableEq, Repr

/-- A time of day on a date; `offset` is in minutes east of Greenwich. -/
structure Moment where
  date : Date
  hour : Nat
  minute : Nat
  second : Nat
  micro : Nat
  offset : Option Int
deriving DecidableEq, Repr

inductive Atom where
  | null
  | bool (b : Bool)
  | int (n : Int)
  | float (x : Double)
  | text (s : String)
  | date (d : Date)
  | moment (t : Moment)
  | bytes (b : List UInt8)
deriving DecidableEq, Repr

inductive Value where
  | atom (a : Atom)
  | list (items : List Value)
  | obj (fields : List (Atom × Value))
  | set (members : List Atom)
  | pair (first second : Value)
  /-- The list, object or pair that stands a number of levels outside the one right around
  this place, and whether that is an object. -/
  | loop (levels : Nat) (ofObject : Bool)
deriving Repr

instance : Inhabited Value := ⟨.atom .null⟩

namespace Value

@[match_pattern] abbrev null : Value := .atom .null
@[match_pattern] abbrev bool (b : Bool) : Value := .atom (.bool b)
@[match_pattern] abbrev int (n : Int) : Value := .atom (.int n)
@[match_pattern] abbrev float (x : Double) : Value := .atom (.float x)
@[match_pattern] abbrev text (s : String) : Value := .atom (.text s)

/-- An object with text keys. -/
def record (fields : List (String × Value)) : Value := .obj (fields.map fun f => (.text f.1, f.2))

def texts (names : List String) : Value := .list (names.map .text)

mutual
def decEq : (a b : Value) → Decidable (a = b)
  | .atom a, .atom b => if h : a = b then isTrue (h ▸ rfl) else isFalse fun e => h (Value.atom.inj e)
  | .list a, .list b =>
    match decEqList a b with
    | isTrue h => isTrue (h ▸ rfl)
    | isFalse h => isFalse fun e => h (Value.list.inj e)
  | .obj a, .obj b =>
    match decEqFields a b with
    | isTrue h => isTrue (h ▸ rfl)
    | isFalse h => isFalse fun e => h (Value.obj.inj e)
  | .set a, .set b => if h : a = b then isTrue (h ▸ rfl) else isFalse fun e => h (Value.set.inj e)
  | .pair a b, .pair c d =>
    match decEq a c, decEq b d with
    | isTrue h, isTrue t => isTrue (h ▸ t ▸ rfl)
    | isFalse h, _ => isFalse fun e => h (Value.pair.inj e).1
    | _, isFalse t => isFalse fun e => t (Value.pair.inj e).2
  | .loop m a, .loop n b =>
    if h : m = n ∧ a = b then isTrue (h.1 ▸ h.2 ▸ rfl)
    else isFalse fun e => h ⟨(Value.loop.inj e).1, (Value.loop.inj e).2⟩
  | .atom _, .list _ | .atom _, .obj _ | .atom _, .set _ | .atom _, .pair _ _ | .atom _, .loop _ _
  | .list _, .atom _ | .list _, .obj _ | .list _, .set _ | .list _, .pair _ _ | .list _, .loop _ _
  | .obj _, .atom _ | .obj _, .list _ | .obj _, .set _ | .obj _, .pair _ _ | .obj _, .loop _ _
  | .set _, .atom _ | .set _, .list _ | .set _, .obj _ | .set _, .pair _ _ | .set _, .loop _ _
  | .pair _ _, .atom _ | .pair _ _, .list _ | .pair _ _, .obj _ | .pair _ _, .set _ | .pair _ _, .loop _ _
  | .loop _ _, .atom _ | .loop _ _, .list _ | .loop _ _, .obj _ | .loop _ _, .set _ | .loop _ _, .pair _ _ =>
    isFalse nofun
def decEqList : (a b : List Value) → Decidable (a = b)
  | [], [] => isTrue rfl
  | [], _ :: _ | _ :: _, [] => isFalse nofun
  | x :: xs, y :: ys =>
    match decEq x y, decEqList xs ys with
    | isTrue h, isTrue t => isTrue (h ▸ t ▸ rfl)
    | isFalse h, _ => isFalse fun e => h (List.cons.inj e).1
    | _, isFalse t => isFalse fun e => t (List.cons.inj e).2
def decEqFields : (a b : List (Atom × Value)) → Decidable (a = b)
  | [], [] => isTrue rfl
  | [], _ :: _ | _ :: _, [] => isFalse nofun
  | (k, x) :: xs, (l, y) :: ys =>
    if hk : k = l then
      match decEq x y, decEqFields xs ys with
      | isTrue h, isTrue t => isTrue (hk ▸ h ▸ t ▸ rfl)
      | isFalse h, _ => isFalse fun e => h (Prod.mk.inj (List.cons.inj e).1).2
      | _, isFalse t => isFalse fun e => t (List.cons.inj e).2
    else isFalse fun e => hk (Prod.mk.inj (List.cons.inj e).1).1
end

instance : DecidableEq Value := decEq

def field? (name : String) : Value → Option Value
  | .obj fields => fields.lookup (.text name)
  | _ => none

def hasField (name : String) (v : Value) : Bool := (v.field? name).isSome

/-- Whether a value counts as given: null, false, zero and everything empty do not. -/
def isTruthy : Value → Bool
  | .atom .null => false
  | .atom (.bool b) => b
  | .atom (.int n) => n != 0
  | .atom (.float (.finite _ m _)) => m != 0
  | .atom (.float _) => true
  | .atom (.text s) => s != ""
  | .atom (.bytes b) => !b.isEmpty
  | .atom (.date _) | .atom (.moment _) => true
  | .list items => !items.isEmpty
  | .obj fields => !fields.isEmpty
  | .set members => !members.isEmpty
  | .pair .. | .loop .. => true

mutual
/-- How deeply lists, objects and pairs nest. -/
def depth : Value → Nat
  | .atom _ | .set _ | .loop .. => 0
  | .list items => depthList items + 1
  | .pair a b => max (depth a) (depth b) + 1
  | .obj fields => depthFields fields + 1
def depthList : List Value → Nat
  | [] => 0
  | v :: rest => max (depth v) (depthList rest)
def depthFields : List (Atom × Value) → Nat
  | [] => 0
  | (_, v) :: rest => max (depth v) (depthFields rest)
end

mutual
/-- The number of parts of a value, itself included. -/
def nodes : Value → Nat
  | .atom _ | .set _ | .loop .. => 1
  | .list items => nodesList items + 1
  | .pair a b => nodes a + nodes b + 1
  | .obj fields => nodesFields fields + 1
def nodesList : List Value → Nat
  | [] => 0
  | v :: rest => nodes v + nodesList rest
def nodesFields : List (Atom × Value) → Nat
  | [] => 0
  | (_, v) :: rest => nodes v + nodesFields rest
end

end Value
end SwaggerGate
