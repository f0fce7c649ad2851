import SwaggerGate.Text.CodePoint
import SwaggerGate.Value.Equality

/-! Distinctness of the members of a list. Members that can be put in ascending order are
compared with their neighbours only; others each with every other. The order knows numbers,
texts, bytes, times, sets by inclusion, and sequences of these; a boolean inside a sequence
counts as a number there, but on its own it has no place. -/
namespace SwaggerGate.Value

mutual
/-- Equality in which a boolean is the number 0 or 1, and lists, pairs and bytes differ. -/
def same : Value → Value → Bool
  | .atom a, .atom b => a.sameKey b
  | .list a, .list b => sameItems a b
  | .pair a b, .pair c d => same a c && same b d
  | .obj a, .obj b => a.length == b.length && sameFields a b
  | .set a, .set b => sameMembers a b
  | .loop m a, .loop n b => m == n && a == b
  | _, _ => false
def sameItems : List Value → List Value → Bool
  | [], [] => true
  | x :: xs, y :: ys => same x y && sameItems xs ys
  | _, _ => false
def sameFields : List (Atom × Value) → List (Atom × Value) → Bool
  | [], _ => true
  | (k, x) :: rest, other =>
    (match entryOf? other k with
      | some y => same x y
      | none => false) && sameFields rest other
end

/-- Whether an atom comes before another; none if they have no order. -/
def atomBefore? : Atom → Atom → Option Bool
  | .text a, .text b => some (Text.precedes a b)
  | .bytes a, .bytes b => some (decide (a.map UInt8.toNat < b.map UInt8.toNat))
  | .date a, .date b => some (decide (a.ordinal < b.ordinal))
  | .moment a, .moment b => match a.instant?, b.instant? with
    | some m, some n => some (decide (m < n))
    | none, none => some (decide (a.clock < b.clock))
    | _, _ => none
  | a, b => match Number.ofValue? (.atom a.loosened), Number.ofValue? (.atom b.loosened) with
    | some m, some n => some (m.lt n)
    | _, _ => none

mutual
/-- Whether a value comes before another; none if they have no order. -/
def before? : Value → Value → Option Bool
  | .atom a, .atom b => atomBefore? a b
  | .list a, .list b => itemsBefore? a b
  | .pair a b, .pair c d => if same a c then if same b d then some false else before? b d else before? a c
  | .set a, .set b => some (a.length < b.length && a.all fun x => b.any x.sameKey)
  | _, _ => none
/-- Sequences are ordered by their first difference. -/
def itemsBefore? : List Value → List Value → Option Bool
  | [], ys => some !ys.isEmpty
  | _ :: _, [] => some false
  | x :: xs, y :: ys => if same x y then itemsBefore? xs ys else before? x y
end

private def isBoolean : Value → Bool
  | .bool _ => true
  | _ => false

/-- Whether a member comes before another; a boolean has no place among others. -/
def memberBefore? (a b : Value) : Option Bool := if isBoolean a || isBoolean b then none else before? a b

/-- The members that go on descending, or go on without descending, after a last one; and
the members after these. -/
def runAfter? (descending : Bool) (last : Value) : List Value → Option (List Value × List Value)
  | [] => some ([], [])
  | v :: rest => do
    if (← memberBefore? v last) = descending then
      let (run, rest) ← runAfter? descending v rest
      return (v :: run, rest)
    else return ([], v :: rest)

/-- The place of a member among ordered ones between two bounds, found by halving. -/
def placeAmong? (v : Value) (ordered : Array Value) : Nat → Nat → Nat → Option Nat
  | 0, low, _ => some low
  | fuel + 1, low, high =>
    if low < high then do
      let middle := low + (high - low) / 2
      if ← memberBefore? v (← ordered[middle]?) then placeAmong? v ordered fuel low middle
      else placeAmong? v ordered fuel (middle + 1) high
    else some low

/-- Puts each member into its place among ordered ones. -/
def insertEach? (ordered : Array Value) : List Value → Option (Array Value)
  | [] => some ordered
  | v :: rest => do
    let place ← placeAmong? v ordered ordered.size 0 ordered.size
    insertEach? (ordered.extract 0 place ++ #[v] ++ ordered.extract place ordered.size) rest

/-- The members in ascending order; none as soon as two that are compared have no order. -/
def ascending? : List Value → Option (List Value)
  | a :: b :: rest => do
    let descending ← memberBefore? b a
    let (run, rest) ← runAfter? descending b rest
    let start := a :: b :: run
    return (← insertEach? (if descending then start.reverse else start).toArray rest).toList
  | items => some items

/-- Whether all members differ from one another, each compared with every other. -/
def allDistinct : List Value → Bool
  | [] => true
  | v :: rest => !rest.any (equal v) && allDistinct rest

/-- Whether each member differs from the next. -/
def neighboursDistinct : List Value → Bool
  | a :: b :: rest => !equal a b && neighboursDistinct (b :: rest)
  | _ => true

/-- Whether no member of a list is repeated. -/
def distinct (items : List Value) : Bool :=
  match ascending? items with
  | some ordered => neighboursDistinct ordered
  | none => allDistinct items

end SwaggerGate.Value
