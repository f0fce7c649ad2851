import SwaggerGate.Value

/-! Comparison of data. Numbers compare by exact value whatever their kind; a boolean is
no number, so it equals only itself, at every depth. Lists, pairs and bytes are equal if
their members are. -/
namespace SwaggerGate

inductive Number where
  | int (n : Int)
  | float (x : Double)
deriving DecidableEq

namespace Number

def ofValue? : Value → Option Number
  | .int n => some (.int n)
  | .float x => some (.float x)
  | _ => none

/-- A number's place on the line; not-a-number has none. -/
inductive Place where
  | below
  | at (num : Int) (den : Nat)
  | above

def place? : Number → Option Place
  | .int n => some (.at n 1)
  | .float (.infinite negative) => some (if negative then .below else .above)
  | .float x => x.ratio?.map fun r => .at r.1 r.2

def Place.compare : Place → Place → Ordering
  | .below, .below | .above, .above => .eq
  | .below, _ | _, .above => .lt
  | .above, _ | _, .below => .gt
  | .at a b, .at c d => Ord.compare (a * d) (c * b)

/-- Exact comparison; nothing compares with not-a-number. -/
def compare? (a b : Number) : Option Ordering :=
  match a.place?, b.place? with
  | some p, some q => some (p.compare q)
  | _, _ => none

def lt (a b : Number) : Bool := a.compare? b == some .lt

def le (a b : Number) : Bool := a.lt b || a.compare? b == some .eq

/-- Equality by value; one occurrence of not-a-number also equals itself. -/
def equal (a b : Number) : Bool := a == b || a.compare? b == some .eq

end Number

/-- Days since the start of the calendar. -/
def Date.ordinal (d : Date) : Nat :=
  let before := if d.month ≤ 2 then d.year - 1 else d.year
  let month := if d.month ≤ 2 then d.month + 9 else d.month - 3
  365 * before + before / 4 - before / 100 + before / 400 + (153 * month + 2) / 5 + d.day

/-- Microseconds since the start of the calendar, by the clock of the place. -/
def Moment.clock (t : Moment) : Int :=
  (((t.date.ordinal * 24 + t.hour) * 60 + t.minute) * 60 + t.second) * 1000000 + t.micro

/-- Microseconds since the start of the calendar in Greenwich, if the offset is known. -/
def Moment.instant? (t : Moment) : Option Int := t.offset.map fun o => t.clock - o * 60000000

namespace Atom

def equal : Atom → Atom → Bool
  | .int a, .int b => a == b
  | .int a, .float b => Number.equal (.int a) (.float b)
  | .float a, .int b => Number.equal (.float a) (.int b)
  | .float a, .float b => Number.equal (.float a) (.float b)
  | .moment a, .moment b => match a.instant?, b.instant? with
    | some m, some n => m == n
    | _, _ => a == b
  | a, b => a == b

/-- An atom with a boolean read as the number 0 or 1, as keys of a mapping are. -/
def loosened : Atom → Atom
  | .bool b => .int (if b then 1 else 0)
  | a => a

/-- Whether two atoms name the same entry of a mapping. -/
def sameKey (a b : Atom) : Bool := a.loosened.equal b.loosened

end Atom

/-- The value of the entry that a key names. -/
def entryOf? (fields : List (Atom × Value)) (key : Atom) : Option Value :=
  (fields.find? fun f => f.1.sameKey key).map Prod.snd

/-- Whether two sets have the same members. -/
def sameMembers (a b : List Atom) : Bool := a.length == b.length && a.all fun x => b.any x.sameKey

namespace Value

/-- Whether the members of a list are the bytes given. -/
def areBytes (bytes : List UInt8) (items : List Value) : Bool :=
  bytes.length == items.length && (bytes.zip items).all fun
    | (b, .atom a) => (Atom.int b.toNat).equal a
    | _ => false

mutual
/-- Equality of data: sequences member by member, objects entry by entry in any order. -/
def equal : Value → Value → Bool
  | .atom (.bytes a), .list b => areBytes a b
  | .atom (.bytes a), .pair b c => areBytes a [b, c]
  | .atom a, .atom b => a.equal b
  | .list a, .list b => equalItems a b
  | .list a, .pair b c => equalItems a [b, c]
  | .list a, .atom (.bytes b) => areBytes b a
  | .pair a b, .pair c d => equal a c && equal b d
  | .pair a b, .list [c, d] => equal a c && equal b d
  | .pair a b, .atom (.bytes c) => areBytes c [a, b]
  | .obj a, .obj b => a.length == b.length && equalFields a b
  | .set a, .set b => sameMembers a b
  | .loop m a, .loop n b => m == n && a == b
  | _, _ => false
def equalItems : List Value → List Value → Bool
  | [], [] => true
  | x :: xs, y :: ys => equal x y && equalItems xs ys
  | _, _ => false
def equalFields : List (Atom × Value) → List (Atom × Value) → Bool
  | [], _ => true
  | (k, x) :: rest, other =>
    (match entryOf? other k with
      | some y => equal x y
      | none => false) && equalFields rest other
end

end Value
end SwaggerGate
