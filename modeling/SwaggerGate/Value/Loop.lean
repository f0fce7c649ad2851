import SwaggerGate.Value

/-! Values that are part of themselves. A part of such a value becomes a value of its own
when the whole is put where the part leads back to it; a value without loops is left as it
is. -/
namespace SwaggerGate.Value

mutual
/-- Whether no part of a value leads back to it. -/
def isTree : Value → Bool
  | .atom _ | .set _ => true
  | .list items => areTrees items
  | .obj fields => fieldsAreTrees fields
  | .pair a b => isTree a && isTree b
  | .loop .. => false
def areTrees : List Value → Bool
  | [] => true
  | v :: rest => isTree v && areTrees rest
def fieldsAreTrees : List (Atom × Value) → Bool
  | [] => true
  | (_, v) :: rest => isTree v && fieldsAreTrees rest
end

mutual
/-- Puts a whole where a part inside it leads back to it; `inside` counts the values of the
part around the place. -/
def closedBy (whole : Value) (inside : Nat) : Value → Value
  | .atom a => .atom a
  | .set members => .set members
  | .list items => .list (itemsClosedBy whole (inside + 1) items)
  | .obj fields => .obj (fieldsClosedBy whole (inside + 1) fields)
  | .pair a b => .pair (closedBy whole (inside + 1) a) (closedBy whole (inside + 1) b)
  | .loop levels ofObject => if levels = inside then whole else .loop levels ofObject
def itemsClosedBy (whole : Value) (inside : Nat) : List Value → List Value
  | [] => []
  | v :: rest => closedBy whole inside v :: itemsClosedBy whole inside rest
def fieldsClosedBy (whole : Value) (inside : Nat) : List (Atom × Value) → List (Atom × Value)
  | [] => []
  | (key, v) :: rest => (key, closedBy whole inside v) :: fieldsClosedBy whole inside rest
end

mutual
theorem closedBy_of_isTree (whole : Value) (inside : Nat) (v : Value) (h : v.isTree = true) :
    closedBy whole inside v = v := by
  match v with
  | .atom _ | .set _ => simp [closedBy]
  | .list items => simp only [isTree] at h; simp [closedBy, itemsClosedBy_of_areTrees whole _ items h]
  | .obj fields => simp only [isTree] at h; simp [closedBy, fieldsClosedBy_of_trees whole _ fields h]
  | .pair a b =>
    simp only [isTree, Bool.and_eq_true] at h
    simp [closedBy, closedBy_of_isTree whole _ a h.1, closedBy_of_isTree whole _ b h.2]
  | .loop .. => simp [isTree] at h
theorem itemsClosedBy_of_areTrees (whole : Value) (inside : Nat) (items : List Value) (h : areTrees items = true) :
    itemsClosedBy whole inside items = items := by
  match items with
  | [] => simp [itemsClosedBy]
  | v :: rest =>
    simp only [areTrees, Bool.and_eq_true] at h
    simp [itemsClosedBy, closedBy_of_isTree whole _ v h.1, itemsClosedBy_of_areTrees whole _ rest h.2]
theorem fieldsClosedBy_of_trees (whole : Value) (inside : Nat) (fields : List (Atom × Value))
    (h : fieldsAreTrees fields = true) : fieldsClosedBy whole inside fields = fields := by
  match fields with
  | [] => simp [fieldsClosedBy]
  | (key, v) :: rest =>
    simp only [fieldsAreTrees, Bool.and_eq_true] at h
    simp [fieldsClosedBy, closedBy_of_isTree whole _ v h.1, fieldsClosedBy_of_trees whole _ rest h.2]
end

/-- The entries of an object, each a value of its own. -/
def partsOf (fields : List (Atom × Value)) : List (Atom × Value) := fieldsClosedBy (.obj fields) 0 fields

/-- The items of a list, each a value of its own. -/
def itemsOf (items : List Value) : List Value := itemsClosedBy (.list items) 0 items

end SwaggerGate.Value
