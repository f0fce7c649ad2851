import SwaggerGate.Value.Equality
import Mathlib.Algebra.Order.Field.Rat

/-! Keys of mappings. Whether two atoms name the same entry is whether they are the same key: numbers
and booleans are one by their exact value, moments by their instant, all else by itself. -/
namespace SwaggerGate

theorem Double.pos_of_ratio? {x : Double} {num : Int} {den : Nat} (given : x.ratio? = some (num, den)) : 0 < den := by
  have pos (n : Nat) : ∀ shift, 0 < (scaled n 1 shift).2
    | .ofNat k => by
      rw [scaled, Nat.shiftLeft_eq, Nat.one_mul]
      exact Nat.two_pow_pos k
    | .negSucc _ => Nat.one_pos
  cases x with
  | finite negative m e =>
    have same : (scaled m 1 (-e)).2 = den := (Prod.mk.inj (Option.some.inj given)).2
    exact same ▸ pos m (-e)
  | infinite | nan => cases given

namespace Number

/-- What a number is as the key of a mapping: its exact value, if it has one. -/
inductive Key where
  | exact (value : ℚ)
  | infinite (negative : Bool)
  | unplaced (n : Number)

/-- A place on the line as a key. -/
def Place.key : Place → Key
  | .below => .infinite true
  | .at num den => .exact (num / den)
  | .above => .infinite false

/-- Whether a place is that of a number. -/
def Place.IsSound : Place → Prop
  | .at _ den => 0 < den
  | _ => True

theorem Place.compare_eq_eq {p q : Place} (sound : p.IsSound) (sound' : q.IsSound) :
    p.compare q = .eq ↔ p.key = q.key := by
  cases p <;> cases q
  case at.at a b c d =>
    have hb : (b : ℚ) ≠ 0 := Nat.cast_ne_zero.2 (Nat.pos_iff_ne_zero.1 sound)
    have hd : (d : ℚ) ≠ 0 := Nat.cast_ne_zero.2 (Nat.pos_iff_ne_zero.1 sound')
    rw [Place.compare, Int.compare_eq_eq, key, key, Key.exact.injEq, div_eq_div_iff hb hd]
    norm_cast
  all_goals simp [Place.compare, key]

theorem isSound_of_place? {n : Number} {p : Place} (given : n.place? = some p) : p.IsSound := by
  cases n with
  | int n =>
    cases given
    exact Nat.one_pos
  | float x =>
    cases x with
    | finite negative m e =>
      have given : ((Double.finite negative m e).ratio?.map fun r => Place.at r.1 r.2) = some p := given
      obtain ⟨⟨num, den⟩, ratio, rfl⟩ := Option.map_eq_some_iff.1 given
      exact Double.pos_of_ratio? ratio
    | infinite negative =>
      cases given
      cases negative <;> trivial
    | nan mark => cases given

def key (n : Number) : Key :=
  match n.place? with
  | some p => p.key
  | none => .unplaced n

theorem equal_iff (a b : Number) : a.equal b = true ↔ a.key = b.key := by
  rw [equal, Bool.or_eq_true, beq_iff_eq, beq_iff_eq]
  constructor
  · rintro (rfl | same)
    · rfl
    · unfold compare? at same
      split at same
      next p q here there =>
        rw [key, key, here, there]
        exact (Place.compare_eq_eq (isSound_of_place? here) (isSound_of_place? there)).1 (Option.some.inj same)
      next => cases same
  · intro same
    unfold key at same
    cases here : a.place? with
    | none =>
      cases there : b.place? with
      | none =>
        rw [here, there] at same
        exact .inl (Key.unplaced.inj same)
      | some q =>
        rw [here, there] at same
        cases q <;> cases same
    | some p =>
      cases there : b.place? with
      | none =>
        rw [here, there] at same
        cases p <;> cases same
      | some q =>
        rw [here, there] at same
        rw [compare?, here, there]
        exact .inr (congrArg some ((Place.compare_eq_eq (isSound_of_place? here) (isSound_of_place? there)).2 same))

theorem int_key_injective {n m : Int} : (Number.int n).key = (Number.int m).key ↔ n = m := by
  rw [← equal_iff]
  simp [equal, compare?, place?, Place.compare]

end Number

namespace Moment

/-- What a moment is as the key of a mapping: its instant, if that is known. -/
def key (t : Moment) : Int ⊕ Moment :=
  match t.instant? with
  | some micro => .inl micro
  | none => .inr t

theorem equal_iff (s t : Moment) : (Atom.moment s).equal (.moment t) = true ↔ s.key = t.key := by
  simp only [Atom.equal, key]
  cases here : s.instant? <;> cases there : t.instant? <;> simp
  all_goals
    rintro rfl
    rw [here] at there
    cases there

end Moment

namespace Atom

/-- What an atom is as the key of a mapping. -/
inductive Key where
  | number (k : Number.Key)
  | moment (k : Int ⊕ Moment)
  | itself (a : Atom)

def key : Atom → Key
  | .bool b => .number (Number.int (if b then 1 else 0)).key
  | .int n => .number (Number.int n).key
  | .float x => .number (Number.float x).key
  | .moment t => .moment t.key
  | a => .itself a

/-- Two atoms name the same entry of a mapping if they are the same key. -/
theorem sameKey_iff {a b : Atom} : a.sameKey b = true ↔ a.key = b.key := by
  unfold sameKey
  cases a <;> cases b
  case moment.moment s t => simpa [loosened, key] using Moment.equal_iff s t
  all_goals simp [loosened, key, equal, Number.equal_iff, Number.int_key_injective]

theorem sameKey_refl (a : Atom) : a.sameKey a = true := sameKey_iff.2 rfl

theorem sameKey_comm (a b : Atom) : a.sameKey b = b.sameKey a := by
  rw [Bool.eq_iff_iff, sameKey_iff, sameKey_iff]
  exact eq_comm

/-- The same key is the same as another key exactly where the first is. -/
theorem sameKey_congr {a b : Atom} (same : a.sameKey b = true) (c : Atom) : a.sameKey c = b.sameKey c := by
  rw [Bool.eq_iff_iff, sameKey_iff, sameKey_iff, sameKey_iff.1 same]

end Atom
end SwaggerGate
