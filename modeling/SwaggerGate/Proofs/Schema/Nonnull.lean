import SwaggerGate.Proofs.Entries
import SwaggerGate.Schema.Check
import Mathlib.Data.List.Forall2

/-! Data without null, and reports that end alike: both hold some violation or neither does, and
the same fault ends them. -/
namespace SwaggerGate.Schema

/-! ### Data without null -/

mutual
/-- Whether null occurs in data: as the whole, or in an item or the value of a property. -/
def holdsNull : Value → Bool
  | .atom a => a == .null
  | .list items => itemsHoldNull items
  | .obj fields => fieldsHoldNull fields
  | _ => false
def itemsHoldNull : List Value → Bool
  | [] => false
  | v :: rest => holdsNull v || itemsHoldNull rest
def fieldsHoldNull : List (Atom × Value) → Bool
  | [] => false
  | (_, v) :: rest => holdsNull v || fieldsHoldNull rest
end

/-- Whether no null occurs in data. -/
def Nonnull (data : Value) : Prop := holdsNull data = false

theorem Nonnull.item {items : List Value} (h : Nonnull (.list items)) : ∀ v ∈ items, Nonnull v := by
  unfold Nonnull at h ⊢
  rw [holdsNull] at h
  induction items with
  | nil => simp
  | cons first rest ih =>
    rw [itemsHoldNull, Bool.or_eq_false_iff] at h
    intro v member
    rcases List.mem_cons.1 member with rfl | later
    · exact h.1
    · exact ih h.2 v later

theorem Nonnull.property {properties : List (Atom × Value)} (h : Nonnull (.obj properties)) :
    ∀ f ∈ properties, Nonnull f.2 := by
  unfold Nonnull at h ⊢
  rw [holdsNull] at h
  induction properties with
  | nil => simp
  | cons first rest ih =>
    rw [fieldsHoldNull, Bool.or_eq_false_iff] at h
    intro f member
    rcases List.mem_cons.1 member with rfl | later
    · exact h.1
    · exact ih h.2 f later

theorem Nonnull.entryOf? {properties : List (Atom × Value)} (h : Nonnull (.obj properties)) {name : Atom} {v : Value}
    (found : SwaggerGate.entryOf? properties name = some v) : Nonnull v := by
  obtain ⟨f, picked, rfl⟩ := Option.map_eq_some_iff.1 found
  exact h.property f (List.mem_of_find?_eq_some picked)

/-- Data without null does not have the type of null. -/
theorem Nonnull.hasType_null {data : Value} (h : Nonnull data) : Dialect.draft4.hasType .null data = false := by
  cases data with
  | atom a => cases a with
    | null => cases h
    | _ => rfl
  | _ => rfl

/-! ### Reports that end alike -/

/-- Whether two results are related, or the same fault. -/
inductive Both {α β : Type} (R : α → β → Prop) : Except Fault α → Except Fault β → Prop where
  | ok {a : α} {b : β} : R a b → Both R (.ok a) (.ok b)
  | error (fault : Fault) : Both R (.error fault) (.error fault)

theorem Both.bind {α β γ δ : Type} {R : α → β → Prop} {S : γ → δ → Prop} {need : Except Fault α} {other : Except Fault β}
    {f : α → Except Fault γ} {g : β → Except Fault δ} (both : Both R need other)
    (then_ : ∀ a b, R a b → Both S (f a) (g b)) : Both S (need >>= f) (other >>= g) := by
  cases both with
  | ok related => exact then_ _ _ related
  | error fault => exact .error fault

theorem Both.of_eq {α : Type} {need other : Except Fault α} (same : need = other) : Both Eq need other := by
  subst same
  cases need with
  | ok a => exact .ok rfl
  | error fault => exact .error fault

namespace Report

/-- Whether two reports end at the same fault, if any, and both have violations or none. -/
structure EndsAs (r other : Report) : Prop where
  fault : r.fault = other.fault
  violated : r.violations = [] ↔ other.violations = []

section EndsAs

variable {α β : Type} {r other : Report} {cause cause' : Cause}

theorem EndsAs.refl (r : Report) : r.EndsAs r := ⟨rfl, Iff.rfl⟩

theorem EndsAs.of_eq (same : r = other) : r.EndsAs other := same ▸ .refl r

theorem EndsAs.violation (shown : cause.shown.all Value.isShowable = cause'.shown.all Value.isShowable) :
    (Report.violation cause).EndsAs (.violation cause') := by
  unfold Report.violation
  rw [shown]
  split
  · exact ⟨rfl, iff_of_false nofun nofun⟩
  · exact .refl _

theorem EndsAs.test (passed : Bool) (shown : cause.shown.all Value.isShowable = cause'.shown.all Value.isShowable) :
    (Report.test passed cause).EndsAs (.test passed cause') := by
  cases passed with
  | true => exact .refl _
  | false => exact .violation shown

theorem EndsAs.attempt {R : α → β → Prop} {need : Except Fault α} {need' : Except Fault β} {report : α → Report}
    {report' : β → Report} (both : Both R need need') (ends : ∀ a b, R a b → (report a).EndsAs (report' b)) :
    (Report.attempt need report).EndsAs (.attempt need' report') := by
  cases both with
  | ok related => exact ends _ _ related
  | error fault => exact .refl _

/-- Reports that need the same end alike if they do with what they need. -/
theorem EndsAs.attempt_same {need need' : Except Fault α} {report report' : α → Report} (same : need = need')
    (ends : ∀ a, need = .ok a → (report a).EndsAs (report' a)) :
    (Report.attempt need report).EndsAs (.attempt need' report') := by
  subst same
  cases need with
  | ok a => exact ends a rfl
  | error fault => exact .refl _

/-- Reports on what is made of one result end alike if they do whatever it is. -/
theorem EndsAs.attempt_map {γ : Type} {need : Except Fault γ} {f : γ → α} {g : γ → β} {report : α → Report}
    {report' : β → Report} (ends : ∀ c, (report (f c)).EndsAs (report' (g c))) :
    (Report.attempt (need.map f) report).EndsAs (.attempt (need.map g) report') := by
  cases need with
  | ok c => exact ends c
  | error fault => exact .refl _

theorem EndsAs.under (h : r.EndsAs other) (step : Step) : (r.under step).EndsAs (other.under step) :=
  ⟨h.fault, List.map_eq_nil_iff.trans (h.violated.trans List.map_eq_nil_iff.symm)⟩

theorem EndsAs.isEmpty (h : r.EndsAs other) : r.violations.isEmpty = other.violations.isEmpty := by
  rw [Bool.eq_iff_iff, List.isEmpty_iff, List.isEmpty_iff]
  exact h.violated

theorem EndsAs.each {R : α → β → Prop} {firstOnly : Bool} {report : α → Report} {report' : β → Report} {items : List α}
    {items' : List β} (related : List.Forall₂ R items items')
    (ends : ∀ a ∈ items, ∀ b, R a b → (report a).EndsAs (report' b)) :
    (Report.each firstOnly report items).EndsAs (.each firstOnly report' items') := by
  induction related with
  | nil => exact .refl _
  | @cons a b rest rest' head _ ih =>
    have first := ends a List.mem_cons_self b head
    have more := ih fun x member => ends x (List.mem_cons_of_mem _ member)
    simp only [Report.each, first.fault, first.isEmpty]
    split
    · exact first
    · exact ⟨more.fault, List.append_eq_nil_iff.trans
        ((and_congr first.violated more.violated).trans List.append_eq_nil_iff.symm)⟩

theorem EndsAs.ok_iff (h : r.EndsAs other) : r = .ok ↔ other = .ok := by
  obtain ⟨violations, fault⟩ := r
  obtain ⟨violations', fault'⟩ := other
  obtain rfl : fault = fault' := h.fault
  simp only [Report.ok, Report.mk.injEq]
  exact and_congr h.violated Iff.rfl

theorem EndsAs.holdsThroughout (h : r.EndsAs other) : r.holdsThroughout = other.holdsThroughout := by
  rw [Report.holdsThroughout, Report.holdsThroughout, h.fault, h.isEmpty]

theorem EndsAs.holds (h : r.EndsAs other) : r.holds = other.holds := by
  obtain ⟨violations, fault⟩ := r
  obtain ⟨violations', fault'⟩ := other
  cases violations with
  | nil =>
    obtain rfl : violations' = [] := h.violated.1 rfl
    obtain rfl : fault = fault' := h.fault
    rfl
  | cons v rest => cases violations' with
    | nil => cases h.violated.2 rfl
    | cons v' rest' => rfl

end EndsAs

end Report

end SwaggerGate.Schema
