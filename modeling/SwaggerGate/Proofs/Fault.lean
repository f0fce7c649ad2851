import SwaggerGate.Fault
import Mathlib.Data.List.Forall2
import Mathlib.Data.List.Perm.Basic

/-! Results that may be faults. A sequence of steps succeeds if each step does; a result is
clear if it is no fault of following a reference. -/
namespace SwaggerGate

theorem bind_eq_ok {ε α β : Type} {x : Except ε α} {f : α → Except ε β} {b : β} :
    x >>= f = .ok b ↔ ∃ a, x = .ok a ∧ f a = .ok b := by
  cases x with
  | error e => simp [bind, Except.bind]
  | ok a => simp [bind, Except.bind]

theorem map_eq_ok {ε α β : Type} {x : Except ε α} {f : α → β} {b : β} :
    x.map f = .ok b ↔ ∃ a, x = .ok a ∧ f a = b := by
  cases x <;> simp [Except.map]

theorem map_eq_error {ε α β : Type} {x : Except ε α} {f : α → β} {e : ε} : x.map f = .error e ↔ x = .error e := by
  cases x <;> simp [Except.map]

theorem mapError_eq_ok {ε δ α : Type} {x : Except ε α} {f : ε → δ} {a : α} : x.mapError f = .ok a ↔ x = .ok a := by
  cases x <;> simp [Except.mapError]

/-- What a test finds of a result if there is one. -/
theorem any_toOption_eq_true {ε α : Type} {x : Except ε α} {test : α → Bool} :
    x.toOption.any test = true ↔ ∃ a, x = .ok a ∧ test a = true := by
  cases x with
  | error e => simp [Except.toOption]
  | ok a => simp [Except.toOption]

theorem exists_of_map_toOption {ε α β : Type} {x : Except ε α} {f : α → β} {b : β}
    (found : x.toOption.map f = some b) : ∃ a, x = .ok a ∧ f a = b := by
  cases x with
  | error e => cases found
  | ok a => exact ⟨a, rfl, Option.some.inj found⟩

theorem forall₂_of_mapM {ε α β : Type} {f : α → Except ε β} : ∀ {l : List α} {results : List β},
    l.mapM f = .ok results → List.Forall₂ (fun a b => f a = .ok b) l results
  | [], results, ok => by
    cases ok
    exact .nil
  | a :: rest, results, ok => by
    rw [List.mapM_cons] at ok
    obtain ⟨first, head, ok⟩ := bind_eq_ok.1 ok
    obtain ⟨others, tail, ok⟩ := bind_eq_ok.1 ok
    cases ok
    exact .cons head (forall₂_of_mapM tail)

theorem mapM_of_forall₂ {ε α β : Type} {f : α → Except ε β} {l : List α} {results : List β}
    (related : List.Forall₂ (fun a b => f a = .ok b) l results) : l.mapM f = .ok results := by
  induction related with
  | nil => rfl
  | cons head _ tail =>
    rw [List.mapM_cons]
    exact bind_eq_ok.2 ⟨_, head, bind_eq_ok.2 ⟨_, tail, rfl⟩⟩

/-- Steps taken in another order give the same results in another order. -/
theorem exists_mapM_of_perm {ε α β : Type} {f : α → Except ε β} {l others : List α} {results : List β}
    (order : others.Perm l) (ok : l.mapM f = .ok results) :
    ∃ others', others.mapM f = .ok others' ∧ others'.Perm results := by
  obtain ⟨reordered, related, perm⟩ := List.perm_comp_forall₂ order (forall₂_of_mapM ok)
  exact ⟨reordered, mapM_of_forall₂ related, perm⟩

/-- A sequence of steps comes out the same where each step does. -/
theorem mapM_carried {ε α β : Type} {f g : α → Except ε β} : ∀ {l : List α} {results : List β},
    (∀ a ∈ l, ∀ b, f a = .ok b → g a = .ok b) → l.mapM f = .ok results → l.mapM g = .ok results
  | [], _, _, ok => ok
  | a :: rest, results, carry, ok => by
    rw [List.mapM_cons, bind_eq_ok] at ok ⊢
    obtain ⟨first, head, ok⟩ := ok
    obtain ⟨others, tail, ok⟩ := bind_eq_ok.1 ok
    have tail := mapM_carried (fun b member => carry b (List.mem_cons_of_mem _ member)) tail
    exact ⟨first, carry a List.mem_cons_self first head, bind_eq_ok.2 ⟨others, tail, ok⟩⟩

theorem foldlM_carried {ε α σ : Type} {f g : σ → α → Except ε σ} : ∀ {l : List α} {start result : σ},
    (∀ a ∈ l, ∀ s s', f s a = .ok s' → g s a = .ok s') → l.foldlM f start = .ok result →
      l.foldlM g start = .ok result
  | [], _, _, _, ok => ok
  | a :: rest, start, result, carry, ok => by
    rw [List.foldlM_cons, bind_eq_ok] at ok ⊢
    obtain ⟨middle, first, ok⟩ := ok
    exact ⟨middle, carry a List.mem_cons_self start middle first,
      foldlM_carried (fun b member => carry b (List.mem_cons_of_mem _ member)) ok⟩

private theorem filterAuxM_eq {ε α : Type} (f : α → Except ε Bool) (l kept : List α) :
    l.filterAuxM f kept = (l.filterAuxM f []).map (· ++ kept) := by
  induction l generalizing kept with
  | nil => rfl
  | cons a l ih =>
    simp only [List.filterAuxM]
    cases f a with
    | error e => rfl
    | ok keep =>
      change l.filterAuxM f (cond keep (a :: kept) kept) = (l.filterAuxM f (cond keep [a] [])).map (· ++ kept)
      rw [ih (cond keep (a :: kept) kept), ih (cond keep [a] [])]
      cases l.filterAuxM f [] with
      | error e => rfl
      | ok rest => cases keep <;> simp [Except.map]

theorem filterM_cons {ε α : Type} (f : α → Except ε Bool) (a : α) (l : List α) :
    (a :: l).filterM f = do
      let keep ← f a
      let rest ← l.filterM f
      return if keep then a :: rest else rest := by
  simp only [List.filterM, List.filterAuxM]
  cases f a with
  | error e => rfl
  | ok keep =>
    change (l.filterAuxM f (cond keep [a] [])).bind _ = _
    rw [filterAuxM_eq]
    cases l.filterAuxM f [] with
    | error e => rfl
    | ok rest => cases keep <;> simp [Except.map, Except.bind, bind, pure, Except.pure]

theorem mem_of_filterM {ε α : Type} {f : α → Except ε Bool} {l kept : List α} (ok : l.filterM f = .ok kept) (a : α) :
    a ∈ kept ↔ a ∈ l ∧ f a = .ok true := by
  induction l generalizing kept with
  | nil =>
    cases ok
    simp
  | cons b l ih =>
    rw [filterM_cons] at ok
    obtain ⟨keep, tested, ok⟩ := bind_eq_ok.1 ok
    obtain ⟨others, later, ok⟩ := bind_eq_ok.1 ok
    have ih := ih later
    cases keep with
    | true =>
      cases ok
      rw [if_pos rfl, List.mem_cons, List.mem_cons, ih]
      constructor
      · rintro (rfl | ⟨inside, passed⟩)
        · exact ⟨.inl rfl, tested⟩
        · exact ⟨.inr inside, passed⟩
      · rintro ⟨rfl | inside, passed⟩
        · exact .inl rfl
        · exact .inr ⟨inside, passed⟩
    | false =>
      cases ok
      rw [if_neg Bool.false_ne_true, ih, List.mem_cons]
      constructor
      · rintro ⟨inside, passed⟩
        exact ⟨.inr inside, passed⟩
      · rintro ⟨rfl | inside, passed⟩
        · rw [tested] at passed
          cases passed
        · exact ⟨inside, passed⟩

/-- Whether a fault is that a reference leads nowhere. -/
def Fault.isReferencing : Fault → Bool
  | .danglingReference | .unknownResource | .unknownPlace | .unknownAnchor | .malformedAnchor | .unlistedAddress => true
  | _ => false

/-- Whether a result, if it is a fault, is none of following a reference. -/
def Clear {α : Type} (x : Except Fault α) : Prop := ∀ fault, x = .error fault → fault.isReferencing = false

theorem Clear.ok {α : Type} (a : α) : Clear (.ok a : Except Fault α) := nofun

theorem Clear.error {α : Type} {fault : Fault} (other : fault.isReferencing = false) :
    Clear (.error fault : Except Fault α) := by
  intro found same
  cases same
  exact other

theorem Clear.bind {α β : Type} {x : Except Fault α} {f : α → Except Fault β} (first : Clear x)
    (then_ : ∀ a, x = .ok a → Clear (f a)) : Clear (x >>= f) := by
  cases x with
  | error fault =>
    intro found same
    cases same
    exact first _ rfl
  | ok a => exact then_ a rfl

theorem Clear.map {α β : Type} {x : Except Fault α} (f : α → β) (first : Clear x) : Clear (x.map f) := by
  cases x with
  | error fault =>
    intro found same
    cases same
    exact first _ rfl
  | ok a => exact .ok (f a)

theorem Clear.mapM {α β : Type} {f : α → Except Fault β} (each : ∀ a, Clear (f a)) (l : List α) :
    Clear (l.mapM f) := by
  induction l with
  | nil => exact .ok []
  | cons a l ih =>
    rw [List.mapM_cons]
    exact (each a).bind fun b _ => ih.bind fun bs _ => .ok _

theorem Clear.filterM {α : Type} {f : α → Except Fault Bool} {l : List α} (each : ∀ a ∈ l, Clear (f a)) :
    Clear (l.filterM f) := by
  induction l with
  | nil => exact .ok []
  | cons a l ih =>
    rw [filterM_cons]
    exact (each a List.mem_cons_self).bind fun keep _ =>
      (ih fun b member => each b (List.mem_cons_of_mem _ member)).bind fun rest _ => .ok _

end SwaggerGate
