import SwaggerGate.Proofs.Entries
import SwaggerGate.Proofs.Schema.Inline
import Mathlib.Data.List.Perm.Subperm

/-! The definitions that stay behind cut references. Each lies on a cycle of references, and
is embedded with its own body inlined around the cuts of other embedded definitions. -/
namespace SwaggerGate.Schema

/-- Whether the body of a definition refers to another. -/
def Leads (definitions : Definitions) (name other : String) : Prop :=
  ∃ body, definitions.lookup name = some body ∧
    ∃ ref ∈ references false body, refName "definitions" ref = .ok other

/-- Whether a definition refers back to itself, directly or through others. -/
def OnCycle (definitions : Definitions) (name : String) : Prop := Relation.TransGen (Leads definitions) name name

theorem OnCycle.defined {definitions : Definitions} {name : String} (h : OnCycle definitions name) :
    ∃ body, definitions.lookup name = some body := by
  obtain ⟨other, ⟨body, found, -⟩, -⟩ := Relation.TransGen.head'_iff.1 h
  exact ⟨body, found⟩

/-- Distinct keys that are as many as the entries are all the keys. -/
theorem mem_of_length_le {definitions : Definitions} {names : List String} (distinct : names.Nodup)
    (known : names ⊆ Entries.keys definitions) (many : definitions.length ≤ names.length) {name : String}
    (key : name ∈ Entries.keys definitions) : name ∈ names := by
  by_contra fresh
  have larger : (name :: names).Nodup := List.nodup_cons.2 ⟨fresh, distinct⟩
  have fits := (larger.subperm (List.cons_subset.2 ⟨key, known⟩)).length_le
  simp only [List.length_cons, Entries.keys, List.length_map] at fits
  omega

/-! ### Cuts lie on cycles -/

/-- The definitions being inlined, innermost first: each leads to the innermost. -/
structure Chain (definitions : Definitions) (stack : List String) : Prop where
  distinct : stack.Nodup
  known : stack ⊆ Entries.keys definitions
  leads : ∀ top ∈ stack.head?, ∀ name ∈ stack, Relation.ReflTransGen (Leads definitions) name top

private theorem Chain.nil (definitions : Definitions) : Chain definitions [] :=
  ⟨List.nodup_nil, List.nil_subset _, nofun⟩

private theorem Chain.cons {definitions : Definitions} {stack : List String} (chain : Chain definitions stack)
    {name : String} (fresh : name ∉ stack) (known : name ∈ Entries.keys definitions)
    (led : ∀ top ∈ stack.head?, Leads definitions top name) : Chain definitions (name :: stack) := by
  refine ⟨List.nodup_cons.2 ⟨fresh, chain.distinct⟩, List.cons_subset.2 ⟨known, chain.known⟩, ?_⟩
  rintro top same other member
  cases same
  rcases List.mem_cons.1 member with rfl | older
  · exact .refl
  · cases stack with
    | nil => cases older
    | cons top rest => exact (chain.leads top rfl other older).tail (led top rfl)

/-- Whether the references of a value are those of the innermost definition of a stack. -/
def ReadFrom (definitions : Definitions) (stack : List String) (v : Value) : Prop :=
  ∀ top ∈ stack.head?, ∀ ref ∈ references false v, ∀ name, refName "definitions" ref = .ok name →
    Leads definitions top name

theorem kept_onCycle {definitions : Definitions} (depth : Nat) : ∀ (stack : List String) (v c : Value)
    (kept : List String), Chain definitions stack → ReadFrom definitions stack v →
      definitions.length ≤ depth + stack.length → inlineWithin definitions depth stack v = .ok (c, kept) →
      ∀ name ∈ kept, OnCycle definitions name := by
  induction depth using Nat.strongRecOn with
  | ind depth ih =>
    intro stack v c kept chain origin room ok
    rw [inlineWithin_eq] at ok
    refine kept_of_references false v c kept (fun ref read c kept ok => ?_) ok
    obtain ⟨name, body, found, cases⟩ := replacement_cases ok
    obtain ⟨named, found⟩ := definition_eq_ok.1 found
    have key : name ∈ Entries.keys definitions := Entries.mem_keys_iff.2 ⟨body, found⟩
    obtain ⟨-, rfl, end_⟩ | ⟨less, rfl, fresh, inner⟩ := cases
    · have stacked : name ∈ stack := by
        rcases end_ with stacked | rfl
        · exact stacked
        · exact mem_of_length_le chain.distinct chain.known (by omega) key
      intro other member
      obtain rfl := List.mem_singleton.1 member
      cases stack with
      | nil => cases stacked
      | cons top rest =>
        exact Relation.TransGen.tail' (chain.leads top rfl other stacked) (origin top rfl ref read other named)
    · refine ih less (by omega) (name :: stack) body c kept ?_ ?_ ?_ inner
      · exact chain.cons fresh key fun top head => origin top head ref read name named
      · rintro top same ref read other named
        cases same
        exact ⟨body, found, ref, read, named⟩
      · rw [List.length_cons]
        omega

theorem inline_onCycle {definitions : Definitions} {schema c : Value} {kept : List String}
    (ok : inline definitions schema = .ok (c, kept)) : ∀ name ∈ kept, OnCycle definitions name :=
  kept_onCycle definitions.length [] schema c kept (Chain.nil definitions) nofun (by simp) ok

theorem body_onCycle {definitions : Definitions} {name : String} {source c : Value} {kept : List String}
    (found : definitions.lookup name = some source) (ok : inlineFrom definitions [name] source = .ok (c, kept)) :
    ∀ other ∈ kept, OnCycle definitions other := by
  have key : name ∈ Entries.keys definitions := Entries.mem_keys_iff.2 ⟨source, found⟩
  refine kept_onCycle definitions.length [name] source c kept ?_ ?_ (by omega) ok
  · exact (Chain.nil definitions).cons (by simp) key nofun
  · rintro top same ref read other named
    cases same
    exact ⟨source, found, ref, read, named⟩

/-! ### Embedded bodies -/

/-- Whether a value is the body of a definition on a cycle, inlined up to cuts in some names. -/
structure IsBody (definitions : Definitions) (names : List String) (name : String) (body : Value) : Prop where
  onCycle : OnCycle definitions name
  inlined : ∃ source kept, definitions.lookup name = some source ∧
    inlineFrom definitions [name] source = .ok (body, kept) ∧ kept ⊆ names

private theorem IsBody.mono {definitions : Definitions} {names more : List String} {name : String} {body : Value}
    (h : IsBody definitions names name body) (subset : names ⊆ more) : IsBody definitions more name body := by
  obtain ⟨onCycle, source, kept, found, ok, inside⟩ := h
  exact ⟨onCycle, source, kept, found, ok, List.Subset.trans inside subset⟩

/-- Embedded definitions that are closed: each stays where it is cut, and no other does. -/
structure Embedding (definitions : Definitions) (kept : List String) (bodies : List (String × Value)) : Prop where
  covers : kept ⊆ Entries.keys bodies
  distinct : (Entries.keys bodies).Nodup
  body : ∀ entry ∈ bodies, IsBody definitions (Entries.keys bodies) entry.1 entry.2

section Rounds

variable {definitions : Definitions} {pending : List String} {done : List (String × Value)}

theorem find?_pending_eq_none : (pending.find? fun name => (done.lookup name).isNone) = none ↔
    pending ⊆ Entries.keys done := by
  rw [List.find?_eq_none]
  refine forall₂_congr fun name _ => ?_
  rw [Entries.mem_keys_iff, Option.isNone_iff_eq_none, ← ne_eq, Option.ne_none_iff_exists']

theorem of_find?_pending {name : String} (picked : (pending.find? fun name => (done.lookup name).isNone) = some name) :
    name ∈ pending ∧ name ∉ Entries.keys done := by
  refine ⟨List.mem_of_find?_eq_some picked, fun known => ?_⟩
  obtain ⟨body, found⟩ := Entries.mem_keys_iff.1 known
  have missing := List.find?_some picked
  rw [found] at missing
  cases missing

/-- What holds in each round of embedding: pending definitions lie on cycles, and what is done are
bodies of distinct definitions that have only pending ones cut. -/
structure IsRound (definitions : Definitions) (pending : List String) (done : List (String × Value)) : Prop where
  cyclic : ∀ name ∈ pending, OnCycle definitions name
  distinct : (Entries.keys done).Nodup
  body : ∀ entry ∈ done, IsBody definitions pending entry.1 entry.2

theorem IsRound.start (cyclic : ∀ name ∈ pending, OnCycle definitions name) : IsRound definitions pending [] :=
  ⟨cyclic, List.nodup_nil, nofun⟩

/-- After as many rounds as there are definitions, no pending one is left. -/
theorem IsRound.subset (round : IsRound definitions pending done) (room : definitions.length ≤ done.length) :
    pending ⊆ Entries.keys done := by
  have known : Entries.keys done ⊆ Entries.keys definitions := by
    intro name member
    obtain ⟨entry, inside, rfl⟩ := List.mem_map.1 member
    exact Entries.mem_keys_iff.2 (round.body entry inside).onCycle.defined
  intro name member
  refine mem_of_length_le round.distinct known ?_ (Entries.mem_keys_iff.2 (round.cyclic name member).defined)
  rwa [Entries.keys, List.length_map]

theorem IsRound.closed (round : IsRound definitions pending done) (all : pending ⊆ Entries.keys done) :
    Embedding definitions pending done :=
  ⟨all, round.distinct, fun entry member => (round.body entry member).mono all⟩

theorem IsRound.next (round : IsRound definitions pending done) {name : String} (member : name ∈ pending)
    (fresh : name ∉ Entries.keys done) {source body : Value} {kept : List String}
    (found : definitions.lookup name = some source) (inlined : inlineFrom definitions [name] source = .ok (body, kept)) :
    IsRound definitions (pending ++ kept) (done ++ [(name, body)]) where
  cyclic := List.forall_mem_append.2 ⟨round.cyclic, body_onCycle found inlined⟩
  distinct := by
    rw [Entries.keys, List.map_append]
    refine List.nodup_append.2 ⟨round.distinct, List.nodup_singleton name, ?_⟩
    rintro other known b new rfl
    obtain rfl : other = name := List.mem_singleton.1 new
    exact fresh known
  body := by
    refine List.forall_mem_append.2 ⟨fun entry inside => ?_, fun entry inside => ?_⟩
    · exact (round.body entry inside).mono (List.subset_append_left _ _)
    · obtain rfl := List.mem_singleton.1 inside
      exact ⟨round.cyclic name member, source, kept, found, inlined, List.subset_append_right _ _⟩

private theorem embedWithin_closed (fuel : Nat) : ∀ (pending : List String) (done bodies : List (String × Value)),
    IsRound definitions pending done → definitions.length ≤ fuel + done.length →
      embedWithin definitions fuel pending done = .ok bodies → Embedding definitions pending bodies := by
  induction fuel with
  | zero =>
    intro pending done bodies round room ok
    cases ok
    exact round.closed (round.subset (by omega))
  | succ fuel ih =>
    intro pending done bodies round room ok
    rw [embedWithin] at ok
    split at ok
    next none_ =>
      cases ok
      exact round.closed (find?_pending_eq_none.1 none_)
    next name picked =>
      obtain ⟨member, fresh⟩ := of_find?_pending picked
      obtain ⟨⟨body, kept⟩, inlined, ok⟩ := bind_eq_ok.1 ok
      obtain ⟨source, found⟩ := (round.cyclic name member).defined
      rw [found, Option.getD_some] at inlined
      have enough : definitions.length ≤ fuel + (done ++ [(name, body)]).length := by
        rw [List.length_append, List.length_singleton]
        omega
      have grown := ih (pending ++ kept) (done ++ [(name, body)]) bodies (round.next member fresh found inlined) enough ok
      exact ⟨List.Subset.trans (List.subset_append_left _ _) grown.covers, grown.distinct, grown.body⟩

end Rounds

/-- The embedded definitions are all that stay cut, in the schema and in one another. -/
theorem embedded_closed {definitions : Definitions} {kept : List String} {bodies : List (String × Value)}
    (cyclic : ∀ name ∈ kept, OnCycle definitions name) (ok : embedded definitions kept = .ok bodies) :
    Embedding definitions kept bodies :=
  embedWithin_closed definitions.length kept [] bodies (.start cyclic) (by simp) ok

end SwaggerGate.Schema
