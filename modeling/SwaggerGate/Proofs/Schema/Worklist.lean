import SwaggerGate.Proofs.Schema.Resolution
import Mathlib.Data.Finset.Dedup
import Mathlib.Data.Finset.Erase
import Mathlib.Data.Finset.SDiff

/-! How definitions are embedded if any pending one may be next. To embed one may leave others cut
that were not before, which are pending then. Whatever the order, a run ends with the same bodies,
of all the definitions that stay cut in the schema or in one another. -/
namespace SwaggerGate.Schema

/-- What embedding has come to: the names of the definitions still to embed, of all that stayed cut
so far, and the bodies embedded. -/
structure Worklist where
  pending : Finset String
  recursive : Finset String
  embedded : List (String × Value)

/-- The start, with what stayed cut in a schema. -/
def Worklist.start (kept : List String) : Worklist := ⟨kept.toFinset, kept.toFinset, []⟩

/-- Embeds the body of a pending definition, in which some names stayed cut. -/
def Worklist.embed (work : Worklist) (name : String) (body : Value) (kept : List String) : Worklist :=
  let recursive := work.recursive ∪ kept.toFinset
  let embedded := Entries.put name body work.embedded
  ⟨work.pending.erase name ∪ (recursive \ (Entries.keys embedded).toFinset), recursive, embedded⟩

/-- Whether a step embeds one of the pending definitions. -/
def Pops (definitions : Definitions) (work : Worklist) (name : String) (next : Worklist) : Prop :=
  name ∈ work.pending ∧ ∃ source body kept, definitions.lookup name = some source ∧
    inlineFrom definitions [name] source = .ok (body, kept) ∧ next = work.embed name body kept

/-- Whether a run embeds some definitions, one after the other. -/
inductive Drains (definitions : Definitions) : Worklist → List String → Worklist → Prop
  | nil (work : Worklist) : Drains definitions work [] work
  | cons {work next last : Worklist} {name : String} {order : List String} :
    Pops definitions work name next → Drains definitions next order last →
      Drains definitions work (name :: order) last

/-- Whether a definition stays behind cuts: some names stayed cut, and it is one of them or stays
cut in the body of another that stays. -/
inductive Stays (definitions : Definitions) (kept : List String) : String → Prop
  | cut {name : String} : name ∈ kept → Stays definitions kept name
  | inside {name other : String} {source body : Value} {more : List String} :
    Stays definitions kept name → definitions.lookup name = some source →
      inlineFrom definitions [name] source = .ok (body, more) → other ∈ more → Stays definitions kept other

/-- The body that a definition that stays is embedded with. -/
def StaysWith (definitions : Definitions) (kept : List String) (name : String) (body : Value) : Prop :=
  Stays definitions kept name ∧ ∃ source more, definitions.lookup name = some source ∧
    inlineFrom definitions [name] source = .ok (body, more)

section Runs

variable {definitions : Definitions} {kept order : List String} {work next last : Worklist} {name : String}

/-! ### What a step preserves -/

/-- What holds throughout a run: just what stays cut is to be embedded, and the pending definitions
are those that are not embedded yet. -/
structure Worklist.Sound (definitions : Definitions) (kept : List String) (work : Worklist) : Prop where
  starts : ∀ name ∈ kept, name ∈ work.recursive
  stays : ∀ name ∈ work.recursive, Stays definitions kept name
  pending_iff : ∀ name, name ∈ work.pending ↔ name ∈ work.recursive ∧ name ∉ Entries.keys work.embedded
  known : ∀ name ∈ Entries.keys work.embedded, name ∈ work.recursive
  distinct : (Entries.keys work.embedded).Nodup
  bodies : ∀ entry ∈ work.embedded, ∃ source more, definitions.lookup entry.1 = some source ∧
    inlineFrom definitions [entry.1] source = .ok (entry.2, more) ∧ ∀ other ∈ more, other ∈ work.recursive

theorem Worklist.Sound.start (definitions : Definitions) (kept : List String) :
    (Worklist.start kept).Sound definitions kept where
  starts _ member := List.mem_toFinset.2 member
  stays _ member := .cut (List.mem_toFinset.1 member)
  pending_iff _ := ⟨fun member => ⟨member, List.not_mem_nil⟩, And.left⟩
  known _ member := absurd member List.not_mem_nil
  distinct := List.nodup_nil
  bodies _ member := absurd member List.not_mem_nil

/-- A step embeds its definition behind the others, and what holds goes on to hold. -/
theorem Worklist.Sound.of_pops (sound : work.Sound definitions kept) (pops : Pops definitions work name next) :
    next.Sound definitions kept ∧ Entries.keys next.embedded = Entries.keys work.embedded ++ [name] := by
  obtain ⟨pending, source, body, more, found, inlined, rfl⟩ := pops
  obtain ⟨cut, fresh⟩ := (sound.pending_iff name).1 pending
  have behind : (work.embed name body more).embedded = work.embedded ++ [(name, body)] := Entries.put_of_fresh fresh
  have keys : Entries.keys (work.embed name body more).embedded = Entries.keys work.embedded ++ [name] := by
    rw [behind, Entries.keys, List.map_append]
    rfl
  have recursive_iff (other : String) :
      other ∈ (work.embed name body more).recursive ↔ other ∈ work.recursive ∨ other ∈ more :=
    Finset.mem_union.trans (or_congr_right List.mem_toFinset)
  refine ⟨⟨?_, ?_, ?_, ?_, ?_, ?_⟩, keys⟩
  · exact fun other member => (recursive_iff other).2 (.inl (sound.starts other member))
  · intro other member
    rcases (recursive_iff other).1 member with old | new
    · exact sound.stays other old
    · exact .inside (sound.stays name cut) found inlined new
  · intro other
    rw [recursive_iff, keys, List.mem_append, List.mem_singleton]
    have split : other ∈ (work.embed name body more).pending ↔ (other ≠ name ∧ other ∈ work.pending) ∨
        ((other ∈ work.recursive ∨ other ∈ more) ∧ ¬ (other ∈ Entries.keys work.embedded ∨ other = name)) := by
      rw [Worklist.embed, Finset.mem_union, Finset.mem_erase, Finset.mem_sdiff, List.mem_toFinset]
      rw [← recursive_iff, ← List.mem_singleton, ← List.mem_append, ← keys]
      rfl
    rw [split, sound.pending_iff]
    tauto
  · intro other member
    rw [keys, List.mem_append, List.mem_singleton] at member
    rcases member with old | rfl
    · exact (recursive_iff other).2 (.inl (sound.known other old))
    · exact (recursive_iff other).2 (.inl cut)
  · rw [keys]
    exact List.nodup_append.2 ⟨sound.distinct, List.nodup_singleton name, fun a old b new same =>
      fresh (List.mem_singleton.1 new ▸ same ▸ old)⟩
  · intro entry member
    rw [behind] at member
    rcases List.mem_append.1 member with old | new
    · obtain ⟨source, others, known, ok, inside⟩ := sound.bodies entry old
      exact ⟨source, others, known, ok, fun other member => (recursive_iff other).2 (.inl (inside other member))⟩
    · obtain rfl := List.mem_singleton.1 new
      exact ⟨source, more, found, inlined, fun other member => (recursive_iff other).2 (.inr member)⟩

/-- A run embeds its definitions in order, behind those that are embedded already. -/
theorem Worklist.Sound.of_drains (sound : work.Sound definitions kept) (drains : Drains definitions work order last) :
    last.Sound definitions kept ∧ Entries.keys last.embedded = Entries.keys work.embedded ++ order := by
  induction drains with
  | nil work => exact ⟨sound, (List.append_nil _).symm⟩
  | cons pops _ ih =>
    obtain ⟨sound', keys⟩ := sound.of_pops pops
    obtain ⟨ended, keys'⟩ := ih sound'
    refine ⟨ended, ?_⟩
    rw [keys', keys, List.append_assoc]
    rfl

/-! ### What a complete run has embedded -/

theorem Worklist.Sound.complete_iff (sound : work.Sound definitions kept) :
    work.pending = ∅ ↔ work.recursive ⊆ (Entries.keys work.embedded).toFinset := by
  rw [Finset.eq_empty_iff_forall_notMem]
  refine forall_congr' fun name => ?_
  rw [sound.pending_iff, not_and_not_right, List.mem_toFinset]

/-- Where nothing is pending, just what stays is embedded. -/
theorem Worklist.Sound.mem_keys_iff (sound : work.Sound definitions kept) (complete : work.pending = ∅) (name : String) :
    name ∈ Entries.keys work.embedded ↔ Stays definitions kept name := by
  have all (name : String) (member : name ∈ work.recursive) : name ∈ Entries.keys work.embedded :=
    List.mem_toFinset.1 (sound.complete_iff.1 complete member)
  refine ⟨fun member => sound.stays name (sound.known name member), fun stays => ?_⟩
  induction stays with
  | cut member => exact all _ (sound.starts _ member)
  | inside stays found inlined member ih =>
    obtain ⟨body, embedded⟩ := Entries.mem_keys_iff.1 ih
    obtain ⟨source, more, found', inlined', inside⟩ := sound.bodies _ (Entries.mem_of_lookup_eq_some embedded)
    obtain rfl := Option.some.inj (found.symm.trans found')
    cases inlined.symm.trans inlined'
    exact all _ (inside _ member)

theorem Worklist.Sound.recursive_eq (sound : work.Sound definitions kept) (complete : work.pending = ∅) :
    work.recursive = (Entries.keys work.embedded).toFinset :=
  (sound.complete_iff.1 complete).antisymm fun name member => sound.known name (List.mem_toFinset.1 member)

theorem Worklist.Sound.lookup_iff (sound : work.Sound definitions kept) (complete : work.pending = ∅) (name : String)
    (body : Value) : work.embedded.lookup name = some body ↔ StaysWith definitions kept name body := by
  constructor
  · intro found
    have key := Entries.mem_keys_iff.2 ⟨body, found⟩
    obtain ⟨source, more, sourced, inlined, -⟩ := sound.bodies _ (Entries.mem_of_lookup_eq_some found)
    exact ⟨(sound.mem_keys_iff complete name).1 key, source, more, sourced, inlined⟩
  · rintro ⟨stays, source, more, sourced, inlined⟩
    obtain ⟨body', found⟩ := Entries.mem_keys_iff.1 ((sound.mem_keys_iff complete name).2 stays)
    obtain ⟨source', more', sourced', inlined', -⟩ := sound.bodies _ (Entries.mem_of_lookup_eq_some found)
    obtain rfl := Option.some.inj (sourced.symm.trans sourced')
    cases inlined.symm.trans inlined'
    exact found

/-! ### Runs from an inlined schema -/

section Schema

variable {schema c : Value} (ok : inline definitions schema = .ok (c, kept))
include ok

theorem Stays.reached (stays : Stays definitions kept name) : Reaches definitions schema name := by
  induction stays with
  | cut member => exact kept_reached _ _ _ _ _ ok _ member
  | inside _ found inlined member ih => exact ih.trans found (kept_reached _ _ _ _ _ inlined _ member)

theorem Stays.onCycle (stays : Stays definitions kept name) : OnCycle definitions name := by
  induction stays with
  | cut member => exact inline_onCycle ok _ member
  | inside _ found inlined member _ => exact body_onCycle found inlined _ member

/-- What stays can be embedded. -/
theorem Stays.inlines (stays : Stays definitions kept name) :
    ∃ source body more, definitions.lookup name = some source ∧
      inlineFrom definitions [name] source = .ok (body, more) := by
  have reached := stays.reached ok
  obtain ⟨source, -, found, -⟩ := inlineFrom_reached ok reached (.nil definitions)
  have isStack := (IsStack.nil definitions).cons List.not_mem_nil found
  obtain ⟨source, ⟨body, more⟩, found, inlined⟩ := inlineFrom_reached ok reached isStack
  exact ⟨source, body, more, found, inlined⟩

theorem Worklist.Sound.pops (sound : work.Sound definitions kept) (pending : name ∈ work.pending) :
    ∃ next, Pops definitions work name next := by
  obtain ⟨source, body, more, found, inlined⟩ := (sound.stays name ((sound.pending_iff name).1 pending).1).inlines ok
  exact ⟨_, pending, source, body, more, found, inlined, rfl⟩

theorem Worklist.Sound.keys_subset (sound : work.Sound definitions kept) :
    Entries.keys work.embedded ⊆ Entries.keys definitions := fun name member =>
  Entries.mem_keys_iff.2 ((sound.stays name (sound.known name member)).onCycle ok).defined

/-- A complete run has embedded bodies that are closed. -/
theorem Worklist.Sound.embedding (sound : work.Sound definitions kept) (complete : work.pending = ∅) :
    Embedding definitions kept work.embedded where
  covers name member := (sound.mem_keys_iff complete name).2 (.cut member)
  distinct := sound.distinct
  body entry member := by
    obtain ⟨source, more, found, inlined, inside⟩ := sound.bodies entry member
    have stays := sound.stays entry.1 (sound.known entry.1 (List.mem_map_of_mem member))
    refine ⟨stays.onCycle ok, source, more, found, inlined, fun other cut => ?_⟩
    exact (sound.mem_keys_iff complete other).2 (sound.stays other (inside other cut))

/-- Embedding the first name that is not embedded yet, again and again, is a run that is complete
once as many names are embedded as there are definitions. -/
theorem embedWithin_drains (fuel : Nat) : ∀ (work : Worklist) (names : List String), work.Sound definitions kept →
    (∀ name, name ∈ names ↔ name ∈ work.recursive) → definitions.length ≤ fuel + work.embedded.length →
      ∃ order last, Drains definitions work order last ∧ last.pending = ∅ ∧
        embedWithin definitions fuel names work.embedded = .ok last.embedded := by
  induction fuel with
  | zero =>
    intro work names sound same enough
    refine ⟨[], work, .nil work, sound.complete_iff.2 fun name member => List.mem_toFinset.2 ?_, rfl⟩
    have key := Entries.mem_keys_iff.2 ((sound.stays name member).onCycle ok).defined
    refine mem_of_length_le sound.distinct (sound.keys_subset ok) ?_ key
    rw [Entries.keys, List.length_map]
    omega
  | succ fuel ih =>
    intro work names sound same enough
    rw [embedWithin]
    split
    next all =>
      refine ⟨[], work, .nil work, sound.complete_iff.2 fun name member => List.mem_toFinset.2 ?_, rfl⟩
      exact find?_pending_eq_none.1 all ((same name).2 member)
    next name picked =>
      obtain ⟨named, left⟩ := of_find?_pending picked
      have member := (same name).1 named
      obtain ⟨source, body, more, found, inlined⟩ := (sound.stays name member).inlines ok
      have pops : Pops definitions work name (work.embed name body more) :=
        ⟨(sound.pending_iff name).2 ⟨member, left⟩, source, body, more, found, inlined, rfl⟩
      have behind : (work.embed name body more).embedded = work.embedded ++ [(name, body)] := Entries.put_of_fresh left
      have further := ih (work.embed name body more) (names ++ more) (sound.of_pops pops).1 ?_ ?_
      · obtain ⟨order, last, drains, complete, embedded⟩ := further
        refine ⟨name :: order, last, .cons pops drains, complete, ?_⟩
        rw [found, Option.getD_some, inlined, ← embedded, behind]
        rfl
      · intro other
        rw [List.mem_append, same, Worklist.embed, Finset.mem_union, List.mem_toFinset]
      · rw [behind, List.length_append, List.length_singleton]
        omega

end Schema

end Runs

/-- Whether inlining a schema, or the body of a definition that is to be embedded, starts with a call. -/
def Starts (definitions : Definitions) (schema : Value) (call : List String × Value) : Prop :=
  call = ([], schema) ∨ ∃ name source, definitions.lookup name = some source ∧ call = ([name], source)

theorem Starts.isStack {definitions : Definitions} {schema : Value} {call : List String × Value}
    (starts : Starts definitions schema call) : IsStack definitions call.1 := by
  obtain rfl | ⟨name, source, found, rfl⟩ := starts
  · exact .nil definitions
  · exact (IsStack.nil definitions).cons List.not_mem_nil found

/-- Where a schema can be inlined, inlining ends, with no definition on the stack twice; something
stays cut exactly if the schema reaches a cycle; and the definitions that stay cut can be embedded
in any order. Each run embeds a definition once, goes on while any is pending, and ends with the
same bodies, which are closed. -/
theorem embedding_confluent {definitions : Definitions} {schema c : Value} {kept : List String}
    (ok : inline definitions schema = .ok (c, kept)) :
    (∀ start, Starts definitions schema start →
      Acc (fun callee caller => Calls definitions caller callee) start ∧
      ∀ call, Relation.ReflTransGen (Calls definitions) start call →
        call.1.Nodup ∧ call.1.length ≤ definitions.length ∧
        inlineFrom definitions call.1 call.2 = substitute (resolved definitions call.1) false call.2) ∧
    (kept = [] ↔ ∀ name, Reaches definitions schema name → ¬ OnCycle definitions name) ∧
    ∃ bodies, embedded definitions kept = .ok bodies ∧
      (∃ order last, Drains definitions (.start kept) order last ∧ last.pending = ∅ ∧ last.embedded = bodies) ∧
      ∀ order last, Drains definitions (.start kept) order last →
        order.Nodup ∧ order.length ≤ definitions.length ∧
        (∀ name ∈ last.recursive, OnCycle definitions name) ∧
        (∀ name ∈ last.pending, ∃ next, Pops definitions last name next) ∧
        (last.pending = ∅ → last.recursive = (Entries.keys last.embedded).toFinset ∧
          Embedding definitions kept last.embedded ∧
          ∀ name, last.embedded.lookup name = bodies.lookup name) := by
  have start := Worklist.Sound.start definitions kept
  obtain ⟨order₀, last₀, drains₀, complete₀, embedded₀⟩ :=
    embedWithin_drains ok definitions.length (.start kept) kept start (fun name => List.mem_toFinset.symm)
      (Nat.le_add_right _ _)
  have sound₀ := (start.of_drains drains₀).1
  refine ⟨fun call starts => ⟨calls_end starts.isStack call.2, fun state run => ?_⟩, uncut_iff ok,
    last₀.embedded, embedded₀, ⟨order₀, last₀, drains₀, complete₀, rfl⟩, fun order last drains => ?_⟩
  · have isStack := starts.isStack.of_run run
    exact ⟨isStack.distinct, isStack.length_le, inlineFrom_eq isStack state.2⟩
  · obtain ⟨sound, keys⟩ := start.of_drains drains
    have same : Entries.keys last.embedded = order := keys
    have distinct : order.Nodup := same ▸ sound.distinct
    have fits := (distinct.subperm (same ▸ sound.keys_subset ok)).length_le
    rw [Entries.keys, List.length_map] at fits
    refine ⟨distinct, fits, fun name member => (sound.stays name member).onCycle ok,
      fun name pending => sound.pops ok pending, fun complete => ?_⟩
    refine ⟨sound.recursive_eq complete, sound.embedding ok complete, fun name => ?_⟩
    refine Option.ext fun body => ?_
    exact (sound.lookup_iff complete name body).trans (sound₀.lookup_iff complete₀ name body).symm

/-- Definitions on cycles that share parts: a leaf stays cut only where a branch is embedded. -/
def entangled : Definitions :=
  [("Tree", .record [("allOf", .list [cut "Branch", cut "Leaf"])]),
    ("Branch", .record [("allOf", .list [cut "Branch", cut "Leaf"])]), ("Leaf", .record [("not", cut "Tree")])]

/-- What is pending may grow: no leaf stays cut in a tree, and yet every run embeds it. -/
theorem embedding_confluent_entangled : ∃ c bodies,
    inline entangled (cut "Tree") = .ok (c, ["Branch", "Tree", "Tree"]) ∧
      embedded entangled ["Branch", "Tree", "Tree"] = .ok bodies ∧ Entries.keys bodies = ["Branch", "Tree", "Leaf"] ∧
      ∀ order last, Drains entangled (.start ["Branch", "Tree", "Tree"]) order last → last.pending = ∅ →
        last.recursive = {"Branch", "Tree", "Leaf"} ∧ ∀ name, last.embedded.lookup name = bodies.lookup name := by
  have computed : (inline entangled (cut "Tree")).toOption.map Prod.snd = some ["Branch", "Tree", "Tree"] ∧
      (embedded entangled ["Branch", "Tree", "Tree"]).toOption.map Entries.keys = some ["Branch", "Tree", "Leaf"] := by
    decide +kernel
  cases ok : inline entangled (cut "Tree") with
  | error failure => rw [ok] at computed; cases computed.1
  | ok inlined =>
    obtain ⟨c, kept⟩ := inlined
    rw [ok] at computed
    obtain rfl := Option.some.inj computed.1
    obtain ⟨-, -, bodies, done, -, runs⟩ := embedding_confluent ok
    rw [done] at computed
    have keys : Entries.keys bodies = ["Branch", "Tree", "Leaf"] := Option.some.inj computed.2
    refine ⟨c, bodies, rfl, done, keys, fun order last drains complete => ?_⟩
    obtain ⟨recursive_, -, same⟩ := (runs order last drains).2.2.2.2 complete
    refine ⟨Finset.ext fun name => ?_, same⟩
    rw [recursive_, List.mem_toFinset, Entries.mem_keys_iff, same name, ← Entries.mem_keys_iff, keys]
    simp

end SwaggerGate.Schema
