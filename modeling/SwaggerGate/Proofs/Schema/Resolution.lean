import SwaggerGate.Proofs.Schema.Embedded

/-! How inlining runs. It calls itself for each reference to a definition that is not being inlined
already. No definition is on the stack of a call twice, so calls end; where one schema can be
inlined, so can every definition that it leads to; and nothing is cut exactly if it leads to no
cycle. -/
namespace SwaggerGate.Schema

/-! ### What a run asks of references -/

section Asks

variable {replace again : String → Except CompileFailure Inlined} {refs more kept others : List String} {P Q : Prop}

/-- What a run shows that replaces some references: what stays cut of each is kept, and another run
succeeds if it can replace them all. -/
structure Asks (replace again : String → Except CompileFailure Inlined) (refs kept : List String) (P : Prop) : Prop where
  replaced : ∀ ref ∈ refs, ∃ c names, replace ref = .ok (c, names) ∧ names ⊆ kept
  succeeds : (∀ ref ∈ refs, ∃ r, again ref = .ok r) → P

theorem Asks.nothing (holds : P) : Asks replace again [] [] P :=
  ⟨fun _ member => absurd member List.not_mem_nil, fun _ => holds⟩

theorem Asks.append (first : Asks replace again refs kept P) (rest : Asks replace again more others Q) :
    Asks replace again (refs ++ more) (kept ++ others) (P ∧ Q) where
  replaced ref member := by
    rcases List.mem_append.1 member with early | late
    · obtain ⟨c, names, ok, inside⟩ := first.replaced ref early
      exact ⟨c, names, ok, List.Subset.trans inside (List.subset_append_left _ _)⟩
    · obtain ⟨c, names, ok, inside⟩ := rest.replaced ref late
      exact ⟨c, names, ok, List.Subset.trans inside (List.subset_append_right _ _)⟩
  succeeds each := ⟨first.succeeds fun ref member => each ref (List.mem_append_left _ member),
    rest.succeeds fun ref member => each ref (List.mem_append_right _ member)⟩

theorem Asks.imp (asks : Asks replace again refs kept P) (implies : P → Q) : Asks replace again refs kept Q :=
  ⟨asks.replaced, fun each => implies (asks.succeeds each)⟩

mutual
theorem asks_of_substitute : ∀ (inMap : Bool) (v c : Value) (kept : List String),
    substitute replace inMap v = .ok (c, kept) →
      Asks replace again (references inMap v) kept (∃ r, substitute again inMap v = .ok r)
  | _, .atom a, c, kept, ok => by
    cases ok
    exact .nothing ⟨_, substitute_atom again _ a⟩
  | _, .set members, c, kept, ok => by
    cases ok
    exact .nothing ⟨_, rfl⟩
  | _, .pair a b, c, kept, ok => by
    cases ok
    exact .nothing ⟨_, rfl⟩
  | _, .loop .., c, kept, ok => by cases ok
  | inMap, .list items, c, kept, ok => by
    obtain ⟨cs, inner, rfl⟩ := substitute_list_eq_ok.1 ok
    rw [references]
    exact (asks_of_items items cs _ inner).imp fun ⟨r, done⟩ => ⟨_, substitute_list_eq_ok.2 ⟨_, done, rfl⟩⟩
  | true, .obj fields, c, kept, ok => by
    obtain ⟨cs, inner, rfl⟩ := substitute_map_eq_ok.1 ok
    rw [references_map]
    exact (asks_of_schemas fields cs _ inner).imp fun ⟨r, done⟩ => ⟨_, substitute_map_eq_ok.2 ⟨_, done, rfl⟩⟩
  | false, .obj fields, c, kept, ok => by
    cases given : refText? (.obj fields) with
    | some ref =>
      rw [substitute_reference given] at ok
      rw [references_reference given, substitute_reference given]
      refine ⟨fun other member => ?_, fun each => each ref List.mem_cons_self⟩
      obtain rfl := List.mem_singleton.1 member
      exact ⟨c, kept, ok, List.Subset.refl kept⟩
    | none =>
      obtain ⟨cs, inner, rfl⟩ := (substitute_keywords_eq_ok given).1 ok
      rw [references_keywords given]
      exact (asks_of_fields fields cs _ inner).imp fun ⟨r, done⟩ => ⟨_, (substitute_keywords_eq_ok given).2 ⟨_, done, rfl⟩⟩
theorem asks_of_items : ∀ (items cs : List Value) (kept : List String),
    substituteItems replace items = .ok (cs, kept) →
      Asks replace again (referencesOfItems items) kept (∃ r, substituteItems again items = .ok r)
  | [], cs, kept, ok => by
    cases ok
    exact .nothing ⟨_, rfl⟩
  | v :: rest, cs, kept, ok => by
    obtain ⟨c, first, cs', more, head, tail, rfl, rfl⟩ := substituteItems_cons_eq_ok.1 ok
    rw [referencesOfItems]
    refine ((asks_of_substitute false v c first head).append (asks_of_items rest cs' more tail)).imp ?_
    rintro ⟨⟨r, here⟩, ⟨rs, there⟩⟩
    exact ⟨_, substituteItems_cons_eq_ok.2 ⟨_, _, _, _, here, there, rfl, rfl⟩⟩
theorem asks_of_schemas : ∀ (fields cs : List (Atom × Value)) (kept : List String),
    substituteSchemas replace fields = .ok (cs, kept) →
      Asks replace again (referencesOfSchemas fields) kept (∃ r, substituteSchemas again fields = .ok r)
  | [], cs, kept, ok => by
    cases ok
    exact .nothing ⟨_, rfl⟩
  | (name, v) :: rest, cs, kept, ok => by
    obtain ⟨c, first, cs', more, head, tail, rfl, rfl⟩ := substituteSchemas_cons_eq_ok.1 ok
    rw [referencesOfSchemas]
    refine ((asks_of_substitute false v c first head).append (asks_of_schemas rest cs' more tail)).imp ?_
    rintro ⟨⟨r, here⟩, ⟨rs, there⟩⟩
    exact ⟨_, substituteSchemas_cons_eq_ok.2 ⟨_, _, _, _, here, there, rfl, rfl⟩⟩
theorem asks_of_fields : ∀ (fields cs : List (Atom × Value)) (kept : List String),
    substituteFields replace fields = .ok (cs, kept) →
      Asks replace again (referencesOfFields fields) kept (∃ r, substituteFields again fields = .ok r)
  | [], cs, kept, ok => by
    cases ok
    exact .nothing ⟨_, rfl⟩
  | (key, v) :: rest, cs, kept, ok => by
    obtain ⟨c, first, cs', more, head, tail, rfl, rfl⟩ := substituteFields_cons_eq_ok.1 ok
    rw [referencesOfFields]
    have inner : Asks replace again (if isLiteralKey key then [] else references (isSchemaMapKey key) v) first
        (∃ c first, if isLiteralKey key then c = v ∧ first = []
          else substitute again (isSchemaMapKey key) v = .ok (c, first)) := by
      by_cases literal : isLiteralKey key = true
      · simp only [literal, if_true] at head ⊢
        rw [head.2]
        exact .nothing ⟨v, [], rfl, rfl⟩
      · simp only [if_neg literal] at head ⊢
        exact (asks_of_substitute (isSchemaMapKey key) v c first head).imp fun ⟨r, done⟩ => ⟨r.1, r.2, done⟩
    refine (inner.append (asks_of_fields rest cs' more tail)).imp ?_
    rintro ⟨⟨c, first, here⟩, ⟨rs, there⟩⟩
    exact ⟨_, substituteFields_cons_eq_ok.2 ⟨c, first, _, _, here, there, rfl, rfl⟩⟩
end

end Asks

section Calls

variable {definitions : Definitions} {stack : List String} {name : String} {schema body : Value}

/-! ### Stacks -/

/-- Whether definitions can be those that are being inlined at one time: none of them twice. -/
structure IsStack (definitions : Definitions) (stack : List String) : Prop where
  distinct : stack.Nodup
  known : stack ⊆ Entries.keys definitions

theorem IsStack.nil (definitions : Definitions) : IsStack definitions [] := ⟨List.nodup_nil, List.nil_subset _⟩

theorem IsStack.cons (isStack : IsStack definitions stack) (fresh : name ∉ stack)
    (found : definitions.lookup name = some body) : IsStack definitions (name :: stack) :=
  ⟨List.nodup_cons.2 ⟨fresh, isStack.distinct⟩,
    List.cons_subset.2 ⟨Entries.mem_keys_iff.2 ⟨body, found⟩, isStack.known⟩⟩

theorem IsStack.length_le (isStack : IsStack definitions stack) : stack.length ≤ definitions.length := by
  have fits := (isStack.distinct.subperm isStack.known).length_le
  rwa [Entries.keys, List.length_map] at fits

/-- Induction towards larger stacks, of which there are only so many. -/
theorem IsStack.induction {motive : ∀ stack, IsStack definitions stack → Prop}
    (step : ∀ stack (isStack : IsStack definitions stack), (∀ name body (found : definitions.lookup name = some body)
      (fresh : name ∉ stack), motive (name :: stack) (isStack.cons fresh found)) → motive stack isStack)
    (isStack : IsStack definitions stack) : motive stack isStack := by
  induction left : definitions.length - stack.length using Nat.strongRecOn generalizing stack with
  | ind n ih =>
    refine step stack isStack fun name body found fresh => ?_
    have larger := isStack.cons fresh found
    have fits := larger.length_le
    rw [List.length_cons] at fits
    refine ih _ ?_ larger rfl
    rw [List.length_cons]
    omega

section Replacement

variable {depth : Nat} {ref : String}

theorem replacement_of_mem (found : definition definitions ref = .ok (name, body)) (inside : name ∈ stack) :
    replacement definitions depth stack ref = .ok (cut name, [name]) := by
  rw [replacement, found]
  simp only [bind, Except.bind, List.contains_iff_mem, inside, if_true]
  rfl

/-- A definition that is not on the stack is inlined, if references may nest as deeply as there are
definitions that are not on the stack. -/
theorem replacement_of_fresh (isStack : IsStack definitions stack) (found : definition definitions ref = .ok (name, body))
    (fresh : name ∉ stack) (enough : definitions.length ≤ depth + stack.length) :
    ∃ less, depth = less + 1 ∧
      replacement definitions depth stack ref = inlineWithin definitions less (name :: stack) body := by
  cases depth with
  | zero =>
    have key : name ∈ Entries.keys definitions := Entries.mem_keys_iff.2 ⟨body, (definition_eq_ok.1 found).2⟩
    exact absurd (mem_of_length_le isStack.distinct isStack.known (by omega) key) fresh
  | succ less =>
    refine ⟨less, rfl, ?_⟩
    rw [replacement, found]
    simp only [bind, Except.bind, List.contains_iff_mem, fresh, if_false]

/-- How deeply references may nest does not matter where it is deep enough. -/
theorem inlineWithin_enough (isStack : IsStack definitions stack) : ∀ {depth other : Nat},
    definitions.length ≤ depth + stack.length → definitions.length ≤ other + stack.length →
      ∀ schema, inlineWithin definitions depth stack schema = inlineWithin definitions other stack schema := by
  induction isStack using IsStack.induction with
  | step stack isStack ih =>
    intro depth other enough enough' schema
    have same : replacement definitions depth stack = replacement definitions other stack := by
      funext ref
      cases found : definition definitions ref with
      | error e => rw [replacement, replacement, found]; rfl
      | ok entry =>
        obtain ⟨name, body⟩ := entry
        by_cases inside : name ∈ stack
        · rw [replacement_of_mem found inside, replacement_of_mem found inside]
        · obtain ⟨less, rfl, here⟩ := replacement_of_fresh isStack found inside enough
          obtain ⟨less', rfl, there⟩ := replacement_of_fresh isStack found inside enough'
          rw [here, there]
          refine ih name body (definition_eq_ok.1 found).2 inside ?_ ?_ body
          all_goals
            rw [List.length_cons]
            omega
    rw [inlineWithin_eq, inlineWithin_eq, same]

end Replacement

/-- What takes the place of a reference inside the definitions of a stack. -/
def resolved (definitions : Definitions) (stack : List String) (ref : String) : Except CompileFailure Inlined := do
  let (name, body) ← definition definitions ref
  if stack.contains name then return (cut name, [name])
  inlineFrom definitions (name :: stack) body

theorem resolved_of_mem {ref : String} (found : definition definitions ref = .ok (name, body)) (inside : name ∈ stack) :
    resolved definitions stack ref = .ok (cut name, [name]) := by
  rw [resolved, found]
  simp only [bind, Except.bind, List.contains_iff_mem, inside, if_true]
  rfl

theorem resolved_of_fresh {ref : String} (found : definition definitions ref = .ok (name, body)) (fresh : name ∉ stack) :
    resolved definitions stack ref = inlineFrom definitions (name :: stack) body := by
  rw [resolved, found]
  simp only [bind, Except.bind, List.contains_iff_mem, fresh, if_false]

/-- Inlining inlines the definition of each reference inside a stack that is larger by one, unless
it is on the stack: no reference is cut for want of depth. -/
theorem inlineFrom_eq (isStack : IsStack definitions stack) (schema : Value) :
    inlineFrom definitions stack schema = substitute (resolved definitions stack) false schema := by
  have same : replacement definitions definitions.length stack = resolved definitions stack := by
    funext ref
    cases found : definition definitions ref with
    | error e => rw [replacement, resolved, found]; rfl
    | ok entry =>
      obtain ⟨name, body⟩ := entry
      by_cases inside : name ∈ stack
      · rw [replacement_of_mem found inside, resolved_of_mem found inside]
      · obtain ⟨less, many, here⟩ := replacement_of_fresh isStack found inside (Nat.le_add_right _ _)
        rw [here, resolved_of_fresh found inside, inlineFrom]
        refine inlineWithin_enough (isStack.cons inside (definition_eq_ok.1 found).2) ?_ (Nat.le_add_right _ _) body
        rw [List.length_cons]
        omega
  rw [inlineFrom, inlineWithin_eq, same]

/-- Whether a schema refers to a definition itself. -/
def Mentions (schema : Value) (name : String) : Prop :=
  ∃ ref ∈ references false schema, refName "definitions" ref = .ok name

/-- A schema that is inlined asks of each reference to be replaced, and any other run does as well
that can replace them all. -/
theorem asks_of_inlineFrom (isStack : IsStack definitions stack) {c : Value} {kept : List String}
    (ok : inlineFrom definitions stack schema = .ok (c, kept)) (again : String → Except CompileFailure Inlined) :
    Asks (resolved definitions stack) again (references false schema) kept
      (∃ r, substitute again false schema = .ok r) := by
  rw [inlineFrom_eq isStack] at ok
  exact asks_of_substitute false schema c kept ok

/-- A definition that an inlined schema mentions is on the stack, and is cut, or is inlined itself. -/
theorem mentioned_cases (isStack : IsStack definitions stack) {c : Value} {kept : List String}
    (ok : inlineFrom definitions stack schema = .ok (c, kept)) (mentions : Mentions schema name) :
    ∃ body, definitions.lookup name = some body ∧ (name ∈ stack ∧ name ∈ kept ∨
      name ∉ stack ∧ ∃ c names, inlineFrom definitions (name :: stack) body = .ok (c, names) ∧ names ⊆ kept) := by
  obtain ⟨ref, read, named⟩ := mentions
  obtain ⟨c', names, replaced, inside⟩ := (asks_of_inlineFrom isStack ok (resolved definitions stack)).replaced ref read
  obtain ⟨⟨name', body⟩, found, -⟩ := bind_eq_ok.1 replaced
  obtain ⟨named', known⟩ := definition_eq_ok.1 found
  obtain rfl := Except.ok.inj (named.symm.trans named')
  refine ⟨body, known, ?_⟩
  by_cases stacked : name ∈ stack
  · rw [resolved_of_mem found stacked] at replaced
    cases replaced
    exact .inl ⟨stacked, inside List.mem_cons_self⟩
  · rw [resolved_of_fresh found stacked] at replaced
    exact .inr ⟨stacked, c', names, replaced, inside⟩

/-! ### Calls -/

/-- Whether inlining one schema inside a stack calls for inlining another: a definition that it
mentions, pushed on the stack if it is not there. -/
def Calls (definitions : Definitions) (caller callee : List String × Value) : Prop :=
  ∃ name body, Mentions caller.2 name ∧ definitions.lookup name = some body ∧ name ∉ caller.1 ∧
    callee = (name :: caller.1, body)

theorem IsStack.of_run {start state : List String × Value} (isStack : IsStack definitions start.1)
    (run : Relation.ReflTransGen (Calls definitions) start state) : IsStack definitions state.1 := by
  induction run with
  | refl => exact isStack
  | tail _ calls ih =>
    obtain ⟨name, body, -, found, fresh, rfl⟩ := calls
    exact ih.cons fresh found

/-- Calls end: each leaves fewer definitions that are not on the stack. -/
theorem calls_end (isStack : IsStack definitions stack) :
    ∀ schema, Acc (fun callee caller => Calls definitions caller callee) (stack, schema) := by
  induction isStack using IsStack.induction with
  | step stack isStack ih =>
    refine fun schema => .intro _ ?_
    rintro _ ⟨name, body, -, found, fresh, rfl⟩
    exact ih name body found fresh body

/-! ### The definitions that a schema reaches -/

/-- Whether a schema leads to a definition, directly or through others. -/
def Reaches (definitions : Definitions) (schema : Value) (name : String) : Prop :=
  ∃ first, Mentions schema first ∧ Relation.ReflTransGen (Leads definitions) first name

variable {other : String}

theorem Reaches.of_body (found : definitions.lookup name = some body) (mentions : Mentions schema name)
    (reaches : Reaches definitions body other) : Reaches definitions schema other := by
  obtain ⟨first, named, path⟩ := reaches
  exact ⟨name, mentions, path.head ⟨body, found, named⟩⟩

theorem Reaches.trans (reaches : Reaches definitions schema name) (found : definitions.lookup name = some body)
    (further : Reaches definitions body other) : Reaches definitions schema other := by
  obtain ⟨first, mentions, path⟩ := reaches
  obtain ⟨next, named, more⟩ := further
  exact ⟨first, mentions, (path.tail ⟨body, found, named⟩).trans more⟩

/-- A definition that is reached is mentioned, or reached from the body of one that is. -/
theorem Reaches.cases (reaches : Reaches definitions schema other) :
    ∃ first, Mentions schema first ∧
      (first = other ∨ ∃ body, definitions.lookup first = some body ∧ Reaches definitions body other) := by
  obtain ⟨first, mentions, path⟩ := reaches
  refine ⟨first, mentions, ?_⟩
  rcases Relation.ReflTransGen.cases_head path with same | ⟨next, ⟨body, found, named⟩, rest⟩
  · exact .inl same
  · exact .inr ⟨body, found, next, named, rest⟩

/-- A definition on a cycle is reached from its own body. -/
theorem OnCycle.reaches (onCycle : OnCycle definitions name) (found : definitions.lookup name = some body) :
    Reaches definitions body name := by
  obtain ⟨next, ⟨source, sourced, named⟩, path⟩ := Relation.TransGen.head'_iff.1 onCycle
  obtain rfl := Option.some.inj (found.symm.trans sourced)
  exact ⟨next, named, path⟩

/-- What stays cut in an inlined schema is reached from it. -/
theorem kept_reached (depth : Nat) : ∀ (stack : List String) (schema c : Value) (kept : List String),
    inlineWithin definitions depth stack schema = .ok (c, kept) → ∀ name ∈ kept, Reaches definitions schema name := by
  induction depth using Nat.strongRecOn with
  | ind depth ih =>
    intro stack schema c kept ok
    rw [inlineWithin_eq] at ok
    refine kept_of_references false schema c kept (fun ref read c kept ok => ?_) ok
    obtain ⟨name, body, found, cases⟩ := replacement_cases ok
    obtain ⟨named, found⟩ := definition_eq_ok.1 found
    intro other member
    obtain ⟨-, rfl, -⟩ | ⟨less, rfl, -, inner⟩ := cases
    · obtain rfl := List.mem_singleton.1 member
      exact ⟨other, ⟨ref, read, named⟩, .refl⟩
    · exact (ih less (Nat.lt_succ_self less) _ body c kept inner other member).of_body found ⟨ref, read, named⟩

/-- Where nothing is cut, no definition of the stack is reached, and none on a cycle. -/
theorem acyclic_of_uncut (isStack : IsStack definitions stack) : ∀ schema c,
    inlineFrom definitions stack schema = .ok (c, []) →
      ∀ name, Reaches definitions schema name → name ∉ stack ∧ ¬ OnCycle definitions name := by
  induction isStack using IsStack.induction with
  | step stack isStack ih =>
    intro schema c ok name reaches
    obtain ⟨first, mentions, path⟩ := reaches.cases
    obtain ⟨body, found, ⟨-, cut⟩ | ⟨fresh, c', names, inner, inside⟩⟩ := mentioned_cases isStack ok mentions
    · exact absurd cut List.not_mem_nil
    · obtain rfl := List.subset_nil.1 inside
      have further := ih first body found fresh body c' inner
      rcases path with rfl | ⟨body', found', more⟩
      · exact ⟨fresh, fun onCycle => (further first (onCycle.reaches found)).1 List.mem_cons_self⟩
      · obtain rfl := Option.some.inj (found.symm.trans found')
        obtain ⟨outside, acyclic⟩ := further name more
        exact ⟨fun member => outside (List.mem_cons_of_mem _ member), acyclic⟩

/-- Nothing is cut in a schema exactly if it reaches no cycle. -/
theorem uncut_iff {c : Value} {kept : List String} (ok : inline definitions schema = .ok (c, kept)) :
    kept = [] ↔ ∀ name, Reaches definitions schema name → ¬ OnCycle definitions name := by
  constructor
  · rintro rfl name reaches
    exact (acyclic_of_uncut (.nil definitions) schema c ok name reaches).2
  · intro acyclic
    refine List.eq_nil_iff_forall_not_mem.2 fun name member => ?_
    exact acyclic name (kept_reached _ _ _ _ _ ok name member) (inline_onCycle ok name member)

/-! ### Definitions that can be inlined -/

/-- Whether inlining a schema comes to the body of a definition. -/
def Enters (definitions : Definitions) (schema : Value) (name : String) : Prop :=
  ∃ stack body, definitions.lookup name = some body ∧
    Relation.ReflTransGen (Calls definitions) ([], schema) (name :: stack, body)

/-- What is on the stack of a call was put there by one before it. -/
theorem enters_of_mem {state : List String × Value}
    (run : Relation.ReflTransGen (Calls definitions) ([], schema) state) :
    ∀ name ∈ state.1, Enters definitions schema name := by
  induction run with
  | refl => exact fun name member => absurd member List.not_mem_nil
  | tail before calls ih =>
    obtain ⟨name, body, mentions, found, fresh, rfl⟩ := calls
    intro other member
    rcases List.mem_cons.1 member with rfl | older
    · exact ⟨_, body, found, before.tail ⟨other, body, mentions, found, fresh, rfl⟩⟩
    · exact ih other older

section Run

variable {r : Inlined} (ok : inline definitions schema = .ok r)
include ok

/-- Each call of a run that succeeds does. -/
theorem ok_of_run {state : List String × Value} (run : Relation.ReflTransGen (Calls definitions) ([], schema) state) :
    ∃ r, inlineFrom definitions state.1 state.2 = .ok r := by
  induction run with
  | refl => exact ⟨r, ok⟩
  | tail before calls ih =>
    obtain ⟨⟨c, kept⟩, done⟩ := ih
    obtain ⟨name, body, mentions, found, fresh, rfl⟩ := calls
    have isStack := (IsStack.nil definitions).of_run before
    obtain ⟨body', found', ⟨stacked, -⟩ | ⟨-, c', names, inner, -⟩⟩ := mentioned_cases isStack done mentions
    · exact absurd stacked fresh
    · obtain rfl := Option.some.inj (found.symm.trans found')
      exact ⟨_, inner⟩

theorem enters_of_mentions {state : List String × Value}
    (run : Relation.ReflTransGen (Calls definitions) ([], schema) state) (mentions : Mentions state.2 name) :
    Enters definitions schema name := by
  obtain ⟨⟨c, kept⟩, done⟩ := ok_of_run ok run
  have isStack := (IsStack.nil definitions).of_run run
  obtain ⟨body, found, ⟨stacked, -⟩ | ⟨fresh, -⟩⟩ := mentioned_cases isStack done mentions
  · exact enters_of_mem run name stacked
  · exact ⟨state.1, body, found, run.tail ⟨name, body, mentions, found, fresh, rfl⟩⟩

/-- Inlining a schema comes to all that it reaches, also where one call cuts what another inlines. -/
theorem enters_of_reaches (reaches : Reaches definitions schema name) : Enters definitions schema name := by
  obtain ⟨first, mentions, path⟩ := reaches
  induction path with
  | refl => exact enters_of_mentions ok .refl mentions
  | tail _ leads ih =>
    obtain ⟨stack, body, found, run⟩ := ih
    obtain ⟨source, sourced, named⟩ := leads
    obtain rfl := Option.some.inj (found.symm.trans sourced)
    exact enters_of_mentions ok run named

end Run

/-- Whether a value can be inlined inside some definitions. -/
def Inlinable (definitions : Definitions) (schema : Value) : Prop :=
  ∃ stack r, IsStack definitions stack ∧ inlineFrom definitions stack schema = .ok r

/-- What can be inlined inside some definitions can be inside any, if so can the definitions that
it reaches: a reference that one run cuts may be inlined in another. -/
theorem inlineFrom_of_inlinable (isStack : IsStack definitions stack) : ∀ schema, Inlinable definitions schema →
    (∀ name body, Reaches definitions schema name → definitions.lookup name = some body →
      Inlinable definitions body) → ∃ r, inlineFrom definitions stack schema = .ok r := by
  induction isStack using IsStack.induction with
  | step stack isStack ih =>
    intro schema inlinable each
    obtain ⟨before, ⟨c, kept⟩, isStack', ok⟩ := inlinable
    have asks := asks_of_inlineFrom isStack' ok (resolved definitions stack)
    rw [inlineFrom_eq isStack]
    refine asks.succeeds fun ref read => ?_
    obtain ⟨c', names, replaced, -⟩ := asks.replaced ref read
    obtain ⟨⟨name, body⟩, found, -⟩ := bind_eq_ok.1 replaced
    obtain ⟨named, known⟩ := definition_eq_ok.1 found
    have mentions : Mentions schema name := ⟨ref, read, named⟩
    by_cases stacked : name ∈ stack
    · exact ⟨_, resolved_of_mem found stacked⟩
    · rw [resolved_of_fresh found stacked]
      refine ih name body known stacked body (each name body ⟨name, mentions, .refl⟩ known) ?_
      exact fun other source reaches => each other source (reaches.of_body known mentions)

/-- The definitions that an inlined schema reaches can be inlined inside any others. -/
theorem inlineFrom_reached {r : Inlined} (ok : inline definitions schema = .ok r)
    (reaches : Reaches definitions schema name) (isStack : IsStack definitions stack) :
    ∃ source r, definitions.lookup name = some source ∧ inlineFrom definitions stack source = .ok r := by
  have each : ∀ other source, Reaches definitions schema other → definitions.lookup other = some source →
      Inlinable definitions source := by
    intro other source reached sourced
    obtain ⟨before, body, found, run⟩ := enters_of_reaches ok reached
    obtain rfl := Option.some.inj (found.symm.trans sourced)
    obtain ⟨r, done⟩ := ok_of_run ok run
    exact ⟨_, r, (IsStack.nil definitions).of_run run, done⟩
  obtain ⟨_, source, found, -⟩ := enters_of_reaches ok reaches
  obtain ⟨r, done⟩ := inlineFrom_of_inlinable isStack source (each name source reaches found)
    fun other body further => each other body (reaches.trans found further)
  exact ⟨source, r, found, done⟩

end Calls

end SwaggerGate.Schema
