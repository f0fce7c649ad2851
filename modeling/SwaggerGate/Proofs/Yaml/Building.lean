import SwaggerGate.Proofs.Yaml.Flow
import SwaggerGate.Yaml.Build

/-! Building nodes whose parts have greater numbers than they have, and none of which is merged
into another. Building them never fails, and each node that the root leads to is built of its
own content. -/
namespace SwaggerGate.Yaml.Build

/-! ### Runs that end well -/

/-- A run from a state ends well, with a result and a state of which something holds. -/
def Runs {α : Type} (b : Builder α) (p : Progress) (post : α → Progress → Prop) : Prop :=
  ∃ a q, b.run p = .ok (a, q) ∧ post a q

theorem run_bind_ok {α β : Type} {b : Builder α} {next : α → Builder β} {p q : Progress} {a : α}
    (run : b.run p = .ok (a, q)) : (b >>= next).run p = (next a).run q := by
  rw [StateT.run_bind, run]
  rfl

section Runs

variable {α β : Type} {b : Builder α} {p : Progress} {post : α → Progress → Prop}

theorem Runs.bind {next : α → Builder β} {final : β → Progress → Prop} (first : Runs b p post)
    (then_ : ∀ a q, post a q → Runs (next a) q final) : Runs (b >>= next) p final := by
  obtain ⟨a, q, run, after⟩ := first
  obtain ⟨c, r, run', after'⟩ := then_ a q after
  exact ⟨c, r, (run_bind_ok run).trans run', after'⟩

theorem Runs.pure {a : α} (after : post a p) : Runs (Pure.pure a) p post := ⟨a, p, rfl, after⟩

theorem Runs.of_run {a : α} {q : Progress} (run : b.run p = .ok (a, q)) (after : post a q) : Runs b p post :=
  ⟨a, q, run, after⟩

theorem Runs.after {next : α → Builder β} {final : β → Progress → Prop} {a : α} {q : Progress}
    (run : b.run p = .ok (a, q)) (rest : Runs (next a) q final) : Runs (b >>= next) p final := by
  obtain ⟨c, r, run', after⟩ := rest
  exact ⟨c, r, (run_bind_ok run).trans run', after⟩

theorem Runs.weaken {other : α → Progress → Prop} (first : Runs b p post) (weaker : ∀ a q, post a q → other a q) :
    Runs b p other := by
  obtain ⟨a, q, run, after⟩ := first
  exact ⟨a, q, run, weaker a q after⟩

end Runs

theorem run_node {p : Progress} {number : Nat} : (node number).run p = (match p.nodes[number]? with
    | some here => pure here
    | none => fail : Builder Node).run p := rfl

theorem node_run {p : Progress} {number : Nat} {here : Node} (known : p.nodes[number]? = some here) :
    (node number).run p = .ok (here, p) := by
  rw [run_node, known]
  rfl

theorem entriesOf_run {p : Progress} {number : Nat} {tag : Tag} {entries : List (Nat × Nat)}
    (known : p.nodes[number]? = some ⟨tag, .mapping entries⟩) : (entriesOf number).run p = .ok (entries, p) := by
  rw [entriesOf, StateT.run_bind, node_run known]
  rfl

/-! ### Nodes in order -/

inductive IsNode (nodes : Array Node) (number : Nat) : Prop
  | scalar (tag : Tag) (text : List Char) (a : Atom) (here : nodes[number]? = some ⟨tag, .scalar text⟩)
    (single : emptyOf? tag = none) (same : ∀ mark, atomOf tag mark text = .ok a)
  | sequence (items : List Nat) (here : nodes[number]? = some ⟨.seq, .sequence items⟩)
    (later : ∀ item ∈ items, number < item ∧ item < nodes.size)
  | mapping (entries : List (Nat × Nat)) (here : nodes[number]? = some ⟨.map, .mapping entries⟩)
    (later : ∀ entry ∈ entries, number < entry.1 ∧ number < entry.2 ∧ entry.2 < nodes.size)
    (keys : ∀ entry ∈ entries, ∃ text, nodes[entry.1]? = some ⟨.str, .scalar text⟩)

/-- Every node is a scalar, a list, or a mapping with texts for keys, and its parts have
greater numbers. -/
def Ordered (nodes : Array Node) : Prop := ∀ number < nodes.size, IsNode nodes number

/-- The atom of a key that is a text. -/
def keyOf (nodes : Array Node) (number : Nat) : Atom :=
  match nodes[number]? with
  | some ⟨_, .scalar text⟩ => .text (String.ofList text)
  | _ => .null

/-- The entries of a mapping whose keys are texts, each written under its key. -/
def written (nodes : Array Node) (entries : List (Nat × Nat)) (done : List (Atom × Nat)) : List (Atom × Nat) :=
  entries.foldl (fun done e => putEntry (keyOf nodes e.1) e.2 done) done

/-- What a node is, once it is filled. -/
inductive Full (nodes : Array Node) (number : Nat) : Built → Prop
  | atom (tag : Tag) (text : List Char) (a : Atom) (here : nodes[number]? = some ⟨tag, .scalar text⟩)
    (same : ∀ mark, atomOf tag mark text = .ok a) : Full nodes number (.atom a)
  | list (items : List Nat) (here : nodes[number]? = some ⟨.seq, .sequence items⟩) : Full nodes number (.list items)
  | obj (entries : List (Nat × Nat)) (here : nodes[number]? = some ⟨.map, .mapping entries⟩) :
    Full nodes number (.obj (written nodes entries []))

section Full

variable {nodes : Array Node} {number : Nat} {b : Built}

theorem Full.eq_atom {tag : Tag} {text : List Char} {a : Atom} (full : Full nodes number b)
    (here : nodes[number]? = some ⟨tag, .scalar text⟩) (value : atomOf tag 0 text = .ok a) : b = .atom a := by
  cases full with
  | atom tag text found here' same =>
    rw [here] at here'
    cases here'
    cases value.symm.trans (same 0)
    rfl
  | list items here' => exact nomatch congrArg Node.content (Option.some.inj (here.symm.trans here'))
  | obj entries here' => exact nomatch congrArg Node.content (Option.some.inj (here.symm.trans here'))

theorem Full.eq_list {items : List Nat} (full : Full nodes number b)
    (here : nodes[number]? = some ⟨.seq, .sequence items⟩) : b = .list items := by
  cases full with
  | atom tag text a here' same => rw [here] at here'; cases here'
  | list items here' => rw [here] at here'; cases here'; rfl
  | obj entries here' => rw [here] at here'; cases here'

theorem Full.eq_obj {entries : List (Nat × Nat)} (full : Full nodes number b)
    (here : nodes[number]? = some ⟨.map, .mapping entries⟩) : b = .obj (written nodes entries []) := by
  cases full with
  | atom tag text a here' same => rw [here] at here'; cases here'
  | list items here' => rw [here] at here'; cases here'
  | obj entries here' => rw [here] at here'; cases here'; rfl

end Full

/-- The nodes that a node holds other than as keys. -/
def parts (nodes : Array Node) (number : Nat) : List Nat :=
  match nodes[number]? with
  | some ⟨_, .sequence items⟩ => items
  | some ⟨_, .mapping entries⟩ => entries.map Prod.snd
  | _ => []

def IsBuilt (p : Progress) (number : Nat) : Prop := ∃ b, (p.built[number]?).join = some b

theorem join_set {built : Array (Option Built)} {number : Nat} (inside : number < built.size) (b : Built) (other : Nat) :
    ((built.set! number (some b))[other]?).join = if other = number then some b else (built[other]?).join := by
  rw [Array.set!_eq_setIfInBounds, Array.getElem?_setIfInBounds]
  by_cases same : other = number
  · subst same
    simp [inside]
  · simp [same, Ne.symm same]

/-- What holds between two steps: a node is built of its content, and so are its parts, unless
its turn is still to come in this round or in the next one. -/
structure Sound (nodes : Array Node) (least : Nat) (pending : List Nat) (p : Progress) : Prop where
  nodes_eq : p.nodes = nodes
  size_eq : p.built.size = nodes.size
  later : ∀ n ∈ p.waiting, least ≤ n
  open_ : ∀ n, n ∈ p.waiting ∨ n ∈ pending → ∃ here, nodes[n]? = some here ∧ emptyOf? here.tag ≠ none
  done : ∀ n b, (p.built[n]?).join = some b →
    (n ∈ p.waiting ∨ n ∈ pending) ∨ (Full nodes n b ∧ ∀ part ∈ parts nodes n, IsBuilt p part)

section Steps

variable {nodes : Array Node} {least number : Nat} {pending : List Nat} {p : Progress}

theorem isBuilt_set {waiting : List Nat} {b : Built} {other : Nat} (inside : number < p.built.size)
    (before : IsBuilt p other ∨ other = number) :
    IsBuilt { p with built := p.built.set! number (some b), waiting } other := by
  rw [IsBuilt, join_set inside]
  split
  next => exact ⟨b, rfl⟩
  next other => exact before.resolve_right other

/-- A node whose turn is to come may be written. -/
theorem Sound.begin {here : Node} {b : Built} (sound : Sound nodes least pending p) (late : least ≤ number)
    (known : nodes[number]? = some here) (collects : emptyOf? here.tag ≠ none) :
    Sound nodes least pending
      { p with built := p.built.set! number (some b), waiting := number :: p.waiting } := by
  have inside : number < p.built.size := sound.size_eq ▸ (Array.getElem?_eq_some_iff.1 known).1
  refine ⟨sound.nodes_eq, by simpa using sound.size_eq, fun n member => ?_, fun n member => ?_, fun n found built => ?_⟩
  · rcases List.mem_cons.1 member with rfl | member
    · exact late
    · exact sound.later n member
  · rcases member with member | member
    · rcases List.mem_cons.1 member with rfl | member
      · exact ⟨here, known, collects⟩
      · exact sound.open_ n (.inl member)
    · exact sound.open_ n (.inr member)
  · rw [join_set inside] at built
    split at built
    next same => exact .inl (.inl (same ▸ List.mem_cons_self))
    next =>
      rcases sound.done n found built with (member | member) | ⟨full, held⟩
      · exact .inl (.inl (List.mem_cons_of_mem _ member))
      · exact .inl (.inr member)
      · exact .inr ⟨full, fun part member => isBuilt_set inside (.inl (held part member))⟩

/-- A node is written for good once its parts are built; it is open no longer. -/
theorem Sound.finish {now : List Nat} {b : Built} (sound : Sound nodes least now p)
    (fewer : ∀ n ∈ pending, n ∈ now) (others : ∀ n ∈ now, n = number ∨ n ∈ pending) (inside : number < nodes.size)
    (full : Full nodes number b) (held : ∀ part ∈ parts nodes number, IsBuilt p part) :
    Sound nodes least pending { p with built := p.built.set! number (some b) } := by
  have inside : number < p.built.size := sound.size_eq ▸ inside
  refine ⟨sound.nodes_eq, by simpa using sound.size_eq, sound.later,
    fun n member => sound.open_ n (member.imp_right (fewer n)), fun n found built => ?_⟩
  rw [join_set inside] at built
  split at built
  next same =>
    cases built
    exact .inr ⟨same ▸ full, fun part member => isBuilt_set inside (.inl (held part (same ▸ member)))⟩
  next other =>
    rcases sound.done n found built with (member | member) | ⟨full, held⟩
    · exact .inl (.inl member)
    · exact .inl (.inr ((others n member).resolve_left other))
    · exact .inr ⟨full, fun part member => isBuilt_set inside (.inl (held part member))⟩

theorem build_built (built : IsBuilt p number) : (build number).run p = .ok ((), p) := by
  obtain ⟨b, built⟩ := built
  have found : (builtOf? number).run p = .ok (some b, p) := by rw [← built]; rfl
  rw [build, StateT.run_bind, found]
  rfl

theorem textOf_scalar {fuel : Nat} {tag : Tag} {text : List Char} (known : p.nodes[number]? = some ⟨tag, .scalar text⟩) :
    (textOf (fuel + 1) number).run p = .ok (text, p) := by
  rw [textOf, StateT.run_bind, node_run known]
  rfl

theorem builtOf?_new (new : ¬IsBuilt p number) : (builtOf? number).run p = .ok (none, p) := by
  rw [← Option.eq_none_iff_forall_ne_some.2 fun b built => new ⟨b, built⟩]
  rfl

theorem build_scalar {tag : Tag} {text : List Char} {a : Atom} (new : ¬IsBuilt p number)
    (known : p.nodes[number]? = some ⟨tag, .scalar text⟩) (single : emptyOf? tag = none)
    (same : ∀ mark, atomOf tag mark text = .ok a) :
    (build number).run p = .ok ((), { p with built := p.built.set! number (some (.atom a)) }) := by
  rw [build, run_bind_ok (builtOf?_new new)]
  refine (run_bind_ok (node_run known)).trans ?_
  simp only [single]
  refine (run_bind_ok (a := p) (q := p) rfl).trans ?_
  refine (run_bind_ok (textOf_scalar known)).trans ?_
  simp only [same]
  rfl

theorem build_collection {here : Node} {empty : Built} (new : ¬IsBuilt p number)
    (known : p.nodes[number]? = some here) (collects : emptyOf? here.tag = some empty) :
    (build number).run p =
      .ok ((), { p with built := p.built.set! number (some empty), waiting := number :: p.waiting }) := by
  rw [build, run_bind_ok (builtOf?_new new)]
  refine (run_bind_ok (node_run known)).trans ?_
  simp only [collects]
  rfl

/-- What is built stays built, and more may be. -/
def Grows (p q : Progress) : Prop := ∀ n, IsBuilt p n → IsBuilt q n

theorem build_runs (ordered : Ordered nodes) (sound : Sound nodes least pending p) (late : least ≤ number)
    (inside : number < nodes.size) :
    Runs (build number) p fun _ q => Sound nodes least pending q ∧ Grows p q ∧ IsBuilt q number := by
  by_cases old : IsBuilt p number
  · exact .of_run (build_built old) ⟨sound, fun _ built => built, old⟩
  have within : number < p.built.size := sound.size_eq ▸ inside
  have begun {here : Node} {empty : Built} (known : nodes[number]? = some here)
      (collects : emptyOf? here.tag = some empty) :
      Runs (build number) p fun _ q => Sound nodes least pending q ∧ Grows p q ∧ IsBuilt q number :=
    .of_run (build_collection old (sound.nodes_eq ▸ known) collects)
      ⟨sound.begin late known (by simp [collects]), fun _ built => isBuilt_set within (.inl built),
        isBuilt_set within (.inr rfl)⟩
  cases ordered number inside with
  | scalar tag text a here single same =>
    refine .of_run (build_scalar old (sound.nodes_eq ▸ here) single same) ⟨?_, fun _ built => ?_, ?_⟩
    · exact sound.finish (fun _ member => member) (fun _ member => .inr member) inside (.atom tag text a here same)
        fun part member => by rw [parts, here] at member; exact nomatch member
    · exact isBuilt_set within (.inl built)
    · exact isBuilt_set within (.inr rfl)
  | sequence items here later => exact begun here rfl
  | mapping entries here later keys => exact begun here rfl

theorem forM_build_runs (ordered : Ordered nodes) {items : List Nat} (inside : ∀ item ∈ items, least ≤ item ∧ item < nodes.size)
    (sound : Sound nodes least pending p) :
    Runs (items.forM build) p fun _ q =>
      Sound nodes least pending q ∧ Grows p q ∧ ∀ item ∈ items, IsBuilt q item := by
  induction items generalizing p with
  | nil => exact .pure ⟨sound, fun _ built => built, fun _ member => (nomatch member)⟩
  | cons item items ih =>
    rw [List.forM]
    obtain ⟨late, small⟩ := inside item List.mem_cons_self
    refine (build_runs ordered sound late small).bind fun _ q ⟨sound, grows, built⟩ => ?_
    refine (ih (fun i member => inside i (List.mem_cons_of_mem _ member)) sound).weaken
      fun _ r ⟨sound, grows', all⟩ => ⟨sound, fun n built => grows' n (grows n built), fun i member => ?_⟩
    rcases List.mem_cons.1 member with rfl | member
    · exact grows' _ built
    · exact all i member

/-- Keys that are texts. -/
def TextKeys (nodes : Array Node) (entries : List (Nat × Nat)) : Prop :=
  ∀ entry ∈ entries, ∃ text, nodes[entry.1]? = some ⟨.str, .scalar text⟩

theorem mapM_tags {entries : List (Nat × Nat)} (keys : TextKeys p.nodes entries) :
    (entries.mapM fun e => do return ((← node e.1).tag, e) : Builder _).run p = .ok (entries.map (Prod.mk .str), p) := by
  induction entries with
  | nil => rfl
  | cons entry entries ih =>
    obtain ⟨text, known⟩ := keys entry List.mem_cons_self
    rw [List.mapM_cons]
    have first : (do return ((← node entry.1).tag, entry) : Builder _).run p = .ok ((.str, entry), p) := by
      rw [run_bind_ok (node_run known)]
      rfl
    rw [run_bind_ok first, run_bind_ok (ih fun e member => keys e (List.mem_cons_of_mem _ member))]
    rfl

/-- Without merge keys and value keys there is nothing to do. -/
theorem flatten_run {fuel : Nat} {tag : Tag} {entries : List (Nat × Nat)}
    (known : p.nodes[number]? = some ⟨tag, .mapping entries⟩) (keys : TextKeys p.nodes entries) :
    (flatten (fuel + 1) number).run p = .ok ((), p) := by
  rw [flatten, run_bind_ok (entriesOf_run known), run_bind_ok (mapM_tags keys)]
  have none_ : (entries.map (Prod.mk Tag.str)).filter (fun e => e.1 = .merge) = [] := by
    rw [List.filter_eq_nil_iff]
    intro e member
    obtain ⟨entry, -, rfl⟩ := List.mem_map.1 member
    exact Bool.false_ne_true
  simp only [List.forIn_map, reduceCtorEq, if_false, List.forIn_pure_yield_eq_foldl, pure_bind, none_]
  rfl

theorem builtOf?_key {key : Nat} {text : List Char} (sound : Sound nodes least pending p) (built : IsBuilt p key)
    (known : nodes[key]? = some ⟨.str, .scalar text⟩) :
    (builtOf? key).run p = .ok (some (.atom (keyOf nodes key)), p) := by
  obtain ⟨b, built⟩ := built
  have whole : Full nodes key b := by
    rcases sound.done key b built with waiting | ⟨full, -⟩
    · obtain ⟨here, known', collects⟩ := sound.open_ key waiting
      rw [known] at known'
      cases known'
      exact absurd rfl collects
    · exact full
  have atom : b = .atom (keyOf nodes key) := by
    rw [keyOf, known]
    exact whole.eq_atom known rfl
  rw [← atom, ← built]
  rfl

theorem foldlM_fields_runs (ordered : Ordered nodes) {entries : List (Nat × Nat)} {done : List (Atom × Nat)}
    (keys : TextKeys nodes entries)
    (inside : ∀ e ∈ entries, (least ≤ e.1 ∧ e.1 < nodes.size) ∧ least ≤ e.2 ∧ e.2 < nodes.size)
    (sound : Sound nodes least pending p) :
    Runs (entries.foldlM (fun done (e : Nat × Nat) => do
        build e.1
        match ← builtOf? e.1 with
        | some (.atom a) =>
          build e.2
          return putEntry a e.2 done
        | _ => fail) done) p fun fields q =>
      fields = written nodes entries done ∧ Sound nodes least pending q ∧ Grows p q ∧ ∀ e ∈ entries, IsBuilt q e.2 := by
  induction entries generalizing p done with
  | nil => exact .pure ⟨rfl, sound, fun _ built => built, fun _ member => (nomatch member)⟩
  | cons entry entries ih =>
    obtain ⟨key, value⟩ := entry
    obtain ⟨⟨lateKey, smallKey⟩, late, small⟩ := inside _ List.mem_cons_self
    obtain ⟨text, known⟩ := keys _ List.mem_cons_self
    rw [List.foldlM_cons]
    have head : Runs (do
        build key
        match ← builtOf? key with
        | some (.atom a) =>
          build value
          return putEntry a value done
        | _ => fail) p fun fields q =>
        fields = putEntry (keyOf nodes key) value done ∧ Sound nodes least pending q ∧ Grows p q ∧ IsBuilt q value := by
      refine (build_runs ordered sound lateKey smallKey).bind fun _ q ⟨sound, grows, built⟩ => ?_
      refine .after (builtOf?_key sound built known) ?_
      refine (build_runs ordered sound late small).bind fun _ r ⟨sound, grows', built⟩ => ?_
      exact .pure ⟨rfl, sound, fun n built => grows' n (grows n built), built⟩
    refine head.bind fun fields q ⟨same, sound, grows, built⟩ => ?_
    subst same
    refine (ih (fun e member => keys e (List.mem_cons_of_mem _ member))
      (fun e member => inside e (List.mem_cons_of_mem _ member)) sound).weaken fun fields r ⟨same, sound, grows', all⟩ =>
        ⟨same, sound, fun n built => grows' n (grows n built), fun e member => ?_⟩
    rcases List.mem_cons.1 member with rfl | member
    · exact grows' _ built
    · exact all e member

/-- A collection is filled once its turn comes. -/
theorem fill_runs (ordered : Ordered nodes) (sound : Sound nodes least (number :: pending) p) (late : least ≤ number + 1) :
    Runs (fill number) p fun _ q => Sound nodes least pending q ∧ Grows p q := by
  obtain ⟨here, known, collects⟩ := sound.open_ number (.inr List.mem_cons_self)
  have inside : number < nodes.size := (Array.getElem?_eq_some_iff.1 known).1
  have finish {q : Progress} {b : Built} (sound : Sound nodes least (number :: pending) q) (grows : Grows p q)
      (full : Full nodes number b) (held : ∀ part ∈ parts nodes number, IsBuilt q part) :
      Runs (setBuilt number b) q fun _ q => Sound nodes least pending q ∧ Grows p q :=
    .of_run rfl ⟨sound.finish (fun _ member => List.mem_cons_of_mem _ member) (fun _ member => List.mem_cons.1 member)
      inside full held, fun n built => isBuilt_set (sound.size_eq ▸ inside) (.inl (grows n built))⟩
  cases ordered number inside with
  | scalar tag text a here' single same =>
    rw [known] at here'
    cases here'
    exact absurd single collects
  | sequence items here' later =>
    refine .after (node_run (sound.nodes_eq ▸ here')) ?_
    refine (forM_build_runs ordered (fun i member => ?_) sound).bind fun _ q ⟨sound, grows, built⟩ =>
      finish sound grows (.list items here') fun part member => built part (by rwa [parts, here'] at member)
    exact ⟨Nat.le_trans late (later i member).1, (later i member).2⟩
  | mapping entries here' later keys =>
    have here := sound.nodes_eq ▸ here'
    refine .after (node_run here) ?_
    have fields_ : Runs (fields number) p fun fields q => fields = written nodes entries [] ∧
        Sound nodes least (number :: pending) q ∧ Grows p q ∧ ∀ e ∈ entries, IsBuilt q e.2 := by
      refine .after (a := p) (q := p) rfl ?_
      refine .after (flatten_run here (sound.nodes_eq.symm ▸ keys)) ?_
      refine .after (entriesOf_run here) ?_
      refine foldlM_fields_runs ordered keys (fun e member => ?_) sound
      obtain ⟨first, second, small⟩ := later e member
      obtain ⟨text, key⟩ := keys e member
      exact ⟨⟨Nat.le_trans late first, (Array.getElem?_eq_some_iff.1 key).1⟩, Nat.le_trans late second, small⟩
    refine fields_.bind fun fields q ⟨same, sound, grows, built⟩ => ?_
    subst same
    refine finish sound grows (.obj entries here') fun part member => ?_
    rw [parts, here'] at member
    obtain ⟨e, inside, rfl⟩ := List.mem_map.1 member
    exact built e inside

theorem forM_fill_runs (ordered : Ordered nodes) {round : List Nat} (sound : Sound nodes least round p)
    (late : ∀ n ∈ round, least ≤ n + 1) :
    Runs (round.forM fill) p fun _ q => Sound nodes least [] q ∧ Grows p q := by
  induction round generalizing p with
  | nil => exact .pure ⟨sound, fun _ built => built⟩
  | cons number round ih =>
    rw [List.forM]
    refine (fill_runs ordered sound (late number List.mem_cons_self)).bind fun _ q ⟨sound, grows⟩ => ?_
    exact (ih sound fun n member => late n (List.mem_cons_of_mem _ member)).weaken
      fun _ r ⟨sound, grows'⟩ => ⟨sound, fun n built => grows' n (grows n built)⟩

/-- A round moves the least number that waits, so the numbers of the nodes bound the rounds. -/
theorem fillWaiting_runs (ordered : Ordered nodes) {rounds : Nat} (sound : Sound nodes least [] p)
    (some_ : 0 < rounds) (enough : nodes.size + 1 ≤ least + rounds) :
    Runs (fillWaiting rounds) p fun _ q => (∃ least, Sound nodes least [] q) ∧ q.waiting = [] ∧ Grows p q := by
  induction rounds generalizing least p with
  | zero => exact absurd some_ (Nat.lt_irrefl 0)
  | succ rounds ih =>
    refine .after (a := p) (q := p) rfl ?_
    cases waits : p.waiting with
    | nil => exact .pure ⟨⟨least, sound⟩, waits, fun _ built => built⟩
    | cons first others =>
      have here : first ∈ p.waiting := waits ▸ List.mem_cons_self
      obtain ⟨node, known, -⟩ := sound.open_ first (.inl here)
      have small := (Array.getElem?_eq_some_iff.1 known).1
      have late := sound.later first here
      have begun : Sound nodes (least + 1) p.waiting.reverse { p with waiting := [] } :=
        ⟨sound.nodes_eq, sound.size_eq, fun _ member => (nomatch member),
          fun n member => sound.open_ n (.inl (by simpa using member)),
          fun n b built => (sound.done n b built).imp_left fun member => .inr (by simpa using member)⟩
      simp only []
      rw [← waits]
      refine .after (a := PUnit.unit) (q := { p with waiting := [] }) rfl ?_
      refine (forM_fill_runs ordered begun fun n member =>
        Nat.succ_le_succ (sound.later n (by simpa using member))).bind fun _ q ⟨sound, grows⟩ => ?_
      exact (ih sound (by omega) (by omega)).weaken
        fun _ r ⟨sound, still, grows'⟩ => ⟨sound, still, fun n built => grows' n (grows n built)⟩

end Steps

/-- Nodes in order are built, each of its own content and with the nodes that it holds. -/
theorem run_full {nodes : Array Node} (ordered : Ordered nodes) {root : Nat} (inside : root < nodes.size) :
    ∃ built, run ⟨nodes, root⟩ = .ok built ∧ (∃ b, (built[root]?).join = some b) ∧
      ∀ n b, (built[n]?).join = some b → Full nodes n b ∧ ∀ part ∈ parts nodes n, ∃ c, (built[part]?).join = some c := by
  let p : Progress := { nodes, built := Array.replicate nodes.size none }
  have start : Sound nodes 0 [] p := by
    refine ⟨rfl, Array.size_replicate, fun _ member => (nomatch member), fun n member => ?_, fun n b built => ?_⟩
    · rcases member with member | member <;> exact nomatch member
    · have empty : (p.built[n]?).join = none := by
        rw [Array.getElem?_replicate]
        split <;> rfl
      rw [empty] at built
      cases built
  have runs : Runs (do build root; fillWaiting (nodes.size + 1)) p fun _ q =>
      (∃ least, Sound nodes least [] q) ∧ q.waiting = [] ∧ IsBuilt q root := by
    refine (build_runs ordered start (Nat.zero_le _) inside).bind fun _ q ⟨sound, _, built⟩ => ?_
    exact (fillWaiting_runs ordered sound (Nat.succ_pos _) (by omega)).weaken
      fun _ r ⟨sound, still, grows⟩ => ⟨sound, still, grows root built⟩
  obtain ⟨⟨⟩, q, run_, ⟨least, sound⟩, still, built⟩ := runs
  refine ⟨q.built, ?_, built, fun n b found => ?_⟩
  · rw [run, run_]
    rfl
  · rcases sound.done n b found with (member | member) | done
    · exact nomatch still ▸ member
    · exact nomatch member
    · exact done

end SwaggerGate.Yaml.Build
