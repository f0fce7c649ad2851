import SwaggerGate.Proofs.Entries
import SwaggerGate.Registry
import Mathlib.Data.List.Sublists

/-! The order of registries. A registry holds the last operation of every key, sorted by
pattern; operations of one pattern stay in the order in which their keys were first given. -/
namespace SwaggerGate

@[simp] theorem patternLe_refl (a : List Bool) : patternLe a a = true := by
  induction a with
  | nil => rfl
  | cons x a ih => simp [patternLe, ih]

theorem patternLe_trans (a b c : List Bool) (ab : patternLe a b = true) (bc : patternLe b c = true) :
    patternLe a c = true := by
  induction a generalizing b c with
  | nil => rfl
  | cons x a ih =>
    cases b with
    | nil => simp [patternLe] at ab
    | cons y b =>
      cases c with
      | nil => simp [patternLe] at bc
      | cons z c =>
        have next := ih b c
        cases x <;> cases y <;> cases z <;> simp_all [patternLe]

theorem patternLe_total (a b : List Bool) : (patternLe a b || patternLe b a) = true := by
  induction a generalizing b with
  | nil => rfl
  | cons x a ih =>
    cases b with
    | nil => rfl
    | cons y b => cases x <;> cases y <;> simp_all [patternLe]

theorem patternLe_antisymm (a b : List Bool) (ab : patternLe a b = true) (ba : patternLe b a = true) : a = b := by
  induction a generalizing b with
  | nil => cases b with
    | nil => rfl
    | cons y b => simp [patternLe] at ba
  | cons x a ih =>
    cases b with
    | nil => simp [patternLe] at ab
    | cons y b =>
      have next := ih b
      cases x <;> cases y <;> simp_all [patternLe]

/-- Of two patterns of one length, the lesser has a literal where they first differ. -/
theorem first_difference_of_patternLe {a b : List Bool} (le : patternLe a b = true)
    (length : a.length = b.length) (differ : a ≠ b) :
    ∃ i, a.take i = b.take i ∧ a[i]? = some false ∧ b[i]? = some true := by
  induction a generalizing b with
  | nil => exact absurd (List.length_eq_zero_iff.1 length.symm).symm differ
  | cons x a ih =>
    cases b with
    | nil => simp at length
    | cons y b =>
      by_cases same : x = y
      · subst same
        obtain ⟨i, before, literal, wildcard⟩ := ih (b := b) (by simpa [patternLe] using le)
          (by simpa using length) (by simpa using differ)
        exact ⟨i + 1, by simp [before], by simpa using literal, by simpa using wildcard⟩
      · have order : x = false ∧ y = true := by cases x <;> cases y <;> simp_all [patternLe]
        exact ⟨0, rfl, by simp [order.1], by simp [order.2]⟩

namespace Registry

/-- The last operation of every key, in the order of first keys. -/
def latest (operations : List Operation) : List Operation :=
  (Entries.ofList (operations.map fun o => (o.key, o))).map Prod.snd

theorem operations_ofOperations (operations : List Operation) :
    (ofOperations operations).operations = (latest operations).mergeSort fun a b => patternLe a.pattern b.pattern :=
  rfl

private theorem lookup_keyed (operations : List Operation) (key : String) :
    (operations.map fun o => (o.key, o)).lookup key = operations.find? (·.key == key) := by
  induction operations with
  | nil => rfl
  | cons o rest ih =>
    rw [List.map_cons, Entries.lookup_cons_if, List.find?_cons, ih]
    by_cases same : key = o.key
    · simp [same]
    · simp [same, beq_false_of_ne (Ne.symm same)]

private theorem lookup_entries (operations : List Operation) (key : String) :
    (Entries.ofList (operations.map fun o => (o.key, o))).lookup key =
      operations.reverse.find? (·.key == key) := by
  rw [Entries.lookup_ofList, ← List.map_reverse, lookup_keyed]

/-- Entries stand under the keys of their operations. -/
private theorem keys_latest (operations : List Operation) :
    (latest operations).map Operation.key = Entries.keys (Entries.ofList (operations.map fun o => (o.key, o))) := by
  rw [latest, List.map_map]
  apply List.map_congr_left
  intro entry member
  have found : (Entries.ofList (operations.map fun o => (o.key, o))).lookup entry.1 = some entry.2 :=
    Entries.lookup_eq_some_of_mem (Entries.nodup_keys_ofList _) member
  rw [lookup_entries] at found
  simpa using List.find?_some found

theorem mem_latest (operations : List Operation) (o : Operation) :
    o ∈ latest operations ↔ operations.reverse.find? (·.key == o.key) = some o := by
  rw [← lookup_entries]
  constructor
  · intro member
    obtain ⟨⟨key, found⟩, inside, rfl⟩ := List.mem_map.1 member
    have looked := Entries.lookup_eq_some_of_mem (Entries.nodup_keys_ofList _) inside
    have same : found.key = key := by
      rw [lookup_entries] at looked
      simpa using List.find?_some looked
    rw [same, looked]
  · intro looked
    exact List.mem_map.2 ⟨_, Entries.mem_of_lookup_eq_some looked, rfl⟩

/-- A registry holds an operation if it is the last one given of its key. -/
theorem mem_ofOperations (operations : List Operation) (o : Operation) :
    o ∈ (ofOperations operations).operations ↔ operations.reverse.find? (·.key == o.key) = some o := by
  rw [operations_ofOperations, List.mem_mergeSort, mem_latest]

private theorem nodup_keys_latest (operations : List Operation) : ((latest operations).map Operation.key).Nodup := by
  rw [keys_latest]
  exact Entries.nodup_keys_ofList _

theorem nodup_keys_ofOperations (operations : List Operation) : (ofOperations operations).keys.Nodup := by
  rw [keys, operations_ofOperations]
  exact ((List.mergeSort_perm _ _).map Operation.key).nodup_iff.2 (nodup_keys_latest operations)

/-- Literal segments go before wildcards. -/
theorem pairwise_ofOperations (operations : List Operation) :
    (ofOperations operations).operations.Pairwise fun a b => patternLe a.pattern b.pattern = true := by
  have trans (a b c : Operation) : patternLe a.pattern b.pattern = true → patternLe b.pattern c.pattern = true →
      patternLe a.pattern c.pattern = true := patternLe_trans _ _ _
  have total (a b : Operation) : (patternLe a.pattern b.pattern || patternLe b.pattern a.pattern) = true :=
    patternLe_total _ _
  rw [operations_ofOperations]
  exact List.pairwise_mergeSort trans total _

private theorem order_latest (operations : List Operation) :
    (latest operations).Pairwise fun a b =>
      (operations.map Operation.key).idxOf a.key < (operations.map Operation.key).idxOf b.key := by
  have keyed : Entries.keys (operations.map fun o => (o.key, o)) = operations.map Operation.key := by
    simp [Entries.keys, Function.comp_def]
  have order := Entries.pairwise_keys_ofList (operations.map fun o => (o.key, o))
  rw [← keys_latest, List.pairwise_map, keyed] at order
  exact order

private theorem not_both_orders {α : Type} {l : List α} {a b : α} (distinct : l.Nodup)
    (forth : List.Sublist [a, b] l) (back : List.Sublist [b, a] l) : False := by
  induction l with
  | nil => simp at forth
  | cons x l ih =>
    obtain ⟨fresh, rest⟩ := List.nodup_cons.1 distinct
    cases forth with
    | cons _ forth =>
      cases back with
      | cons _ back => exact ih rest forth back
      | cons_cons _ back => exact fresh (forth.subset (by simp))
    | cons_cons _ forth =>
      cases back with
      | cons _ back => exact fresh (back.subset (by simp))
      | cons_cons _ back => exact fresh (back.subset (by simp))

/-- Sorting is stable: of two operations with one pattern, the one whose key was given first
comes first. -/
theorem insertion_order_of_same_pattern {operations : List Operation} {a b : Operation}
    (order : List.Sublist [a, b] (ofOperations operations).operations) (same : a.pattern = b.pattern) :
    (operations.map Operation.key).idxOf a.key < (operations.map Operation.key).idxOf b.key := by
  have distinct : (ofOperations operations).operations.Nodup :=
    List.Nodup.of_map Operation.key (nodup_keys_ofOperations operations)
  have apart : a ≠ b := by
    have := distinct.sublist order
    simpa using this
  have memA : a ∈ latest operations := by
    rw [mem_latest, ← mem_ofOperations]
    exact order.subset (by simp)
  have memB : b ∈ latest operations := by
    rw [mem_latest, ← mem_ofOperations]
    exact order.subset (by simp)
  -- Were `b` ahead of `a` before sorting, a stable sort would have kept it ahead.
  by_contra late
  have swapped : List.Sublist [b, a] (latest operations) := by
    obtain ⟨front, back, split⟩ := List.append_of_mem memA
    rw [split] at memB
    rcases List.mem_append.1 memB with ahead | behind
    · rw [split]
      exact (List.singleton_sublist.2 ahead).append ((List.nil_sublist _).cons_cons a)
    · have inside : b ∈ back := (List.mem_cons.1 behind).resolve_left (Ne.symm apart)
      have := order_latest operations
      rw [split, List.pairwise_append, List.pairwise_cons] at this
      exact absurd (this.2.1.1 b inside) late
  have sorted : List.Sublist [b, a] (ofOperations operations).operations :=
    List.pair_sublist_mergeSort (fun _ _ _ => patternLe_trans _ _ _) (fun _ _ => patternLe_total _ _)
      (by rw [same]; exact patternLe_refl _) swapped
  exact not_both_orders distinct order sorted

/-! ### Sorting once or twice -/

private abbrev sorted (operations : List Operation) : List Operation :=
  operations.mergeSort fun a b => patternLe a.pattern b.pattern

private theorem pairwise_sorted (operations : List Operation) :
    (sorted operations).Pairwise fun a b => patternLe a.pattern b.pattern = true :=
  List.pairwise_mergeSort (fun a b c => patternLe_trans a.pattern b.pattern c.pattern)
    (fun a b => patternLe_total a.pattern b.pattern) operations

/-- Sorting keeps the operations of one pattern in their order. -/
private theorem filter_sorted (operations : List Operation) (pattern : List Bool) :
    (sorted operations).filter (·.pattern = pattern) = operations.filter (·.pattern = pattern) := by
  have alike : (operations.filter (·.pattern = pattern)).Pairwise fun a b => patternLe a.pattern b.pattern = true := by
    refine List.pairwise_of_forall_mem_list fun a inA b inB => ?_
    have a_ := of_decide_eq_true (List.mem_filter.1 inA).2
    have b_ := of_decide_eq_true (List.mem_filter.1 inB).2
    rw [a_, b_, patternLe_refl]
  have kept : (operations.filter (·.pattern = pattern)).Sublist (sorted operations) :=
    List.sublist_mergeSort (fun a b c => patternLe_trans a.pattern b.pattern c.pattern)
      (fun a b => patternLe_total a.pattern b.pattern) alike List.filter_sublist
  have many := ((List.mergeSort_perm operations fun a b => patternLe a.pattern b.pattern).filter
    (·.pattern = pattern)).length_eq
  have again := kept.filter (·.pattern = pattern)
  rw [List.filter_filter] at again
  simp only [Bool.and_self] at again
  exact (again.eq_of_length many.symm).symm

/-- What is sorted is known by the order within each pattern. -/
private theorem eq_of_filters {operations others : List Operation}
    (sortedOnes : operations.Pairwise fun a b => patternLe a.pattern b.pattern = true)
    (sortedOthers : others.Pairwise fun a b => patternLe a.pattern b.pattern = true)
    (alike : ∀ pattern, operations.filter (·.pattern = pattern) = others.filter (·.pattern = pattern)) :
    operations = others := by
  have mem {operations others : List Operation}
      (alike : ∀ pattern, operations.filter (·.pattern = pattern) = others.filter (·.pattern = pattern))
      {o : Operation} (member : o ∈ operations) : o ∈ others := by
    have inside : o ∈ operations.filter (·.pattern = o.pattern) := List.mem_filter.2 ⟨member, by simp⟩
    rw [alike] at inside
    exact (List.mem_filter.1 inside).1
  induction operations generalizing others with
  | nil =>
    cases others with
    | nil => rfl
    | cons b others =>
      have impossible := mem (fun pattern => (alike pattern).symm) (List.mem_cons_self (a := b) (l := others))
      cases impossible
  | cons a operations ih =>
    cases others with
    | nil =>
      have impossible := mem alike (List.mem_cons_self (a := a) (l := operations))
      cases impossible
    | cons b others =>
      have first (x y : Operation) (l : List Operation) (member : x ∈ y :: l)
          (order : (y :: l).Pairwise fun a b => patternLe a.pattern b.pattern = true) :
          patternLe y.pattern x.pattern = true := by
        rcases List.mem_cons.1 member with rfl | later
        · exact patternLe_refl _
        · exact (List.pairwise_cons.1 order).1 x later
      have same : a.pattern = b.pattern := by
        apply patternLe_antisymm
        · exact first b a operations (mem (fun pattern => (alike pattern).symm) List.mem_cons_self) sortedOnes
        · exact first a b others (mem alike List.mem_cons_self) sortedOthers
      have head := alike a.pattern
      rw [List.filter_cons_of_pos (by simp), List.filter_cons_of_pos (by simp [same])] at head
      obtain rfl := (List.cons.inj head).1
      congr 1
      refine ih (List.pairwise_cons.1 sortedOnes).2 (List.pairwise_cons.1 sortedOthers).2 fun pattern => ?_
      have whole := alike pattern
      by_cases here : a.pattern = pattern
      · rw [List.filter_cons_of_pos (by simp [here]), List.filter_cons_of_pos (by simp [here])] at whole
        exact (List.cons.inj whole).2
      · rwa [List.filter_cons_of_neg (by simp [here]), List.filter_cons_of_neg (by simp [here])] at whole

private theorem sorted_append (operations others : List Operation) :
    sorted (sorted operations ++ sorted others) = sorted (operations ++ others) := by
  refine eq_of_filters (pairwise_sorted _) (pairwise_sorted _) fun pattern => ?_
  simp only [filter_sorted, List.filter_append]

private theorem latest_append {operations others : List Operation}
    (apart : ∀ a ∈ operations, ∀ b ∈ others, a.key ≠ b.key) :
    latest (operations ++ others) = latest operations ++ latest others := by
  have fresh : ∀ key ∈ Entries.keys (others.map fun o => (o.key, o)),
      key ∉ Entries.keys (operations.map fun o => (o.key, o)) := by
    intro key later earlier
    simp only [Entries.keys, List.map_map, List.mem_map, Function.comp_apply] at later earlier
    obtain ⟨b, inB, rfl⟩ := later
    obtain ⟨a, inA, same⟩ := earlier
    exact apart a inA b inB same
  simp only [latest, List.map_append, Entries.ofList_append fresh]

private theorem latest_of_nodup {operations : List Operation} (distinct : (operations.map Operation.key).Nodup) :
    latest operations = operations := by
  have keyed : Entries.keys (operations.map fun o => (o.key, o)) = operations.map Operation.key := by
    simp [Entries.keys, Function.comp_def]
  rw [latest, Entries.ofList_of_nodup (by rwa [keyed]), List.map_map]
  exact List.map_id _

/-- Operations of distinct keys are only sorted. -/
theorem perm_of_nodup {operations : List Operation} (distinct : (operations.map Operation.key).Nodup) :
    (ofOperations operations).operations.Perm operations := by
  rw [operations_ofOperations, latest_of_nodup distinct]
  exact List.mergeSort_perm _ _

/-- Two lists of operations without a common key make one registry, whether they are sorted
together or each by itself first. -/
theorem ofOperations_append {operations others : List Operation}
    (apart : ∀ a ∈ operations, ∀ b ∈ others, a.key ≠ b.key) :
    ofOperations (operations ++ others) = (ofOperations operations).merged (ofOperations others) := by
  have member {o : Operation} {l : List Operation} (inside : o ∈ (ofOperations l).operations) : o ∈ l :=
    List.mem_reverse.1 (List.mem_of_find?_eq_some ((mem_ofOperations l o).1 inside))
  have alone (l : List Operation) : latest (ofOperations l).operations = (ofOperations l).operations :=
    latest_of_nodup (nodup_keys_ofOperations l)
  have together : latest ((ofOperations operations).operations ++ (ofOperations others).operations) =
      sorted (latest operations) ++ sorted (latest others) := by
    rw [latest_append fun a inA b inB => apart a (member inA) b (member inB), alone, alone]
    rfl
  change Registry.mk (sorted (latest (operations ++ others))) = Registry.mk (sorted (latest _))
  rw [together, sorted_append, latest_append apart]

/-! ### Built registries -/

/-- Whether a registry was built from operations; none is made in another way. -/
def IsBuilt (registry : Registry) : Prop := ∃ operations, registry = ofOperations operations

/-- The operations by their keys, in the order of matching. -/
def byKey (registry : Registry) : List (String × Operation) :=
  Entries.ofList (registry.operations.map fun o => (o.key, o))

private theorem find?_eq_some_iff_of_nodup {operations : List Operation}
    (distinct : (operations.map Operation.key).Nodup) (key : String) (o : Operation) :
    operations.find? (·.key == key) = some o ↔ o ∈ operations ∧ o.key = key := by
  have keyed : Entries.keys (operations.map fun o => (o.key, o)) = operations.map Operation.key := by
    simp [Entries.keys, Function.comp_def]
  rw [← lookup_keyed]
  constructor
  · intro found
    have member := Entries.mem_of_lookup_eq_some found
    simp only [List.mem_map, Prod.mk.injEq] at member
    obtain ⟨same, inside, key, rfl⟩ := member
    exact ⟨inside, key⟩
  · rintro ⟨member, rfl⟩
    rw [← keyed] at distinct
    exact Entries.lookup_eq_some_of_mem distinct (List.mem_map.2 ⟨o, member, rfl⟩)

variable {registry : Registry}

theorem IsBuilt.empty : empty.IsBuilt := ⟨[], by simp [Registry.empty, ofOperations, Entries.ofList, Entries.putAll]⟩

theorem IsBuilt.merged (registry other : Registry) : (registry.merged other).IsBuilt := ⟨_, rfl⟩

theorem IsBuilt.nodup_keys (built : registry.IsBuilt) : registry.keys.Nodup := by
  obtain ⟨operations, rfl⟩ := built
  exact nodup_keys_ofOperations operations

theorem IsBuilt.pairwise (built : registry.IsBuilt) :
    registry.operations.Pairwise fun a b => patternLe a.pattern b.pattern = true := by
  obtain ⟨operations, rfl⟩ := built
  exact pairwise_ofOperations operations

theorem IsBuilt.get?_eq_some_iff (built : registry.IsBuilt) (key : String) (o : Operation) :
    registry.get? key = some o ↔ o ∈ registry.operations ∧ o.key = key :=
  find?_eq_some_iff_of_nodup built.nodup_keys key o

theorem IsBuilt.get?_isSome_iff (built : registry.IsBuilt) (key : String) :
    (registry.get? key).isSome = true ↔ key ∈ registry.keys := by
  rw [Option.isSome_iff_exists]
  simp only [built.get?_eq_some_iff, keys, List.mem_map]

theorem IsBuilt.find?_reverse (built : registry.IsBuilt) (key : String) :
    registry.operations.reverse.find? (·.key == key) = registry.get? key := by
  have distinct : (registry.operations.reverse.map Operation.key).Nodup := by
    rw [List.map_reverse, List.nodup_reverse]
    exact built.nodup_keys
  apply Option.ext
  intro o
  rw [find?_eq_some_iff_of_nodup distinct, List.mem_reverse, built.get?_eq_some_iff]

theorem IsBuilt.byKey_eq (built : registry.IsBuilt) :
    registry.byKey = registry.operations.map fun o => (o.key, o) := by
  apply Entries.ofList_of_nodup
  rw [Entries.keys, List.map_map]
  exact built.nodup_keys

theorem IsBuilt.lookup_byKey (built : registry.IsBuilt) (key : String) :
    registry.byKey.lookup key = registry.get? key := by
  rw [built.byKey_eq, lookup_keyed]
  rfl

theorem get?_ofOperations (operations : List Operation) (key : String) :
    (ofOperations operations).get? key = operations.reverse.find? (·.key == key) := by
  have built : (ofOperations operations).IsBuilt := ⟨operations, rfl⟩
  apply Option.ext
  intro o
  rw [built.get?_eq_some_iff, mem_ofOperations]
  constructor
  · rintro ⟨found, rfl⟩
    exact found
  · intro found
    have same : o.key = key := by simpa using List.find?_some found
    exact ⟨same ▸ found, same⟩

/-- What is laid over a registry answers first. -/
theorem IsBuilt.get?_merged (built : registry.IsBuilt) {other : Registry} (laid : other.IsBuilt) (key : String) :
    (registry.merged other).get? key = (other.get? key).or (registry.get? key) := by
  rw [Registry.merged, get?_ofOperations, List.reverse_append, List.find?_append, laid.find?_reverse,
    built.find?_reverse]

/-- Laying over a registry what it holds already leaves it as it is, in its order. -/
theorem IsBuilt.merged_of_held (built : registry.IsBuilt) {other : Registry}
    (held : ∀ o ∈ other.operations, registry.get? o.key = some o) : registry.merged other = registry := by
  have entries : Entries.ofList ((registry.operations ++ other.operations).map fun o => (o.key, o)) =
      registry.operations.map fun o => (o.key, o) := by
    have start := built.byKey_eq
    unfold byKey Entries.ofList at start
    rw [Entries.ofList, List.map_append, Entries.putAll, List.foldl_append]
    -- the registry's own entries first, then those that it holds already
    change Entries.putAll (Entries.putAll [] _) _ = _
    rw [start]
    apply Entries.putAll_of_lookup
    intro entry member
    obtain ⟨o, inside, rfl⟩ := List.mem_map.1 member
    rw [lookup_keyed]
    exact held o inside
  have settled : latest (registry.operations ++ other.operations) = registry.operations := by
    rw [latest, entries, List.map_map]
    exact List.map_id _
  have same := operations_ofOperations (registry.operations ++ other.operations)
  rw [settled, List.mergeSort_of_pairwise built.pairwise] at same
  exact congrArg Registry.mk same

theorem IsBuilt.merged_twice (built : registry.IsBuilt) {other : Registry} (laid : other.IsBuilt) :
    (registry.merged other).merged other = registry.merged other := by
  apply (IsBuilt.merged registry other).merged_of_held
  intro o member
  have own : other.get? o.key = some o := (laid.get?_eq_some_iff o.key o).2 ⟨member, rfl⟩
  rw [built.get?_merged laid, own]
  rfl

end Registry
end SwaggerGate
