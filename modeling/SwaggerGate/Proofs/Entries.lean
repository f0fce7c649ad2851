import SwaggerGate.Entries
import Mathlib.Data.List.Nodup
import Mathlib.Data.List.Induction

/-! Laws of entry lists built by writing. Every key stands once, in the order of its first
write, with the value of its last. -/
namespace SwaggerGate.Entries

variable {κ ν : Type} [DecidableEq κ]

theorem keys_put (key : κ) (value : ν) (entries : List (κ × ν)) :
    keys (put key value entries) = if key ∈ keys entries then keys entries else keys entries ++ [key] := by
  induction entries with
  | nil => simp [put, keys]
  | cons entry rest ih =>
    obtain ⟨k, v⟩ := entry
    by_cases hk : k = key
    · simp [put, keys, hk]
    · simp only [keys] at ih
      simp only [put, keys, hk, if_false, List.map_cons, ih, List.mem_cons, Ne.symm hk, false_or]
      by_cases known : key ∈ rest.map Prod.fst <;> simp [known]

theorem ofList_append_singleton (pairs : List (κ × ν)) (last : κ × ν) :
    ofList (pairs ++ [last]) = put last.1 last.2 (ofList pairs) := by
  simp [ofList, putAll, List.foldl_append]

theorem mem_keys_ofList (pairs : List (κ × ν)) (key : κ) :
    key ∈ keys (ofList pairs) ↔ key ∈ keys pairs := by
  induction pairs using List.reverseRecOn with
  | nil => simp [ofList, putAll, keys]
  | append_singleton pairs last ih =>
    rw [ofList_append_singleton, keys_put]
    have split : key ∈ keys (pairs ++ [last]) ↔ key ∈ keys pairs ∨ key = last.1 := by simp [keys]
    rw [split, ← ih]
    by_cases known : last.1 ∈ keys (ofList pairs)
    · rw [if_pos known]
      exact ⟨Or.inl, fun h => h.elim id fun e => e ▸ known⟩
    · rw [if_neg known, List.mem_append, List.mem_singleton]

theorem nodup_keys_ofList (pairs : List (κ × ν)) : (keys (ofList pairs)).Nodup := by
  induction pairs using List.reverseRecOn with
  | nil => simp [ofList, putAll, keys]
  | append_singleton pairs last ih =>
    rw [ofList_append_singleton, keys_put]
    split
    next => exact ih
    next unknown => exact List.nodup_append.2 ⟨ih, List.nodup_singleton _, fun a ha b hb => by
      rw [List.mem_singleton] at hb
      exact fun e => unknown (hb ▸ e ▸ ha)⟩

/-- Of the entries written under one key the last counts. -/
theorem lookup_ofList (pairs : List (κ × ν)) (key : κ) :
    (ofList pairs).lookup key = pairs.reverse.lookup key := by
  induction pairs using List.reverseRecOn with
  | nil => rfl
  | append_singleton pairs last ih =>
    obtain ⟨k, v⟩ := last
    rw [ofList_append_singleton, lookup_put, ih, List.reverse_append, List.reverse_singleton,
      List.singleton_append, lookup_cons_if]

/-- Keys stand in the order in which they were first written. -/
theorem pairwise_keys_ofList (pairs : List (κ × ν)) :
    (keys (ofList pairs)).Pairwise fun a b => (keys pairs).idxOf a < (keys pairs).idxOf b := by
  induction pairs using List.reverseRecOn with
  | nil => simp [ofList, putAll, keys]
  | append_singleton pairs last ih =>
    have stays {a : κ} (known : a ∈ keys (ofList pairs)) :
        (keys (pairs ++ [last])).idxOf a = (keys pairs).idxOf a := by
      have inside := (mem_keys_ofList pairs a).1 known
      simp only [keys, List.map_append] at inside ⊢
      rw [List.idxOf_append, if_pos inside]
    have earlier : (keys (ofList pairs)).Pairwise fun a b =>
        (keys (pairs ++ [last])).idxOf a < (keys (pairs ++ [last])).idxOf b :=
      ih.imp_of_mem fun ha hb lt => by rwa [stays ha, stays hb]
    rw [ofList_append_singleton, keys_put]
    split
    next => exact earlier
    next unknown =>
      refine List.pairwise_append.2 ⟨earlier, List.pairwise_singleton _ _, fun a ha b hb => ?_⟩
      obtain rfl := List.mem_singleton.1 hb
      have before := List.idxOf_lt_length_of_mem ((mem_keys_ofList pairs a).1 ha)
      have absent : last.1 ∉ keys pairs := fun h => unknown ((mem_keys_ofList pairs _).2 h)
      rw [stays ha]
      simp only [keys, List.map_append] at before absent ⊢
      rw [List.idxOf_append, if_neg absent]
      omega

theorem lookup_eq_some_of_mem {entries : List (κ × ν)} (distinct : (keys entries).Nodup) {key : κ} {value : ν}
    (member : (key, value) ∈ entries) : entries.lookup key = some value := by
  induction entries with
  | nil => simp at member
  | cons entry rest ih =>
    obtain ⟨k, v⟩ := entry
    have apart := List.nodup_cons.1 distinct
    rw [lookup_cons_if]
    rcases List.mem_cons.1 member with same | inside
    · simp_all
    · have known : key ∈ keys rest := List.mem_map.2 ⟨_, inside, rfl⟩
      have other : key ≠ k := fun e => apart.1 (e ▸ known)
      rw [if_neg other, ih apart.2 inside]

theorem mem_of_lookup_eq_some {entries : List (κ × ν)} {key : κ} {value : ν}
    (found : entries.lookup key = some value) : (key, value) ∈ entries := by
  induction entries with
  | nil => simp at found
  | cons entry rest ih =>
    obtain ⟨k, v⟩ := entry
    rw [lookup_cons_if] at found
    split at found
    next same => simp_all
    next => exact List.mem_cons_of_mem _ (ih found)

theorem mem_keys_iff {entries : List (κ × ν)} {key : κ} :
    key ∈ keys entries ↔ ∃ value, entries.lookup key = some value := by
  induction entries with
  | nil => simp [keys]
  | cons entry rest ih =>
    obtain ⟨k, v⟩ := entry
    rw [lookup_cons_if]
    by_cases same : key = k
    · simp [keys, same]
    · rw [if_neg same, ← ih]
      simp [keys, same]

theorem mem_put {key : κ} {v : ν} {fields : List (κ × ν)} {entry : κ × ν} (member : entry ∈ put key v fields) :
    entry = (key, v) ∨ entry ∈ fields := by
  induction fields with
  | nil => exact .inl (List.mem_singleton.1 member)
  | cons f rest ih =>
    rw [put] at member
    split at member
    next same =>
      rcases List.mem_cons.1 member with rfl | later
      · exact .inl (by rw [same])
      · exact .inr (List.mem_cons_of_mem _ later)
    next =>
      rcases List.mem_cons.1 member with rfl | later
      · exact .inr List.mem_cons_self
      · exact (ih later).imp id (List.mem_cons_of_mem _)

theorem mem_putAll {entries later : List (κ × ν)} {entry : κ × ν} (member : entry ∈ putAll entries later) :
    entry ∈ entries ∨ entry ∈ later := by
  induction later generalizing entries with
  | nil => exact .inl member
  | cons first rest ih =>
    rcases ih member with early | late
    · rcases mem_put early with rfl | old
      · exact .inr List.mem_cons_self
      · exact .inl old
    · exact .inr (List.mem_cons_of_mem _ late)

theorem put_of_lookup {key : κ} {value : ν} {entries : List (κ × ν)} (known : entries.lookup key = some value) :
    put key value entries = entries := by
  induction entries with
  | nil => simp at known
  | cons entry rest ih =>
    obtain ⟨k, v⟩ := entry
    rw [lookup_cons_if] at known
    by_cases same : key = k
    · rw [if_pos same] at known
      cases known
      simp [put, same]
    · rw [if_neg same] at known
      simp [put, Ne.symm same, ih known]

/-- Writing what is there already changes nothing, not even the order. -/
theorem putAll_of_lookup {entries later : List (κ × ν)}
    (known : ∀ entry ∈ later, entries.lookup entry.1 = some entry.2) : putAll entries later = entries := by
  induction later with
  | nil => rfl
  | cons entry rest ih =>
    change putAll (put entry.1 entry.2 entries) rest = entries
    rw [put_of_lookup (known entry List.mem_cons_self)]
    exact ih fun other member => known other (List.mem_cons_of_mem _ member)

theorem put_of_fresh {key : κ} {value : ν} {entries : List (κ × ν)} (fresh : key ∉ keys entries) :
    put key value entries = entries ++ [(key, value)] := by
  induction entries with
  | nil => rfl
  | cons entry rest ih =>
    obtain ⟨k, v⟩ := entry
    obtain ⟨other, fresh⟩ := not_or.1 (List.mem_cons.not.1 fresh)
    have behind := ih fresh
    simp [put, Ne.symm other, behind]

/-- Fresh keys are written behind what is there already. -/
theorem putAll_of_fresh {entries done later : List (κ × ν)}
    (fresh : ∀ key ∈ keys later, key ∉ keys entries) : putAll (entries ++ done) later = entries ++ putAll done later := by
  induction later generalizing done with
  | nil => rfl
  | cons entry rest ih =>
    have head : put entry.1 entry.2 (entries ++ done) = entries ++ put entry.1 entry.2 done := by
      have new := fresh entry.1 (by simp [keys])
      clear ih fresh
      induction entries with
      | nil => rfl
      | cons first others ih =>
        obtain ⟨other, new⟩ := not_or.1 (List.mem_cons.not.1 new)
        simp [put, Ne.symm other, ih new]
    have tail : putAll (entries ++ put entry.1 entry.2 done) rest = entries ++ putAll (put entry.1 entry.2 done) rest :=
      ih fun key later => fresh key (List.mem_cons_of_mem _ later)
    change putAll (put entry.1 entry.2 (entries ++ done)) rest = entries ++ putAll (put entry.1 entry.2 done) rest
    rw [head, tail]

theorem ofList_append {entries later : List (κ × ν)} (fresh : ∀ key ∈ keys later, key ∉ keys entries) :
    ofList (entries ++ later) = ofList entries ++ ofList later := by
  have apart : ∀ key ∈ keys later, key ∉ keys (ofList entries) := by
    intro key member
    rw [mem_keys_ofList]
    exact fresh key member
  have behind : putAll (ofList entries ++ []) later = ofList entries ++ putAll [] later := putAll_of_fresh apart
  rw [List.append_nil] at behind
  rw [ofList, putAll, List.foldl_append]
  exact behind

theorem ofList_of_nodup {pairs : List (κ × ν)} (distinct : (keys pairs).Nodup) : ofList pairs = pairs := by
  induction pairs using List.reverseRecOn with
  | nil => rfl
  | append_singleton pairs last ih =>
    rw [keys, List.map_append, List.nodup_append] at distinct
    obtain ⟨before, -, apart⟩ := distinct
    have fresh : last.1 ∉ keys pairs := fun known => apart _ known last.1 (by simp) rfl
    rw [ofList_append_singleton, ih before, put_of_fresh fresh]

theorem lookup_putAll (entries later : List (κ × ν)) (key : κ) :
    (putAll entries later).lookup key = (later.reverse.lookup key).or (entries.lookup key) := by
  induction later using List.reverseRecOn with
  | nil => rfl
  | append_singleton later last ih =>
    obtain ⟨k, v⟩ := last
    have split : putAll entries (later ++ [(k, v)]) = put k v (putAll entries later) := by
      simp [putAll, List.foldl_append]
    rw [split, lookup_put, ih, List.reverse_append, List.reverse_singleton, List.singleton_append, lookup_cons_if]
    by_cases same : key = k <;> simp [same]

/-- Reading does not depend on the order of entries whose keys are distinct. -/
theorem lookup_of_perm {entries others : List (κ × ν)} (order : others.Perm entries) (distinct : (keys entries).Nodup)
    (key : κ) : others.lookup key = entries.lookup key := by
  have reordered : (keys others).Nodup := (order.map Prod.fst).nodup_iff.2 distinct
  apply Option.ext
  intro value
  constructor
  · intro found
    exact lookup_eq_some_of_mem distinct (order.subset (mem_of_lookup_eq_some found))
  · intro found
    exact lookup_eq_some_of_mem reordered (order.symm.subset (mem_of_lookup_eq_some found))

theorem lookup_reverse_of_nodup {entries : List (κ × ν)} (distinct : (keys entries).Nodup) (key : κ) :
    entries.reverse.lookup key = entries.lookup key :=
  lookup_of_perm entries.reverse_perm distinct key

end SwaggerGate.Entries
