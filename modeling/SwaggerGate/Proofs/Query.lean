import SwaggerGate.Proofs.Split
import Mathlib.Data.List.Induction
import Mathlib.Data.List.Infix

/-! Decoded query parameters by their writes. Looking a name up finds what the last write
left that touches the place which the name addresses: a write there, above it or below it.
All other writes leave the place alone. -/
namespace SwaggerGate.Query

/-- Whether a name ends in an empty key after others, so that its values are collected. -/
def collects (name : String) : Bool := 1 < (keys name).length && (keys name).getLast? == some ""

/-- The place that a name addresses: its keys, without the empty one that asks to collect. -/
def target (name : String) : List String := if collects name then (keys name).dropLast else keys name

/-- Whether one of two places lies inside the other, or they are the same. -/
def comparable (a b : List String) : Bool := a.isPrefixOf b || b.isPrefixOf a

/-- The pairs whose writes can be seen at the place of a name. -/
def touching (name : String) (pairs : List (String × String)) : List (String × String) :=
  pairs.filter fun pair => comparable (target pair.1) (target name)

/-- The values of the longest run of last touching pairs that all collect at the place of a
name. -/
def collected (name : String) (pairs : List (String × String)) : List String :=
  ((touching name pairs).reverse.takeWhile fun pair =>
    target pair.1 == target name && collects pair.1).reverse.map Prod.snd

/-! ### Names without brackets -/

theorem keys_of_plain {name : String} (plain : '[' ∉ name.toList) : keys name = [name] := by
  rw [keys, Text.cut_of_not_mem plain]
  cases name.toList <;> rfl

/-- A name without brackets addresses the entry under it. The empty name addresses all of the
parameters. -/
theorem lookup?_of_plain {params : List (Atom × Value)} {name : String} (plain : '[' ∉ name.toList) (named : name ≠ "") :
    lookup? params name = (params.lookup (.text name)).filter (· ≠ .null) := by
  rw [lookup?, keys_of_plain plain, find?, if_neg named]
  split
  next absent => rw [absent]; rfl
  next null => rw [null]; rfl
  next v given found =>
    have present : v ≠ .null := given
    rw [found, find?, Option.filter_some, if_pos (decide_eq_true present)]

/-! ### One write -/

/-- The object under a key; anything else in its way counts as an empty one. -/
def child (fields : List (Atom × Value)) (key : String) : List (Atom × Value) :=
  match fields.lookup (.text key) with
  | some (.obj inner) => inner
  | _ => []

/-- The items of a list; anything else has none. -/
def itemsOf : Option Value → List Value
  | some (.list items) => items
  | _ => []

/-- Writes at a place what becomes of the entry there. -/
def update (become : Option Value → Value) : List String → List (Atom × Value) → List (Atom × Value)
  | [], fields => fields
  | [key], fields => Entries.put (.text key) (become (fields.lookup (.text key))) fields
  | key :: next :: more, fields =>
    Entries.put (.text key) (.obj (update become (next :: more) (child fields key))) fields

/-- What a name makes of the entry at its place. -/
def entryAfter (name value : String) (entry : Option Value) : Value :=
  if collects name then .list (itemsOf entry ++ [.text value]) else .text value

private theorem keys_ne_nil (name : String) : keys name ≠ [] := by
  unfold keys
  split <;> simp

private theorem target_of_collects {name : String} (h : collects name = true) :
    target name ≠ [] ∧ keys name = target name ++ [""] := by
  have parts := h
  simp only [collects, Bool.and_eq_true, decide_eq_true_eq, beq_iff_eq] at parts
  rw [target, if_pos h]
  refine ⟨fun empty => ?_, ?_⟩
  · have shorter : (keys name).dropLast.length = (keys name).length - 1 := List.length_dropLast
    rw [empty, List.length_nil] at shorter
    omega
  · exact (List.dropLast_append_getLast? _ parts.2).symm

theorem target_ne_nil (name : String) : target name ≠ [] := by
  by_cases h : collects name = true
  · exact (target_of_collects h).1
  · rw [target, if_neg h]
    exact keys_ne_nil name

private theorem assign_collecting (value : String) (path : List String) (ne : path ≠ [])
    (fields : List (Atom × Value)) :
    assign (path ++ [""]) value fields =
      update (fun entry => .list (itemsOf entry ++ [.text value])) path fields := by
  induction path generalizing fields with
  | nil => exact absurd rfl ne
  | cons key rest ih =>
    cases rest with
    | nil =>
      simp only [List.singleton_append, assign, and_self, if_true, update]
      rfl
    | cons next more =>
      have deeper : ¬(next = "" ∧ more ++ [""] = []) := by simp
      simp only [List.cons_append, assign, deeper, if_false, update]
      rw [← List.cons_append, ih (by simp)]
      rfl

private theorem assign_replacing (value : String) (path : List String)
    (single : 1 < path.length → path.getLast? ≠ some "") (fields : List (Atom × Value)) :
    assign path value fields = update (fun _ => .text value) path fields := by
  induction path generalizing fields with
  | nil => rfl
  | cons key rest ih =>
    cases rest with
    | nil => rfl
    | cons next more =>
      have last : (next :: more).getLast? ≠ some "" := by simpa [List.getLast?_cons_cons] using single
      have deeper : ¬(next = "" ∧ more = []) := by
        rintro ⟨rfl, rfl⟩
        exact last rfl
      simp only [assign, deeper, if_false, update]
      rw [ih fun _ => last]
      rfl

/-- A pair writes at the place of its name alone. -/
theorem assign_keys (name value : String) (fields : List (Atom × Value)) :
    assign (keys name) value fields = update (entryAfter name value) (target name) fields := by
  by_cases h : collects name = true
  · have := target_of_collects h
    rw [this.2, assign_collecting value _ this.1]
    congr 1
    funext entry
    rw [entryAfter, if_pos h]
  · have single : 1 < (keys name).length → (keys name).getLast? ≠ some "" := by
      intro several last
      exact h (by simp [collects, several, last])
    rw [assign_replacing value _ single, target, if_neg h]
    congr 1
    funext entry
    rw [entryAfter, if_neg h]

/-! ### What one write changes -/

private theorem child_put (fields : List (Atom × Value)) (key other : String) (value : Value) :
    child (Entries.put (.text key) value fields) other =
      if other = key then match value with
        | .obj inner => inner
        | _ => []
      else child fields other := by
  unfold child
  rw [Entries.lookup_put]
  by_cases same : other = key
  · subst same
    simp only [if_true]
    cases value <;> rfl
  · simp [same]

private theorem find?_last {key : String} (named : key ≠ "") (fields : List (Atom × Value)) :
    find? [key] (.obj fields) = (fields.lookup (.text key)).filter (· != .null) := by
  rw [find?, if_neg named]
  cases fields.lookup (.text key) with
  | none => rfl
  | some v => cases v with
    | atom a => cases a <;> rfl
    | _ => rfl

/-- A walk goes on in the object under its first key; whatever else stands there has no
entries, as an empty object has none. -/
private theorem find?_step {key next : String} (named : key ≠ "") (further : next ≠ "") (more : List String)
    (fields : List (Atom × Value)) :
    find? (key :: next :: more) (.obj fields) = find? (next :: more) (.obj (child fields key)) := by
  rw [find?, if_neg named, child]
  cases fields.lookup (.text key) with
  | none => simp [find?, further]
  | some v => cases v with
    | atom a => cases a <;> simp [find?, further]
    | obj inner => rfl
    | _ => simp [find?, further]

variable {become : Option Value → Value} {path : List String}

private theorem find?_update_same (given : ∀ entry, become entry ≠ .null)
    (byItems : ∀ a b, itemsOf a = itemsOf b → become a = become b) (ne : path ≠ [])
    (named : ∀ key ∈ path, key ≠ "") (fields : List (Atom × Value)) :
    find? path (.obj (update become path fields)) = some (become (find? path (.obj fields))) := by
  induction path generalizing fields with
  | nil => exact absurd rfl ne
  | cons key rest ih =>
    have first : key ≠ "" := named key (by simp)
    cases rest with
    | nil =>
      have items : itemsOf (fields.lookup (.text key)) = itemsOf (find? [key] (.obj fields)) := by
        rw [find?_last first]
        cases fields.lookup (.text key) with
        | none => rfl
        | some v => cases v with
          | atom a => cases a <;> rfl
          | _ => rfl
      rw [update, find?_last first, Entries.lookup_put, if_pos rfl, byItems _ _ items]
      simp [Option.filter, given]
    | cons next more =>
      have second : next ≠ "" := named next (by simp)
      rw [update, find?_step first second, find?_step first second, child_put, if_pos rfl]
      exact ih (by simp) (fun k member => named k (List.mem_cons_of_mem _ member)) _

private theorem find?_update_above (scalar : ∀ entry fields, become entry ≠ .obj fields) (ne : path ≠ [])
    (next : String) (more : List String) (named : ∀ key ∈ path ++ next :: more, key ≠ "")
    (fields : List (Atom × Value)) :
    find? (path ++ next :: more) (.obj (update become path fields)) = none := by
  induction path generalizing fields with
  | nil => exact absurd rfl ne
  | cons key rest ih =>
    have first : key ≠ "" := named key (by simp)
    cases rest with
    | nil =>
      have second : next ≠ "" := named next (by simp)
      rw [List.singleton_append, update, find?_step first second, child_put, if_pos rfl]
      cases h : become (fields.lookup (.text key)) with
      | obj inner => exact absurd h (scalar _ _)
      | _ => simp [find?, second]
    | cons key' rest =>
      have second : key' ≠ "" := named key' (by simp)
      rw [List.cons_append, List.cons_append, update, find?_step first second, child_put, if_pos rfl]
      exact ih (by simp) (fun k member => named k (List.mem_cons_of_mem _ member)) _

private theorem find?_update_below (ne : path ≠ []) (next : String) (more : List String)
    (named : ∀ key ∈ path, key ≠ "") (fields : List (Atom × Value)) :
    ∃ inner, find? path (.obj (update become (path ++ next :: more) fields)) = some (.obj inner) := by
  induction path generalizing fields with
  | nil => exact absurd rfl ne
  | cons key rest ih =>
    have first : key ≠ "" := named key (by simp)
    cases rest with
    | nil =>
      refine ⟨update become (next :: more) (child fields key), ?_⟩
      rw [List.singleton_append, update, find?_last first, Entries.lookup_put, if_pos rfl]
      rfl
    | cons key' rest =>
      have second : key' ≠ "" := named key' (by simp)
      obtain ⟨inner, found⟩ := ih (by simp) (fun k member => named k (List.mem_cons_of_mem _ member)) (child fields key)
      refine ⟨inner, ?_⟩
      rw [List.cons_append, List.cons_append, update, find?_step first second, child_put, if_pos rfl]
      exact found

private theorem find?_update_apart {other : List String} (apart : comparable other path = false)
    (named : ∀ key ∈ path, key ≠ "") (fields : List (Atom × Value)) :
    find? path (.obj (update become other fields)) = find? path (.obj fields) := by
  induction path generalizing other fields with
  | nil => cases other <;> simp [comparable] at apart
  | cons key rest ih =>
    cases other with
    | nil => simp [comparable] at apart
    | cons key' rest' =>
      have first : key ≠ "" := named key (by simp)
      have written : ∃ value, update become (key' :: rest') fields = Entries.put (.text key') value fields := by
        cases rest' <;> exact ⟨_, rfl⟩
      obtain ⟨value, put⟩ := written
      by_cases same : key = key'
      · subst same
        have inner : comparable rest' rest = false := by simpa [comparable] using apart
        cases rest with
        | nil => cases rest' <;> simp [comparable] at inner
        | cons next more =>
          cases rest' with
          | nil => simp [comparable] at inner
          | cons next' more' =>
            have second : next ≠ "" := named next (by simp)
            rw [update, find?_step first second, find?_step first second, child_put, if_pos rfl]
            exact ih inner (fun k member => named k (List.mem_cons_of_mem _ member)) _
      · rw [put]
        cases rest with
        | nil => rw [find?_last first, find?_last first, Entries.lookup_put, if_neg (by simp [same])]
        | cons next more =>
          have second : next ≠ "" := named next (by simp)
          rw [find?_step first second, find?_step first second, child_put, if_neg same]

/-! ### The last touching write -/

/-- What looking a name up has to find, by the last pair that touches its place. -/
def Settled (name : String) (pairs : List (String × String)) (found : Option Value) : Prop :=
  match (touching name pairs).getLast? with
  | none => found = none
  | some (last, value) =>
    (target last <+: target name ∧ target last ≠ target name → found = none) ∧
    (target name <+: target last ∧ target last ≠ target name → ∃ fields, found = some (.obj fields)) ∧
    (target last = target name → collects last = false → found = some (.text value)) ∧
    (target last = target name → collects last = true →
      found = some (.list ((collected name pairs).map .text)))

private theorem touching_append (name : String) (pairs : List (String × String)) (last : String × String) :
    touching name (pairs ++ [last]) =
      touching name pairs ++ if comparable (target last.1) (target name) then [last] else [] := by
  rw [touching, List.filter_append]
  congr 1
  by_cases h : comparable (target last.1) (target name) = true <;> simp [h]

private theorem collected_append (name : String) (pairs : List (String × String)) (last : String × String)
    (same : target last.1 = target name) (collecting : collects last.1 = true) :
    collected name (pairs ++ [last]) = collected name pairs ++ [last.2] := by
  have touches : comparable (target last.1) (target name) = true := by simp [comparable, same]
  rw [collected, collected, touching_append, if_pos touches, List.reverse_append, List.reverse_singleton,
    List.singleton_append, List.takeWhile_cons_of_pos (by simp [same, collecting])]
  simp

private theorem collected_eq_nil {name : String} {pairs : List (String × String)} {last : String × String}
    (ending : (touching name pairs).getLast? = some last)
    (other : target last.1 ≠ target name ∨ collects last.1 = false) : collected name pairs = [] := by
  have stop : (target last.1 == target name && collects last.1) = false := by
    rcases other with h | h <;> simp [h]
  rw [collected]
  cases reversed : (touching name pairs).reverse with
  | nil => rfl
  | cons first rest =>
    rw [← List.head?_reverse, reversed] at ending
    obtain rfl := Option.some.inj ending
    rw [List.takeWhile_cons_of_neg (by simp [stop])]
    rfl

/-- The list that stands at a place is the one that the last pairs have collected. -/
private theorem Settled.items {name : String} {pairs : List (String × String)} {found : Option Value}
    (settled : Settled name pairs found) : itemsOf found = (collected name pairs).map .text := by
  unfold Settled at settled
  cases ending : (touching name pairs).getLast? with
  | none =>
    rw [ending] at settled
    rw [List.getLast?_eq_none_iff] at ending
    simp only at settled
    rw [settled, collected, ending]
    rfl
  | some last =>
    rw [ending] at settled
    obtain ⟨above, below, replaced, gathered⟩ := settled
    by_cases same : target last.1 = target name
    · by_cases collecting : collects last.1 = true
      · rw [gathered same collecting]
        rfl
      · rw [Bool.not_eq_true] at collecting
        rw [replaced same collecting, collected_eq_nil ending (.inr collecting)]
        rfl
    · rw [collected_eq_nil ending (.inl same)]
      have touches : comparable (target last.1) (target name) = true := by
        have := List.mem_of_getLast? ending
        exact (List.mem_filter.1 this).2
      simp only [comparable, Bool.or_eq_true, List.isPrefixOf_iff_prefix] at touches
      rcases touches with before | after
      · rw [above ⟨before, same⟩]
        rfl
      · obtain ⟨fields, rfl⟩ := below ⟨after, same⟩
        rfl

/-- One more write settles a place anew if it touches it, and leaves it as it is if not. -/
private theorem Settled.step {name : String} (named : ∀ key ∈ target name, key ≠ "")
    {pairs : List (String × String)} {fields : List (Atom × Value)}
    (settled : Settled name pairs (find? (target name) (.obj fields))) (last : String × String) :
    Settled name (pairs ++ [last]) (find? (target name) (.obj (assign (keys last.1) last.2 fields))) := by
  rw [assign_keys]
  by_cases touches : comparable (target last.1) (target name) = true
  · have ending : (touching name (pairs ++ [last])).getLast? = some last := by
      rw [touching_append, if_pos touches, List.getLast?_append]
      rfl
    unfold Settled
    rw [ending]
    refine ⟨?_, ?_, ?_, ?_⟩
    · rintro ⟨⟨rest, extended⟩, different⟩
      cases rest with
      | nil => exact absurd (by simpa using extended) different
      | cons next more =>
        rw [← extended] at named ⊢
        refine find?_update_above (fun entry inner => ?_) (target_ne_nil _) next more named fields
        unfold entryAfter
        split <;> simp
    · rintro ⟨⟨rest, extended⟩, different⟩
      cases rest with
      | nil => exact absurd (by simpa using extended.symm) different
      | cons next more =>
        rw [← extended]
        exact find?_update_below (target_ne_nil _) next more named fields
    · intro same replacing
      rw [same, find?_update_same (fun entry => ?_) (fun a b h => ?_) (target_ne_nil _) named, entryAfter,
        if_neg (by simp [replacing])]
      · simp [entryAfter, replacing]
      · simp [entryAfter, replacing]
    · intro same collecting
      rw [same, find?_update_same (fun entry => ?_) (fun a b h => ?_) (target_ne_nil _) named, entryAfter,
        if_pos collecting, settled.items, collected_append name pairs last same collecting, List.map_append]
      · rfl
      · simp [entryAfter, collecting]
      · simp [entryAfter, collecting, h]
  · rw [Bool.not_eq_true] at touches
    rw [find?_update_apart touches named]
    have unchanged : touching name (pairs ++ [last]) = touching name pairs := by
      rw [touching_append, if_neg (by simp [touches]), List.append_nil]
    unfold Settled collected at settled ⊢
    rw [unchanged]
    exact settled

private theorem find?_append_empty (path : List String) (v : Value) : find? (path ++ [""]) v = find? path v := by
  induction path generalizing v with
  | nil => rfl
  | cons key rest ih =>
    by_cases empty : key = ""
    · simp [find?, empty]
    · cases v with
      | obj fields =>
        simp only [List.cons_append, find?, empty, if_false]
        cases fields.lookup (.text key) with
        | none => rfl
        | some inner => cases inner with
          | atom a => cases a <;> simp [ih]
          | _ => simp [ih]
      | _ => simp [find?, empty]

theorem lookup?_eq_find?_target (params : List (Atom × Value)) (name : String) :
    lookup? params name = find? (target name) (.obj params) := by
  by_cases h : collects name = true
  · rw [lookup?, (target_of_collects h).2, find?_append_empty]
  · rw [lookup?, target, if_neg h]

/-- The last pair that touches the place of a name decides what is found there. -/
theorem lookup?_decode_settled (pairs : List (String × String)) (name : String)
    (named : ∀ key ∈ target name, key ≠ "") : Settled name pairs (lookup? (decode pairs) name) := by
  rw [lookup?_eq_find?_target]
  induction pairs using List.reverseRecOn with
  | nil =>
    unfold Settled
    cases path : target name with
    | nil => exact absurd path (target_ne_nil name)
    | cons key rest =>
      have first : key ≠ "" := named key (by simp [path])
      simp [touching, decode, find?, first]
  | append_singleton pairs last ih =>
    rw [decode, List.foldl_append]
    exact ih.step named last

/-- A plain write in between starts a list anew; one to another place does not. -/
theorem lookup?_decode_settled_restarted :
    (∀ key ∈ target "filter[tag]", key ≠ "") ∧
    Settled "filter[tag]"
      [("filter[tag][]", "1"), ("filter", "x"), ("filter[tag][]", "2"), ("filter[kind]", "y"), ("filter[tag][]", "3")]
      (some (.list [.text "2", .text "3"])) := by
  have named : ∀ key ∈ target "filter[tag]", key ≠ "" := by decide
  refine ⟨named, ?_⟩
  exact lookup?_decode_settled
    [("filter[tag][]", "1"), ("filter", "x"), ("filter[tag][]", "2"), ("filter[kind]", "y"), ("filter[tag][]", "3")]
    "filter[tag]" named

end SwaggerGate.Query
