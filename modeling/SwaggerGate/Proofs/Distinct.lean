import SwaggerGate.Value.Distinct
import Mathlib.Data.List.Lex
import Mathlib.Data.List.Nodup

/-! Distinctness of texts. The order of texts by code points is total, so that putting texts in
order succeeds; what is in order and has no equal neighbours has no member twice. -/
namespace SwaggerGate

namespace Text

def codes (s : String) : List Nat := s.toList.map codePoint

theorem precedes_iff (a b : String) : precedes a b = true ↔ codes a < codes b := decide_eq_true_iff

theorem precedes_eq_false (a b : String) : precedes a b = false ↔ codes b ≤ codes a := by
  rw [← Bool.not_eq_true, precedes_iff, not_lt]

/-- No two characters stand for one code point. -/
theorem codePoint_injective : Function.Injective codePoint := by
  intro c d same
  have valid (c : Char) : c.toNat < 0xd800 ∨ 0xdfff < c.toNat ∧ c.toNat < 0x110000 := c.valid
  have first := valid c
  have second := valid d
  unfold codePoint surrogateBase at same
  have toNat : c.toNat = d.toNat := by
    split at same <;> split at same <;> omega
  exact Char.toNat_inj.1 toNat

theorem codes_injective : Function.Injective codes := fun _ _ same =>
  String.toList_inj.1 (List.map_injective_iff.2 codePoint_injective same)

end Text

namespace Value

open Text

private abbrev Ordered (l : List String) : Prop := l.Pairwise fun a b => codes a ≤ codes b

private theorem memberBefore?_texts (a b : String) : memberBefore? (.text a) (.text b) = some (precedes a b) := rfl

/-- Halving ends at a place that has nothing greater before it and nothing less from it on. -/
private theorem placeAmong?_texts {l : List String} (ordered : Ordered l) (v : String) :
    ∀ (fuel low high : Nat), low ≤ high → high ≤ l.length → high ≤ low + fuel →
      (∀ a ∈ l.take low, codes a ≤ codes v) → (∀ a ∈ l.drop high, codes v ≤ codes a) →
      ∃ place, placeAmong? (.text v) (l.map .text).toArray fuel low high = some place ∧
        (∀ a ∈ l.take place, codes a ≤ codes v) ∧ ∀ a ∈ l.drop place, codes v ≤ codes a := by
  intro fuel
  induction fuel with
  | zero =>
    intro low high range _ room before after
    obtain rfl : low = high := by omega
    exact ⟨low, rfl, before, after⟩
  | succ fuel ih =>
    intro low high range inside room before after
    by_cases empty : low < high
    · have bound : low + (high - low) / 2 < l.length := by omega
      have member : (l.map Value.text).toArray[low + (high - low) / 2]? = some (.text l[low + (high - low) / 2]) := by
        simp [bound]
      have splits := List.pairwise_append.1 ((List.take_append_drop (low + (high - low) / 2) l).symm ▸ ordered)
      have here := List.drop_eq_getElem_cons bound
      simp only [placeAmong?, empty, if_true, member, memberBefore?_texts, Option.bind_eq_bind, Option.bind_some]
      cases less : precedes v l[low + (high - low) / 2] with
      | true =>
        refine ih low _ (by omega) (by omega) (by omega) before fun a later => ?_
        have first : codes v < codes l[low + (high - low) / 2] := (precedes_iff _ _).1 less
        rw [here] at later splits
        rcases List.mem_cons.1 later with rfl | later
        · exact first.le
        · exact first.le.trans ((List.pairwise_cons.1 splits.2.1).1 a later)
      | false =>
        refine ih _ high (by omega) (by omega) (by omega) (fun a earlier => ?_) after
        have first : codes l[low + (high - low) / 2] ≤ codes v := (precedes_eq_false _ _).1 less
        rw [List.take_succ_eq_append_getElem bound, List.mem_append, List.mem_singleton] at earlier
        rcases earlier with earlier | rfl
        · exact (splits.2.2 a earlier _ (here ▸ List.mem_cons_self)).trans first
        · exact first
    · obtain rfl : low = high := by omega
      refine ⟨low, ?_, before, after⟩
      simp [placeAmong?]

/-- Putting texts into their places keeps them in order. -/
private theorem insertEach?_texts (rest : List String) : ∀ {l : List String}, Ordered l →
    ∃ l', insertEach? (l.map .text).toArray (rest.map .text) = some (l'.map .text).toArray ∧ Ordered l' ∧
      l'.Perm (l ++ rest) := by
  induction rest with
  | nil => exact fun {l} ordered => ⟨l, rfl, ordered, by simp⟩
  | cons v rest ih =>
    intro l ordered
    obtain ⟨place, found, before, after⟩ := placeAmong?_texts ordered v l.length 0 l.length (Nat.zero_le _) le_rfl
      (by omega) (by simp) (by simp)
    have parts := List.pairwise_append.1 ((List.take_append_drop place l).symm ▸ ordered)
    have larger : Ordered (l.take place ++ v :: l.drop place) := by
      refine List.pairwise_append.2 ⟨parts.1, List.pairwise_cons.2 ⟨after, parts.2.1⟩, fun a earlier b later => ?_⟩
      rcases List.mem_cons.1 later with rfl | later
      · exact before a earlier
      · exact parts.2.2 a earlier b later
    obtain ⟨l', ok, ordered', perm⟩ := ih larger
    have written : (l.map Value.text).toArray.extract 0 place ++ #[.text v] ++
        (l.map Value.text).toArray.extract place (l.map Value.text).toArray.size =
          ((l.take place ++ v :: l.drop place).map .text).toArray := by
      apply Array.toList_inj.1
      simp [List.take_of_length_le]
    refine ⟨l', ?_, ordered', perm.trans ?_⟩
    · rw [List.map_cons, insertEach?]
      simp only [List.size_toArray, List.length_map, found, Option.bind_eq_bind, Option.bind_some]
      simp only [List.size_toArray, List.length_map] at written
      rw [written]
      exact ok
    · have middle : (l.take place ++ v :: l.drop place).Perm (v :: l) := by
        have moved : (l.take place ++ v :: l.drop place).Perm (v :: (l.take place ++ l.drop place)) :=
          List.perm_middle
        rwa [List.take_append_drop] at moved
      have last : (l ++ v :: rest).Perm (v :: (l ++ rest)) := List.perm_middle
      exact (middle.append_right rest).trans last.symm

/-- A run that goes on in one direction is in order, turned round if it descends. -/
private theorem ordered_run {descending : Bool} {a b : String} {run : List String} (goesOn : precedes b a = descending)
    (ordered : Ordered (if descending then (b :: run).reverse else b :: run)) :
    Ordered (if descending then (a :: b :: run).reverse else a :: b :: run) := by
  cases descending with
  | true =>
    have first := ((precedes_iff _ _).1 goesOn).le
    simp only [if_true] at ordered ⊢
    rw [List.reverse_cons]
    refine List.pairwise_append.2 ⟨ordered, List.pairwise_singleton _ _, fun c earlier d single => ?_⟩
    obtain rfl := List.mem_singleton.1 single
    have atMost : codes c ≤ codes b := by
      rcases List.mem_cons.1 (List.mem_reverse.1 earlier) with rfl | inside
      · exact le_rfl
      · have descending := List.pairwise_reverse.1 ordered
        exact (List.pairwise_cons.1 descending).1 c inside
    exact atMost.trans first
  | false =>
    have first := (precedes_eq_false _ _).1 goesOn
    simp only [Bool.false_eq_true, if_false] at ordered ⊢
    refine List.pairwise_cons.2 ⟨fun c later => ?_, ordered⟩
    rcases List.mem_cons.1 later with rfl | later
    · exact first
    · exact first.trans ((List.pairwise_cons.1 ordered).1 c later)

/-- The run that begins with a text, and what is left behind it. -/
private theorem runAfter?_texts (descending : Bool) (rest : List String) : ∀ last : String,
    ∃ run more, runAfter? descending (.text last) (rest.map .text) = some (run.map .text, more.map .text) ∧
      rest = run ++ more ∧ Ordered (if descending then (last :: run).reverse else last :: run) := by
  induction rest with
  | nil => exact fun last => ⟨[], [], rfl, rfl, by cases descending <;> simp⟩
  | cons v rest ih =>
    intro last
    by_cases goesOn : precedes v last = descending
    · obtain ⟨run, more, found, rfl, ordered⟩ := ih v
      refine ⟨v :: run, more, ?_, rfl, ordered_run goesOn ordered⟩
      simp only [List.map_cons, runAfter?, memberBefore?_texts, goesOn, found, Option.bind_eq_bind, Option.bind_some,
        Option.pure_def, if_true]
    · refine ⟨[], v :: rest, ?_, rfl, by cases descending <;> simp⟩
      simp [runAfter?, memberBefore?_texts, goesOn]

/-- Texts can always be put in order. -/
theorem ascending?_texts (names : List String) : ∃ l : List String, ascending? (names.map .text) = some (l.map .text) ∧
    (l.Pairwise fun a b => codes a ≤ codes b) ∧ l.Perm names := by
  match names with
  | [] => exact ⟨[], rfl, List.Pairwise.nil, .refl _⟩
  | [a] => exact ⟨[a], rfl, List.pairwise_singleton _ _, .refl _⟩
  | a :: b :: rest =>
    obtain ⟨run, more, found, rfl, ordered⟩ := runAfter?_texts (precedes b a) rest b
    obtain ⟨l, inserted, sorted, perm⟩ := insertEach?_texts more (ordered_run rfl ordered)
    have front : (if precedes b a then ((a :: b :: run).map Value.text).reverse else (a :: b :: run).map Value.text) =
        (if precedes b a then (a :: b :: run).reverse else a :: b :: run).map Value.text := by
      split <;> simp
    have members : (if precedes b a then (a :: b :: run).reverse else a :: b :: run).Perm (a :: b :: run) := by
      split
      · exact List.reverse_perm _
      · exact .refl _
    refine ⟨l, ?_, sorted, perm.trans (members.append_right more)⟩
    rw [← front] at inserted
    simp only [List.map_cons] at inserted
    simp only [ascending?, List.map_cons, memberBefore?_texts, found, inserted, Option.bind_eq_bind, Option.bind_some,
      Option.pure_def]

private theorem nodup_of_neighbours {l : List String} (ordered : Ordered l)
    (apart : neighboursDistinct (l.map .text) = true) : l.Pairwise fun a b => codes a < codes b := by
  induction l with
  | nil => exact .nil
  | cons a rest ih =>
    obtain ⟨first, tail⟩ := List.pairwise_cons.1 ordered
    cases rest with
    | nil => exact List.pairwise_singleton _ _
    | cons b rest =>
      simp only [List.map_cons, neighboursDistinct, Bool.and_eq_true, Bool.not_eq_true'] at apart
      have later := ih tail apart.2
      have differ : codes a ≠ codes b := by
        intro same
        obtain rfl := codes_injective same
        exact absurd apart.1 (by simp [equal, Atom.equal])
      have less : codes a < codes b := lt_of_le_of_ne (first b List.mem_cons_self) differ
      refine List.pairwise_cons.2 ⟨fun c inside => ?_, later⟩
      rcases List.mem_cons.1 inside with rfl | inside
      · exact less
      · exact less.trans ((List.pairwise_cons.1 later).1 c inside)

/-- Texts that count as distinct are so. -/
theorem nodup_of_distinct {names : List String} (apart : distinct (names.map .text) = true) : names.Nodup := by
  obtain ⟨l, found, ordered, perm⟩ := ascending?_texts names
  rw [distinct, found] at apart
  have strict := nodup_of_neighbours ordered apart
  exact perm.nodup_iff.1 (strict.imp fun less same => absurd (same ▸ less) (lt_irrefl _))

end Value
end SwaggerGate
