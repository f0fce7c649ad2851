import SwaggerGate.Proofs.Overlong
import SwaggerGate.Proofs.Split

/-! Arrays as lists and as texts. A list that nests as its descriptor says is judged like the
one text that joins its members level by level, each level with a separator of its own. -/
namespace SwaggerGate.Parameters

/-- The separators of the arrays that a descriptor nests, the outermost first. -/
def separators : Items → List Char
  | ⟨.array, _, some inner, format, _⟩ => separator format :: separators inner
  | ⟨.array, _, none, format, _⟩ => [separator format]
  | _ => []

/-- The text of a nested list: at each level those of its members, with the separator of the
level between them. -/
def joined : List Char → Value → List Char
  | sep :: inner, .list members => Text.joinWith sep (members.map (joined inner))
  | _, .text s => s.toList
  | _, _ => []

/-- Whether a value nests as a descriptor says: a list that is not empty where an array is
declared, and not restricted to an enumeration, and below all lists a text without any of the
marks. -/
inductive IsNested (marks : List Char) : Items → Value → Prop where
  | text {d : Items} {s : String} : d.type ≠ .array → (∀ c ∈ marks, c ∉ s.toList) → IsNested marks d (.text s)
  | list {d : Items} {members : List Value} : d.type = .array → d.enum = none → members ≠ [] →
      (∀ v ∈ members, IsNested marks (elementOf d) v) → IsNested marks d (.list members)

section Nested

variable {marks : List Char} {d : Items} {v : Value}

theorem separators_of_array (type : d.type = .array) :
    separators d = separator d.collectionFormat :: separators (elementOf d) := by
  obtain ⟨_, enum, items, format, extra⟩ := d
  cases type
  cases items <;> rfl

theorem separators_of_scalar (type : d.type ≠ .array) : separators d = [] := by
  obtain ⟨declared, enum, items, format, extra⟩ := d
  cases declared <;> first | rfl | exact absurd rfl type

theorem joined_of_array (type : d.type = .array) (members : List Value) :
    joined (separators d) (.list members) =
      Text.joinWith (separator d.collectionFormat) (members.map (joined (separators (elementOf d)))) := by
  rw [separators_of_array type, joined]

/-- A mark is in the text of a nested list only as a separator. -/
theorem IsNested.not_mem_joined (nested : IsNested marks d v) {c : Char} (mark : c ∈ marks)
    (apart : c ∉ separators d) : c ∉ joined (separators d) v := by
  induction nested with
  | text type absent =>
    rw [separators_of_scalar type]
    exact absent c mark
  | list type free some_ each ih =>
    rw [separators_of_array type, List.mem_cons, not_or] at apart
    rw [joined_of_array type]
    intro inside
    rcases Text.mem_joinWith inside with same | ⟨piece, member, inside⟩
    · exact apart.1 same
    · obtain ⟨v, listed, rfl⟩ := List.mem_map.1 member
      exact ih v listed apart.2 inside

/-- The elements of the text of a nested list are the texts of its members. -/
theorem elements_joined {members : List Value} (type : d.type = .array) (some_ : members ≠ [])
    (absent : ∀ v ∈ members, separator d.collectionFormat ∉ joined (separators (elementOf d)) v) :
    elements d.collectionFormat (.text (String.ofList (joined (separators d) (.list members))))
        (some (String.ofList (joined (separators d) (.list members)))) =
      members.map fun v => .text (String.ofList (joined (separators (elementOf d)) v)) := by
  have pieces : members.map (joined (separators (elementOf d))) ≠ [] := fun none_ => some_ (List.map_eq_nil_iff.1 none_)
  simp only [elements, String.toList_ofList]
  rw [joined_of_array type, Text.splitOn_joinWith pieces (List.forall_mem_map.2 absent), List.map_map]
  rfl

theorem IsNested.check_joined (nested : IsNested marks d v) (inside : separators d ⊆ marks)
    (distinct : (separators d).Nodup) (name : String) :
    check name d (.text (String.ofList (joined (separators d) v))) = check name d v := by
  induction nested with
  | @text d s type absent =>
    rw [separators_of_scalar type, joined, String.ofList_toList]
  | @list d members type free some_ each ih =>
    have own := separators_of_array type
    rw [own, List.nodup_cons] at distinct
    rw [own, List.cons_subset] at inside
    have absent : ∀ v ∈ members, separator d.collectionFormat ∉ joined (separators (elementOf d)) v :=
      fun v listed => (each v listed).not_mem_joined inside.1 distinct.1
    have free (value : Value) {text : Option String} (written : scalarText? value = .ok text) :
        Admits d.enum value text := ⟨written, by rw [free]; rfl⟩
    calc check name d (.text (String.ofList (joined (separators d) (.list members))))
        = firstIssue (check name (elementOf d))
            (members.map fun v => .text (String.ofList (joined (separators (elementOf d)) v))) := by
          rw [check_of_elements (free _ rfl) type, elements_joined type some_ absent]
      _ = firstIssue (check name (elementOf d)) members := by
          rw [firstIssue_map, firstIssue_congr fun v listed => ih v listed inside.2 distinct.2]
      _ = check name d (.list members) := by
          rw [check_of_elements (free _ rfl) type]
          rfl

end Nested

/-- A nested list is told the same as the one text that joins it, whatever its descriptor says of
the texts inside: nothing, the same issue, or the same fault. The separators of the arrays around
a text must differ and not be in the text. -/
theorem check_list_eq_check_text {d : Items} {v : Value} (nested : IsNested (separators d) d v)
    (distinct : (separators d).Nodup) (name : String) :
    check name d v = check name d (.text (String.ofList (joined (separators d) v))) :=
  (nested.check_joined (List.Subset.refl _) distinct name).symm

/-- Rows of integers. The format of the inner arrays is none of the known ones. -/
def rows : Items :=
  { type := .array, collectionFormat := "pipes"
    items := some { type := .array, collectionFormat := "multi", items := some { type := .integer } } }

theorem check_list_eq_check_text_rows :
    let v : Value := .list [.texts ["1", "2"], .texts [""]]
    IsNested (separators rows) rows v ∧ (separators rows).Nodup ∧
      String.ofList (joined (separators rows) v) = "1,2|" ∧
      check "q" rows v = .ok (some (mismatch "q" "Integer")) ∧ check "q" rows (.text "1,2|") = check "q" rows v := by
  intro v
  have marks : separators rows = ['|', ','] := rfl
  have nested : IsNested (separators rows) rows v := by
    refine .list rfl rfl (List.cons_ne_nil _ _) fun row listed => ?_
    have texts : ∃ s rest, row = .texts (s :: rest) ∧ ∀ t ∈ s :: rest, ∀ c ∈ separators rows, c ∉ t.toList := by
      simp only [List.mem_cons, List.not_mem_nil, or_false] at listed
      rcases listed with rfl | rfl
      · exact ⟨"1", ["2"], rfl, by simp [marks]⟩
      · exact ⟨"", [], rfl, by simp⟩
    obtain ⟨s, rest, rfl, absent⟩ := texts
    refine .list rfl rfl (List.cons_ne_nil _ _) fun cell inside => ?_
    obtain ⟨t, listed, rfl⟩ := List.mem_map.1 inside
    exact .text nofun (absent t listed)
  have distinct : (separators rows).Nodup := by decide
  have text : String.ofList (joined (separators rows) v) = "1,2|" := by decide
  have same := check_list_eq_check_text nested distinct "q"
  rw [text] at same
  exact ⟨nested, distinct, text, by decide, same.symm⟩

end SwaggerGate.Parameters
