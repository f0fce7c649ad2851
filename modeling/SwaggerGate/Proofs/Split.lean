import SwaggerGate.Request
import Mathlib.Data.List.TakeWhile

/-! Cutting and splitting at separators. A text is split piece by piece, and what a separator
does not occur in stays whole. -/
namespace SwaggerGate

namespace Text

variable {sep : Char} {cs piece : List Char}

theorem splitOn_of_not_mem (absent : sep ∉ cs) : splitOn sep cs = [cs] := by
  induction cs with
  | nil => rfl
  | cons c rest ih =>
    rw [List.mem_cons, not_or] at absent
    rw [splitOn, if_neg (Ne.symm absent.1), ih absent.2]

theorem splitOn_append (sep : Char) (front rest : List Char) :
    splitOn sep (front ++ sep :: rest) = splitOn sep front ++ splitOn sep rest := by
  induction front with
  | nil => simp [splitOn]
  | cons c front ih =>
    rw [List.cons_append, splitOn, splitOn, ih]
    by_cases same : c = sep
    · rw [if_pos same, if_pos same, List.cons_append]
    · rw [if_neg same, if_neg same]
      cases pieces : splitOn sep front with
      | nil => exact absurd pieces (splitOn_ne_nil sep front)
      | cons piece more => rfl

theorem not_mem_of_mem_splitOn (member : piece ∈ splitOn sep cs) : sep ∉ piece := by
  induction cs generalizing piece with
  | nil =>
    obtain rfl := List.mem_singleton.1 member
    exact List.not_mem_nil
  | cons c rest ih =>
    rw [splitOn] at member
    split at member
    next =>
      rcases List.mem_cons.1 member with rfl | later
      · exact List.not_mem_nil
      · exact ih later
    next other =>
      split at member
      next =>
        obtain rfl := List.mem_singleton.1 member
        simpa using Ne.symm other
      next first more split_ =>
        rw [split_] at ih
        rcases List.mem_cons.1 member with rfl | later
        · simp [Ne.symm other, ih List.mem_cons_self]
        · exact ih (List.mem_cons_of_mem _ later)

/-- What holds of texts without separators, and of a text if it holds after the first
separator, holds of all texts. -/
theorem split_induction (sep : Char) {P : List Char → Prop} (whole : ∀ piece, sep ∉ piece → P piece)
    (step : ∀ piece rest, sep ∉ piece → P rest → P (piece ++ sep :: rest)) : ∀ cs, P cs
  | [] => whole [] List.not_mem_nil
  | c :: rest => by
    have front : sep ∉ (c :: rest).takeWhile (· != sep) := fun member => by
      simpa using List.mem_takeWhile_imp member
    cases back : (c :: rest).dropWhile (· != sep) with
    | nil =>
      rw [List.dropWhile_eq_nil_iff] at back
      apply whole
      intro member
      simpa using back sep member
    | cons d later =>
      have shorter : later.length < (c :: rest).length := by
        have := (List.dropWhile_sublist (· != sep) (l := c :: rest)).length_le
        rw [back, List.length_cons] at this
        exact this
      have first : d = sep := by
        have stopped := List.head_dropWhile_not (l := c :: rest) (· != sep) (by simp [back])
        simpa [back] using stopped
      have parts := List.takeWhile_append_dropWhile (p := (· != sep)) (l := c :: rest)
      rw [back, first] at parts
      rw [← parts]
      exact step _ _ front (split_induction sep whole step later)
termination_by cs => cs.length
decreasing_by exact shorter

theorem joinWith_cons {more : List (List Char)} (some_ : more ≠ []) (piece : List Char) :
    joinWith sep (piece :: more) = piece ++ sep :: joinWith sep more := by
  cases more with
  | nil => exact absurd rfl some_
  | cons next more => rfl

theorem intercalate_eq_joinWith (pieces : List (List Char)) : [sep].intercalate pieces = joinWith sep pieces := by
  fun_induction joinWith sep pieces with
  | case1 => rfl
  | case2 piece => simp
  | case3 piece more some_ ih =>
    cases more with
    | nil => exact absurd rfl some_
    | cons next more => rw [List.intercalate_cons_cons, ih, List.append_assoc, List.singleton_append]

/-- Pieces without separators inside are those of the text that joins them. -/
theorem splitOn_joinWith {pieces : List (List Char)} (some_ : pieces ≠ []) (absent : ∀ piece ∈ pieces, sep ∉ piece) :
    splitOn sep (joinWith sep pieces) = pieces := by
  induction pieces with
  | nil => exact absurd rfl some_
  | cons piece more ih =>
    have first := absent piece List.mem_cons_self
    cases more with
    | nil => exact splitOn_of_not_mem first
    | cons next more =>
      have later := ih (List.cons_ne_nil _ _) fun piece member => absent piece (List.mem_cons_of_mem _ member)
      rw [joinWith, splitOn_append, splitOn_of_not_mem first, later, List.singleton_append]
      exact List.cons_ne_nil _ _

theorem mem_joinWith {c : Char} {pieces : List (List Char)} (member : c ∈ joinWith sep pieces) :
    c = sep ∨ ∃ piece ∈ pieces, c ∈ piece := by
  fun_induction joinWith sep pieces with
  | case1 => cases member
  | case2 piece => exact .inr ⟨piece, List.mem_cons_self, member⟩
  | case3 piece more _ ih =>
    rcases List.mem_append.1 member with first | later
    · exact .inr ⟨piece, List.mem_cons_self, first⟩
    rcases List.mem_cons.1 later with same | later
    · exact .inl same
    · exact (ih later).imp_right fun ⟨inner, inside, there⟩ => ⟨inner, List.mem_cons_of_mem _ inside, there⟩

theorem cut_of_not_mem (absent : sep ∉ cs) : cut sep cs = (cs, none) := by
  have none_ : cs.dropWhile (· != sep) = [] := by
    rw [List.dropWhile_eq_nil_iff]
    intro c member
    simpa using fun same : c = sep => absent (same ▸ member)
  rw [cut, none_]

theorem cut_append (absent : sep ∉ piece) (rest : List Char) :
    cut sep (piece ++ sep :: rest) = (piece, some rest) := by
  have passed : ∀ c ∈ piece, (c != sep) = true := by
    intro c member
    simpa using fun same : c = sep => absent (same ▸ member)
  rw [cut, List.dropWhile_append_of_pos passed, List.takeWhile_append_of_pos passed]
  simp

/-- A cut comes where the separator is first; what stands behind the text then stands behind its rest. -/
theorem cut_of_mem (inside : sep ∈ cs) : ∃ front rest, sep ∉ front ∧ cs = front ++ sep :: rest ∧
    cut sep cs = (front, some rest) ∧ ∀ more, cut sep (cs ++ more) = (front, some (rest ++ more)) := by
  obtain ⟨front, rest, rfl, absent⟩ := List.eq_append_cons_of_mem inside
  refine ⟨front, rest, absent, rfl, cut_append absent rest, fun more => ?_⟩
  rw [List.append_assoc, List.cons_append, cut_append absent]

theorem cut_front (absent : sep ∉ piece) (cs : List Char) :
    cut sep (piece ++ cs) = (piece ++ (cut sep cs).1, (cut sep cs).2) := by
  by_cases inside : sep ∈ cs
  · obtain ⟨front, rest, early, rfl, cuts, -⟩ := cut_of_mem inside
    rw [cuts, ← List.append_assoc, cut_append (by simp [absent, early])]
  · rw [cut_of_not_mem inside, cut_of_not_mem (by simp [absent, inside])]

theorem cut_cons {c : Char} (apart : c ≠ sep) (cs : List Char) :
    cut sep (c :: cs) = (c :: (cut sep cs).1, (cut sep cs).2) :=
  have single : sep ∉ [c] := by simpa using apart.symm
  cut_front single cs

end Text

theorem splitPath_append (front rest : List Char) :
    splitPath (String.ofList (front ++ '/' :: rest)) =
      splitPath (String.ofList front) ++ splitPath (String.ofList rest) := by
  simp only [splitPath, String.toList_ofList, Text.splitOn_append, List.filter_append, List.map_append]

theorem splitPath_slash (rest : List Char) :
    splitPath (String.ofList ('/' :: rest)) = splitPath (String.ofList rest) := by
  rw [← List.nil_append ('/' :: rest), splitPath_append]
  rfl

theorem splitPath_of_not_mem {piece : List Char} (absent : '/' ∉ piece) :
    splitPath (String.ofList piece) = if piece = [] then [] else [String.ofList piece] := by
  rw [splitPath, String.toList_ofList, Text.splitOn_of_not_mem absent]
  cases piece with
  | nil => rfl
  | cons c rest => rfl

theorem mem_splitPath {segment : String} {path : List Char} :
    segment ∈ splitPath (String.ofList path) ↔
      ∃ piece ∈ Text.splitOn '/' path, piece ≠ [] ∧ String.ofList piece = segment := by
  simp only [splitPath, String.toList_ofList, List.mem_map, List.mem_filter, Bool.not_eq_true',
    List.isEmpty_eq_false_iff, and_assoc]

theorem slash_not_mem_of_mem_splitPath {segment path : String} (member : segment ∈ splitPath path) :
    '/' ∉ segment.toList := by
  rw [← String.ofList_toList (s := path)] at member
  obtain ⟨piece, inside, -, rfl⟩ := mem_splitPath.1 member
  rw [String.toList_ofList]
  exact Text.not_mem_of_mem_splitOn inside

end SwaggerGate
