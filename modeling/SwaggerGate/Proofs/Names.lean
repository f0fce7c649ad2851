import SwaggerGate.Proofs.Overlong
import SwaggerGate.Proofs.Pointer

/-! Names of parameters in the paths of issues. A parameter's issue stands at its name as it is
written, while a body's stands at the pointer of its place, with the marks of names escaped; the
two agree exactly for names without such marks. -/
namespace SwaggerGate

namespace Pointer

theorem toList_singleton (name : String) : (text [.key name]).toList = '#' :: '/' :: escapeChars name.toList := by
  rw [toList_text, List.flatMap_singleton]
  rfl

end Pointer

namespace Parameters

theorem toList_namePath (name : String) : (namePath name).toList = '#' :: '/' :: name.toList := by
  rw [namePath, String.toList_append]
  rfl

theorem namePath_eq_text_iff (name : String) :
    namePath name = Pointer.text [.key name] ↔ '/' ∉ name.toList ∧ '~' ∉ name.toList := by
  rw [← String.toList_inj, toList_namePath, Pointer.toList_singleton, List.cons.injEq, List.cons.injEq, eq_self, eq_self,
    true_and, true_and, eq_comm, Pointer.escapeChars_eq_self_iff]

/-- Read as a pointer, the path of a name is cut at the slashes of the name and unescaped. -/
theorem tokens_namePath (name : String) : Pointer.tokens (namePath name) =
    (Text.splitOn '/' name.toList).map fun piece => Pointer.unescape (String.ofList piece) := by
  rw [Pointer.tokens, toList_namePath, List.drop_succ_cons, List.drop_zero, Text.splitOn, if_pos rfl, List.drop_succ_cons,
    List.drop_zero]

theorem tokens_namePath_iff (name : String) : Pointer.tokens (namePath name) = [name] ↔
    '/' ∉ name.toList ∧ Pointer.unescape name = name := by
  rw [tokens_namePath]
  by_cases slash : '/' ∈ name.toList
  · obtain ⟨front, rest, parts⟩ := List.append_of_mem slash
    refine iff_of_false (fun same => ?_) fun plain => plain.1 slash
    have single := congrArg List.length same
    have first := List.length_pos_of_ne_nil (Text.splitOn_ne_nil '/' front)
    have second := List.length_pos_of_ne_nil (Text.splitOn_ne_nil '/' rest)
    rw [parts, Text.splitOn_append, List.length_map, List.length_append, List.length_singleton] at single
    omega
  · simp [Text.splitOn_of_not_mem slash, slash]

/-- The issue of a value stands at the name of its parameter, whichever element it is about. -/
def IsAt (name : String) (found : Except Fault (Option Issue)) : Prop :=
  ∀ issue, found = .ok (some issue) → issue.path = namePath name

theorem isAt_firstIssue {α : Type} {name : String} {check : α → Except Fault (Option Issue)} {l : List α}
    (each : ∀ x ∈ l, IsAt name (check x)) : IsAt name (firstIssue check l) := by
  intro issue found
  obtain ⟨front, x, back, rfl, -, told⟩ := (firstIssue_eq_iff (by simp)).1 found
  exact each x (by simp) issue told

theorem isAt_scalarIssue? (name : String) (type : ParamType) (text : Option String) :
    IsAt name (scalarIssue? name type text) := by
  intro issue found
  unfold scalarIssue? at found
  split at found
  all_goals try split at found
  all_goals cases found <;> rfl

theorem isAt_check (name : String) : ∀ (d : Items) (value : Value), IsAt name (check name d value)
  | ⟨type, enum, items, format, extra⟩, value => by
    intro issue found
    obtain ⟨text, written, refused | admits⟩ := exists_text_of_check found
    · rw [check_of_refused written refused] at found
      obtain ⟨told, named, same⟩ := map_eq_ok.1 found
      obtain ⟨shown, -, named⟩ := bind_eq_ok.1 named
      cases same
      cases named
      rfl
    by_cases array : type = .array
    · cases items with
      | some inner =>
        rw [check_of_array admits array rfl] at found
        exact isAt_firstIssue (fun element _ => isAt_check name inner element) issue found
      | none =>
        rw [check_of_bare admits array rfl] at found
        refine isAt_firstIssue (fun element _ issue found => ?_) issue found
        rw [anyIssue?] at found
        cases written : scalarText? element <;> simp [written, Except.map] at found
    · rw [check_of_scalar admits array] at found
      exact isAt_scalarIssue? name type text issue found

/-- An issue of parameters is that of the first one that does not pass. If it is not there, its name stands in
the message; otherwise the name, as it is written, is the path, whichever element of the value is at fault. That
is the pointer at which an issue of a body with this property stands exactly if the name has neither a slash nor
a tilde; and the pointer is read back as the name exactly if there is no slash, and nothing in it to unescape. -/
theorem invalid_located {parameters : List Parameter} {params : List (Atom × Value)} {issue : Issue}
    (told : validate parameters params = .ok (.invalid issue)) :
    ∃ front p back items, parameters = front ++ p :: back ∧ (∀ q ∈ front, parameterIssue? params q = .ok none) ∧
      descriptor? p = some items ∧
      (Query.lookup? params p.name = none ∧ p.required = true ∧ issue = ⟨missingMessage p.name, "#"⟩ ∨
        ∃ value, Query.lookup? params p.name = some value ∧ check p.name items value = .ok (some issue) ∧
          issue.path = "#/" ++ p.name ∧
          (issue.path = Pointer.text [.key p.name] ↔ '/' ∉ p.name.toList ∧ '~' ∉ p.name.toList) ∧
          (∀ v other, v.path = [.key p.name] → Body.issueOf v = .ok other →
            (issue.path = other.path ↔ '/' ∉ p.name.toList ∧ '~' ∉ p.name.toList)) ∧
          (Pointer.tokens issue.path = [p.name] ↔ '/' ∉ p.name.toList ∧ Pointer.unescape p.name = p.name)) := by
  obtain ⟨first, found, same⟩ := map_eq_ok.1 told
  obtain rfl : first = some issue := by
    cases first with
    | none => cases same
    | some issue => cases same; rfl
  obtain ⟨front, p, back, split, passed, stops⟩ := (firstIssue_eq_iff (by simp)).1 found
  cases described : descriptor? p with
  | none =>
    rw [parameterIssue?, described] at stops
    cases stops
  | some items =>
    refine ⟨front, p, back, items, split, passed, described, ?_⟩
    cases sent : Query.lookup? params p.name with
    | none =>
      simp only [parameterIssue?, described, sent] at stops
      left
      cases required : p.required <;> simp [required] at stops
      exact ⟨rfl, rfl, stops.symm⟩
    | some value =>
      simp only [parameterIssue?, described, sent] at stops
      have path := isAt_check p.name items value issue stops
      refine .inr ⟨value, rfl, stops, path, ?_, fun v other there told => ?_, ?_⟩
      · rw [path]
        exact namePath_eq_text_iff p.name
      · obtain ⟨message, -, same⟩ := bind_eq_ok.1 told
        cases same
        rw [path, there]
        exact namePath_eq_text_iff p.name
      · rw [path]
        exact tokens_namePath_iff p.name

/-- A page, and rows of numbers under a name with brackets. -/
def rowsOfPage : List Parameter :=
  [{ name := "page", location := some .query, type := some .integer },
    { name := "rows[]", location := some .query, type := some .array
      items := some { type := .array, items := some { type := .number } } }]

theorem invalid_located_rows :
    validate rowsOfPage [(.text "page", .text "1"), (.text "rows", .list [.text "1,2", .list [.text "3", .text "x"]])] =
      .ok (.invalid ⟨"Type mismatch. Expected Number but got String.", "#/rows[]"⟩) ∧
    ∃ p ∈ rowsOfPage, p.name = "rows[]" ∧ "#/rows[]" = Pointer.text [.key p.name] ∧
      Pointer.tokens "#/rows[]" = [p.name] := by
  have told : validate rowsOfPage
      [(.text "page", .text "1"), (.text "rows", .list [.text "1,2", .list [.text "3", .text "x"]])] =
      .ok (.invalid ⟨"Type mismatch. Expected Number but got String.", "#/rows[]"⟩) := by
    decide +kernel
  obtain ⟨front, p, back, items, split, -, -, ⟨-, -, absent⟩ | ⟨value, -, -, path, pointer, -, tokens⟩⟩ :=
    invalid_located told
  · have root : "#/rows[]" = "#" := congrArg Issue.path absent
    exact absurd root (by decide)
  have name : p.name = "rows[]" := by
    have chars := congrArg String.toList path
    rw [← namePath, toList_namePath] at chars
    exact String.toList_inj.1 (List.cons.inj (List.cons.inj chars).2).2.symm
  refine ⟨told, p, by simp [split], name, pointer.2 ?_, tokens.2 ?_⟩
  all_goals
    rw [name]
    decide

/-- A document with one number in the query, under a name with a slash. -/
def slashedName : Value :=
  let parameter : Value := .record [("name", .text "a/b"), ("in", .text "query"), ("type", .text "integer")]
  .record [("paths", .record [("/x", .record [("get", .record [("parameters", .list [parameter])])])])]

/-- One value of one operation is refused under two paths: as a parameter at the name as it is, which is read
as a pointer of two steps, and in a payload at the pointer of the name. -/
theorem slash_told_apart : ∃ registry o, Source.registry ⟨fun _ => none⟩ [.data slashedName] = .ok registry ∧
    registry.get? "get/x" = some o ∧
    validate o.parameters [(.text "a/b", .text "x")] =
      .ok (.invalid ⟨"Type mismatch. Expected Integer but got String.", "#/a/b"⟩) ∧
    Body.validatePayload o (.record [("a/b", .text "x")]) =
      .ok (.invalid ⟨"Type mismatch. Expected Integer but got String.", "#/a~1b"⟩) ∧
    Pointer.tokens "#/a/b" = ["a", "b"] ∧ Pointer.tokens "#/a~1b" = ["a/b"] := by
  have tested : (Source.registry ⟨fun _ => none⟩ [.data slashedName]).toOption.any (fun registry =>
      (registry.get? "get/x").any fun o => decide (
        validate o.parameters [(.text "a/b", .text "x")] =
          .ok (.invalid ⟨"Type mismatch. Expected Integer but got String.", "#/a/b"⟩) ∧
        Body.validatePayload o (.record [("a/b", .text "x")]) =
          .ok (.invalid ⟨"Type mismatch. Expected Integer but got String.", "#/a~1b"⟩))) = true := by
    decide +kernel
  obtain ⟨registry, compiled, tested⟩ := any_toOption_eq_true.1 tested
  obtain ⟨o, found, told⟩ := (Option.any_eq_true _ _).1 tested
  obtain ⟨parameters, payload⟩ := of_decide_eq_true told
  exact ⟨registry, o, compiled, found, parameters, payload, by decide, by decide⟩

end Parameters

end SwaggerGate
