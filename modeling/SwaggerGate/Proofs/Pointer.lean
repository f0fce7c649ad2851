import SwaggerGate.Proofs.Split
import SwaggerGate.Schema.Inline
import Mathlib.Data.List.Basic

/-! JSON pointers read back. A token comes back from its escaped form, in which no slash is left;
so a pointer is cut at its slashes into the very steps that it was made of, and a local reference
is read as the name that it was made for. -/
namespace SwaggerGate

namespace Pointer

private theorem unescapeSlashes_escapeChars (cs : List Char) :
    unescapeSlashes (escapeChars cs) = cs.flatMap fun c => if c = '~' then ['~', '0'] else [c] := by
  induction cs with
  | nil => rfl
  | cons c rest ih =>
    rw [escapeChars, List.flatMap_cons, List.flatMap_cons]
    change unescapeSlashes (escapeChar c ++ escapeChars rest) = _
    unfold escapeChar
    by_cases tilde : c = '~'
    · subst tilde
      simp [unescapeSlashes, ih]
    · by_cases slash : c = '/'
      · subst slash
        simp [unescapeSlashes, ih]
      · simp [unescapeSlashes, tilde, slash, ih]

private theorem unescapeTildes_escaped (cs : List Char) :
    unescapeTildes (cs.flatMap fun c => if c = '~' then ['~', '0'] else [c]) = cs := by
  induction cs with
  | nil => rfl
  | cons c rest ih =>
    rw [List.flatMap_cons]
    by_cases tilde : c = '~'
    · subst tilde
      simp [unescapeTildes, ih]
    · simp [unescapeTildes, tilde, ih]

theorem unescapeChars_escapeChars (cs : List Char) : unescapeChars (escapeChars cs) = cs := by
  rw [unescapeChars, unescapeSlashes_escapeChars, unescapeTildes_escaped]

theorem toList_escape (name : String) : (escape name).toList = escapeChars name.toList := String.toList_ofList

theorem unescape_escape (name : String) : unescape (escape name) = name := by
  rw [unescape, toList_escape, unescapeChars_escapeChars, String.ofList_toList]

theorem slash_not_mem_escapeChars (cs : List Char) : '/' ∉ escapeChars cs := by
  intro member
  obtain ⟨c, -, inside⟩ := List.mem_flatMap.1 member
  unfold escapeChar at inside
  split at inside
  · simp at inside
  split at inside
  · simp at inside
  next slash => exact slash (List.mem_singleton.1 inside).symm

/-- Each escape is one character more. -/
theorem length_escapeChars (cs : List Char) :
    (escapeChars cs).length = cs.length + cs.count '~' + cs.count '/' := by
  induction cs with
  | nil => rfl
  | cons c rest ih =>
    rw [escapeChars, List.flatMap_cons, List.length_append, ← escapeChars, ih, List.length_cons, List.count_cons,
      List.count_cons]
    unfold escapeChar
    by_cases tilde : c = '~'
    · simp [tilde]
      omega
    · by_cases slash : c = '/'
      · simp [slash]
        omega
      · simp [tilde, slash]
        omega

theorem escapeChars_eq_self_iff {cs : List Char} : escapeChars cs = cs ↔ '/' ∉ cs ∧ '~' ∉ cs := by
  constructor
  · intro same
    have length := length_escapeChars cs
    rw [same] at length
    rw [← List.count_eq_zero, ← List.count_eq_zero]
    omega
  · rintro ⟨slash, tilde⟩
    have stays : ∀ c ∈ cs, escapeChar c = [c] := by
      intro c member
      rw [escapeChar, if_neg (ne_of_mem_of_not_mem member tilde), if_neg (ne_of_mem_of_not_mem member slash)]
    rw [escapeChars, List.flatMap_congr stays, List.flatMap_singleton']

/-! ### Pointers of paths -/

theorem toList_text (path : List Step) :
    (text path).toList = '#' :: path.flatMap fun step => '/' :: escapeChars (stepText step).toList := by
  simp [text, String.toList_join, List.flatMap_map, escape]

/-- What stands before the steps, without a slash, and the steps are told apart again. -/
theorem splitOn_steps (front : List Char) (whole : '/' ∉ front) (path : List Step) :
    Text.splitOn '/' (front ++ path.flatMap fun step => '/' :: escapeChars (stepText step).toList) =
      front :: path.map fun step => escapeChars (stepText step).toList := by
  induction path generalizing front with
  | nil => simp [Text.splitOn_of_not_mem whole]
  | cons step path ih =>
    rw [List.flatMap_cons, List.cons_append, Text.splitOn_append, Text.splitOn_of_not_mem whole,
      ih _ (slash_not_mem_escapeChars _)]
    rfl

theorem unescape_steps (path : List Step) :
    (path.map fun step => escapeChars (stepText step).toList).map (fun piece => unescape (String.ofList piece)) =
      path.map stepText := by
  rw [List.map_map]
  apply List.map_congr_left
  intro step _
  exact unescape_escape (stepText step)

/-- The tokens of a pointer after its root, each as it was before it was escaped. -/
def tokens (pointer : String) : List String :=
  ((Text.splitOn '/' (pointer.toList.drop 1)).drop 1).map fun token => unescape (String.ofList token)

theorem tokens_text (path : List Step) : tokens (text path) = path.map stepText := by
  have split := splitOn_steps [] List.not_mem_nil path
  rw [List.nil_append] at split
  rw [tokens, toList_text, List.drop_succ_cons, List.drop_zero, split, List.drop_succ_cons, List.drop_zero,
    unescape_steps]

/-- Paths with the same pointer have the same steps, as texts. -/
theorem stepTexts_of_text {path other : List Step} (same : text path = text other) :
    path.map stepText = other.map stepText := by
  rw [← tokens_text, same, tokens_text]

end Pointer

/-! ### References into a section -/

namespace Schema

/-- The local reference to a name in a section is read as the name, whatever both are. -/
theorem refName_escape (section_ name : String) :
    refName section_ ("#/" ++ section_ ++ "/" ++ Pointer.escape name) = .ok name := by
  have text : ("#/" ++ section_ ++ "/" ++ Pointer.escape name).toList =
      ("#/" ++ section_ ++ "/").toList ++ Pointer.escapeChars name.toList := by
    rw [String.toList_append, Pointer.toList_escape]
  have starts : ("#/" ++ section_ ++ "/").toList.isPrefixOf ("#/" ++ section_ ++ "/" ++ Pointer.escape name).toList = true := by
    rw [text, List.isPrefixOf_iff_prefix]
    exact List.prefix_append _ _
  have token : ("#/" ++ section_ ++ "/" ++ Pointer.escape name).toList.drop ("#/" ++ section_ ++ "/").length =
      Pointer.escapeChars name.toList := by
    rw [text, ← String.length_toList]
    exact List.drop_left
  have noSlash : (Pointer.escapeChars name.toList).contains '/' = false := by
    simpa using Pointer.slash_not_mem_escapeChars name.toList
  simp only [refName, starts, if_true, token, noSlash, Bool.false_eq_true, if_false, Pointer.unescapeChars_escapeChars,
    String.ofList_toList]

end Schema

end SwaggerGate
