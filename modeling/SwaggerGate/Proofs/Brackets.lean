import SwaggerGate.Proofs.Query

/-! Names with brackets. After its root, the keys of a name are the innermost groups in brackets,
from left to right; whatever stands around them, balanced or not, is passed over. So a name that
is written with brackets reads back as the keys that it was written with. -/
namespace SwaggerGate.Query

/-! ### Groups -/

/-- The innermost groups in brackets of a text. Before, between and after them no bracket is
opened that is closed again: all the closing ones stand in front of all the opening ones. -/
inductive Groups : List Char → List (List Char) → Prop where
  | nil {closing opening : List Char} : '[' ∉ closing → ']' ∉ opening → Groups (closing ++ opening) []
  | cons {closing opening key rest : List Char} {keys : List (List Char)} : '[' ∉ closing → ']' ∉ opening →
      '[' ∉ key → ']' ∉ key → Groups rest keys →
      Groups (closing ++ (opening ++ '[' :: (key ++ ']' :: rest))) (key :: keys)

namespace Groups

variable {front cs : List Char} {keys : List (List Char)}

/-- Text in front that opens no bracket makes no group. -/
theorem append_left (unopened : '[' ∉ front) (groups : Groups cs keys) : Groups (front ++ cs) keys := by
  have closing {more : List Char} (closed : '[' ∉ more) : '[' ∉ front ++ more := by simp [unopened, closed]
  cases groups with
  | nil closed opened =>
    rw [← List.append_assoc]
    exact .nil (closing closed) opened
  | cons closed opened left right rest =>
    rw [← List.append_assoc]
    exact .cons (closing closed) opened left right rest

/-- Nor does text in front of an opening bracket that closes none. -/
theorem append_opening (unclosed : ']' ∉ front) (groups : Groups ('[' :: cs) keys) :
    Groups (front ++ '[' :: cs) keys := by
  generalize text : '[' :: cs = whole at groups
  have bare {closing more : List Char} (closed : '[' ∉ closing) (same : '[' :: cs = closing ++ more) :
      closing = [] := by
    cases closing with
    | nil => rfl
    | cons c closing => exact absurd List.mem_cons_self ((List.cons.inj same).1 ▸ closed)
  have opening {more : List Char} (opened : ']' ∉ more) : ']' ∉ front ++ more := by simp [unclosed, opened]
  cases groups with
  | @nil closing more closed opened =>
    obtain rfl := bare closed text
    exact @nil [] _ List.not_mem_nil (opening opened)
  | @cons closing more key rest keys closed opened left right groups =>
    obtain rfl := bare closed text
    have grouped := @cons [] _ _ _ _ List.not_mem_nil (opening opened) left right groups
    rwa [List.append_assoc] at grouped

theorem not_mem (groups : Groups cs keys) {key : List Char} (member : key ∈ keys) : '[' ∉ key ∧ ']' ∉ key := by
  induction groups with
  | nil => cases member
  | cons _ _ left right _ ih =>
    rcases List.mem_cons.1 member with rfl | later
    · exact ⟨left, right⟩
    · exact ih later

end Groups

/-! ### The scan -/

section Scan

variable {c : Char} {key rest : List Char} {pending : Option (List Char)}

theorem bracketKeys_open (pending : Option (List Char)) (rest : List Char) :
    bracketKeys pending ('[' :: rest) = bracketKeys (some []) rest := by
  cases pending <;> rfl

theorem bracketKeys_other (left : c ≠ '[') (right : c ≠ ']') :
    bracketKeys pending (c :: rest) = bracketKeys (pending.map (c :: ·)) rest := by
  cases pending <;> simp [bracketKeys, left, right]

/-- Nothing is pending in text that opens no bracket. -/
theorem bracketKeys_append_left (unopened : '[' ∉ key) : bracketKeys none (key ++ rest) = bracketKeys none rest := by
  induction key with
  | nil => rfl
  | cons c key ih =>
    rw [List.mem_cons, not_or] at unopened
    rw [List.cons_append]
    by_cases close : c = ']'
    · subst close
      exact ih unopened.2
    · rw [bracketKeys_other (Ne.symm unopened.1) close]
      exact ih unopened.2

/-- Whatever is pending in text that closes no bracket is given up where one opens. -/
theorem bracketKeys_append_opening (unclosed : ']' ∉ key) :
    bracketKeys pending (key ++ '[' :: rest) = bracketKeys (some []) rest := by
  induction key generalizing pending with
  | nil => exact bracketKeys_open pending rest
  | cons c key ih =>
    rw [List.mem_cons, not_or] at unclosed
    rw [List.cons_append]
    by_cases open_ : c = '['
    · rw [open_, bracketKeys_open, ih unclosed.2]
    · rw [bracketKeys_other open_ (Ne.symm unclosed.1), ih unclosed.2]

theorem bracketKeys_of_unclosed (unclosed : ']' ∉ key) : bracketKeys pending key = [] := by
  induction key generalizing pending with
  | nil => cases pending <;> rfl
  | cons c key ih =>
    rw [List.mem_cons, not_or] at unclosed
    by_cases open_ : c = '['
    · rw [open_, bracketKeys_open, ih unclosed.2]
    · rw [bracketKeys_other open_ (Ne.symm unclosed.1), ih unclosed.2]

/-- A closing bracket makes a key of all that stands since the last opening one. -/
theorem bracketKeys_append_closing (left : '[' ∉ key) (right : ']' ∉ key) (front rest : List Char) :
    bracketKeys (some front) (key ++ ']' :: rest) = (front.reverse ++ key) :: bracketKeys none rest := by
  induction key generalizing front with
  | nil =>
    rw [List.append_nil]
    rfl
  | cons c key ih =>
    rw [List.mem_cons, not_or] at left right
    rw [List.cons_append, bracketKeys_other (Ne.symm left.1) (Ne.symm right.1), Option.map_some, ih left.2 right.2,
      List.reverse_cons, List.append_assoc, List.singleton_append]

theorem Groups.bracketKeys_eq {cs : List Char} {keys : List (List Char)} (groups : Groups cs keys) :
    bracketKeys none cs = keys := by
  induction groups with
  | nil closed opened => rw [bracketKeys_append_left closed, bracketKeys_of_unclosed opened]
  | cons closed opened left right _ ih =>
    rw [bracketKeys_append_left closed, bracketKeys_append_opening opened, bracketKeys_append_closing left right, ih]
    rfl

/-- What is pending, as it stands in the text. -/
def pendingText : Option (List Char) → List Char
  | none => []
  | some front => '[' :: front.reverse

theorem not_mem_pendingText (bare : ∀ front ∈ pending, '[' ∉ front ∧ ']' ∉ front) : ']' ∉ pendingText pending := by
  cases pending with
  | none => exact List.not_mem_nil
  | some front => simpa [pendingText] using (bare front rfl).2

/-- The scan finds the groups of what is pending together with what comes. -/
theorem groups_bracketKeys (cs : List Char) (bare : ∀ front ∈ pending, '[' ∉ front ∧ ']' ∉ front) :
    Groups (pendingText pending ++ cs) (bracketKeys pending cs) := by
  induction cs generalizing pending with
  | nil =>
    rw [bracketKeys_of_unclosed List.not_mem_nil, List.append_nil]
    exact @Groups.nil [] _ List.not_mem_nil (not_mem_pendingText bare)
  | cons c cs ih =>
    by_cases open_ : c = '['
    · subst open_
      have started : Groups ('[' :: cs) (bracketKeys (some []) cs) := @ih (some []) (by simp)
      rw [bracketKeys_open]
      exact started.append_opening (not_mem_pendingText bare)
    by_cases close : c = ']'
    · subst close
      have ended : Groups cs (bracketKeys none cs) := @ih none (by simp)
      cases pending with
      | none => exact @Groups.append_left [']'] _ _ (by decide) ended
      | some front =>
        obtain ⟨left, right⟩ := bare front rfl
        exact @Groups.cons [] [] front.reverse _ _ List.not_mem_nil List.not_mem_nil (by simpa using left)
          (by simpa using right) ended
    · rw [bracketKeys_other open_ close]
      cases pending with
      | none => exact @Groups.append_left [c] _ _ (by simpa using Ne.symm open_) (@ih none (by simp))
      | some front =>
        have longer : ∀ more ∈ some (c :: front), '[' ∉ more ∧ ']' ∉ more := by
          simpa [Ne.symm open_, Ne.symm close] using bare front rfl
        simpa [pendingText] using @ih (some (c :: front)) longer

theorem bracketKeys_eq_iff {cs : List Char} {keys : List (List Char)} : bracketKeys none cs = keys ↔ Groups cs keys := by
  refine ⟨?_, Groups.bracketKeys_eq⟩
  rintro rfl
  exact @groups_bracketKeys none cs (by simp)

end Scan

/-! ### Names -/

/-- The keys of a name, by its form: a name without an opening bracket, or with one in
front, is its own root; any other has the groups after its root for keys. -/
inductive Addresses : String → List String → Prop where
  | whole {name : String} : '[' ∉ name.toList ∨ name.toList.head? = some '[' → Addresses name [name]
  | grouped {root rest : List Char} {keys : List (List Char)} : root ≠ [] → '[' ∉ root → Groups ('[' :: rest) keys →
      Addresses (String.ofList (root ++ '[' :: rest)) (String.ofList root :: keys.map String.ofList)

theorem keys_of_opened (rest : List Char) : keys (String.ofList ('[' :: rest)) = [String.ofList ('[' :: rest)] := by
  have cuts : Text.cut '[' ('[' :: rest) = ([], some rest) := Text.cut_append List.not_mem_nil rest
  rw [keys, String.toList_ofList, cuts]

theorem keys_of_rooted {root : List Char} (named : root ≠ []) (whole : '[' ∉ root) (rest : List Char) :
    keys (String.ofList (root ++ '[' :: rest)) =
      String.ofList root :: (bracketKeys none ('[' :: rest)).map String.ofList := by
  rw [keys, String.toList_ofList, Text.cut_append whole, bracketKeys_open]
  cases root with
  | nil => exact absurd rfl named
  | cons c root => rfl

theorem addresses_keys (name : String) : Addresses name (keys name) := by
  by_cases inside : '[' ∈ name.toList
  · obtain ⟨root, rest, whole, split, -⟩ := Text.cut_of_mem inside
    obtain rfl : name = String.ofList (root ++ '[' :: rest) := by rw [← split, String.ofList_toList]
    by_cases named : root = []
    · subst named
      rw [List.nil_append, keys_of_opened]
      exact .whole (.inr (by rw [String.toList_ofList, List.head?_cons]))
    · rw [keys_of_rooted named whole]
      exact .grouped named whole (bracketKeys_eq_iff.1 rfl)
  · rw [keys_of_plain inside]
    exact .whole (.inl inside)

namespace Addresses

variable {name : String} {ks : List String}

theorem keys_eq (addresses : Addresses name ks) : keys name = ks := by
  cases addresses with
  | whole form =>
    rcases form with plain | opened
    · exact keys_of_plain plain
    · obtain ⟨rest, text⟩ := List.head?_eq_some_iff.1 opened
      rw [← String.ofList_toList (s := name), text, keys_of_opened]
  | grouped named whole groups => rw [keys_of_rooted named whole, groups.bracketKeys_eq]

theorem exists_cons (addresses : Addresses name ks) :
    ∃ root rest, ks = root :: rest ∧ ∀ k ∈ rest, '[' ∉ k.toList ∧ ']' ∉ k.toList := by
  cases addresses with
  | whole => exact ⟨_, _, rfl, fun k member => absurd member List.not_mem_nil⟩
  | grouped named whole groups =>
    refine ⟨_, _, rfl, fun k member => ?_⟩
    obtain ⟨key, inside, rfl⟩ := List.mem_map.1 member
    rw [String.toList_ofList]
    exact groups.not_mem inside

end Addresses

theorem keys_eq_iff {name : String} {ks : List String} : keys name = ks ↔ Addresses name ks :=
  ⟨fun same => same ▸ addresses_keys name, Addresses.keys_eq⟩

/-- A root and keys as a name, each key in brackets. -/
def bracketed (root : String) (ks : List String) : String := root ++ String.join (ks.map fun k => "[" ++ k ++ "]")

theorem toList_bracketed (root : String) (ks : List String) :
    (bracketed root ks).toList = root.toList ++ ks.flatMap fun k => '[' :: (k.toList ++ [']']) := by
  simp [bracketed, String.toList_join, List.flatMap_map]

theorem groups_bracketed {ks : List String} (bare : ∀ k ∈ ks, '[' ∉ k.toList ∧ ']' ∉ k.toList) :
    Groups (ks.flatMap fun k => '[' :: (k.toList ++ [']'])) (ks.map String.toList) := by
  induction ks with
  | nil => exact @Groups.nil [] [] List.not_mem_nil List.not_mem_nil
  | cons k ks ih =>
    obtain ⟨left, right⟩ := bare k List.mem_cons_self
    have rest := ih fun k member => bare k (List.mem_cons_of_mem _ member)
    simpa using @Groups.cons [] [] k.toList _ _ List.not_mem_nil List.not_mem_nil left right rest

theorem addresses_bracketed {root : String} {ks : List String} (named : root ≠ "") (whole : '[' ∉ root.toList)
    (bare : ∀ k ∈ ks, '[' ∉ k.toList ∧ ']' ∉ k.toList) : Addresses (bracketed root ks) (root :: ks) := by
  have text := toList_bracketed root ks
  have groups := groups_bracketed bare
  cases ks with
  | nil =>
    have alone : bracketed root [] = root := by rw [← String.toList_inj, text, List.flatMap_nil, List.append_nil]
    rw [alone]
    exact .whole (.inl whole)
  | cons k ks =>
    rw [List.flatMap_cons, List.cons_append] at text groups
    have read := Addresses.grouped (by simpa using named) whole groups
    have same : (k :: ks).map (String.ofList ∘ String.toList) = k :: ks :=
      List.map_id'' (fun _ => String.ofList_toList) _
    rwa [← text, String.ofList_toList, String.ofList_toList, List.map_map, same] at read

/-- A name that is written with keys in brackets reads back as its root and these keys, whatever
characters they are made of. And any name, however its brackets stand, has the keys of its form:
a first one, and behind it none with a bracket. -/
theorem bracketed_reads_back :
    (∀ (root : String) (ks : List String), root ≠ "" → '[' ∉ root.toList →
      (∀ k ∈ ks, '[' ∉ k.toList ∧ ']' ∉ k.toList) → keys (bracketed root ks) = root :: ks) ∧
    ∀ name, (∀ ks, keys name = ks ↔ Addresses name ks) ∧
      ∃ root rest, keys name = root :: rest ∧ ∀ k ∈ rest, '[' ∉ k.toList ∧ ']' ∉ k.toList := by
  refine ⟨fun root ks named whole bare => ?_, fun name => ⟨fun ks => keys_eq_iff, ?_⟩⟩
  · exact keys_eq_iff.2 (addresses_bracketed named whole bare)
  · exact (addresses_keys name).exists_cons

theorem bracketed_reads_back_filter :
    "filter" ≠ "" ∧ '[' ∉ "filter".toList ∧ (∀ k ∈ ["a\nb", "", "é"], '[' ∉ k.toList ∧ ']' ∉ k.toList) ∧
      bracketed "filter" ["a\nb", "", "é"] = "filter[a\nb][][é]" ∧
      keys "filter[a\nb][][é]" = ["filter", "a\nb", "", "é"] := by
  have bare : ∀ k ∈ ["a\nb", "", "é"], '[' ∉ k.toList ∧ ']' ∉ k.toList := by decide
  have text : bracketed "filter" ["a\nb", "", "é"] = "filter[a\nb][][é]" := by decide
  refine ⟨by decide, by decide, bare, text, ?_⟩
  rw [← text]
  exact bracketed_reads_back.1 "filter" ["a\nb", "", "é"] (by decide) (by decide) bare

example : keys "a]b[[c]d]e[" = ["a]b", "c"] := by decide

end SwaggerGate.Query
