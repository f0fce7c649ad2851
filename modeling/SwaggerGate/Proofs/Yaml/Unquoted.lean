import SwaggerGate.Proofs.Yaml.Cursor
import SwaggerGate.Proofs.Yaml.Plain

/-! Plain scalars inside flow collections. A word or a number is taken whole, and the layout
behind it with it. -/
namespace SwaggerGate.Yaml

open Json (Stops)

/-- What comes after a value in a flow collection. -/
def Closes (x : Char) : Prop := x = ',' ∨ x = ']' ∨ x = '\x7d'

/-- A character of a plain scalar that structures nothing wherever it stands. -/
def isPlainChar (x : Char) : Bool :=
  !isGapOrEnd x && x != ':' && x != '#' && !",?[]\x7b\x7d".toList.contains x

section Layout

variable {c : Cursor} {b rest : List Char} {x : Char}

theorem head_layout (ahead : c.rest = b ++ x :: rest) (layout : b.all isLayout = true) :
    c.head = ' ' ∨ c.head = '\n' ∨ c.head = x := by
  cases b with
  | nil => exact .inr (.inr (Cursor.head_eq ahead))
  | cons y b =>
    rw [Cursor.head_eq ahead]
    rw [List.all_cons, Bool.and_eq_true] at layout
    rcases isLayout_iff.1 layout.1 with same | same
    · exact .inl same
    · exact .inr (.inl same)

theorem isSeparator_layout (ahead : c.rest = b ++ x :: rest) (layout : b.all isLayout = true) (closes : Closes x) :
    c.isSeparator = false := by
  have apart : c.head ≠ '-' ∧ c.head ≠ '.' := by
    rcases head_layout ahead layout with same | same | same <;> rw [same]
    · decide
    · decide
    · rcases closes with rfl | rfl | rfl <;> decide
  simp [Cursor.isSeparator, Cursor.isMarker, apart]

theorem plainBreaks_layout {fuel : Nat} (ahead : c.rest = b ++ x :: rest) (layout : b.all isLayout = true)
    (closes : Closes x) (enough : b.length < fuel) :
    ∃ more, plainBreaks fuel c = (some more, c.skip b.length) := by
  induction fuel generalizing b c with
  | zero => exact absurd enough (Nat.not_lt_zero _)
  | succ fuel ih =>
    cases b with
    | nil =>
      have other : x ≠ ' ' ∧ isBreak x = false := by rcases closes with rfl | rfl | rfl <;> decide
      refine ⟨[], ?_⟩
      simp only [plainBreaks, Cursor.head_eq ahead, other, if_false, Bool.false_eq_true]
      rfl
    | cons y b =>
      rw [List.all_cons, Bool.and_eq_true] at layout
      have next : c.step.rest = b ++ x :: rest := by rw [Cursor.rest_step, ahead]; rfl
      obtain ⟨more, found⟩ := ih next layout.2 (Nat.lt_of_succ_lt_succ enough)
      rcases isLayout_iff.1 layout.1 with rfl | rfl
      · refine ⟨more, ?_⟩
        simp only [plainBreaks, Cursor.head_eq ahead, if_true]
        exact found
      · have breaks : isBreak '\n' = true := rfl
        refine ⟨'\n' :: more, ?_⟩
        simp only [plainBreaks, Cursor.head_eq ahead, Char.reduceEq, if_false, breaks, if_true, lineBreak_feed ahead,
          isSeparator_layout next layout.2 closes, Bool.false_eq_true, found]
        rfl

/-- Layout behind a plain scalar is taken with it. -/
theorem plainGap_layout (ahead : c.rest = b ++ x :: rest) (layout : b.all isLayout = true) (closes : Closes x) :
    (plainGap c).after = c.skip b.length := by
  obtain ⟨spaces, later, rfl, blank, next⟩ := layout_cases layout
  rw [List.append_assoc] at ahead
  have other : x ≠ ' ' ∧ isBreak x = false := by rcases closes with rfl | rfl | rfl <;> decide
  have stops : Stops (· == ' ') (later ++ x :: rest) := by
    rcases next with rfl | ⟨b', rfl, -⟩
    · exact Stops.cons (beq_eq_false_iff_ne.2 other.1)
    · exact Stops.cons rfl
  have run := Cursor.run_front ahead blank stops
  have after := Cursor.rest_skip_front ahead
  rcases next with rfl | ⟨b', rfl, layout'⟩
  · have head : (c.skip spaces.length).head = x := Cursor.head_eq after
    simp only [plainGap, run, head, other.2, Bool.false_eq_true, if_false, List.append_nil]
  · have head : (c.skip spaces.length).head = '\n' := Cursor.head_eq after
    have next : (c.skip spaces.length).step.rest = b' ++ x :: rest := by rw [Cursor.rest_step, after]; rfl
    have enough : b'.length < (c.skip spaces.length).step.rest.length + 1 := by
      rw [next, List.length_append]
      omega
    obtain ⟨more, found⟩ := plainBreaks_layout next layout' closes enough
    have breaks : isBreak '\n' = true := rfl
    simp only [plainGap, run, head, breaks, if_true, lineBreak_feed after, isSeparator_layout next layout' closes,
      Bool.false_eq_true, if_false, found]
    rw [← Cursor.skip_one, Cursor.skip_skip, Cursor.skip_skip, List.length_append, List.length_cons]
    congr 1
    omega

end Layout

theorem plainLength_stop {rest : List Char} {y : Char} (stops : isGapOrEnd y = true ∨ Closes y) :
    plainLength true (y :: rest) = 0 := by
  rw [plainLength]
  rcases stops with gap | rfl | rfl | rfl
  · simp [gap]
  · rfl
  · rfl
  · rfl

theorem plainLength_front {word rest : List Char} (plain : word.all isPlainChar = true) (stops : plainLength true rest = 0) :
    plainLength true (word ++ rest) = word.length := by
  induction word with
  | nil => exact stops
  | cons y word ih =>
    rw [List.all_cons, Bool.and_eq_true] at plain
    have here := plain.1
    simp only [isPlainChar, Bool.and_eq_true, Bool.not_eq_true', bne_iff_ne] at here
    obtain ⟨⟨⟨gap, colon⟩, -⟩, mark⟩ := here
    have inside : ",?[]\x7b\x7d".toList.contains y = false := mark
    rw [List.cons_append, plainLength, ih plain.2, gap, beq_false_of_ne colon, inside]
    rfl

/-- A word is taken up to what comes behind the layout after it. -/
theorem plainBody_word {c : Cursor} {indent : Int} {fuel : Nat} {word b rest : List Char} {x : Char}
    (ahead : c.rest = word ++ (b ++ x :: rest)) (some_ : word ≠ []) (plain : word.all isPlainChar = true)
    (layout : b.all isLayout = true) (closes : Closes x) :
    ∃ broken, plainBody true indent (fuel + 2) false [] c = ((word, broken), c.skip (word.length + b.length)) := by
  have stop : plainLength true (b ++ x :: rest) = 0 := by
    cases b with
    | nil => exact plainLength_stop (.inr closes)
    | cons y b =>
      rw [List.all_cons, Bool.and_eq_true] at layout
      refine plainLength_stop (.inl ?_)
      rcases isLayout_iff.1 layout.1 with rfl | rfl <;> rfl
  have size : (if c.head = '#' then 0 else plainLength true c.rest) = word.length := by
    obtain ⟨y, word, rfl⟩ := List.exists_cons_of_ne_nil some_
    have first := (Bool.and_eq_true_iff.1 (List.all_cons.symm.trans plain)).1
    have noHash : y ≠ '#' := by
      rintro rfl
      exact absurd first (by decide)
    rw [Cursor.head_eq ahead, if_neg noHash, ahead, plainLength_front plain stop]
  have filled : word.length ≠ 0 := fun none_ => some_ (List.length_eq_zero_iff.1 none_)
  have taken : c.rest.take word.length = word := by rw [ahead, List.take_left]
  have gap : (c.skip word.length).rest = b ++ x :: rest := Cursor.rest_skip_front ahead
  have after := plainGap_layout gap layout closes
  rw [Cursor.skip_skip] at after
  have behind : (c.skip (word.length + b.length)).rest = x :: rest := by
    rw [← Cursor.skip_skip]
    exact Cursor.rest_skip_front gap
  have noHash : (c.skip (word.length + b.length)).head ≠ '#' := by
    rw [Cursor.head_eq behind]
    rcases closes with rfl | rfl | rfl <;> decide
  have ended (broken : Bool) (text : List Char) :
      plainBody true indent (fuel + 1) broken text (c.skip (word.length + b.length)) =
        (([], broken), c.skip (word.length + b.length)) := by
    simp only [plainBody, noHash, if_false, behind, plainLength_stop (.inr closes), if_true]
  rw [plainBody]
  simp only [size, filled, if_false, List.nil_append, taken]
  cases (plainGap (c.skip word.length)).text with
  | none => exact ⟨_, by rw [after]⟩
  | some text =>
    simp only [after, noHash, Bool.true_eq_false, false_and, or_self, if_false, ended, List.append_nil]
    exact ⟨_, rfl⟩

end SwaggerGate.Yaml
