import SwaggerGate.Proofs.Json.Reading
import SwaggerGate.Yaml.Token

/-! Moving a cursor over a text: what stands ahead afterwards, and on which line. -/
namespace SwaggerGate.Yaml

open Json (Stops takeWhile_front)

namespace Cursor

variable {c : Cursor} {front rest : List Char}

theorem rest_step (c : Cursor) : c.step.rest = c.rest.drop 1 := by
  rw [step]
  cases same : c.rest with
  | nil => exact same
  | cons x rest =>
    simp only []
    split <;> rfl

theorem rest_skip (n : Nat) (c : Cursor) : (c.skip n).rest = c.rest.drop n := by
  induction n generalizing c with
  | zero => rfl
  | succ n ih => rw [skip, ih, rest_step, List.drop_drop, Nat.add_comm]

theorem skip_skip (m n : Nat) (c : Cursor) : (c.skip m).skip n = c.skip (m + n) := by
  induction m generalizing c with
  | zero => rw [skip, Nat.zero_add]
  | succ m ih => rw [skip, ih, Nat.succ_add, skip]

theorem skip_one (c : Cursor) : c.skip 1 = c.step := rfl

theorem rest_skip_front (ahead : c.rest = front ++ rest) : (c.skip front.length).rest = rest := by
  rw [rest_skip, ahead, List.drop_left]

theorem head_eq {x : Char} (ahead : c.rest = x :: rest) : c.head = x := by
  rw [head, ahead]
  rfl

theorem peek_one {x y : Char} (ahead : c.rest = x :: y :: rest) : c.peek 1 = y := by
  rw [peek, ahead]
  rfl

theorem run_front {p : Char → Bool} (ahead : c.rest = front ++ rest) (inside : front.all p = true) (stops : Stops p rest) :
    c.run p = front := by
  rw [run, ahead, takeWhile_front inside stops]

theorem skipWhile_front {p : Char → Bool} (ahead : c.rest = front ++ rest) (inside : front.all p = true)
    (stops : Stops p rest) : c.skipWhile p = c.skip front.length := by
  rw [skipWhile, run_front ahead inside stops]

/-- The index counts characters. -/
theorem index_skip (ahead : c.rest = front ++ rest) : (c.skip front.length).index = c.index + front.length := by
  induction front generalizing c with
  | nil => rfl
  | cons x front ih =>
    have next : c.step.rest = front ++ rest := by rw [rest_step, ahead]; rfl
    have index : c.step.index = c.index + 1 := by
      rw [step, ahead]
      simp only [List.cons_append]
      split <;> rfl
    rw [List.length_cons, skip, ih next, index]
    omega

/-- Without line breaks a cursor stays on its line. -/
theorem line_skip (ahead : c.rest = front ++ rest) (straight : ∀ x ∈ front, isBreak x = false) :
    (c.skip front.length).line = c.line := by
  induction front generalizing c with
  | nil => rfl
  | cons x front ih =>
    have next : c.step.rest = front ++ rest := by rw [rest_step, ahead]; rfl
    have line : c.step.line = c.line := by
      have here := straight x List.mem_cons_self
      simp only [isBreak, Bool.or_eq_false_iff, beq_eq_false_iff_ne] at here
      rw [step, ahead]
      simp only [List.cons_append]
      rw [if_neg (by simp [here])]
    rw [List.length_cons, skip, ih next fun y member => straight y (List.mem_cons_of_mem _ member), line]

end Cursor

/-! ### Layout -/

/-- Whether a character is part of shared layout. -/
def isLayout (x : Char) : Bool := x == ' ' || x == '\n'

theorem isLayout_iff {x : Char} : isLayout x = true ↔ x = ' ' ∨ x = '\n' := by
  simp [isLayout]

theorem lineBreak_feed {c : Cursor} {rest : List Char} (ahead : c.rest = '\n' :: rest) : c.lineBreak = (['\n'], c.step) := by
  rw [Cursor.lineBreak, Cursor.head_eq ahead]
  rfl

/-- Layout starts with spaces, and goes on with a line feed if it goes on. -/
theorem layout_cases {b : List Char} (layout : b.all isLayout = true) :
    ∃ spaces later, b = spaces ++ later ∧ spaces.all (· == ' ') = true ∧
      (later = [] ∨ ∃ b', later = '\n' :: b' ∧ b'.all isLayout = true) := by
  induction b with
  | nil => exact ⟨[], [], rfl, rfl, .inl rfl⟩
  | cons x b ih =>
    rw [List.all_cons, Bool.and_eq_true] at layout
    rcases isLayout_iff.1 layout.1 with rfl | rfl
    · obtain ⟨spaces, later, rfl, blank, next⟩ := ih layout.2
      exact ⟨' ' :: spaces, later, rfl, by simpa using blank, next⟩
    · exact ⟨[], '\n' :: b, rfl, rfl, .inr ⟨b, rfl, layout.2⟩⟩

end SwaggerGate.Yaml
