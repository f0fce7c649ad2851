import SwaggerGate.Proofs.Yaml.Cursor
import SwaggerGate.Yaml.Scan

/-! Steps of the scanner inside flow collections. Keys there are never required and no block is
open, so a step passes over layout and takes the token that comes after it. -/
namespace SwaggerGate.Yaml

open Json (Stops)

/-! ### Passing over layout -/

/-- Whether a character is passed over before a token. -/
def isSkipped (x : Char) : Bool := x == ' ' || x == '#' || isBreak x

theorem head_stops {c : Cursor} {rest : List Char} (ahead : c.rest = rest) (stops : Stops isSkipped rest) :
    isSkipped c.head = false := by
  rw [Cursor.head, ahead]
  cases rest with
  | nil => rfl
  | cons x rest => exact stops x rfl

namespace Scanner

theorem skipToToken_layout {fuel : Nat} {s : Scanner} {b rest : List Char} (ahead : s.cursor.rest = b ++ rest)
    (layout : b.all isLayout = true) (stops : Stops isSkipped rest) (enough : b.length < fuel) :
    ∃ allowed, skipToToken fuel s = { s with cursor := s.cursor.skip b.length, keyAllowed := allowed } ∧
      (s.flow ≠ 0 ∨ s.keyAllowed = true → allowed = s.keyAllowed) := by
  induction fuel generalizing s b with
  | zero => exact absurd enough (Nat.not_lt_zero _)
  | succ fuel ih =>
    obtain ⟨spaces, later, rfl, blank, next⟩ := layout_cases layout
    rw [List.append_assoc] at ahead
    have stopsBlank : Stops (· == ' ') (later ++ rest) := by
      rcases next with rfl | ⟨b', rfl, -⟩
      · intro x head
        have := stops x head
        simp only [isSkipped, Bool.or_eq_false_iff] at this
        exact this.1.1
      · exact Stops.cons rfl
    have skipped := Cursor.skipWhile_front ahead blank stopsBlank
    have after := Cursor.rest_skip_front ahead
    rw [skipToToken, skipped]
    rcases next with rfl | ⟨b', rfl, layout'⟩
    · have head := head_stops after stops
      simp only [isSkipped, Bool.or_eq_false_iff, beq_eq_false_iff_ne] at head
      rw [List.append_nil]
      simp only [head.1.2, head.2, if_false, Bool.false_eq_true]
      exact ⟨s.keyAllowed, rfl, fun _ => rfl⟩
    · have head : (s.cursor.skip spaces.length).head = '\n' := Cursor.head_eq after
      have after' : ((s.cursor.skip spaces.length).lineBreak.2).rest = b' ++ rest := by
        rw [lineBreak_feed after, Cursor.rest_step, after]
        rfl
      have noHash : ¬(s.cursor.skip spaces.length).head = '#' := by rw [head]; decide
      have breaks : isBreak (s.cursor.skip spaces.length).head = true := by rw [head]; rfl
      simp only [noHash, if_false, breaks, if_true]
      obtain ⟨allowed, skip, same⟩ := ih (s := { s with
        cursor := (s.cursor.skip spaces.length).lineBreak.2, keyAllowed := s.flow == 0 || s.keyAllowed })
        after' layout' (by simp at enough; omega)
      refine ⟨allowed, ?_, fun kept => ?_⟩
      · rw [skip, lineBreak_feed after, ← Cursor.skip_one, Cursor.skip_skip, Cursor.skip_skip]
        simp [Nat.add_comm]
      · rcases kept with inside | on
        · rw [same (.inl inside)]
          simp [inside]
        · rw [same (.inr (by simp [on]))]
          simp [on]

/-! ### Steps -/

/-- A possible key is kept while its line goes on, for as long as a key may be. -/
theorem isStale_eq_false {s : Scanner} {k : PossibleKey} (line : s.cursor.line = k.line)
    (near : s.cursor.index ≤ k.index + keyReach) : isStale s k = false := by
  rw [isStale, line, bne_self_eq_false, Bool.false_or]
  exact decide_eq_false (by omega)

/-- No key is required and no block is open. -/
structure Tame (s : Scanner) : Prop where
  loose : ∀ k ∈ s.keys, k.2.required = false
  outer_eq : s.outer = []
  indent_eq : s.indent = -1

section Tame

variable {s : Scanner} (tame : Tame s)
include tame

theorem Tame.fewer {keys : List (Nat × PossibleKey)} (fewer : ∀ k ∈ keys, k ∈ s.keys) {t : Scanner}
    (same : t.keys = keys ∧ t.outer = s.outer ∧ t.indent = s.indent) : Tame t :=
  ⟨fun k member => tame.loose k (fewer k (same.1 ▸ member)), same.2.1.trans tame.outer_eq, same.2.2.trans tame.indent_eq⟩

theorem Tame.unwind (column : Int) : s.unwind column = s := by
  rw [Scanner.unwind, tame.outer_eq]
  split <;> rfl

theorem Tame.dropStale : s.dropStale = .ok { s with keys := s.keys.filter fun k => !isStale s k.2 } := by
  have passes : (s.keys.all fun k => !(isStale s k.2 && k.2.required)) = true :=
    List.all_eq_true.2 fun k member => by rw [tame.loose k member, Bool.and_false]; rfl
  rw [Scanner.dropStale, passes]
  rfl

theorem Tame.dropKey : s.dropKey = .ok { s with keys := s.keys.filter (·.1 != s.flow) } := by
  have passes : (!(s.keys.lookup s.flow).any PossibleKey.required) = true := by
    cases found : s.keys.lookup s.flow with
    | none => rfl
    | some k =>
      obtain ⟨front, back, same, -⟩ := List.lookup_eq_some_iff.1 found
      have free := tame.loose (s.flow, k) (same ▸ List.mem_append_right _ List.mem_cons_self)
      rw [Option.any_some, free]
      rfl
  rw [Scanner.dropKey, passes]
  rfl

/-- The key that may start here. -/
def keyHere (s : Scanner) : PossibleKey :=
  { position := s.count, required := false, index := s.cursor.index, line := s.cursor.line, column := s.cursor.column }

theorem Tame.saveKey_allowed (allowed : s.keyAllowed = true) :
    s.saveKey = .ok { s with keys := (s.flow, keyHere s) :: s.keys.filter (·.1 != s.flow) } := by
  have free : (s.flow == 0 && s.indent == s.cursor.column) = false := by
    have apart : (s.indent == (s.cursor.column : Int)) = false := by
      rw [tame.indent_eq, beq_eq_false_iff_ne]
      omega
    rw [apart, Bool.and_false]
  rw [Scanner.saveKey, if_pos allowed, tame.dropKey]
  simp only [bind, Except.bind, pure, Except.pure, free, keyHere]

theorem Tame.saveKey : ∃ keys, s.saveKey = .ok { s with keys } ∧ ∀ k ∈ keys, k.2.required = false := by
  by_cases allowed : s.keyAllowed = true
  · refine ⟨_, tame.saveKey_allowed allowed, fun k member => ?_⟩
    rcases List.mem_cons.1 member with rfl | member
    · rfl
    · exact tame.loose k (List.mem_filter.1 member).1
  · exact ⟨s.keys, by rw [Scanner.saveKey, if_neg allowed]; rfl, tame.loose⟩

end Tame

/-- The scanner at the token that stands behind some layout. -/
def ready (n : Nat) (s : Scanner) : Scanner :=
  let s := s.at_ (s.cursor.skip n)
  { s with keys := s.keys.filter fun k => !isStale s k.2 }

theorem Tame.ready {s : Scanner} (tame : Tame s) (n : Nat) : Tame (s.ready n) :=
  tame.fewer (fun _ member => (List.mem_filter.1 member).1) ⟨rfl, rfl, rfl⟩

/-- A step passes over layout and takes the token behind it. -/
theorem advance_token {s : Scanner} (tame : Tame s) (steady : s.flow ≠ 0 ∨ s.keyAllowed = true) {b rest : List Char}
    {x : Char} (ahead : s.cursor.rest = b ++ x :: rest) (layout : b.all isLayout = true) (starts : isSkipped x = false)
    (here : x ≠ endMark) : s.advance = (do return (← (s.ready b.length).fetch, false)) := by
  have enough : b.length < s.cursor.rest.length + 1 := by
    rw [ahead, List.length_append]
    omega
  obtain ⟨allowed, skip, same⟩ := skipToToken_layout ahead layout (Stops.cons starts) enough
  rw [same steady] at skip
  have tame' : Tame (s.at_ (s.cursor.skip b.length)) := tame.fewer (fun _ member => member) ⟨rfl, rfl, rfl⟩
  have drop : (s.at_ (s.cursor.skip b.length)).dropStale = .ok (s.ready b.length) := tame'.dropStale
  have head : (s.ready b.length).cursor.head = x := Cursor.head_eq (Cursor.rest_skip_front ahead)
  have noEnd : (s.ready b.length).cursor.head ≠ endMark := head ▸ here
  rw [advance, skip]
  change ((s.at_ (s.cursor.skip b.length)).dropStale >>= _) = _
  rw [drop]
  change (if ((s.ready b.length).unwind _).cursor.head = endMark then _ else _) = _
  rw [(tame.ready b.length).unwind, if_neg noEnd]

theorem run_succ (fuel : Nat) (s : Scanner) : run (fuel + 1) s = match s.advance with
    | .error e => ⟨s.told, some e⟩
    | .ok (s, true) => ⟨s.reversed.reverse, none⟩
    | .ok (s, false) => run fuel s := by
  cases fuel <;> rfl

theorem run_step {s s' : Scanner} (advanced : s.advance = .ok (s', false)) (fuel : Nat) :
    run (fuel + 1) s = run fuel s' := by
  rw [run_succ, advanced]

theorem run_end {s s' : Scanner} (advanced : s.advance = .ok (s', true)) (fuel : Nat) :
    run (fuel + 1) s = ⟨s'.reversed.reverse, none⟩ := by
  rw [run_succ, advanced]

/-- Steps lead from one scanner to another; each passes over some text, so the text bounds
their number. -/
def Leads (s s' : Scanner) : Prop :=
  ∃ n, n + s'.cursor.rest.length ≤ s.cursor.rest.length ∧ ∀ fuel, run (n + fuel) s = run fuel s'

theorem Leads.trans {s s' s'' : Scanner} (first : Leads s s') (then_ : Leads s' s'') : Leads s s'' := by
  obtain ⟨m, shorter, run⟩ := first
  obtain ⟨n, shorter', run'⟩ := then_
  exact ⟨m + n, by omega, fun fuel => by rw [Nat.add_assoc, run, run']⟩

/-- Steps that read tokens, up to a depth of flow collections. -/
structure Reads (s : Scanner) (tokens : List Token) (flow : Nat) (s' : Scanner) : Prop where
  leads : Leads s s'
  tame : Tame s'
  flow_eq : s'.flow = flow
  reversed_eq : s'.reversed = tokens.reverse ++ s.reversed

theorem Reads.trans {s s' s'' : Scanner} {tokens more : List Token} {flow flow' : Nat} (first : Reads s tokens flow s')
    (then_ : Reads s' more flow' s'') : Reads s (tokens ++ more) flow' s'' :=
  ⟨first.leads.trans then_.leads, then_.tame, then_.flow_eq, by
    rw [then_.reversed_eq, first.reversed_eq, List.reverse_append, List.append_assoc]⟩

/-- Behind the last token there is only layout. -/
theorem advance_end {s : Scanner} (tame : Tame s) (layout : s.cursor.rest.all isLayout = true) :
    ∃ s', s.advance = .ok (s', true) ∧ s'.reversed = s.reversed := by
  have ahead : s.cursor.rest = s.cursor.rest ++ [] := (List.append_nil _).symm
  obtain ⟨allowed, skip, -⟩ := skipToToken_layout ahead layout (fun x head => nomatch head) (Nat.lt_succ_self _)
  let t : Scanner := { s with cursor := s.cursor.skip s.cursor.rest.length, keyAllowed := allowed }
  have tame' : Tame t := tame.fewer (fun _ member => member) ⟨rfl, rfl, rfl⟩
  let r : Scanner := { t with keys := t.keys.filter fun k => !isStale t k.2 }
  have tame'' : Tame r := tame'.fewer (fun _ member => (List.mem_filter.1 member).1) ⟨rfl, rfl, rfl⟩
  have done : r.cursor.head = endMark := by
    have rest : r.cursor.rest = [] := Cursor.rest_skip_front ahead
    rw [Cursor.head, rest]
    rfl
  have drop : t.dropStale = .ok r := tame'.dropStale
  refine ⟨{ r with keys := r.keys.filter (·.1 != r.flow) }, ?_, rfl⟩
  rw [advance, skip]
  change (t.dropStale >>= _) = _
  rw [drop]
  change (if (r.unwind _).cursor.head = endMark then _ else _) = _
  rw [tame''.unwind, if_pos done, tame''.unwind, tame''.dropKey]
  rfl

section Token

variable {s s' : Scanner} {b rest : List Char} {x : Char}

theorem leads_token (tame : Tame s) (steady : s.flow ≠ 0 ∨ s.keyAllowed = true) (ahead : s.cursor.rest = b ++ x :: rest)
    (layout : b.all isLayout = true) (starts : isSkipped x = false) (here : x ≠ endMark)
    (fetched : (s.ready b.length).fetch = .ok s') (shorter : s'.cursor.rest.length ≤ rest.length) : Leads s s' := by
  have advanced : s.advance = .ok (s', false) := by
    rw [advance_token tame steady ahead layout starts here, fetched]
    rfl
  have less : 1 + s'.cursor.rest.length ≤ s.cursor.rest.length := by
    rw [ahead, List.length_append, List.length_cons]
    omega
  exact ⟨1, less, fun fuel => by rw [Nat.add_comm 1 fuel, run_step advanced]⟩

theorem head_ready (ahead : s.cursor.rest = b ++ x :: rest) : (s.ready b.length).cursor.head = x :=
  Cursor.head_eq (Cursor.rest_skip_front ahead)

theorem step_ready (ahead : s.cursor.rest = b ++ x :: rest) : (s.ready b.length).cursor.step.rest = rest := by
  have here : (s.ready b.length).cursor.rest = x :: rest := Cursor.rest_skip_front ahead
  rw [Cursor.rest_step, here]
  rfl

/-- A bracket or brace opens a flow collection. -/
theorem reads_open {t : Token} (kind : x = '[' ∧ t = .flowSequence ∨ x = '\x7b' ∧ t = .flowMapping) (tame : Tame s)
    (steady : s.flow ≠ 0 ∨ s.keyAllowed = true) (ahead : s.cursor.rest = b ++ x :: rest) (layout : b.all isLayout = true) :
    ∃ s', Reads s [t] (s.flow + 1) s' ∧ s'.cursor.rest = rest ∧ s'.keyAllowed = true := by
  have head := head_ready ahead
  have fetch_ : (s.ready b.length).fetch = (s.ready b.length).flowStart t := by
    rcases kind with ⟨rfl, rfl⟩ | ⟨rfl, rfl⟩ <;> simp only [fetch, head]
  have starts : isSkipped x = false ∧ x ≠ endMark := by
    rcases kind with ⟨rfl, -⟩ | ⟨rfl, -⟩ <;> decide
  obtain ⟨keys, saved, loose⟩ := (tame.ready b.length).saveKey
  have opened : (s.ready b.length).fetch = .ok
      { (s.ready b.length).push t with
        keys, flow := s.flow + 1, keyAllowed := true, cursor := (s.ready b.length).cursor.step } := by
    rw [fetch_, flowStart, saved]
    rfl
  have rest_ := step_ready ahead
  refine ⟨_, ⟨leads_token tame steady ahead layout starts.1 starts.2 opened (Nat.le_of_eq (congrArg _ rest_)), ?_, rfl, rfl⟩,
    rest_, rfl⟩
  exact ⟨loose, tame.outer_eq, tame.indent_eq⟩

/-- A bracket or brace closes it. -/
theorem reads_close {t : Token} (kind : x = ']' ∧ t = .flowSequenceEnd ∨ x = '\x7d' ∧ t = .flowMappingEnd) (tame : Tame s)
    (inside : s.flow ≠ 0) (ahead : s.cursor.rest = b ++ x :: rest) (layout : b.all isLayout = true) :
    ∃ s', Reads s [t] (s.flow - 1) s' ∧ s'.cursor.rest = rest := by
  have head := head_ready ahead
  have fetch_ : (s.ready b.length).fetch = (s.ready b.length).flowEnd t := by
    rcases kind with ⟨rfl, rfl⟩ | ⟨rfl, rfl⟩ <;> simp only [fetch, head]
  have starts : isSkipped x = false ∧ x ≠ endMark := by
    rcases kind with ⟨rfl, -⟩ | ⟨rfl, -⟩ <;> decide
  have tame' := tame.ready b.length
  have within : ((s.ready b.length).flow != 0) = true := bne_iff_ne.2 inside
  have closed : (s.ready b.length).fetch = .ok
      { (s.ready b.length).push t with
        keys := (s.ready b.length).keys.filter (·.1 != s.flow), flow := s.flow - 1, keyAllowed := false,
        cursor := (s.ready b.length).cursor.step } := by
    rw [fetch_, flowEnd, within, tame'.dropKey]
    rfl
  have rest_ := step_ready ahead
  exact ⟨_, ⟨leads_token tame (.inl inside) ahead layout starts.1 starts.2 closed (Nat.le_of_eq (congrArg _ rest_)),
    tame'.fewer (fun _ member => (List.mem_filter.1 member).1) ⟨rfl, rfl, rfl⟩, rfl, rfl⟩, rest_⟩

/-- A comma stands between two entries; a key may start behind it. -/
theorem reads_comma (tame : Tame s) (inside : s.flow ≠ 0) (ahead : s.cursor.rest = b ++ ',' :: rest)
    (layout : b.all isLayout = true) :
    ∃ s', Reads s [.flowEntry] s.flow s' ∧ s'.cursor.rest = rest ∧ s'.keyAllowed = true := by
  have head := head_ready ahead
  have tame' := tame.ready b.length
  have passed : (s.ready b.length).fetch = .ok
      { (s.ready b.length).push .flowEntry with
        keys := (s.ready b.length).keys.filter (·.1 != s.flow), keyAllowed := true,
        cursor := (s.ready b.length).cursor.step } := by
    simp only [fetch, head]
    rw [flowEntry, tame'.dropKey]
    rfl
  have rest_ := step_ready ahead
  exact ⟨_, ⟨leads_token tame (.inl inside) ahead layout rfl (by decide) passed (Nat.le_of_eq (congrArg _ rest_)),
    tame'.fewer (fun _ member => (List.mem_filter.1 member).1) ⟨rfl, rfl, rfl⟩, rfl, rfl⟩, rest_, rfl⟩

end Token

end Scanner

end SwaggerGate.Yaml
