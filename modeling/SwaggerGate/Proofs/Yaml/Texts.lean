import SwaggerGate.Proofs.Yaml.Quoted
import SwaggerGate.Proofs.Yaml.Scanning
import SwaggerGate.Proofs.Yaml.Unquoted
import SwaggerGate.Yaml.Read

/-! The scanner on the shared part of JSON. Each value is scanned as the tokens of its flow
collection. -/
namespace SwaggerGate.Yaml.Scanner

open Json (Piece Key Written Elements Members FullText)

section Tokens

variable {s : Scanner} {b rest : List Char}

/-- The scanner behind a string. -/
def behind (b : List Char) (pieces : List Piece) (keys : List (Nat × PossibleKey)) (s : Scanner) : Scanner :=
  { (s.ready b.length).push (.scalar (Json.chars pieces) false) with
    keys, keyAllowed := false, cursor := (s.ready b.length).cursor.skip (Json.quoted pieces).length }

theorem reads_behind {pieces : List Piece} {keys : List (Nat × PossibleKey)} (shared : Json.areShared pieces = true)
    (tame : Tame s) (inside : s.flow ≠ 0) (ahead : s.cursor.rest = b ++ (Json.quoted pieces ++ rest))
    (layout : b.all isLayout = true) (saved : (s.ready b.length).saveKey = .ok { s.ready b.length with keys })
    (loose : ∀ k ∈ keys, k.2.required = false) :
    Reads s [.scalar (Json.chars pieces) false] s.flow (s.behind b pieces keys) ∧
      (s.behind b pieces keys).cursor.rest = rest := by
  have front : s.cursor.rest = b ++ '"' :: (Json.piecesText pieces ++ '"' :: rest) := by
    rw [ahead, Json.quoted]
    simp
  have head := head_ready front
  have here : (s.ready b.length).cursor.rest = Json.quoted pieces ++ rest := Cursor.rest_skip_front ahead
  have scalar := quotedScalar_quoted shared here
  have taken : (s.ready b.length).fetch = .ok (s.behind b pieces keys) := by
    simp only [fetch, head, scalar]
    change (s.ready b.length).word _ _ = _
    rw [word, saved]
    rfl
  have rest_ : (s.behind b pieces keys).cursor.rest = rest := Cursor.rest_skip_front here
  refine ⟨⟨leads_token tame (.inl inside) front layout rfl (by decide) taken ?_, ⟨loose, tame.outer_eq, tame.indent_eq⟩,
    rfl, rfl⟩, rest_⟩
  rw [rest_]
  simp
  omega

/-- A string is one token. -/
theorem reads_string {pieces : List Piece} (shared : Json.areShared pieces = true) (tame : Tame s) (inside : s.flow ≠ 0)
    (ahead : s.cursor.rest = b ++ (Json.quoted pieces ++ rest)) (layout : b.all isLayout = true) :
    ∃ s', Reads s [.scalar (Json.chars pieces) false] s.flow s' ∧ s'.cursor.rest = rest := by
  obtain ⟨keys, saved, loose⟩ := (tame.ready b.length).saveKey
  exact ⟨_, reads_behind shared tame inside ahead layout saved loose⟩

/-- Characters that structure a text wherever they stand. -/
def marks : List Char := "[]\x7b\x7d,*&!'\"".toList

theorem fetch_colon (head : s.cursor.head = ':') (inside : s.flow ≠ 0) : s.fetch = s.keyValue := by
  have within : (s.flow != 0) = true := bne_iff_ne.2 inside
  have noMarker : s.cursor.isMarker '-' = false ∧ s.cursor.isMarker '.' = false := by
    simp [Cursor.isMarker, head]
  have noMark : ':' ∉ marks := by decide
  simp only [fetch, head]
  split
  case h_11 =>
    simp only [noMarker, within, Bool.true_or, Char.reduceEq, false_and, and_false, and_true, if_false, if_true,
      Bool.false_eq_true]
  all_goals
    rename_i same
    exact absurd (by rw [same]; decide) noMark

/-- A letter or a digit starts a plain scalar, and so does a hyphen before a digit. -/
theorem fetch_plain {x : Char} (head : s.cursor.head = x) (inside : s.flow ≠ 0)
    (starts : x ∈ "0123456789tfn".toList ∨ x = '-' ∧ Text.isAsciiDigit (s.cursor.peek 1) = true) : s.fetch = s.plain := by
  have within : (s.flow != 0) = true := bne_iff_ne.2 inside
  have facts : x ∉ marks ∧ x ≠ '%' ∧ x ≠ '?' ∧ x ≠ ':' ∧ s.cursor.isMarker '-' = false ∧ s.cursor.isMarker '.' = false ∧
      ¬(x = '-' ∧ isGapOrEnd (s.cursor.peek 1) = true) ∧ startsPlain true s.cursor = true := by
    rcases starts with word | ⟨rfl, digit⟩
    · have known : ∀ x ∈ "0123456789tfn".toList, (x ∉ marks ∧ x ≠ '%' ∧ x ≠ '?' ∧ x ≠ ':' ∧ x ≠ '-' ∧ x ≠ '.') ∧
          (isGapOrEnd x || "-?:,[]\x7b\x7d#&*!|>'\"%@\x60".toList.contains x) = false :=
        List.all_iff_forall_prop.1 (by decide)
      obtain ⟨⟨noMark, noPercent, noQuestion, noColon, noHyphen, noDot⟩, free⟩ := known x word
      refine ⟨noMark, noPercent, noQuestion, noColon, ?_, ?_, fun entry => noHyphen entry.1, ?_⟩
      · simp [Cursor.isMarker, head, noHyphen]
      · simp [Cursor.isMarker, head, noDot]
      · simp only [startsPlain, head, free]
        rfl
    · have known : ∀ y ∈ "0123456789".toList, isGapOrEnd y = false ∧ y ≠ '-' :=
        List.all_iff_forall_prop.1 (by decide)
      obtain ⟨noGap, noHyphen⟩ := known _ (Text.isAsciiDigit_iff.1 digit)
      refine ⟨by decide, by decide, by decide, by decide, ?_, ?_, ?_, ?_⟩
      · simp [Cursor.isMarker, head, noHyphen]
      · simp [Cursor.isMarker, head]
      · simp [noGap]
      · simp [startsPlain, head, noGap]
  obtain ⟨noMark, noPercent, noQuestion, noColon, noHyphens, noDots, noEntry, plain⟩ := facts
  simp only [fetch, head]
  split
  case h_11 =>
    simp only [noPercent, noQuestion, noColon, noHyphens, noDots, noEntry, within, plain, false_and, and_false, if_false,
      if_true, Bool.false_eq_true, Bool.true_eq_false]
  all_goals exact absurd (by decide) noMark

/-- A colon in a flow collection makes a key of the place that was saved. -/
theorem reads_colon {k : PossibleKey} {t : Token} {earlier : List Token} (tame : Tame s) (inside : s.flow ≠ 0)
    (ahead : s.cursor.rest = b ++ ':' :: rest) (layout : b.all isLayout = true)
    (saved : (s.ready b.length).keys.lookup s.flow = some k) (just : s.reversed = t :: earlier)
    (place : s.count = k.position + 1) :
    ∃ s', Leads s s' ∧ Tame s' ∧ s'.flow = s.flow ∧ s'.reversed = .value :: t :: .key :: earlier ∧
      s'.cursor.rest = rest := by
  have head := head_ready ahead
  have later : (s.ready b.length).count - k.position = 1 := by
    have : (s.ready b.length).count = k.position + 1 := place
    omega
  have last : (s.ready b.length).reversed = t :: earlier := just
  have found : (s.ready b.length).keys.lookup (s.ready b.length).flow = some k := saved
  have noBlock : (s.ready b.length).flow ≠ 0 := inside
  have taken : (s.ready b.length).fetch = .ok
      { s.ready b.length with
        keys := (s.ready b.length).keys.filter (·.1 != s.flow), reversed := .value :: t :: .key :: earlier,
        count := s.count + 1 + 1, keyAllowed := false, cursor := (s.ready b.length).cursor.step } := by
    rw [fetch_colon head inside, keyValue, found]
    simp only [insert, later, last, List.take_succ_cons, List.take_zero, List.drop_succ_cons, List.drop_zero, noBlock, if_false]
    rfl
  have rest_ := step_ready ahead
  exact ⟨_, leads_token tame (.inl inside) ahead layout rfl (by decide) taken (Nat.le_of_eq (congrArg _ rest_)),
    (tame.ready b.length).fewer (fun _ member => (List.mem_filter.1 member).1) ⟨rfl, rfl, rfl⟩, rfl, rfl, rest_⟩

/-- A key and its colon are three tokens, the first of which comes last. -/
theorem reads_key {k : Key} (shared : k.isShared = true) (tame : Tame s) (inside : s.flow ≠ 0)
    (allowed : s.keyAllowed = true) (ahead : s.cursor.rest = b ++ (k.text ++ rest)) (layout : b.all isLayout = true) :
    ∃ s', Reads s [.key, .scalar (Json.chars k.pieces) false, .value] s.flow s' ∧
      s'.cursor.rest = k.after.chars ++ rest := by
  simp only [Key.isShared, Bool.and_eq_true, decide_eq_true_eq] at shared
  obtain ⟨⟨⟨pieces, blank⟩, -⟩, near⟩ := shared
  have ahead : s.cursor.rest = b ++ (Json.quoted k.pieces ++ (k.before.chars ++ ':' :: (k.after.chars ++ rest))) := by
    rw [ahead, Key.text]
    simp
  obtain ⟨others, saved, loose⟩ : ∃ others, (s.ready b.length).saveKey = .ok
      { s.ready b.length with keys := (s.flow, keyHere (s.ready b.length)) :: others } ∧
        ∀ key ∈ (s.flow, keyHere (s.ready b.length)) :: others, key.2.required = false := by
    refine ⟨_, (tame.ready b.length).saveKey_allowed allowed, List.forall_mem_cons.2 ⟨rfl, fun key member => ?_⟩⟩
    exact (tame.ready b.length).loose key (List.mem_filter.1 member).1
  obtain ⟨first, after⟩ := reads_behind pieces tame inside ahead layout saved loose
  have isSpace (x : Char) (member : x ∈ k.before.chars) : x = ' ' := by simpa using List.all_eq_true.1 blank x member
  have spaces : k.before.chars.all isLayout = true :=
    List.all_eq_true.2 fun x member => isLayout_iff.2 (.inl (isSpace x member))
  have here : (s.ready b.length).cursor.rest =
      (Json.quoted k.pieces ++ k.before.chars) ++ ':' :: (k.after.chars ++ rest) := by
    rw [List.append_assoc]
    exact Cursor.rest_skip_front ahead
  have straight : ∀ x ∈ Json.quoted k.pieces ++ k.before.chars, isBreak x = false :=
    List.forall_mem_append.2 ⟨fun x member => (shared_quoted pieces x member).2, fun x member => by rw [isSpace x member]; rfl⟩
  have line := Cursor.line_skip here straight
  have index := Cursor.index_skip here
  rw [List.length_append, ← Cursor.skip_skip] at line index
  let between := s.behind b k.pieces ((s.flow, keyHere (s.ready b.length)) :: others)
  -- the colon is near enough for the key that was saved before the string
  have fresh : isStale (between.at_ (between.cursor.skip k.before.chars.length)) (keyHere (s.ready b.length)) = false := by
    have index : (between.cursor.skip k.before.chars.length).index =
      (s.ready b.length).cursor.index + ((Json.quoted k.pieces).length + k.before.chars.length) := index
    refine isStale_eq_false line ?_
    change (between.cursor.skip k.before.chars.length).index ≤ (s.ready b.length).cursor.index + keyReach
    omega
  have lookup : (between.ready k.before.chars.length).keys.lookup between.flow = some (keyHere (s.ready b.length)) := by
    have keys : (between.ready k.before.chars.length).keys = ((s.flow, keyHere (s.ready b.length)) :: others).filter
      fun key => !isStale (between.at_ (between.cursor.skip k.before.chars.length)) key.2 := rfl
    rw [keys, List.filter_cons_of_pos (by rw [fresh]; rfl)]
    exact List.lookup_cons_self
  obtain ⟨s', leads, tame', flow, reversed, rest_⟩ := reads_colon first.tame (first.flow_eq ▸ inside) after spaces lookup
    rfl rfl
  exact ⟨s', ⟨first.leads.trans leads, tame', flow, reversed⟩, rest_⟩

/-- Whether a text starts like a word or a number. -/
def StartsWord (word : List Char) : Prop :=
  ∃ x more, word = x :: more ∧
    (x ∈ "0123456789tfn".toList ∨ x = '-' ∧ ∃ d later, more = d :: later ∧ Text.isAsciiDigit d = true)

/-- A word or a number is one token, and the layout behind it is passed over with it. -/
theorem reads_plain {word b' : List Char} {x : Char} (starts : StartsWord word) (plain : word.all isPlainChar = true)
    (tame : Tame s) (inside : s.flow ≠ 0) (ahead : s.cursor.rest = b ++ (word ++ (b' ++ x :: rest)))
    (layout : b.all isLayout = true) (layout' : b'.all isLayout = true) (closes : Closes x) :
    ∃ s', Reads s [.scalar word true] s.flow s' ∧ s'.cursor.rest = x :: rest := by
  obtain ⟨y, more, rfl, first⟩ := starts
  have here : (s.ready b.length).cursor.rest = y :: more ++ (b' ++ x :: rest) := Cursor.rest_skip_front ahead
  have head : (s.ready b.length).cursor.head = y := Cursor.head_eq here
  have noSkip : isSkipped y = false ∧ y ≠ endMark := by
    have known : ∀ y ∈ "0123456789tfn-".toList, isSkipped y = false ∧ y ≠ endMark :=
      List.all_iff_forall_prop.1 (by decide)
    refine known y ?_
    rcases first with member | ⟨rfl, -⟩
    · exact List.mem_append_left ['-'] member
    · decide
  have fetch_ : (s.ready b.length).fetch = (s.ready b.length).plain := by
    refine fetch_plain head inside (first.imp_right fun ⟨hyphen, d, later, same, digit⟩ => ⟨hyphen, ?_⟩)
    subst same
    rw [Cursor.peek_one here]
    exact digit
  obtain ⟨fuel, enough⟩ : ∃ fuel, (s.ready b.length).cursor.rest.length + 1 = fuel + 2 :=
    ⟨(s.ready b.length).cursor.rest.length - 1, by rw [here, List.length_append, List.length_cons]; omega⟩
  obtain ⟨broken, body⟩ : ∃ broken, plainBody true ((s.ready b.length).indent + 1) (fuel + 2) false []
      (s.ready b.length).cursor = ((y :: more, broken), (s.ready b.length).cursor.skip ((y :: more).length + b'.length)) :=
    plainBody_word here (List.cons_ne_nil y more) plain layout' closes
  obtain ⟨keys, saved, loose⟩ := (tame.ready b.length).saveKey
  have within : ((s.ready b.length).flow != 0) = true := bne_iff_ne.2 inside
  have taken : (s.ready b.length).fetch = .ok
      { (s.ready b.length).push (.scalar (y :: more) true) with
        keys, keyAllowed := broken, cursor := (s.ready b.length).cursor.skip ((y :: more).length + b'.length) } := by
    rw [fetch_, Scanner.plain, saved]
    simp only [bind, Except.bind, within, enough, body]
    rfl
  have rest_ : ((s.ready b.length).cursor.skip ((y :: more).length + b'.length)).rest = x :: rest := by
    rw [← Cursor.skip_skip]
    exact Cursor.rest_skip_front (Cursor.rest_skip_front here)
  refine ⟨_, ⟨leads_token tame (.inl inside) ahead layout noSkip.1 noSkip.2 taken ?_, ⟨loose, tame.outer_eq, tame.indent_eq⟩,
    rfl, rfl⟩, rest_⟩
  rw [rest_]
  simp
  omega

end Tokens

/-! ### Values -/

theorem layout_after {k : Key} (shared : k.isShared = true) : k.after.chars.all isLayout = true := by
  simp only [Key.isShared, Bool.and_eq_true] at shared
  exact shared.1.2

theorem startsWord_word (w : Json.Word) : StartsWord w.text ∧ w.text.all isPlainChar = true := by
  cases w <;> exact ⟨⟨_, _, rfl, .inl (by decide)⟩, by decide⟩

theorem startsWord_number (n : Json.Numeral) : StartsWord n.text ∧ n.text.all isPlainChar = true := by
  have known : ∀ x ∈ Json.numberChars, isPlainChar x = true := List.all_iff_forall_prop.1 (by decide)
  have digits : ∀ x ∈ "0123456789".toList, x ∈ "0123456789tfn".toList := List.all_iff_forall_prop.1 (by decide)
  refine ⟨?_, List.all_eq_true.2 fun x member => known x (n.text_mem x member)⟩
  obtain ⟨d, more, same, digit⟩ := n.unsigned_start
  rw [Json.Numeral.text, Json.Numeral.signText, same]
  cases n.negative with
  | true => exact ⟨'-', d :: more, rfl, .inr ⟨rfl, d, more, rfl, digit⟩⟩
  | false => exact ⟨d, more, rfl, .inl (digits d (Text.isAsciiDigit_iff.1 digit))⟩

/-- A collection is read if what it holds is, up to the bracket or brace that closes it. -/
theorem reads_collection {s : Scanner} {b rest after : List Char} {x : Char} {t : Token} {tokens : List Token}
    (kind : x = '[' ∧ t = .flowSequence ∨ x = '\x7b' ∧ t = .flowMapping) (tame : Tame s)
    (steady : s.flow ≠ 0 ∨ s.keyAllowed = true) (ahead : s.cursor.rest = b ++ x :: rest) (layout : b.all isLayout = true)
    (held : ∀ r : Scanner, Tame r → r.flow ≠ 0 → r.keyAllowed = true → r.cursor.rest = rest →
      ∃ s', Reads r tokens (r.flow - 1) s' ∧ s'.cursor.rest = after) :
    ∃ s', Reads s (t :: tokens) s.flow s' ∧ s'.cursor.rest = after := by
  obtain ⟨r, opened, here, allowed⟩ := reads_open kind tame steady ahead layout
  have inside : r.flow ≠ 0 := by rw [opened.flow_eq]; exact Nat.succ_ne_zero _
  obtain ⟨s', closed, rest_⟩ := held r opened.tame inside allowed here
  rw [opened.flow_eq] at closed
  exact ⟨s', opened.trans closed, rest_⟩

theorem itemTokens_more (items : Elements) :
    Flow.itemTokens false items.flows = .flowEntry :: Flow.itemTokens true items.flows := by
  cases items <;> rfl

theorem entryTokens_more (members : Members) :
    Flow.entryTokens false members.flows = .flowEntry :: Flow.entryTokens true members.flows := by
  cases members <;> rfl

mutual
/-- A value is scanned as the tokens of its flow collection. -/
theorem reads_written : ∀ (v : Written) {s : Scanner} {b b' rest : List Char} {x : Char}, v.isShared = true → Tame s →
    s.flow ≠ 0 → s.cursor.rest = b ++ (v.text ++ (b' ++ x :: rest)) → b.all isLayout = true → b'.all isLayout = true →
      Closes x → ∃ s' b'', Reads s v.flow.tokens s.flow s' ∧ s'.cursor.rest = b'' ++ x :: rest ∧ b''.all isLayout = true
  | .word w, s, b, b', rest, x, _, tame, inside, ahead, layout, layout', closes => by
    obtain ⟨starts, plain⟩ := startsWord_word w
    obtain ⟨s', reads, rest_⟩ := reads_plain starts plain tame inside ahead layout layout' closes
    exact ⟨s', [], reads, rest_, rfl⟩
  | .number n, s, b, b', rest, x, _, tame, inside, ahead, layout, layout', closes => by
    obtain ⟨starts, plain⟩ := startsWord_number n
    obtain ⟨s', reads, rest_⟩ := reads_plain starts plain tame inside ahead layout layout' closes
    exact ⟨s', [], reads, rest_, rfl⟩
  | .string pieces, s, b, b', rest, x, shared, tame, inside, ahead, layout, layout', _ => by
    obtain ⟨s', reads, rest_⟩ := reads_string shared tame inside ahead layout
    exact ⟨s', b', reads, rest_, layout'⟩
  | .emptyArray within, s, b, b', rest, x, shared, tame, inside, ahead, layout, layout', _ => by
    have ahead : s.cursor.rest = b ++ '[' :: (within.chars ++ ']' :: (b' ++ x :: rest)) := by
      rw [ahead, Written.text]
      simp
    obtain ⟨s', reads, rest_⟩ := reads_collection (.inl ⟨rfl, rfl⟩) tame (.inl inside) ahead layout
      fun r tame inside _ here => reads_close (.inl ⟨rfl, rfl⟩) tame inside here shared
    exact ⟨s', b', reads, rest_, layout'⟩
  | .array lead items, s, b, b', rest, x, shared, tame, inside, ahead, layout, layout', _ => by
    simp only [Written.isShared, Bool.and_eq_true] at shared
    have ahead : s.cursor.rest = b ++ '[' :: (lead.chars ++ (items.text ++ (b' ++ x :: rest))) := by
      rw [ahead, Written.text]
      simp
    obtain ⟨s', reads, rest_⟩ := reads_collection (.inl ⟨rfl, rfl⟩) tame (.inl inside) ahead layout
      fun r tame inside _ here => reads_items items shared.2 tame inside here shared.1
    exact ⟨s', b', reads, rest_, layout'⟩
  | .emptyObject within, s, b, b', rest, x, shared, tame, inside, ahead, layout, layout', _ => by
    have ahead : s.cursor.rest = b ++ '\x7b' :: (within.chars ++ '\x7d' :: (b' ++ x :: rest)) := by
      rw [ahead, Written.text]
      simp
    obtain ⟨s', reads, rest_⟩ := reads_collection (.inr ⟨rfl, rfl⟩) tame (.inl inside) ahead layout
      fun r tame inside _ here => reads_close (.inr ⟨rfl, rfl⟩) tame inside here shared
    exact ⟨s', b', reads, rest_, layout'⟩
  | .object lead members, s, b, b', rest, x, shared, tame, inside, ahead, layout, layout', _ => by
    simp only [Written.isShared, Bool.and_eq_true] at shared
    have ahead : s.cursor.rest = b ++ '\x7b' :: (lead.chars ++ (members.text ++ (b' ++ x :: rest))) := by
      rw [ahead, Written.text]
      simp
    obtain ⟨s', reads, rest_⟩ := reads_collection (.inr ⟨rfl, rfl⟩) tame (.inl inside) ahead layout
      fun r tame inside allowed here => reads_members members shared.2 tame inside allowed here shared.1
    exact ⟨s', b', reads, rest_, layout'⟩
theorem reads_items : ∀ (items : Elements) {s : Scanner} {b rest : List Char}, items.areShared = true → Tame s → s.flow ≠ 0 →
    s.cursor.rest = b ++ (items.text ++ rest) → b.all isLayout = true →
      ∃ s', Reads s (Flow.itemTokens true items.flows) (s.flow - 1) s' ∧ s'.cursor.rest = rest
  | .last v after, s, b, rest, shared, tame, inside, ahead, layout => by
    simp only [Elements.areShared, Bool.and_eq_true] at shared
    have ahead : s.cursor.rest = b ++ (v.text ++ (after.chars ++ ']' :: rest)) := by
      rw [ahead, Elements.text]
      simp
    obtain ⟨r, b', value, here, layout'⟩ := reads_written v shared.1 tame inside ahead layout shared.2 (.inr (.inl rfl))
    obtain ⟨s', closed, rest_⟩ := reads_close (.inl ⟨rfl, rfl⟩) value.tame (value.flow_eq ▸ inside) here layout'
    rw [value.flow_eq] at closed
    exact ⟨s', value.trans closed, rest_⟩
  | .more v after lead others, s, b, rest, shared, tame, inside, ahead, layout => by
    simp only [Elements.areShared, Bool.and_eq_true] at shared
    obtain ⟨⟨⟨first, behind⟩, leads⟩, later⟩ := shared
    have ahead : s.cursor.rest = b ++ (v.text ++ (after.chars ++ ',' :: (lead.chars ++ (others.text ++ rest)))) := by
      rw [ahead, Elements.text]
      simp
    obtain ⟨r, b', value, here, layout'⟩ := reads_written v first tame inside ahead layout behind (.inl rfl)
    obtain ⟨q, comma, here, -⟩ := reads_comma value.tame (value.flow_eq ▸ inside) here layout'
    rw [value.flow_eq] at comma
    obtain ⟨s', closed, rest_⟩ := reads_items others later comma.tame (comma.flow_eq ▸ inside) here leads
    rw [comma.flow_eq] at closed
    refine ⟨s', ?_, rest_⟩
    rw [Elements.flows, Flow.itemTokens, itemTokens_more]
    exact value.trans (comma.trans closed)
theorem reads_members : ∀ (members : Members) {s : Scanner} {b rest : List Char}, members.areShared = true → Tame s →
    s.flow ≠ 0 → s.keyAllowed = true → s.cursor.rest = b ++ (members.text ++ rest) → b.all isLayout = true →
      ∃ s', Reads s (Flow.entryTokens true members.flows) (s.flow - 1) s' ∧ s'.cursor.rest = rest
  | .last key v after, s, b, rest, shared, tame, inside, allowed, ahead, layout => by
    simp only [Members.areShared, Bool.and_eq_true] at shared
    obtain ⟨⟨known, first⟩, behind⟩ := shared
    have between := layout_after known
    have ahead : s.cursor.rest = b ++ (key.text ++ (v.text ++ (after.chars ++ '\x7d' :: rest))) := by
      rw [ahead, Members.text]
      simp
    obtain ⟨q, colon, here⟩ := reads_key known tame inside allowed ahead layout
    obtain ⟨r, b', value, here, layout'⟩ := reads_written v first colon.tame (colon.flow_eq ▸ inside) here between behind
      (.inr (.inr rfl))
    rw [colon.flow_eq] at value
    obtain ⟨s', closed, rest_⟩ := reads_close (.inr ⟨rfl, rfl⟩) value.tame (value.flow_eq ▸ inside) here layout'
    rw [value.flow_eq] at closed
    exact ⟨s', colon.trans (value.trans closed), rest_⟩
  | .more key v after lead others, s, b, rest, shared, tame, inside, allowed, ahead, layout => by
    simp only [Members.areShared, Bool.and_eq_true] at shared
    obtain ⟨⟨⟨⟨known, first⟩, behind⟩, leads⟩, later⟩ := shared
    have between := layout_after known
    have ahead : s.cursor.rest =
        b ++ (key.text ++ (v.text ++ (after.chars ++ ',' :: (lead.chars ++ (others.text ++ rest))))) := by
      rw [ahead, Members.text]
      simp
    obtain ⟨q, colon, here⟩ := reads_key known tame inside allowed ahead layout
    obtain ⟨r, b', value, here, layout'⟩ := reads_written v first colon.tame (colon.flow_eq ▸ inside) here between behind
      (.inl rfl)
    rw [colon.flow_eq] at value
    obtain ⟨t, comma, here, allowed⟩ := reads_comma value.tame (value.flow_eq ▸ inside) here layout'
    rw [value.flow_eq] at comma
    obtain ⟨s', closed, rest_⟩ := reads_members others later comma.tame (comma.flow_eq ▸ inside) allowed here leads
    rw [comma.flow_eq] at closed
    refine ⟨s', ?_, rest_⟩
    rw [Members.flows, Flow.entryTokens, entryTokens_more]
    exact colon.trans (value.trans (comma.trans closed))
end

/-! ### Texts -/

/-- A text of an object is scanned to its end. -/
theorem run_text (t : FullText) (object : t.root.isObject = true) (shared : t.isShared = true) (fuel : Nat) :
    run (t.chars.length + 2 + fuel) { cursor := { rest := t.chars } } = ⟨t.root.flow.tokens, none⟩ := by
  obtain ⟨lead, root, trail⟩ := t
  simp only [FullText.isShared, Bool.and_eq_true] at shared
  obtain ⟨⟨leads, inside⟩, trails⟩ := shared
  let s : Scanner := { cursor := { rest := FullText.chars ⟨lead, root, trail⟩ } }
  have tame : Tame s := ⟨fun _ member => (nomatch member), rfl, rfl⟩
  have read : ∃ s', Reads s root.flow.tokens s.flow s' ∧ s'.cursor.rest = trail.chars := by
    cases root with
    | emptyObject within =>
      have ahead : s.cursor.rest = lead.chars ++ '\x7b' :: (within.chars ++ '\x7d' :: trail.chars) := by
        simp [s, FullText.chars, Written.text]
      exact reads_collection (.inr ⟨rfl, rfl⟩) tame (.inr rfl) ahead leads
        fun r tame inside' _ here => reads_close (.inr ⟨rfl, rfl⟩) tame inside' here inside
    | object first members =>
      simp only [Written.isShared, Bool.and_eq_true] at inside
      have ahead : s.cursor.rest = lead.chars ++ '\x7b' :: (first.chars ++ (members.text ++ trail.chars)) := by
        simp [s, FullText.chars, Written.text]
      exact reads_collection (.inr ⟨rfl, rfl⟩) tame (.inr rfl) ahead leads
        fun r tame inside' allowed here => reads_members members inside.2 tame inside' allowed here inside.1
    | _ => cases object
  obtain ⟨s', reads, rest⟩ := read
  obtain ⟨n, few, leads_⟩ := reads.leads
  obtain ⟨s'', ended, reversed⟩ := advance_end reads.tame (rest ▸ trails)
  have enough : (FullText.chars ⟨lead, root, trail⟩).length + 2 + fuel =
      n + ((FullText.chars ⟨lead, root, trail⟩).length + 1 + fuel - n + 1) := by
    have : n ≤ (FullText.chars ⟨lead, root, trail⟩).length := Nat.le_trans (Nat.le_add_right ..) few
    omega
  rw [enough, leads_, run_end ended, reversed, reads.reversed_eq]
  simp [s]

end SwaggerGate.Yaml.Scanner

namespace SwaggerGate.Yaml

open Json (Written Elements Members FullText)

/-! Every character of a shared value is allowed in a text. -/

theorem allowed_layout {b : Json.Blanks} (shared : b.isShared = true) : b.chars.all isAllowed = true := by
  refine List.all_eq_true.2 fun x member => ?_
  rcases isLayout_iff.1 (List.all_eq_true.1 shared x member) with rfl | rfl <;> decide

theorem allowed_key {k : Json.Key} (shared : k.isShared = true) : k.text.all isAllowed = true := by
  simp only [Json.Key.isShared, Bool.and_eq_true] at shared
  obtain ⟨⟨⟨pieces, blank⟩, after⟩, -⟩ := shared
  have string : (Json.quoted k.pieces).all isAllowed = true :=
    List.all_eq_true.2 fun x member => (shared_quoted pieces x member).1
  have spaces : k.before.chars.all isAllowed = true := by
    refine List.all_eq_true.2 fun x member => ?_
    rw [show x = ' ' by simpa using List.all_eq_true.1 blank x member]
    decide
  have colon : isAllowed ':' = true := by decide
  simp only [Json.Key.text, List.all_append, List.all_cons, string, spaces, colon, allowed_layout after, Bool.and_self]

section Allowed

private theorem allowed_marks : isAllowed '[' = true ∧ isAllowed ']' = true ∧ isAllowed '\x7b' = true ∧
    isAllowed '\x7d' = true ∧ isAllowed ',' = true := by
  decide

mutual
theorem allowed_written : ∀ v : Written, v.isShared = true → v.text.all isAllowed = true
  | .word w, _ => by cases w <;> decide
  | .number n, _ => by
    have known : ∀ x ∈ Json.numberChars, isAllowed x = true := List.all_iff_forall_prop.1 (by decide)
    exact List.all_eq_true.2 fun x member => known x (n.text_mem x member)
  | .string pieces, shared => List.all_eq_true.2 fun x member => (shared_quoted shared x member).1
  | .emptyArray inside, shared => by
    simp [Written.text, allowed_marks, allowed_layout (b := inside) shared]
  | .array lead items, shared => by
    simp only [Written.isShared, Bool.and_eq_true] at shared
    simp [Written.text, allowed_marks, allowed_layout shared.1, allowed_items items shared.2]
  | .emptyObject inside, shared => by
    simp [Written.text, allowed_marks, allowed_layout (b := inside) shared]
  | .object lead members, shared => by
    simp only [Written.isShared, Bool.and_eq_true] at shared
    simp [Written.text, allowed_marks, allowed_layout shared.1, allowed_members members shared.2]
theorem allowed_items : ∀ items : Elements, items.areShared = true → items.text.all isAllowed = true
  | .last v after, shared => by
    simp only [Elements.areShared, Bool.and_eq_true] at shared
    simp [Elements.text, allowed_marks, allowed_written v shared.1, allowed_layout shared.2]
  | .more v after lead rest, shared => by
    simp only [Elements.areShared, Bool.and_eq_true] at shared
    obtain ⟨⟨⟨first, behind⟩, leads⟩, later⟩ := shared
    simp [Elements.text, allowed_marks, allowed_written v first, allowed_layout behind, allowed_layout leads,
      allowed_items rest later]
theorem allowed_members : ∀ members : Members, members.areShared = true → members.text.all isAllowed = true
  | .last key v after, shared => by
    simp only [Members.areShared, Bool.and_eq_true] at shared
    simp [Members.text, allowed_marks, allowed_key shared.1.1, allowed_written v shared.1.2, allowed_layout shared.2]
  | .more key v after lead rest, shared => by
    simp only [Members.areShared, Bool.and_eq_true] at shared
    obtain ⟨⟨⟨⟨known, first⟩, behind⟩, leads⟩, later⟩ := shared
    simp [Members.text, allowed_marks, allowed_key known, allowed_written v first, allowed_layout behind,
      allowed_layout leads, allowed_members rest later]
end

end Allowed

/-- The text of a shared object is scanned as the tokens of its flow collection. -/
theorem scan_text (t : FullText) (object : t.root.isObject = true) (shared : t.isShared = true) :
    scan t.chars = ⟨t.root.flow.tokens, none⟩ := by
  have parts := shared
  simp only [FullText.isShared, Bool.and_eq_true] at parts
  have allowed : t.chars.all isAllowed = true := by
    simp only [FullText.chars, List.all_append, allowed_layout parts.1.1, allowed_written t.root parts.1.2,
      allowed_layout parts.2, Bool.and_self]
  obtain ⟨rest, opens⟩ : ∃ rest, t.root.text = '\x7b' :: rest := by
    cases root : t.root with
    | emptyObject within => exact ⟨_, rfl⟩
    | object first members => exact ⟨_, rfl⟩
    | _ => rw [root] at object; cases object
  have noMark : ({ rest := t.chars } : Cursor).head ≠ byteOrderMark := by
    have ahead : ({ rest := t.chars } : Cursor).rest = t.lead.chars ++ '\x7b' :: (rest ++ t.trail.chars) := by
      rw [FullText.chars, opens, List.cons_append]
    rcases head_layout ahead parts.1.1 with same | same | same <;> rw [same] <;> decide
  rw [scan, if_pos allowed]
  simp only [noMark, if_false]
  exact Scanner.run_text t object shared 0

/-- A shared object is read as its value. -/
theorem read_text (t : FullText) (object : t.root.isObject = true) (shared : t.isShared = true)
    (short : t.root.isShort = true) (shallow : t.root.depth ≤ Graph.nestingLimit) : Yaml.read t.chars = .ok t.root.value := by
  have means : t.root.flow.Means t.root.value := by
    simp only [FullText.isShared, Bool.and_eq_true] at shared
    exact t.root.means shared.1.2 short
  rw [Yaml.read, scan_text t object shared, Graph.ofScanned_flow _ (t.root.depth_flow ▸ shallow)]
  exact Flow.value_graph means

end SwaggerGate.Yaml
