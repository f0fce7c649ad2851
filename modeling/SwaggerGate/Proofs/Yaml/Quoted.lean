import SwaggerGate.Proofs.Json.Shared
import SwaggerGate.Proofs.Yaml.Cursor

/-! Strings of JSON as scalars in double quotes. The scanner takes such a scalar in stretches,
which hold several pieces of a string each or one. -/
namespace SwaggerGate.Yaml

open Json (Piece Stops piecesText)

section Steps

variable {c : Cursor} {fuel : Nat} {rest : List Char}

/-- Reading goes on behind what has been found. -/
def goOn (found : List Char) (fuel : Nat) (c : Cursor) : Except Error (List Char × Cursor) := do
  let (more, c) ← quotedBody '"' fuel c
  return (found ++ more, c)

theorem quotedBody_run (plain : isQuotedChar c.head = true) :
    quotedBody '"' (fuel + 1) c = goOn (c.run isQuotedChar) fuel (c.skipWhile isQuotedChar) := by
  simp only [quotedBody, plain, if_true]
  rfl

theorem quotedBody_end (ahead : c.rest = '"' :: rest) : quotedBody '"' (fuel + 1) c = .ok ([], c.step) := by
  have noRun : isQuotedChar '"' = false := rfl
  simp only [quotedBody, Cursor.head_eq ahead, noRun, Char.reduceEq, false_and, if_false, if_true, Bool.false_eq_true]
  rfl

theorem quotedBody_apostrophe (ahead : c.rest = '\'' :: rest) :
    quotedBody '"' (fuel + 1) c = goOn ['\''] fuel c.step := by
  have noRun : isQuotedChar '\'' = false := rfl
  simp only [quotedBody, Cursor.head_eq ahead, noRun, Char.reduceEq, false_and, if_false, if_true, Bool.false_eq_true,
    true_or]
  rfl

theorem quotedBody_escape {e x : Char} (ahead : c.rest = '\\' :: e :: rest) (known : escapedChar? e = some x) :
    quotedBody '"' (fuel + 1) c = goOn [x] fuel (c.skip 2) := by
  have next : c.step.head = e := Cursor.head_eq (by rw [Cursor.rest_step, ahead]; rfl)
  have noRun : isQuotedChar '\\' = false := rfl
  simp only [quotedBody, Cursor.head_eq ahead, noRun, Char.reduceEq, false_and, if_false, if_true, Bool.false_eq_true,
    or_self, next, known]
  rfl

theorem quotedBody_code {digits : List Char} {unit : Nat} (ahead : c.rest = '\\' :: 'u' :: (digits ++ rest))
    (four : digits.length = 4) (hex : Text.hexNumber? digits = some unit) (small : unit ≤ 0x10ffff) :
    quotedBody '"' (fuel + 1) c = goOn [Text.charOf unit] fuel (c.skip 6) := by
  have next : c.step.head = 'u' := Cursor.head_eq (by rw [Cursor.rest_step, ahead]; rfl)
  have code : codeEscape 4 c.step.step = .ok (Text.charOf unit, c.skip 6) := by
    have here : (c.skip 2).rest = digits ++ rest := by rw [Cursor.rest_skip, ahead]; rfl
    have taken : (digits ++ rest).take 4 = digits := by rw [← four, List.take_left]
    change codeEscape 4 (c.skip 2) = _
    rw [codeEscape, here, taken, if_pos four, hex, Cursor.skip_skip]
    simp only []
    rw [if_neg (by omega), if_neg (by omega)]
  have noRun : isQuotedChar '\\' = false := rfl
  have noLetter : escapedChar? 'u' = none := rfl
  have length : escapeLength? 'u' = some 4 := rfl
  simp only [quotedBody, Cursor.head_eq ahead, noRun, Char.reduceEq, false_and, if_false, if_true, Bool.false_eq_true,
    or_self, next, noLetter, length, code]
  rfl

theorem quotedBody_gap (ahead : c.rest = ' ' :: rest) (noEnd : (c.skipWhile isGap).head ≠ endMark)
    (noBreak : isBreak (c.skipWhile isGap).head = false) :
    quotedBody '"' (fuel + 1) c = goOn (c.run isGap) fuel (c.skipWhile isGap) := by
  have noRun : isQuotedChar ' ' = false := rfl
  rw [Cursor.skipWhile] at noEnd noBreak
  simp only [quotedBody, Cursor.head_eq ahead, noRun, Char.reduceEq, false_and, and_false, or_self, if_false, Bool.false_eq_true,
    noEnd, noBreak]
  rfl

end Steps

/-! ### Pieces -/

theorem piecesText_cons (p : Piece) (pieces : List Piece) : piecesText (p :: pieces) = p.text ++ piecesText pieces :=
  List.flatMap_cons ..

theorem piecesText_append (front back : List Piece) : piecesText (front ++ back) = piecesText front ++ piecesText back :=
  List.flatMap_append ..

/-- A stretch of pieces that stand for themselves and are of one kind. -/
theorem stretch {q : Char → Bool} (quote : q '"' = false) (backslash : q '\\' = false) (pieces : List Piece) :
    ∃ front back, pieces = front ++ back ∧ piecesText front = front.map Piece.char ∧
      (front.map Piece.char).all q = true ∧ ∀ rest, Stops q (piecesText back ++ '"' :: rest) := by
  induction pieces with
  | nil => exact ⟨[], [], rfl, rfl, rfl, fun rest => Stops.cons quote⟩
  | cons p pieces ih =>
    cases p with
    | raw x plain =>
      cases inside : q x with
      | true =>
        obtain ⟨front, back, rfl, text, all, stops⟩ := ih
        refine ⟨.raw x plain :: front, back, rfl, ?_, ?_, stops⟩
        · rw [List.map_cons, ← text]
          rfl
        · rw [List.map_cons, List.all_cons, all]
          exact (Bool.and_true _).trans inside
      | false => exact ⟨[], .raw x plain :: pieces, rfl, rfl, rfl, fun rest => Stops.cons inside⟩
    | escape e x known => exact ⟨[], .escape e x known :: pieces, rfl, rfl, rfl, fun rest => Stops.cons backslash⟩
    | code digits unit four hex => exact ⟨[], .code digits unit four hex :: pieces, rfl, rfl, rfl, fun rest => Stops.cons backslash⟩

theorem hexDigit?_lt {x : Char} {d : Nat} (digit : Text.hexDigit? x = some d) : d < 16 := by
  simp only [Text.hexDigit?, Char.le_def, UInt32.le_iff_toNat_le] at digit
  split at digit
  next bounds =>
    cases digit
    have most : x.toNat ≤ 57 := bounds.2
    change x.toNat - 48 < 16
    omega
  next =>
    split at digit
    next bounds =>
      cases digit
      have most : x.toNat ≤ 102 := bounds.2
      change x.toNat - 97 + 10 < 16
      omega
    next =>
      split at digit
      next bounds =>
        cases digit
        have most : x.toNat ≤ 70 := bounds.2
        change x.toNat - 65 + 10 < 16
        omega
      next => cases digit

/-- A number with one more hexadecimal digit behind it. -/
def withHexDigit (sum : Option Nat) (x : Char) : Option Nat := match sum, Text.hexDigit? x with
  | some n, some d => some (16 * n + d)
  | _, _ => none

theorem foldl_withHexDigit_none (digits : List Char) : digits.foldl withHexDigit none = none := by
  induction digits with
  | nil => rfl
  | cons x digits ih => exact ih

theorem foldl_withHexDigit_some (digits : List Char) : ∀ n unit, digits.foldl withHexDigit (some n) = some unit →
    (∀ x ∈ digits, ∃ d, Text.hexDigit? x = some d) ∧ unit < (n + 1) * 16 ^ digits.length := by
  induction digits with
  | nil =>
    intro n unit same
    cases same
    simp
  | cons x digits ih =>
    intro n unit same
    rw [List.foldl_cons] at same
    cases digit : Text.hexDigit? x with
    | none =>
      have stuck : withHexDigit (some n) x = none := by simp only [withHexDigit, digit]
      rw [stuck, foldl_withHexDigit_none] at same
      cases same
    | some d =>
      have step : withHexDigit (some n) x = some (16 * n + d) := by simp only [withHexDigit, digit]
      rw [step] at same
      obtain ⟨all, less⟩ := ih _ _ same
      refine ⟨List.forall_mem_cons.2 ⟨⟨d, digit⟩, all⟩, ?_⟩
      calc unit < (16 * n + d + 1) * 16 ^ digits.length := less
        _ ≤ ((n + 1) * 16) * 16 ^ digits.length :=
          Nat.mul_le_mul_right _ (by have := hexDigit?_lt digit; omega)
        _ = (n + 1) * 16 ^ (x :: digits).length := by rw [List.length_cons, Nat.pow_succ', Nat.mul_assoc]

/-- Hexadecimal digits write a number below the power of their length. -/
theorem hexNumber?_spec {digits : List Char} {unit : Nat} (hex : Text.hexNumber? digits = some unit) :
    (∀ x ∈ digits, ∃ d, Text.hexDigit? x = some d) ∧ unit < 16 ^ digits.length := by
  have same : Text.hexNumber? digits = digits.foldl withHexDigit (some 0) := rfl
  simpa using foldl_withHexDigit_some digits 0 unit (same ▸ hex)

/-- Whether a character is printed, and in ASCII. -/
def isPrinted (x : Char) : Bool := ' ' ≤ x && x ≤ '~'

theorem isPrinted_hexDigit {x : Char} {d : Nat} (digit : Text.hexDigit? x = some d) : isPrinted x = true := by
  have within {low high : Char} (first : ' ' ≤ low) (last : high ≤ '~') (bounds : low ≤ x ∧ x ≤ high) : isPrinted x = true := by
    rw [isPrinted, Bool.and_eq_true, decide_eq_true_eq, decide_eq_true_eq]
    exact ⟨Char.le_trans first bounds.1, Char.le_trans bounds.2 last⟩
  unfold Text.hexDigit? at digit
  split at digit
  next bounds => exact within (by decide) (by decide) bounds
  next =>
    split at digit
    next bounds => exact within (by decide) (by decide) bounds
    next =>
      split at digit
      next bounds => exact within (by decide) (by decide) bounds
      next => cases digit

/-- What a piece is written as is printed, unless it is a character that stands for itself. -/
theorem isPrinted_piece {p : Piece} (noRaw : ∀ x plain, p ≠ .raw x plain) : ∀ x ∈ p.text, isPrinted x = true := by
  cases p with
  | raw x plain => exact absurd rfl (noRaw x plain)
  | escape e x known =>
    refine List.forall_mem_cons.2 ⟨rfl, List.forall_mem_singleton.2 ?_⟩
    unfold Json.simpleEscape? at known
    split at known <;> first | rfl | cases known
  | code digits unit four hex =>
    refine List.forall_mem_cons.2 ⟨rfl, List.forall_mem_cons.2 ⟨rfl, fun x member => ?_⟩⟩
    obtain ⟨d, digit⟩ := (hexNumber?_spec hex).1 x member
    exact isPrinted_hexDigit digit

theorem isBreak_of_isPrinted {x : Char} (printed : isPrinted x = true) : isBreak x = false := by
  simp only [isBreak, Bool.or_eq_false_iff, beq_eq_false_iff_ne]
  refine ⟨⟨⟨⟨?_, ?_⟩, ?_⟩, ?_⟩, ?_⟩ <;> rintro rfl <;> exact absurd printed (by decide)

theorem isAllowed_of_isPrinted {x : Char} (printed : isPrinted x = true) : isAllowed x = true := by
  have inside : (decide (' ' ≤ x) && decide (x ≤ '~')) = true := printed
  simp [isAllowed, inside]

/-- Every text holds what a shared piece is written as, and none of it breaks the line. -/
theorem shared_piece {p : Piece} (shared : p.isShared = true) :
    ∀ x ∈ p.text, isAllowed x = true ∧ isBreak x = false := by
  by_cases raw : ∃ x plain, p = .raw x plain
  · obtain ⟨x, plain, rfl⟩ := raw
    intro y member
    rw [List.mem_singleton.1 member]
    simpa [Piece.isShared] using shared
  · have printed := isPrinted_piece (p := p) fun x plain same => raw ⟨x, plain, same⟩
    exact fun x member => ⟨isAllowed_of_isPrinted (printed x member), isBreak_of_isPrinted (printed x member)⟩

theorem escapedChar?_of_simple {e x : Char} (known : Json.simpleEscape? e = some x) : escapedChar? e = some x := by
  unfold Json.simpleEscape? at known
  split at known <;> cases known <;> rfl

/-- A raw character that is none of the marks and no blank is taken with others in one stretch. -/
theorem isQuotedChar_raw {x : Char} (plain : Json.isRaw x = true) (noBreak : isBreak x = false) (noMark : x ≠ '\'')
    (noBlank : x ≠ ' ') : isQuotedChar x = true := by
  simp only [Json.isRaw, Bool.and_eq_true, decide_eq_true_eq, bne_iff_ne] at plain
  have noEnd : x ≠ endMark := by rintro rfl; exact absurd plain.1.1 (by decide)
  have noTab : x ≠ '\t' := by rintro rfl; exact absurd plain.1.1 (by decide)
  simp [isQuotedChar, isGapOrEnd, isGap, isBreakOrEnd, noBreak, noMark, noBlank, noEnd, noTab, plain.1.2, plain.2]

theorem goOn_ok {found more : List Char} {fuel : Nat} {c d : Cursor} (read : quotedBody '"' fuel c = .ok (more, d)) :
    goOn found fuel c = .ok (found ++ more, d) := by
  rw [goOn, read]
  rfl

/-- What stands ahead in a string neither ends the text nor breaks the line. -/
theorem head_pieces {pieces : List Piece} {c : Cursor} {rest : List Char} (shared : ∀ p ∈ pieces, p.isShared = true)
    (ahead : c.rest = piecesText pieces ++ '"' :: rest) : c.head ≠ endMark ∧ isBreak c.head = false := by
  cases pieces with
  | nil =>
    rw [Cursor.head_eq ahead]
    decide
  | cons p pieces =>
    cases p with
    | raw x plain =>
      have here := shared _ List.mem_cons_self
      simp only [Piece.isShared, Bool.and_eq_true, Bool.not_eq_true'] at here
      rw [Cursor.head_eq ahead]
      refine ⟨?_, here.2⟩
      rintro rfl
      exact absurd plain (by decide)
    | escape e x known =>
      rw [Cursor.head_eq ahead]
      decide
    | code digits unit four hex =>
      rw [Cursor.head_eq ahead]
      decide

section Front

variable {c : Cursor} {fuel : Nat} {rest : List Char}

/-- Where some pieces are read at once, and those behind them after, all are. -/
theorem quotedBody_front (front : List Piece) {back : List Piece} (ahead : c.rest = piecesText (front ++ back) ++ '"' :: rest)
    (step : quotedBody '"' (fuel + 1) c = goOn (front.map Piece.char) fuel (c.skip (piecesText front).length))
    (later : ∀ d : Cursor, d.rest = piecesText back ++ '"' :: rest →
      quotedBody '"' fuel d = .ok (back.map Piece.char, d.skip ((piecesText back).length + 1))) :
    quotedBody '"' (fuel + 1) c = .ok ((front ++ back).map Piece.char, c.skip ((piecesText (front ++ back)).length + 1)) := by
  rw [piecesText_append, List.append_assoc] at ahead
  have read := later _ (Cursor.rest_skip_front ahead)
  rw [Cursor.skip_skip] at read
  rw [step, goOn_ok read, List.map_append, piecesText_append, List.length_append, Nat.add_assoc]

/-- Raw characters of one kind are taken in a stretch. -/
theorem quotedBody_stretch {q : Char → Bool} {front back : List Piece} (text : piecesText front = front.map Piece.char)
    (all : (front.map Piece.char).all q = true) (stops : Stops q (piecesText back ++ '"' :: rest))
    (ahead : c.rest = piecesText (front ++ back) ++ '"' :: rest) (shared : ∀ p ∈ back, p.isShared = true)
    (onward : (c.skipWhile q).head ≠ endMark → isBreak (c.skipWhile q).head = false →
      quotedBody '"' (fuel + 1) c = goOn (c.run q) fuel (c.skipWhile q)) :
    quotedBody '"' (fuel + 1) c = goOn (front.map Piece.char) fuel (c.skip (piecesText front).length) := by
  rw [piecesText_append, List.append_assoc, text] at ahead
  have skipped := Cursor.skipWhile_front ahead all stops
  obtain ⟨noEnd, noBreak⟩ := head_pieces shared (Cursor.rest_skip_front ahead)
  rw [← skipped] at noEnd noBreak
  rw [onward noEnd noBreak, Cursor.run_front ahead all stops, skipped, text]

end Front

/-- A string is read as the characters of its pieces. -/
theorem quotedBody_pieces : ∀ (fuel : Nat) {pieces : List Piece} {c : Cursor} {rest : List Char},
    (∀ p ∈ pieces, p.isShared = true) → c.rest = piecesText pieces ++ '"' :: rest → pieces.length < fuel →
      quotedBody '"' fuel c = .ok (pieces.map Piece.char, c.skip ((piecesText pieces).length + 1))
  | 0, pieces, c, rest, shared, ahead, enough => absurd enough (Nat.not_lt_zero _)
  | fuel + 1, [], c, rest, shared, ahead, enough => quotedBody_end ahead
  | fuel + 1, .escape e x known :: pieces, c, rest, shared, ahead, enough => by
    refine quotedBody_front [.escape e x known] ahead ?_ fun d next =>
      quotedBody_pieces fuel (List.forall_mem_cons.1 shared).2 next (Nat.lt_of_succ_lt_succ enough)
    exact quotedBody_escape ahead (escapedChar?_of_simple known)
  | fuel + 1, .code digits unit four hex :: pieces, c, rest, shared, ahead, enough => by
    have small : unit ≤ 0x10ffff := by
      have := (hexNumber?_spec hex).2
      rw [four] at this
      omega
    have digits_ : c.rest = '\\' :: 'u' :: (digits ++ (piecesText pieces ++ '"' :: rest)) := by
      rw [ahead, piecesText_cons, List.append_assoc]
      rfl
    have length : (piecesText [Piece.code digits unit four hex]).length = 6 := by
      rw [piecesText_cons, List.length_append]
      exact congrArg (· + 2) four
    refine quotedBody_front [.code digits unit four hex] ahead ?_ fun d next =>
      quotedBody_pieces fuel (List.forall_mem_cons.1 shared).2 next (Nat.lt_of_succ_lt_succ enough)
    rw [length]
    exact quotedBody_code digits_ four hex small
  | fuel + 1, .raw x plain :: pieces, c, rest, shared, ahead, enough => by
    have here := shared _ List.mem_cons_self
    simp only [Piece.isShared, Bool.and_eq_true, Bool.not_eq_true'] at here
    have head : c.rest = x :: (piecesText pieces ++ '"' :: rest) := ahead
    -- a stretch of a kind to which the character belongs holds it, so fewer pieces are left
    have stretched {q : Char → Bool} (quote : q '"' = false) (backslash : q '\\' = false) (inside : q x = true)
        (onward : (c.skipWhile q).head ≠ endMark → isBreak (c.skipWhile q).head = false →
          quotedBody '"' (fuel + 1) c = goOn (c.run q) fuel (c.skipWhile q)) :
        quotedBody '"' (fuel + 1) c = .ok ((Piece.raw x plain :: pieces).map Piece.char,
          c.skip ((piecesText (.raw x plain :: pieces)).length + 1)) := by
      obtain ⟨front, back, rfl, text, all, stops⟩ := stretch quote backslash pieces
      have text : piecesText (.raw x plain :: front) = (Piece.raw x plain :: front).map Piece.char :=
        congrArg (x :: ·) text
      have all : ((Piece.raw x plain :: front).map Piece.char).all q = true := by
        rw [List.map_cons, List.all_cons, all]
        exact (Bool.and_true _).trans inside
      have shared_ : ∀ p ∈ back, p.isShared = true := fun p member =>
        shared p (List.mem_cons_of_mem _ (List.mem_append_right _ member))
      have fewer : back.length < fuel := by
        rw [List.length_cons, List.length_append] at enough
        omega
      exact quotedBody_front (.raw x plain :: front) ahead (quotedBody_stretch text all (stops rest) ahead shared_ onward)
        fun d next => quotedBody_pieces fuel shared_ next fewer
    by_cases apostrophe : x = '\''
    · subst apostrophe
      refine quotedBody_front [.raw '\'' plain] ahead ?_ fun d next =>
        quotedBody_pieces fuel (List.forall_mem_cons.1 shared).2 next (Nat.lt_of_succ_lt_succ enough)
      exact quotedBody_apostrophe head
    · by_cases blank : x = ' '
      · subst blank
        exact stretched rfl rfl rfl (quotedBody_gap head)
      · have run := isQuotedChar_raw plain here.2 apostrophe blank
        exact stretched rfl rfl run fun _ _ => quotedBody_run ((Cursor.head_eq head).symm ▸ run)

theorem shared_pieces : ∀ {pieces : List Piece}, Json.areShared pieces = true → ∀ p ∈ pieces, p.isShared = true
  | [], _, _, member => nomatch member
  | [p], shared, q, member => by
    rw [List.mem_singleton.1 member]
    exact shared
  | p :: q :: pieces, shared, r, member => by
    simp only [Json.areShared, Bool.and_eq_true] at shared
    rcases List.mem_cons.1 member with rfl | member
    · exact shared.1.1
    · exact shared_pieces shared.2 r member

/-- No two pieces of a shared string are one character. -/
theorem chars_shared : ∀ {pieces : List Piece}, Json.areShared pieces = true → Json.chars pieces = pieces.map Piece.char
  | [], _ => rfl
  | [_], _ => rfl
  | p :: q :: pieces, shared => by
    simp only [Json.areShared, Bool.and_eq_true, Bool.not_eq_true'] at shared
    rw [Json.chars, if_neg (by simp [shared.1.2]), chars_shared shared.2]
    rfl

theorem shared_quoted {pieces : List Piece} (shared : Json.areShared pieces = true) :
    ∀ x ∈ Json.quoted pieces, isAllowed x = true ∧ isBreak x = false := by
  refine List.forall_mem_cons.2 ⟨by decide, List.forall_mem_append.2 ⟨fun x member => ?_, List.forall_mem_singleton.2 (by decide)⟩⟩
  obtain ⟨p, known, inside⟩ := List.mem_flatMap.1 member
  exact shared_piece (shared_pieces shared p known) x inside

/-- A string with its quotes is one scalar. -/
theorem quotedScalar_quoted {pieces : List Piece} (shared : Json.areShared pieces = true) {c : Cursor} {rest : List Char}
    (ahead : c.rest = Json.quoted pieces ++ rest) :
    quotedScalar c = .ok (Json.chars pieces, c.skip (Json.quoted pieces).length) := by
  have ahead : c.rest = '"' :: (piecesText pieces ++ '"' :: rest) := by
    rw [ahead, Json.quoted]
    simp
  have next : c.step.rest = piecesText pieces ++ '"' :: rest := by
    rw [Cursor.rest_step, ahead]
    rfl
  have enough : pieces.length < 2 * c.rest.length + 2 := by
    have few := Json.length_le_piecesText pieces
    rw [ahead]
    simp
    omega
  have body := quotedBody_pieces (2 * c.rest.length + 2) (shared_pieces shared) next enough
  rw [← Cursor.skip_one, Cursor.skip_skip] at body
  rw [quotedScalar, Cursor.head_eq ahead, ← Cursor.skip_one, body, chars_shared shared]
  have length : 1 + ((piecesText pieces).length + 1) = (Json.quoted pieces).length := by
    simp [Json.quoted]
    omega
  rw [length]

end SwaggerGate.Yaml
