import SwaggerGate.Proofs.Fault
import SwaggerGate.Proofs.Json.Grammar

/-! The reader of JSON on what the grammar writes. A text is read as the value that it stands
for, as long as it nests within the limit and no integer is too long. -/
namespace SwaggerGate.Json

section Runs

variable {p : Char → Bool} {front rest : List Char}

/-- Whether a text does not go on with a character of a kind. -/
def Stops (p : Char → Bool) (rest : List Char) : Prop := ∀ c ∈ rest.head?, p c = false

theorem takeWhile_front (inside : front.all p = true) (stops : Stops p rest) : (front ++ rest).takeWhile p = front := by
  rw [List.takeWhile_append_of_pos (List.all_eq_true.1 inside)]
  cases rest with
  | nil => simp
  | cons c rest => simp [stops c rfl]

theorem dropWhile_front (inside : front.all p = true) (stops : Stops p rest) : (front ++ rest).dropWhile p = rest := by
  rw [List.dropWhile_append_of_pos (List.all_eq_true.1 inside)]
  cases rest with
  | nil => rfl
  | cons c rest => simp [stops c rfl]

theorem Stops.cons {c : Char} (other : p c = false) : Stops p (c :: rest) := by
  intro found same
  cases same
  exact other

end Runs

/-- Whether a character ends a word or a number. -/
def isEnd (c : Char) : Bool := isSpace c || c == ',' || c == ']' || c == '\x7d'

/-- Whether what comes after a value does not go on with it. -/
def Follows (rest : List Char) : Prop := Stops (fun c => !isEnd c) rest

theorem Follows.stops {rest : List Char} (follows : Follows rest) {p : Char → Bool} (apart : ∀ c, isEnd c = true → p c = false) :
    Stops p rest :=
  fun c head => apart c (by simpa using follows c head)

theorem Follows.cons {c : Char} {rest : List Char} (ends : isEnd c = true) : Follows (c :: rest) :=
  Stops.cons (by rw [ends]; rfl)

theorem Blanks.follows {b : Blanks} {rest : List Char} (follows : Follows rest) : Follows (b.chars ++ rest) := by
  obtain ⟨chars, blank⟩ := b
  cases chars with
  | nil => exact follows
  | cons c chars =>
    refine Follows.cons ?_
    rw [isEnd, (Bool.and_eq_true_iff.1 blank).1]
    rfl

theorem skipSpace_blanks (b : Blanks) {rest : List Char} (stops : Stops isSpace rest) : skipSpace (b.chars ++ rest) = rest :=
  dropWhile_front b.blank stops

/-! ### Numbers -/

theorem digitsOf_front {digits rest : List Char} (decimal : digits.all Text.isAsciiDigit = true)
    (stops : Stops Text.isAsciiDigit rest) : digitsOf (digits ++ rest) = (digits, rest) := by
  rw [digitsOf, takeWhile_front decimal stops, dropWhile_front decimal stops]

private theorem not_digit_of_isEnd {c : Char} (ends : isEnd c = true) : Text.isAsciiDigit c = false := by
  simp only [isEnd, isSpace, Bool.or_eq_true, beq_iff_eq] at ends
  rcases ends with (((((rfl | rfl) | rfl) | rfl) | rfl) | rfl) | rfl <;> decide

private theorem not_mark_of_isEnd {c : Char} (ends : isEnd c = true) : c ≠ '.' ∧ c ≠ 'e' ∧ c ≠ 'E' := by
  simp only [isEnd, isSpace, Bool.or_eq_true, beq_iff_eq] at ends
  rcases ends with (((((rfl | rfl) | rfl) | rfl) | rfl) | rfl) | rfl <;> decide

theorem isDigits_iff {cs : List Char} : isDigits cs = true ↔ cs ≠ [] ∧ cs.all Text.isAsciiDigit = true := by
  simp [isDigits]

theorem Exponent.read (e : Exponent) {rest : List Char} (stops : Stops Text.isAsciiDigit rest) :
    exponentOf (e.text ++ rest) = (some e.value, rest) := by
  obtain ⟨mark, sign, digits, isMark, isSign, isDigits⟩ := e
  obtain ⟨some_, decimal⟩ := isDigits_iff.1 isDigits
  have run := digitsOf_front decimal stops
  obtain ⟨d, digits, rfl⟩ := List.exists_cons_of_ne_nil some_
  rw [List.cons_append] at run
  rcases isSign with rfl | rfl | rfl
  · have digit := (Bool.and_eq_true_iff.1 decimal).1
    have unsigned : d ≠ '-' ∧ d ≠ '+' := by
      constructor <;> rintro rfl <;> cases digit
    simp [Exponent.text, Exponent.value, exponentOf, isMark, run, unsigned]
  · simp [Exponent.text, Exponent.value, exponentOf, isMark, run]
  · simp [Exponent.text, Exponent.value, exponentOf, isMark, run]

theorem exponentOf_follows {rest : List Char} (follows : Follows rest) : exponentOf rest = (none, rest) := by
  cases rest with
  | nil => rfl
  | cons c rest =>
    have ends : isEnd c = true := by simpa using follows c rfl
    obtain ⟨-, small, capital⟩ := not_mark_of_isEnd ends
    simp [exponentOf, small, capital]

namespace Numeral

variable (n : Numeral) {rest : List Char} (follows : Follows rest)
include follows

theorem read_exponent : exponentOf (n.exponentText ++ rest) = (n.exponent.map Exponent.value, rest) := by
  rw [exponentText]
  cases n.exponent with
  | none => exact exponentOf_follows follows
  | some e => exact e.read (follows.stops fun c => not_digit_of_isEnd)

/-- Neither an exponent nor what comes after a number goes on with the digits. -/
private theorem stops_exponent : Stops Text.isAsciiDigit (n.exponentText ++ rest) := by
  rw [exponentText]
  cases n.exponent with
  | none => exact follows.stops fun c => not_digit_of_isEnd
  | some e =>
    refine Stops.cons ?_
    rcases e.isMark with mark | mark <;> rw [mark] <;> rfl

theorem read_fraction : fractionOf (n.fractionText ++ (n.exponentText ++ rest)) = (n.fraction, n.exponentText ++ rest) := by
  have run := digitsOf_front n.fractional (n.stops_exponent follows)
  rw [fractionText]
  cases given : n.fraction with
  | cons d digits =>
    rw [given] at run
    rw [List.isEmpty_cons, if_neg Bool.false_ne_true, List.cons_append, fractionOf, run]
  | nil =>
    have pointless : ∀ body, n.exponentText ++ rest ≠ '.' :: body := by
      intro body same
      rw [exponentText] at same
      cases exponent : n.exponent with
      | none =>
        rw [exponent] at same
        obtain rfl : rest = '.' :: body := same
        exact absurd (follows '.' rfl) (by decide)
      | some e =>
        rw [exponent] at same
        have mark : e.mark = '.' := (List.cons.inj same).1
        rcases e.isMark with other | other <;> rw [other] at mark <;> cases mark
    change fractionOf (n.exponentText ++ rest) = _
    unfold fractionOf
    split
    next body same => exact absurd same (pointless body)
    next => rfl

private theorem stops_fraction : Stops Text.isAsciiDigit (n.fractionText ++ (n.exponentText ++ rest)) := by
  rw [fractionText]
  split
  · exact n.stops_exponent follows
  · exact Stops.cons rfl

/-- A number is read up to what follows it. -/
theorem read (short : n.isWhole = false ∨ n.whole.length ≤ Text.maxIntegerDigits) :
    number n.negative (n.unsigned ++ rest) = .ok (.atom n.atom, rest) := by
  obtain ⟨some_, decimal⟩ := isDigits_iff.1 n.decimal
  have run := digitsOf_front decimal (n.stops_fraction follows)
  have fraction := n.read_fraction follows
  have exponent := n.read_exponent follows
  have value : (if n.whole.isEmpty then Except.error ReadError.malformed
      else if n.fraction.isEmpty && (n.exponent.map Exponent.value).isNone then
        if n.whole.length > Text.maxIntegerDigits then Except.error .longInteger
        else Except.ok (Value.int (if n.negative then -(Text.decimalNumber n.whole : Int) else Text.decimalNumber n.whole), rest)
      else Except.ok (.float (Double.ofDecimal n.negative (Text.decimalNumber (n.whole ++ n.fraction))
        ((n.exponent.map Exponent.value).getD 0 - n.fraction.length)), rest)) = .ok (.atom n.atom, rest) := by
    rw [if_neg (by simpa using some_), Option.isNone_map, ← isWhole, atom]
    rcases short with fractional | few
    · simp [fractional]
    · cases n.isWhole <;> simp [Nat.not_lt.2 few]
  rw [unsigned, List.append_assoc, List.append_assoc]
  rcases n.unpadded with zero | other
  · rw [zero, List.singleton_append, number, fraction]
    simp only [exponent, ← zero]
    exact value
  · rw [number, run]
    · simp only [fraction, exponent]
      exact value
    · intro body same
      obtain ⟨d, digits, given⟩ := List.exists_cons_of_ne_nil some_
      rw [given] at same other
      exact other (congrArg some (List.cons.inj same).1)

end Numeral

/-! ### Strings -/

theorem fourHex_front {digits : List Char} {unit : Nat} (four : digits.length = 4)
    (hex : Text.hexNumber? digits = some unit) (rest : List Char) : fourHex (digits ++ rest) = some unit := by
  have front : (digits ++ rest).take 4 = digits := by rw [← four, List.take_left]
  rw [fourHex, front, if_pos four, hex]

section Body

variable {fuel : Nat} {done rest : List Char}

theorem stringBody_raw {c : Char} (plain : isRaw c = true) :
    stringBody (fuel + 1) done (c :: rest) = stringBody fuel (c :: done) rest := by
  simp only [isRaw, Bool.and_eq_true, decide_eq_true_eq, bne_iff_ne] at plain
  obtain ⟨⟨visible, noQuote⟩, noEscape⟩ := plain
  rw [stringBody, if_neg (by simp [noEscape, Nat.not_lt.2 visible])]
  · exact noQuote
  · exact fun _ escape => absurd escape noEscape
  · exact fun _ _ escape => absurd escape noEscape

/-- A unit that does not begin a pair is a character by itself. -/
theorem stringBody_code {digits : List Char} {unit : Nat} (four : digits.length = 4)
    (hex : Text.hexNumber? digits = some unit) (single : lowAfter? rest = none ∨ Text.isHighSurrogate unit = false) :
    stringBody (fuel + 1) done ('\\' :: 'u' :: (digits ++ rest)) = stringBody fuel (Text.charOf unit :: done) rest := by
  have after : (digits ++ rest).drop 4 = rest := by rw [← four, List.drop_left]
  rw [stringBody, fourHex_front four hex]
  simp only [after]
  cases low : lowAfter? rest with
  | none => rfl
  | some unit' =>
    rcases single with none_ | notHigh
    · rw [none_] at low
      cases low
    · simp [notHigh]

theorem stringBody_pair {digits more : List Char} {high low : Nat} (four : digits.length = 4)
    (hex : Text.hexNumber? digits = some high) (isHigh : Text.isHighSurrogate high = true) (four' : more.length = 4)
    (hex' : Text.hexNumber? more = some low) (isLow : Text.isLowSurrogate low = true) :
    stringBody (fuel + 1) done ('\\' :: 'u' :: (digits ++ '\\' :: 'u' :: (more ++ rest))) =
      stringBody fuel (Text.charOf (Text.joinSurrogates high low) :: done) rest := by
  have after : (digits ++ '\\' :: 'u' :: (more ++ rest)).drop 4 = '\\' :: 'u' :: (more ++ rest) := by
    rw [← four, List.drop_left]
  have later : ('\\' :: 'u' :: (more ++ rest)).drop 6 = rest := by
    rw [List.drop_succ_cons, List.drop_succ_cons, ← four', List.drop_left]
  have second : lowAfter? ('\\' :: 'u' :: (more ++ rest)) = some low := by
    rw [lowAfter?, fourHex_front four' hex']
    simp [isLow]
  rw [stringBody, fourHex_front four hex]
  simp only [after, second, isHigh, if_true, later]

end Body

/-- What comes after a piece goes on with it only as the other half of a pair. -/
theorem lowAfter_of_not_pair {digits : List Char} {unit : Nat} {four : digits.length = 4}
    {hex : Text.hexNumber? digits = some unit} {q : Piece} (single : (Piece.code digits unit four hex).arePair q = false)
    (later : List Char) : lowAfter? (q.text ++ later) = none ∨ Text.isHighSurrogate unit = false := by
  cases q with
  | raw c plain =>
    have other : c ≠ '\\' := by
      rintro rfl
      cases plain
    exact .inl (by simp [Piece.text, lowAfter?, other])
  | escape c e known =>
    have other : c ≠ 'u' := by
      rintro rfl
      cases known
    exact .inl (by simp [Piece.text, lowAfter?, other])
  | code more low four' hex' =>
    rcases Bool.and_eq_false_iff.1 single with notHigh | notLow
    · exact .inr notHigh
    · refine .inl ?_
      change (fourHex (more ++ later)).filter Text.isLowSurrogate = none
      rw [fourHex_front four' hex']
      simp [notLow]

/-- A piece that does not go on in the next one is read as its character. -/
theorem stringBody_piece {p : Piece} {later : List Char} (fuel : Nat) (done : List Char)
    (single : ∀ digits unit four hex, p = .code digits unit four hex →
      lowAfter? later = none ∨ Text.isHighSurrogate unit = false) :
    stringBody (fuel + 1) done (p.text ++ later) = stringBody fuel (p.char :: done) later := by
  cases p with
  | raw c plain => exact stringBody_raw plain
  | escape c e known => exact stringBody_escape known
  | code digits unit four hex => exact stringBody_code four hex (single digits unit four hex rfl)

/-- The body of a string is read up to the closing quote. -/
theorem stringBody_pieces (pieces : List Piece) (rest : List Char) : ∀ (fuel : Nat) (done : List Char),
    pieces.length < fuel →
      stringBody fuel done (piecesText pieces ++ '"' :: rest) = .ok (String.ofList (done.reverse ++ chars pieces), rest) := by
  fun_induction chars pieces with
  | case1 =>
    intro fuel done enough
    obtain ⟨fuel, rfl⟩ : ∃ n, fuel = n + 1 := ⟨fuel - 1, by omega⟩
    simp [piecesText, stringBody]
  | case2 p =>
    intro fuel done enough
    obtain ⟨fuel, rfl⟩ : ∃ n, fuel = n + 2 := ⟨fuel - 2, by simp at enough; omega⟩
    have text : piecesText [p] ++ '"' :: rest = p.text ++ '"' :: rest := by simp [piecesText]
    rw [text, stringBody_piece _ _ fun _ _ _ _ _ => .inl rfl]
    simp [stringBody]
  | case3 p q later pair ih =>
    intro fuel done enough
    obtain ⟨fuel, rfl⟩ : ∃ n, fuel = n + 1 := ⟨fuel - 1, by omega⟩
    cases p with
    | code digits high four hex => cases q with
      | code more low four' hex' =>
        obtain ⟨isHigh, isLow⟩ := Bool.and_eq_true_iff.1 pair
        have text : piecesText (.code digits high four hex :: .code more low four' hex' :: later) ++ '"' :: rest =
            '\\' :: 'u' :: (digits ++ '\\' :: 'u' :: (more ++ (piecesText later ++ '"' :: rest))) := by
          simp [piecesText, Piece.text]
        rw [text, stringBody_pair four hex isHigh four' hex' isLow, ih fuel _ (by simp at enough; omega)]
        simp [Piece.joined]
      | raw | escape => cases pair
    | raw | escape => cases pair
  | case4 p q later single ih =>
    intro fuel done enough
    obtain ⟨fuel, rfl⟩ : ∃ n, fuel = n + 1 := ⟨fuel - 1, by omega⟩
    have text : piecesText (p :: q :: later) ++ '"' :: rest = p.text ++ (piecesText (q :: later) ++ '"' :: rest) := by
      simp [piecesText]
    have next : piecesText (q :: later) ++ '"' :: rest = q.text ++ (piecesText later ++ '"' :: rest) := by
      simp [piecesText]
    rw [text, stringBody_piece fuel done, ih fuel _ (by simp at enough ⊢; omega)]
    · simp
    · rintro digits unit four hex rfl
      rw [next]
      exact lowAfter_of_not_pair (by simpa using single) _

/-! ### Values -/

theorem isEnd_of_isSpace {c : Char} (blank : isSpace c = true) : isEnd c = true := by
  simp [isEnd, blank]

theorem Numeral.text_start (n : Numeral) : ∃ c more, n.text = c :: more ∧ (c = '-' ∨ Text.isAsciiDigit c = true) := by
  obtain ⟨some_, decimal⟩ := isDigits_iff.1 n.decimal
  obtain ⟨d, digits, given⟩ := List.exists_cons_of_ne_nil some_
  rw [given] at decimal
  have digit := (Bool.and_eq_true_iff.1 decimal).1
  rw [Numeral.text, signText]
  cases n.negative with
  | true => exact ⟨_, _, rfl, .inl rfl⟩
  | false => exact ⟨d, digits ++ (n.fractionText ++ n.exponentText), by simp [unsigned, given], .inr digit⟩

/-- A value starts with a character that ends none. -/
theorem Written.text_start (v : Written) : ∃ c more, v.text = c :: more ∧ isEnd c = false := by
  cases v with
  | word w => cases w <;> exact ⟨_, _, rfl, by decide⟩
  | number n =>
    obtain ⟨c, more, text, first⟩ := n.text_start
    refine ⟨c, more, text, ?_⟩
    rcases first with rfl | digit
    · decide
    · cases ends : isEnd c with
      | false => rfl
      | true => rw [not_digit_of_isEnd ends] at digit; cases digit
  | string => exact ⟨_, _, rfl, by decide⟩
  | emptyArray | array | emptyObject | object => exact ⟨_, _, rfl, by decide⟩

theorem Elements.text_start (items : Elements) : ∃ c more, items.text = c :: more ∧ isEnd c = false := by
  cases items with
  | last v after | more v after =>
    obtain ⟨c, more, text, start⟩ := v.text_start
    exact ⟨c, _, by rw [Elements.text, text]; rfl, start⟩

theorem Members.text_start (members : Members) : ∃ more, members.text = '"' :: more := by
  cases members <;> exact ⟨_, rfl⟩

private theorem below {depth inside : Nat} (shallow : depth + (inside + 1) ≤ nestingLimit) : depth ≠ nestingLimit := by
  omega

private theorem stops_of_start {p : Char → Bool} (ends : ∀ c, p c = true → isEnd c = true) {c : Char} {more : List Char}
    (start : isEnd c = false) : Stops p (c :: more) := by
  refine Stops.cons ?_
  cases held : p c with
  | false => rfl
  | true => rw [ends c held] at start; cases start

theorem Written.stops (v : Written) (rest : List Char) : Stops isSpace (v.text ++ rest) := by
  obtain ⟨c, more, text, start⟩ := v.text_start
  rw [text]
  exact stops_of_start (fun _ => isEnd_of_isSpace) start

theorem Elements.stops (items : Elements) (rest : List Char) : Stops isSpace (items.text ++ rest) := by
  obtain ⟨c, more, text, start⟩ := items.text_start
  rw [text]
  exact stops_of_start (fun _ => isEnd_of_isSpace) start

theorem Members.stops (members : Members) (rest : List Char) : Stops isSpace (members.text ++ rest) := by
  obtain ⟨more, text⟩ := members.text_start
  rw [text]
  exact Stops.cons rfl

theorem Word.read (w : Word) (rest : List Char) : constant (w.text ++ rest) = .ok (.atom w.atom, rest) := by
  cases w <;> simp [constant, Word.text, Word.atom, word?, List.findSome?] <;> rfl

theorem Numeral.read_constant (n : Numeral) {rest : List Char} (follows : Follows rest)
    (short : n.isWhole = false ∨ n.whole.length ≤ Text.maxIntegerDigits) :
    constant (n.text ++ rest) = .ok (.atom n.atom, rest) := by
  have read := n.read follows short
  obtain ⟨some_, decimal⟩ := isDigits_iff.1 n.decimal
  obtain ⟨d, digits, given⟩ := List.exists_cons_of_ne_nil some_
  rw [given] at decimal
  have digit := (Bool.and_eq_true_iff.1 decimal).1
  have unsigned : n.unsigned ++ rest = d :: (digits ++ (n.fractionText ++ n.exponentText) ++ rest) := by
    simp [Numeral.unsigned, given]
  have word (c : Char) (other : Text.isAsciiDigit c = false) : d ≠ c := by
    rintro rfl
    rw [digit] at other
    cases other
  rw [Numeral.text, signText, List.append_assoc]
  cases negative : n.negative with
  | true =>
    rw [negative, unsigned] at read
    rw [if_pos rfl, unsigned]
    simpa [constant, word?, List.findSome?, Ne.symm (word 'I' rfl)] using read
  | false =>
    rw [negative, unsigned] at read
    rw [if_neg Bool.false_ne_true, List.nil_append, unsigned]
    simpa [constant, word?, List.findSome?, Ne.symm (word 'n' rfl), Ne.symm (word 't' rfl), Ne.symm (word 'f' rfl),
      Ne.symm (word 'N' rfl), Ne.symm (word 'I' rfl), Ne.symm (word '-' rfl), word '-' rfl] using read

/-- A value that starts like none of the others is a word or a number. -/
theorem value_constant {fuel depth : Nat} {c : Char} {cs : List Char} (noText : c ≠ '"') (noArray : c ≠ '[')
    (noObject : c ≠ '\x7b') : value (fuel + 1) depth (c :: cs) = constant (c :: cs) := by
  rw [value] <;> intro _ same <;> cases same <;> contradiction

theorem length_le_piecesText (pieces : List Piece) : pieces.length ≤ (piecesText pieces).length := by
  induction pieces with
  | nil => exact Nat.zero_le _
  | cons p pieces ih =>
    have one : 1 ≤ p.text.length := by cases p <;> simp [Piece.text]
    have whole : piecesText (p :: pieces) = p.text ++ piecesText pieces := rfl
    rw [whole, List.length_append, List.length_cons]
    omega

theorem value_string {fuel depth : Nat} (pieces : List Piece) (rest : List Char) :
    value (fuel + 1) depth (quoted pieces ++ rest) = .ok (.text (String.ofList (chars pieces)), rest) := by
  have text : quoted pieces ++ rest = '"' :: (piecesText pieces ++ '"' :: rest) := by simp [quoted]
  have body := stringBody_pieces pieces rest ((piecesText pieces ++ '"' :: rest).length + 1) [] (by
    have each := length_le_piecesText pieces
    rw [List.length_append]
    omega)
  rw [text, value, body]
  rfl

section Steps

variable {fuel depth : Nat} {cs later rest : List Char} {v : Value}

theorem members_last {after : Blanks} (first : value fuel depth cs = .ok (v, after.chars ++ ']' :: rest)) :
    members (fuel + 1) depth cs = .ok ([v], rest) := by
  have skipped : skipSpace (after.chars ++ ']' :: rest) = ']' :: rest := skipSpace_blanks after (Stops.cons rfl)
  rw [members, first]
  simp only [bind, Except.bind, skipped]
  rfl

theorem members_more {after lead : Blanks} {vs : List Value} (stops : Stops isSpace later)
    (first : value fuel depth cs = .ok (v, after.chars ++ ',' :: (lead.chars ++ later)))
    (others : members fuel depth later = .ok (vs, rest)) : members (fuel + 1) depth cs = .ok (v :: vs, rest) := by
  have skipped : skipSpace (after.chars ++ ',' :: (lead.chars ++ later)) = ',' :: (lead.chars ++ later) :=
    skipSpace_blanks after (Stops.cons rfl)
  rw [members, first]
  simp only [bind, Except.bind, skipped, skipSpace_blanks lead stops, others]
  rfl

/-- A key is read with its colon; the value comes after it. -/
theorem entries_key {key : Key} (stops : Stops isSpace cs) : entries (fuel + 1) depth (key.text ++ cs) = (do
    let (v, rest) ← value fuel depth cs
    match skipSpace rest with
    | '\x7d' :: rest => return ([(key.atom, v)], rest)
    | ',' :: rest =>
      let (more, rest) ← entries fuel depth (skipSpace rest)
      return ((key.atom, v) :: more, rest)
    | _ => .error .malformed) := by
  have text : key.text ++ cs =
      '"' :: (piecesText key.pieces ++ '"' :: (key.before.chars ++ ':' :: (key.after.chars ++ cs))) := by
    simp [Key.text, quoted]
  have skipped : skipSpace (key.before.chars ++ ':' :: (key.after.chars ++ cs)) = ':' :: (key.after.chars ++ cs) :=
    skipSpace_blanks key.before (Stops.cons rfl)
  have body := stringBody_pieces key.pieces (key.before.chars ++ ':' :: (key.after.chars ++ cs))
    ((piecesText key.pieces ++ '"' :: (key.before.chars ++ ':' :: (key.after.chars ++ cs))).length + 1) [] (by
      have each := length_le_piecesText key.pieces
      rw [List.length_append]
      omega)
  rw [text, entries, body]
  simp only [bind, Except.bind, skipped, skipSpace_blanks key.after stops]
  rfl

theorem entries_last {key : Key} {after : Blanks} (stops : Stops isSpace cs)
    (first : value fuel depth cs = .ok (v, after.chars ++ '\x7d' :: rest)) :
    entries (fuel + 1) depth (key.text ++ cs) = .ok ([(key.atom, v)], rest) := by
  have skipped : skipSpace (after.chars ++ '\x7d' :: rest) = '\x7d' :: rest := skipSpace_blanks after (Stops.cons rfl)
  rw [entries_key stops, first]
  simp only [bind, Except.bind, skipped]
  rfl

theorem entries_more {key : Key} {after lead : Blanks} {more : List (Atom × Value)} (stops : Stops isSpace cs)
    (stopsLater : Stops isSpace later)
    (first : value fuel depth cs = .ok (v, after.chars ++ ',' :: (lead.chars ++ later)))
    (others : entries fuel depth later = .ok (more, rest)) :
    entries (fuel + 1) depth (key.text ++ cs) = .ok ((key.atom, v) :: more, rest) := by
  have skipped : skipSpace (after.chars ++ ',' :: (lead.chars ++ later)) = ',' :: (lead.chars ++ later) :=
    skipSpace_blanks after (Stops.cons rfl)
  rw [entries_key stops, first]
  simp only [bind, Except.bind, skipped, skipSpace_blanks lead stopsLater, others]
  rfl

end Steps

mutual
/-- A value is read up to what follows it. -/
theorem Written.read : ∀ (v : Written) {fuel depth : Nat} {rest : List Char}, Follows rest → v.isShort = true →
    v.text.length < fuel → depth + v.depth ≤ nestingLimit → value fuel depth (v.text ++ rest) = .ok (v.value, rest)
  | v, 0, _, _, _, _, enough, _ => absurd enough (Nat.not_lt_zero _)
  | .word w, fuel + 1, depth, rest, _, _, _, _ => by
    have read := w.read rest
    cases w <;> exact (value_constant (by decide) (by decide) (by decide)).trans read
  | .number n, fuel + 1, depth, rest, follows, short, _, _ => by
    obtain ⟨c, more, text, first⟩ := n.text_start
    have other (d : Char) (minus : d ≠ '-') (letter : Text.isAsciiDigit d = false) : c ≠ d := by
      rintro rfl
      rcases first with same | digit
      · exact minus same
      · rw [letter] at digit; cases digit
    have short : n.isWhole = false ∨ n.whole.length ≤ Text.maxIntegerDigits := by
      simpa [Written.isShort] using short
    have read := n.read_constant follows short
    rw [text] at read
    rw [Written.text, text, Written.value]
    exact (value_constant (other '"' (by decide) rfl) (other '[' (by decide) rfl) (other '\x7b' (by decide) rfl)).trans read
  | .string pieces, fuel + 1, _, _, _, _, _, _ => value_string pieces _
  | .emptyArray inside, fuel + 1, depth, rest, _, _, _, shallow => by
    have text : (Written.emptyArray inside).text ++ rest = '[' :: (inside.chars ++ ']' :: rest) := by simp [Written.text]
    rw [text, value, if_neg (below shallow), skipSpace_blanks inside (Stops.cons rfl)]
    rfl
  | .array lead items, fuel + 1, depth, rest, _, short, enough, shallow => by
    have text : (Written.array lead items).text ++ rest = '[' :: (lead.chars ++ (items.text ++ rest)) := by
      simp [Written.text]
    have read : members fuel (depth + 1) (items.text ++ rest) = .ok (items.values, rest) := by
      refine items.read short ?_ ?_
      · simp only [Written.text, List.length_cons, List.length_append] at enough
        omega
      · simp only [Written.depth] at shallow
        omega
    obtain ⟨c, more, first, start⟩ := items.text_start
    rw [first, List.cons_append] at read
    have stops : Stops isSpace (c :: (more ++ rest)) := stops_of_start (fun _ => isEnd_of_isSpace) start
    rw [text, value, if_neg (below shallow), first, List.cons_append, skipSpace_blanks lead stops]
    split
    next closed =>
      cases closed
      cases start
    next => rw [read]; rfl
  | .emptyObject inside, fuel + 1, depth, rest, _, _, _, shallow => by
    have text : (Written.emptyObject inside).text ++ rest = '\x7b' :: (inside.chars ++ '\x7d' :: rest) := by
      simp [Written.text]
    rw [text, value, if_neg (below shallow), skipSpace_blanks inside (Stops.cons rfl)]
    rfl
  | .object lead members, fuel + 1, depth, rest, _, short, enough, shallow => by
    have text : (Written.object lead members).text ++ rest = '\x7b' :: (lead.chars ++ (members.text ++ rest)) := by
      simp [Written.text]
    have read : entries fuel (depth + 1) (members.text ++ rest) = .ok (members.entries, rest) := by
      refine members.read short ?_ ?_
      · simp only [Written.text, List.length_cons, List.length_append] at enough
        omega
      · simp only [Written.depth] at shallow
        omega
    obtain ⟨more, first⟩ := members.text_start
    rw [first, List.cons_append] at read
    rw [text, value, if_neg (below shallow), first, List.cons_append, skipSpace_blanks lead (Stops.cons rfl)]
    split
    next closed => cases closed
    next => rw [read]; rfl

/-- Elements are read up to and with the closing bracket. -/
theorem Elements.read : ∀ (items : Elements) {fuel depth : Nat} {rest : List Char}, items.areShort = true →
    items.text.length < fuel → depth + items.depth ≤ nestingLimit →
      members fuel depth (items.text ++ rest) = .ok (items.values, rest)
  | _, 0, _, _, _, enough, _ => absurd enough (Nat.not_lt_zero _)
  | .last v after, fuel + 1, depth, rest, short, enough, shallow => by
    have text : (Elements.last v after).text ++ rest = v.text ++ (after.chars ++ ']' :: rest) := by simp [Elements.text]
    simp only [Elements.text, List.length_append, List.length_cons] at enough
    rw [text]
    exact members_last (v.read (Blanks.follows (Follows.cons rfl)) short (by omega) shallow)
  | .more v after lead items, fuel + 1, depth, rest, short, enough, shallow => by
    have text : (Elements.more v after lead items).text ++ rest =
        v.text ++ (after.chars ++ ',' :: (lead.chars ++ (items.text ++ rest))) := by simp [Elements.text]
    obtain ⟨shortFirst, shortRest⟩ := Bool.and_eq_true_iff.1 short
    simp only [Elements.text, List.length_append, List.length_cons] at enough
    rw [Elements.depth] at shallow
    rw [text]
    refine members_more (items.stops rest) (v.read (Blanks.follows (Follows.cons rfl)) shortFirst ?_ ?_) ?_
    · omega
    · omega
    · exact items.read shortRest (by omega) (by omega)

/-- Members are read up to and with the closing brace. -/
theorem Members.read : ∀ (members : Members) {fuel depth : Nat} {rest : List Char}, members.areShort = true →
    members.text.length < fuel → depth + members.depth ≤ nestingLimit →
      entries fuel depth (members.text ++ rest) = .ok (members.entries, rest)
  | _, 0, _, _, _, enough, _ => absurd enough (Nat.not_lt_zero _)
  | .last key v after, fuel + 1, depth, rest, short, enough, shallow => by
    have text : (Members.last key v after).text ++ rest = key.text ++ (v.text ++ (after.chars ++ '\x7d' :: rest)) := by
      simp [Members.text]
    simp only [Members.text, List.length_append, List.length_cons] at enough
    rw [text]
    exact entries_last (v.stops _) (v.read (Blanks.follows (Follows.cons rfl)) short (by omega) shallow)
  | .more key v after lead members, fuel + 1, depth, rest, short, enough, shallow => by
    have text : (Members.more key v after lead members).text ++ rest =
        key.text ++ (v.text ++ (after.chars ++ ',' :: (lead.chars ++ (members.text ++ rest)))) := by simp [Members.text]
    obtain ⟨shortFirst, shortRest⟩ := Bool.and_eq_true_iff.1 short
    simp only [Members.text, List.length_append, List.length_cons] at enough
    rw [Members.depth] at shallow
    rw [text]
    refine entries_more (v.stops _) (members.stops rest) (v.read (Blanks.follows (Follows.cons rfl)) shortFirst ?_ ?_) ?_
    · omega
    · omega
    · exact members.read shortRest (by omega) (by omega)
end

/-- The reader reads what a text stands for. -/
theorem FullText.read (t : FullText) (short : t.root.isShort = true) (shallow : t.root.depth ≤ nestingLimit) :
    Json.read (String.ofList t.chars) = .ok t.root.value := by
  have ends : Stops isSpace [] := nofun
  have follows : Follows (t.trail.chars ++ []) := Blanks.follows nofun
  have lead : skipSpace t.chars = t.root.text ++ (t.trail.chars ++ []) := by
    rw [List.append_nil]
    exact skipSpace_blanks t.lead (t.root.stops _)
  have root : value (t.chars.length + 1) 0 (skipSpace t.chars) = .ok (t.root.value, t.trail.chars ++ []) := by
    rw [lead]
    refine t.root.read follows short ?_ (by omega)
    simp only [FullText.chars, List.length_append]
    omega
  rw [Json.read, String.toList_ofList]
  simp only [root, bind, Except.bind, skipSpace_blanks t.trail ends]
  rfl

end SwaggerGate.Json
