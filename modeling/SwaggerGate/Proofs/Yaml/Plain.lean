import Mathlib.Data.Bool.AllAny
import SwaggerGate.Proofs.Scalar
import SwaggerGate.Proofs.Split
import SwaggerGate.Proofs.Yaml.Data

/-! Plain scalars that are words and numbers of JSON. A number counts as one if an exponent has
a sign and stands after a fraction; any other exponent makes a text of it. -/
namespace SwaggerGate

namespace Double

theorem negate_ofRatio (num den : Nat) : (ofRatio false num den).negate = ofRatio true num den := by
  by_cases zero : num = 0
  · rw [ofRatio, ofRatio, if_pos zero, if_pos zero]
    rfl
  · simp only [ofRatio, if_neg zero, apply_ite negate]
    rfl

/-- Rounding goes by the magnitude. -/
theorem negate_ofDecimal (digits : Nat) (exponent : Int) :
    (ofDecimal false digits exponent).negate = ofDecimal true digits exponent := by
  cases exponent <;> simp only [ofDecimal, apply_ite negate, negate_ofRatio] <;> rfl

end Double

namespace Json

/-- Whether a number stays one as a plain scalar: an exponent has a sign and stands after a fraction. -/
def Numeral.isShared (n : Numeral) : Bool :=
  n.exponent.all fun e => !n.fraction.isEmpty && !e.sign.isEmpty

/-- The characters of numbers. -/
def numberChars : List Char := "0123456789.eE+-".toList

namespace Numeral

variable (n : Numeral)

theorem text_mem : ∀ c ∈ n.text, c ∈ numberChars := (Scalar.isNumber_numeral n).mem_chars

theorem unsigned_start : ∃ d more, n.unsigned = d :: more ∧ Text.isAsciiDigit d = true := by
  obtain ⟨some_, decimal⟩ := isDigits_iff.1 n.decimal
  obtain ⟨d, more, whole⟩ := List.exists_cons_of_ne_nil some_
  rw [whole, List.all_cons, Bool.and_eq_true] at decimal
  exact ⟨d, more ++ (n.fractionText ++ n.exponentText), by rw [unsigned, whole, List.cons_append], decimal.1⟩

theorem unsigned_whole (whole : n.isWhole = true) : n.unsigned = n.whole := by
  rw [isWhole, Bool.and_eq_true, List.isEmpty_iff, Option.isNone_iff_eq_none] at whole
  rw [unsigned, fractionText, exponentText, whole.1, whole.2]
  exact List.append_nil _

theorem unsigned_fraction (some_ : n.fraction.isEmpty = false) :
    n.unsigned = n.whole ++ '.' :: (n.fraction ++ n.exponentText) := by
  rw [unsigned, fractionText, some_]
  rfl

theorem unsigned_ne_sign {rest : List Char} : n.unsigned ≠ '-' :: rest ∧ n.unsigned ≠ '+' :: rest ∧ n.unsigned ≠ '.' :: rest := by
  obtain ⟨d, more, same, digit⟩ := n.unsigned_start
  rw [same]
  refine ⟨?_, ?_, ?_⟩ <;> rintro ⟨⟩ <;> exact absurd digit (by decide)

theorem dropSign_text : Yaml.Plain.dropSign n.text = n.unsigned := by
  rw [text, signText]
  cases n.negative with
  | true => rfl
  | false =>
    rw [if_neg Bool.false_ne_true, List.nil_append, Yaml.Plain.dropSign]
    · exact fun rest same => n.unsigned_ne_sign.1 same
    · exact fun rest same => n.unsigned_ne_sign.2.1 same

theorem sign_unsigned : Text.sign n.unsigned = (false, n.unsigned) := by
  rw [Text.sign]
  · exact fun rest same => n.unsigned_ne_sign.1 same
  · exact fun rest same => n.unsigned_ne_sign.2.1 same

theorem head_text : n.text.head? = some '-' ↔ n.negative = true := by
  obtain ⟨d, more, same, digit⟩ := n.unsigned_start
  rw [text, signText, same]
  cases n.negative with
  | true => simp
  | false =>
    simp only [Bool.false_eq_true, if_false, List.nil_append, List.head?_cons, Option.some.injEq, iff_false]
    rintro rfl
    exact absurd digit (by decide)

/-- What no number is written with, and what its characters count as. -/
theorem numberChars_spec : ∀ c ∈ numberChars, c ≠ '_' ∧ c ≠ ':' ∧ c ≠ '\n' ∧ Text.plainDigit c = c ∧
    Text.isStandardBlank c = false :=
  List.all_iff_forall_prop.1 (by decide)

theorem withoutFinalBreak_text : Yaml.Plain.withoutFinalBreak n.text = n.text := by
  rw [Yaml.Plain.withoutFinalBreak, if_neg]
  rintro ⟨-, last⟩
  exact (numberChars_spec _ (n.text_mem _ (List.mem_of_getLast? last))).2.2.1 rfl

theorem isBool_text : Yaml.Plain.isBool n.text = false := by
  -- every spelling starts with a letter, no number does
  have letters : ∀ word ∈ ["yes", "no", "true", "false", "on", "off"], ∀ cs ∈ Yaml.Plain.spellings word,
      cs.any (fun c => !numberChars.contains c) = true := by decide
  rw [Yaml.Plain.isBool, List.any_eq_false]
  intro word known spelled
  obtain ⟨c, member, other⟩ := List.any_eq_true.1 (letters word known _ (List.contains_iff_mem.1 spelled))
  simp [n.text_mem c member] at other

theorem isFloat_text : Yaml.Plain.isFloat n.text = (match Text.cut '.' n.unsigned with
    | (whole, some fraction) =>
      (Yaml.Plain.isDigitRun whole && Yaml.Plain.isFraction fraction) || Yaml.Plain.isSexagesimal whole fraction
    | _ => false) := by
  have other (rest : List Char) : n.text ≠ '.' :: rest := by
    rw [text, signText]
    cases n.negative with
    | true => rintro ⟨⟩
    | false => exact n.unsigned_ne_sign.2.2
  rw [Yaml.Plain.isFloat]
  · rw [n.dropSign_text]
    split
    next rest same => exact absurd same n.unsigned_ne_sign.2.2
    next => rfl
  · exact other

theorem absent_whole {c : Char} (other : Text.isAsciiDigit c = false) : c ∉ n.whole := fun member =>
  Bool.false_ne_true (other.symm.trans (List.all_eq_true.1 (isDigits_iff.1 n.decimal).2 c member))

theorem all_digitOrLow {cs : List Char} (decimal : cs.all Text.isAsciiDigit = true) :
    cs.all Yaml.Plain.digitOrLow = true :=
  List.all_eq_true.2 fun c member => by rw [Yaml.Plain.digitOrLow, List.all_eq_true.1 decimal c member]; rfl

theorem isDigitRun_whole : Yaml.Plain.isDigitRun n.whole = true := by
  obtain ⟨some_, decimal⟩ := isDigits_iff.1 n.decimal
  rw [Yaml.Plain.isDigitRun, all_digitOrLow decimal]
  obtain ⟨d, more, whole⟩ := List.exists_cons_of_ne_nil some_
  rw [whole, List.all_cons, Bool.and_eq_true] at decimal
  rw [whole, List.head?_cons, Option.any_some, decimal.1]
  rfl

/-- An integer is one by its form. -/
theorem ofPlain_whole (whole : n.isWhole = true) : Yaml.Tag.ofPlain n.text = .int := by
  have unsigned := n.unsigned_whole whole
  have noFloat : Yaml.Plain.isFloat n.text = false := by
    rw [isFloat_text, unsigned, Text.cut_of_not_mem (n.absent_whole rfl)]
  have int : Yaml.Plain.isInt n.text = true := by
    rw [Yaml.Plain.isInt, dropSign_text, unsigned]
    rcases n.unpadded with zero | other
    · rw [zero]
      rfl
    · split
      next same => rfl
      next rest same => exact absurd (congrArg List.head? same) other
      next rest same => exact absurd (congrArg List.head? same) other
      next rest same => exact absurd (congrArg List.head? same) other
      next =>
        rw [Text.splitOn_of_not_mem (n.absent_whole rfl)]
        simp [n.isDigitRun_whole]
  simp only [Yaml.Tag.ofPlain, withoutFinalBreak_text, isBool_text, noFloat, int, Bool.false_eq_true, if_false, if_true]

theorem isExponent_text (shared : n.isShared = true) : Yaml.Plain.isExponent n.exponentText = true := by
  rw [exponentText]
  rw [isShared] at shared
  cases given : n.exponent with
  | none => rfl
  | some e =>
    rw [given, Option.all_some, Bool.and_eq_true] at shared
    obtain ⟨some_, decimal⟩ := isDigits_iff.1 e.decimal
    have mark : (e.mark == 'e' || e.mark == 'E') = true := by
      rcases e.isMark with same | same <;> rw [same] <;> rfl
    rcases e.isSign with same | same | same
    · rw [same] at shared
      exact absurd shared.2 (by decide)
    · simp [Exponent.text, same, Yaml.Plain.isExponent, mark, some_, decimal]
    · simp [Exponent.text, same, Yaml.Plain.isExponent, mark, some_, decimal]

theorem stops_exponentText {p : Char → Bool} (marks : p 'e' = false ∧ p 'E' = false) : Stops p n.exponentText := by
  rw [exponentText]
  cases n.exponent with
  | none =>
    intro c head
    cases head
  | some e =>
    refine Stops.cons ?_
    rcases e.isMark with same | same <;> rw [same]
    · exact marks.1
    · exact marks.2

/-- Any other number is a float by its form. -/
theorem ofPlain_fraction (shared : n.isShared = true) (some_ : n.fraction.isEmpty = false) :
    Yaml.Tag.ofPlain n.text = .float := by
  have unsigned := n.unsigned_fraction some_
  have float : Yaml.Plain.isFloat n.text = true := by
    rw [isFloat_text, unsigned, Text.cut_append (n.absent_whole rfl)]
    simp only [isDigitRun_whole, Yaml.Plain.isFraction]
    rw [dropWhile_front (all_digitOrLow n.fractional) (n.stops_exponentText ⟨rfl, rfl⟩), n.isExponent_text shared]
    rfl
  simp only [Yaml.Tag.ofPlain, withoutFinalBreak_text, isBool_text, float, Bool.false_eq_true, if_false, if_true]

/-! ### Values -/

theorem withoutLows_text : Yaml.Plain.withoutLows n.text = n.text :=
  List.filter_eq_self.2 fun c member => by simpa using (numberChars_spec c (n.text_mem c member)).1

theorem map_eq_self {f : Char → Char} {cs : List Char} (same : ∀ c ∈ cs, f c = c) : cs.map f = cs :=
  (List.map_congr_left same).trans (List.map_id cs)

theorem trim_eq_self {drops : Char → Bool} {cs : List Char} (none_ : ∀ c ∈ cs, drops c = false) : Text.trim drops cs = cs := by
  have front {cs : List Char} (none_ : ∀ c ∈ cs, drops c = false) : cs.dropWhile drops = cs := by
    cases cs with
    | nil => rfl
    | cons c cs => simp [none_ c List.mem_cons_self]
  rw [Text.trim, front none_, front fun c member => none_ c (List.mem_reverse.1 member), List.reverse_reverse]

theorem numeral_eq_self {cs : List Char} (inside : ∀ c ∈ cs, c ∈ numberChars) : Text.numeral cs = cs := by
  have same : cs.map Text.plainDigit = cs := map_eq_self fun c member => (numberChars_spec c (inside c member)).2.2.2.1
  rw [Text.numeral, same]
  exact trim_eq_self fun c member => (numberChars_spec c (inside c member)).2.2.2.2

theorem isSpacedDigits_of_all {cs : List Char} (some_ : cs ≠ []) (decimal : cs.all Text.isAsciiDigit = true) :
    Text.isSpacedDigits cs = true := by
  induction cs with
  | nil => exact absurd rfl some_
  | cons c cs ih =>
    rw [List.all_cons, Bool.and_eq_true] at decimal
    cases cs with
    | nil => exact decimal.1
    | cons d cs =>
      have next : d ≠ '_' := by
        rintro rfl
        exact absurd (Bool.and_eq_true_iff.1 decimal.2).1 (by decide)
      rw [Text.isSpacedDigits, decimal.1, ih (List.cons_ne_nil d cs) decimal.2]
      · rfl
      · exact List.cons_ne_nil d cs
      · exact fun rest same => next (List.cons.inj same).1

/-- An integer is converted as it is read. -/
theorem int_text (whole : n.isWhole = true) (short : n.whole.length ≤ Text.maxIntegerDigits) :
    Yaml.Plain.int n.text =
      .ok (if n.negative then -(Text.decimalNumber n.whole : Int) else Text.decimalNumber n.whole) := by
  have unsigned := n.unsigned_whole whole
  obtain ⟨some_, decimal⟩ := isDigits_iff.1 n.decimal
  have filled : n.text.isEmpty = false := by
    rw [List.isEmpty_eq_false_iff, text, unsigned]
    exact List.append_ne_nil_of_right_ne_nil _ some_
  have inside : ∀ c ∈ n.whole, c ∈ numberChars := fun c member =>
    n.text_mem c (by rw [text, unsigned]; exact List.mem_append_right _ member)
  have value : Yaml.Plain.decimal n.whole = .ok (Text.decimalNumber n.whole : Int) := by
    have lows : n.whole.filter (· != '_') = n.whole :=
      List.filter_eq_self.2 fun c member => by simpa using (numberChars_spec c (inside c member)).1
    have sign := n.sign_unsigned
    rw [unsigned] at sign
    rw [Yaml.Plain.decimal, Text.integer?, numeral_eq_self inside, sign]
    simp [lows, isSpacedDigits_of_all some_ decimal, short, Text.signed]
  have noColon : n.whole.contains ':' = false := by
    simpa using n.absent_whole (c := ':') rfl
  have signed : (if n.text.head? = some '-' then (-1 : Int) else 1) * (Text.decimalNumber n.whole : Int) =
      if n.negative then -(Text.decimalNumber n.whole : Int) else Text.decimalNumber n.whole := by
    rw [if_congr n.head_text rfl rfl]
    cases n.negative <;> simp
  rw [Yaml.Plain.int, withoutLows_text, dropSign_text, unsigned, filled]
  rcases n.unpadded with zero | other
  · rw [zero]
    cases n.negative <;> rfl
  · simp only [Bool.false_eq_true, if_false]
    split
    next same => exact absurd same some_
    next same => exact absurd (congrArg List.head? same) other
    next same => exact absurd (congrArg List.head? same) other
    next same => exact absurd (congrArg List.head? same) other
    next same => exact absurd (congrArg List.head? same) other
    next => simp only [noColon, Bool.false_eq_true, if_false, value, bind, Except.bind, pure, Except.pure, signed]

/-! ### Lower case -/

/-- A number with its exponent marked in lower case. -/
def lowered (n : Numeral) : Numeral :=
  { n with exponent := n.exponent.map fun e => { e with mark := 'e', isMark := isMark_lower } }

theorem lowered_text : n.text.map Text.lowerAscii = n.lowered.text := by
  have digits {cs : List Char} (decimal : cs.all Text.isAsciiDigit = true) : cs.map Text.lowerAscii = cs := by
    have inside : ∀ c ∈ "0123456789".toList, Text.lowerAscii c = c := List.all_iff_forall_prop.1 (by decide)
    exact map_eq_self fun c member => inside c (Text.isAsciiDigit_iff.1 (List.all_eq_true.1 decimal c member))
  have sign : n.signText.map Text.lowerAscii = n.signText := by
    rw [signText]
    cases n.negative <;> rfl
  have fraction : n.fractionText.map Text.lowerAscii = n.fractionText := by
    rw [fractionText]
    split
    · rfl
    · rw [List.map_cons, digits n.fractional]
      rfl
  have exponent : n.exponentText.map Text.lowerAscii = n.lowered.exponentText := by
    rw [exponentText, exponentText, lowered]
    cases n.exponent with
    | none => rfl
    | some e =>
      have mark : Text.lowerAscii e.mark = 'e' := by rcases e.isMark with same | same <;> rw [same] <;> rfl
      have sign : e.sign.map Text.lowerAscii = e.sign := by
        rcases e.isSign with same | same | same <;> rw [same] <;> rfl
      simp only [Option.map_some, Option.getD_some, Exponent.text, List.map_cons, List.map_append, mark, sign,
        digits (isDigits_iff.1 e.decimal).2]
  simp only [text, unsigned, List.map_append, sign, digits (isDigits_iff.1 n.decimal).2, fraction, exponent]
  rfl

theorem Exponent.sign_text (e : Exponent) : Text.sign (e.sign ++ e.digits) = (decide (e.sign = ['-']), e.digits) := by
  obtain ⟨negative, signed⟩ := Scalar.isSign_iff.2 (e.isSign.imp_right Or.symm)
  rw [signed.sign_digits (Scalar.isDigits_iff.1 e.decimal)]
  generalize e.sign = sign at signed
  cases signed <;> rfl

theorem exponent?_text (low : ∀ e ∈ n.exponent, e.mark = 'e') :
    Yaml.Plain.exponent? n.exponentText = some ((n.exponent.map Exponent.value).getD 0) := by
  rw [exponentText]
  cases given : n.exponent with
  | none => rfl
  | some e =>
    obtain ⟨some_, decimal⟩ := isDigits_iff.1 e.decimal
    simp [Exponent.text, low e given, Yaml.Plain.exponent?, Exponent.sign_text, some_, decimal, Text.signed, Exponent.value]

/-- A float is converted as it is read. -/
theorem decimalFloat_text (some_ : n.fraction.isEmpty = false) (low : ∀ e ∈ n.exponent, e.mark = 'e') (mark : Nat) :
    Yaml.Plain.decimalFloat mark n.unsigned = .ok (Double.ofDecimal false (Text.decimalNumber (n.whole ++ n.fraction))
      ((n.exponent.map Exponent.value).getD 0 - n.fraction.length)) := by
  obtain ⟨filled, decimal⟩ := isDigits_iff.1 n.decimal
  have unsigned := n.unsigned_fraction some_
  have numeral : Text.numeral n.unsigned = n.unsigned :=
    numeral_eq_self fun c member => n.text_mem c (List.mem_append_right _ member)
  have word (s : String) {c : Char} {rest : List Char} (spelled : s.toList = c :: rest)
      (other : Text.isAsciiDigit c = false) : String.ofList n.unsigned ≠ s := by
    obtain ⟨d, more, same, digit⟩ := n.unsigned_start
    intro equal
    have heads : d :: more = c :: rest := by rw [← same, ← spelled, ← equal, String.toList_ofList]
    rw [(List.cons.inj heads).1, other] at digit
    exact Bool.false_ne_true digit
  have whole : n.unsigned.takeWhile Text.isAsciiDigit = n.whole := by
    rw [unsigned]
    exact takeWhile_front decimal (Stops.cons rfl)
  have later : n.unsigned.dropWhile Text.isAsciiDigit = '.' :: (n.fraction ++ n.exponentText) := by
    rw [unsigned]
    exact dropWhile_front decimal (Stops.cons rfl)
  have stops : Stops Text.isAsciiDigit n.exponentText := n.stops_exponentText ⟨rfl, rfl⟩
  rw [Yaml.Plain.decimalFloat, numeral, sign_unsigned]
  simp only [word "inf" rfl rfl, word "infinity" rfl rfl, word "nan" rfl rfl, or_self, if_false, whole, later,
    takeWhile_front n.fractional stops, dropWhile_front n.fractional stops, n.exponent?_text low, some_, Bool.and_false,
    Bool.false_eq_true]

theorem float_text (some_ : n.fraction.isEmpty = false) (mark : Nat) : Yaml.Plain.float mark n.text =
    .ok (Double.ofDecimal n.negative (Text.decimalNumber (n.whole ++ n.fraction))
      ((n.exponent.map Exponent.value).getD 0 - n.fraction.length)) := by
  have value : n.lowered.exponent.map Exponent.value = n.exponent.map Exponent.value := by
    rw [lowered]
    cases n.exponent <;> rfl
  have low : ∀ e ∈ n.lowered.exponent, e.mark = 'e' := by
    rw [lowered]
    cases n.exponent with
    | none => exact fun e given => nomatch given
    | some e =>
      rintro _ ⟨⟩
      rfl
  have filled : n.lowered.text.isEmpty = false := by
    obtain ⟨d, more, same, -⟩ := n.lowered.unsigned_start
    rw [List.isEmpty_eq_false_iff, text, same]
    exact List.append_ne_nil_of_right_ne_nil _ (List.cons_ne_nil d more)
  have noColon : n.lowered.unsigned.contains ':' = false := by
    simpa using fun member => (numberChars_spec ':' (n.lowered.text_mem _ (List.mem_append_right _ member))).2.1 rfl
  have read := n.lowered.decimalFloat_text some_ low mark
  rw [value] at read
  have negative : (n.lowered.text.head? == some '-') = n.negative := by
    rw [Bool.eq_iff_iff, beq_iff_eq]
    exact n.lowered.head_text
  have signed (digits : Nat) (exponent : Int) : Yaml.Plain.withSign n.negative (Double.ofDecimal false digits exponent) =
      Double.ofDecimal n.negative digits exponent := by
    cases n.negative with
    | true => exact Double.negate_ofDecimal digits exponent
    | false => rfl
  rw [Yaml.Plain.float, withoutLows_text, lowered_text, dropSign_text]
  have noInf : n.lowered.unsigned ≠ ".inf".toList := n.lowered.unsigned_ne_sign.2.2
  have noNan : n.lowered.unsigned ≠ ".nan".toList := n.lowered.unsigned_ne_sign.2.2
  simp only [filled, noInf, noNan, noColon, Bool.false_eq_true, if_false, read, negative]
  exact congrArg Except.ok (signed _ _)

open Yaml in
/-- A number is a plain scalar of its own value. -/
theorem isAtom_text (shared : n.isShared = true) (short : n.isWhole = false ∨ n.whole.length ≤ Text.maxIntegerDigits) :
    Flow.IsAtom n.text true n.atom := by
  by_cases whole : n.isWhole = true
  · have tag : Graph.scalarTag none none true n.text = .int := n.ofPlain_whole whole
    refine ⟨tag ▸ rfl, fun mark => ?_⟩
    rw [tag, atomOf, n.int_text whole (short.resolve_left (by simp [whole])), atom, if_pos whole]
    rfl
  · have some_ : n.fraction.isEmpty = false := by
      rw [isWhole] at whole
      rw [isShared] at shared
      cases given : n.exponent with
      | none => simpa [given] using whole
      | some e => exact Bool.not_eq_true' _ ▸ (Bool.and_eq_true_iff.1 (given ▸ shared)).1
    have tag : Graph.scalarTag none none true n.text = .float := n.ofPlain_fraction shared some_
    refine ⟨tag ▸ rfl, fun mark => ?_⟩
    rw [tag, atomOf, n.float_text some_, atom, if_neg whole]
    rfl

end Numeral

open Yaml in
theorem Word.isAtom_text (w : Word) : Flow.IsAtom w.text Bool.true w.atom := by
  cases w <;> exact ⟨rfl, fun _ => rfl⟩

open Yaml in
/-- A quoted scalar is a text whatever its form. -/
theorem isAtom_quoted (text : List Char) : Flow.IsAtom text false (.text (String.ofList text)) := ⟨rfl, fun _ => rfl⟩

end Json

end SwaggerGate
