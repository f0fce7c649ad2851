import Mathlib.Data.Bool.AllAny
import Mathlib.Data.List.Induction
import Mathlib.Data.List.TakeWhile
import Mathlib.Data.Nat.Digits.Defs
import Mathlib.Tactic.IntervalCases
import SwaggerGate.Proofs.Json.Reading
import SwaggerGate.Scalar
import SwaggerGate.Value.Display

/-! Scalars by their grammar. A text is read as a number exactly if it is one from its first
character to its last: a sign or none, digits, and then, if at all, a point with digits and an
exponent. It is read as an integer exactly if it is a sign or none and digits, as the integer that
these denote in base ten. -/
namespace SwaggerGate

namespace Text

/-- The ten digits, each at the place of its number. -/
def digitChars : List Char := "0123456789".toList

theorem isAsciiDigit_iff {c : Char} : isAsciiDigit c = true ↔ c ∈ digitChars := by
  constructor
  · intro digit
    have bounds : 48 ≤ c.toNat ∧ c.toNat ≤ 57 := by
      simpa [isAsciiDigit, Char.le_def, UInt32.le_iff_toNat_le] using digit
    rw [← Char.ofNat_toNat c]
    generalize c.toNat = n at bounds
    obtain ⟨least, most⟩ := bounds
    interval_cases n <;> decide
  · have digits : ∀ c ∈ digitChars, isAsciiDigit c = true := List.all_iff_forall_prop.1 (by decide)
    exact digits c

/-- The number that digits write, by the places of the digits in base ten. -/
theorem decimalNumber_eq_ofDigits {cs : List Char} (decimal : ∀ c ∈ cs, c ∈ digitChars) :
    decimalNumber cs = Nat.ofDigits 10 (cs.reverse.map digitChars.idxOf) := by
  have value : ∀ c ∈ digitChars, c.toNat - '0'.toNat = digitChars.idxOf c :=
    List.all_iff_forall_prop.1 (by decide)
  induction cs using List.reverseRecOn with
  | nil => rfl
  | append_singleton cs c ih =>
    have front := ih fun d member => decimal d (List.mem_append_left _ member)
    have last := value c (decimal c (by simp))
    rw [decimalNumber] at front ⊢
    rw [List.foldl_append, front, List.foldl_cons, List.foldl_nil, last, List.reverse_concat, List.map_cons,
      Nat.ofDigits_cons, Nat.add_comm]

end Text

namespace Scalar

/-! ### The grammar -/

/-- Digits, at least one. -/
def IsDigits (cs : List Char) : Prop := cs ≠ [] ∧ ∀ c ∈ cs, c ∈ Text.digitChars

/-- A sign or none, and whether it is a minus. -/
inductive IsSign : List Char → Bool → Prop where
  | absent : IsSign [] false
  | plus : IsSign ['+'] false
  | minus : IsSign ['-'] true

/-- A point with digits behind it, or nothing. -/
inductive IsFraction : List Char → Prop where
  | absent : IsFraction []
  | point {digits : List Char} : IsDigits digits → IsFraction ('.' :: digits)

/-- A mark with digits behind it, and as may be a sign between them, or nothing. -/
inductive IsExponent : List Char → Prop where
  | absent : IsExponent []
  | marked {mark : Char} {sign digits : List Char} {negative : Bool} : mark = 'e' ∨ mark = 'E' → IsSign sign negative →
      IsDigits digits → IsExponent (mark :: (sign ++ digits))

inductive IsNumber : List Char → Prop where
  | parts {sign whole fraction exponent : List Char} {negative : Bool} : IsSign sign negative → IsDigits whole →
      IsFraction fraction → IsExponent exponent → IsNumber (sign ++ (whole ++ (fraction ++ exponent)))

/-- Whether a text is an integer, and which one in base ten. -/
inductive IsInteger : List Char → Int → Prop where
  | parts {sign digits : List Char} {negative : Bool} : IsSign sign negative → IsDigits digits →
      IsInteger (sign ++ digits)
        (Text.signed negative (Nat.ofDigits 10 (digits.reverse.map Text.digitChars.idxOf)))

section Parts

variable {cs rest sign : List Char} {negative : Bool}

theorem isDigits_iff : isDigits cs = true ↔ IsDigits cs := by
  simp [isDigits, IsDigits, Text.isAsciiDigit_iff]

theorem IsDigits.all (digits : IsDigits cs) : cs.all Text.isAsciiDigit = true :=
  List.all_eq_true.2 fun c member => Text.isAsciiDigit_iff.2 (digits.2 c member)

theorem isSign_iff : (∃ negative, IsSign sign negative) ↔ sign = [] ∨ sign = ['-'] ∨ sign = ['+'] := by
  constructor
  · rintro ⟨_, absent | plus | minus⟩
    · exact .inl rfl
    · exact .inr (.inr rfl)
    · exact .inr (.inl rfl)
  · rintro (rfl | rfl | rfl)
    · exact ⟨false, .absent⟩
    · exact ⟨true, .minus⟩
    · exact ⟨false, .plus⟩

/-- A digit is no sign, so digits and all behind them are left when the sign has been taken. -/
theorem IsSign.sign_append (signed : IsSign sign negative) (digits : IsDigits cs) (rest : List Char) :
    Text.sign (sign ++ (cs ++ rest)) = (negative, cs ++ rest) := by
  obtain ⟨d, more, rfl⟩ := List.exists_cons_of_ne_nil digits.1
  have digit : d ∈ Text.digitChars := digits.2 d List.mem_cons_self
  have other : d ≠ '-' ∧ d ≠ '+' := by
    constructor <;> rintro rfl <;> exact absurd digit (by decide)
  cases signed with
  | absent => simp [Text.sign, other]
  | plus => rfl
  | minus => rfl

theorem IsSign.sign_digits (signed : IsSign sign negative) (digits : IsDigits cs) :
    Text.sign (sign ++ cs) = (negative, cs) := by
  simpa using signed.sign_append digits []

/-- What is taken off as a sign is one, and the text goes on behind it. -/
theorem exists_isSign (cs : List Char) : ∃ sign, IsSign sign (Text.sign cs).1 ∧ cs = sign ++ (Text.sign cs).2 := by
  unfold Text.sign
  split
  · exact ⟨['-'], .minus, rfl⟩
  · exact ⟨['+'], .plus, rfl⟩
  · exact ⟨[], .absent, rfl⟩

end Parts

/-! ### Numbers -/

theorem exponentParts?_isSome_iff {cs : List Char} : (exponentParts? cs).isSome = true ↔ IsExponent cs := by
  constructor
  · intro read
    cases cs with
    | nil => exact .absent
    | cons mark rest =>
      obtain ⟨sign, signed, split⟩ := exists_isSign rest
      simp only [exponentParts?] at read
      split at read
      next found =>
        rw [split]
        exact .marked found.1 signed (isDigits_iff.1 found.2)
      next => cases read
  · intro grammar
    cases grammar with
    | absent => rfl
    | marked mark signed digits =>
      simp only [exponentParts?, signed.sign_digits digits, if_pos (And.intro mark (isDigits_iff.2 digits))]
      rfl

theorem IsExponent.stops {cs : List Char} (exponent : IsExponent cs) {p : Char → Bool} (marks : p 'e' = false ∧ p 'E' = false) :
    Json.Stops p cs := by
  cases exponent with
  | absent => exact fun c head => nomatch head
  | marked mark =>
    refine Json.Stops.cons ?_
    rcases mark with rfl | rfl
    · exact marks.1
    · exact marks.2

theorem numberParts?_of_isNumber {cs : List Char} (number : IsNumber cs) : (numberParts? cs).isSome = true := by
  obtain ⟨signed, whole, fraction, exponent⟩ := number
  have read := exponentParts?_isSome_iff.2 exponent
  have digitless := exponent.stops (p := Text.isAsciiDigit) ⟨rfl, rfl⟩
  have some_ := List.isEmpty_eq_false_iff.2 whole.1
  rw [numberParts?, signed.sign_append whole]
  cases fraction with
  | absent =>
    simp only [List.nil_append, Json.takeWhile_front whole.all digitless, Json.dropWhile_front whole.all digitless, some_,
      Bool.false_eq_true, if_false]
    -- an exponent does not start with a point
    cases exponent with
    | absent => rfl
    | marked mark => rcases mark with rfl | rfl <;> simpa using read
  | point digits =>
    have pointed (more : List Char) : Json.Stops Text.isAsciiDigit ('.' :: more) := Json.Stops.cons rfl
    simp only [List.cons_append, Json.takeWhile_front whole.all (pointed _), Json.dropWhile_front whole.all (pointed _),
      Json.takeWhile_front digits.all digitless, Json.dropWhile_front digits.all digitless, some_,
      List.isEmpty_eq_false_iff.2 digits.1, Bool.false_eq_true, if_false]
    simpa using read

theorem isDigits_takeWhile {cs : List Char} (some_ : ¬ (cs.takeWhile Text.isAsciiDigit).isEmpty = true) :
    IsDigits (cs.takeWhile Text.isAsciiDigit) :=
  ⟨fun none_ => some_ (List.isEmpty_iff.2 none_), fun _ member => Text.isAsciiDigit_iff.1 (List.mem_takeWhile_imp member)⟩

theorem isNumber_of_numberParts? {cs : List Char} (read : (numberParts? cs).isSome = true) : IsNumber cs := by
  obtain ⟨sign, signed, split⟩ := exists_isSign cs
  simp only [numberParts?] at read
  split at read
  next => cases read
  next some_ =>
    have whole := isDigits_takeWhile some_
    have parts := List.takeWhile_append_dropWhile (p := Text.isAsciiDigit) (l := (Text.sign cs).2)
    split at read
    next rest point =>
      split at read
      next => cases read
      next some_ =>
        rw [Option.isSome_map] at read
        have number := IsNumber.parts signed whole (.point (isDigits_takeWhile some_)) (exponentParts?_isSome_iff.1 read)
        rwa [List.cons_append, List.takeWhile_append_dropWhile, ← point, parts, ← split] at number
    next =>
      rw [Option.isSome_map] at read
      have number := IsNumber.parts signed whole .absent (exponentParts?_isSome_iff.1 read)
      rwa [List.nil_append, parts, ← split] at number

theorem exists_number?_iff {text : String} : (∃ x, number? text = some x) ↔ IsNumber text.toList := by
  rw [← Option.isSome_iff_exists, number?, Option.isSome_map]
  exact ⟨isNumber_of_numberParts?, numberParts?_of_isNumber⟩

/-- The characters of a number: no other digits than the ten, and no blanks, lines or breaks. -/
theorem IsNumber.mem_chars {cs : List Char} (number : IsNumber cs) : ∀ c ∈ cs, c ∈ "0123456789.eE+-".toList := by
  have digits {ds : List Char} (decimal : IsDigits ds) : ∀ c ∈ ds, c ∈ "0123456789.eE+-".toList := by
    have inside : ∀ c ∈ Text.digitChars, c ∈ "0123456789.eE+-".toList :=
      List.all_iff_forall_prop.1 (by decide)
    exact fun c member => inside c (decimal.2 c member)
  have sign {cs : List Char} {negative : Bool} (signed : IsSign cs negative) : ∀ c ∈ cs, c ∈ "0123456789.eE+-".toList := by
    cases signed <;> exact List.all_iff_forall_prop.1 (by decide)
  obtain ⟨signed, whole, fraction, exponent⟩ := number
  refine List.forall_mem_append.2 ⟨sign signed, List.forall_mem_append.2 ⟨digits whole, List.forall_mem_append.2 ⟨?_, ?_⟩⟩⟩
  · cases fraction with
    | absent => exact fun c member => absurd member List.not_mem_nil
    | point decimal => exact List.forall_mem_cons.2 ⟨by decide, digits decimal⟩
  · cases exponent with
    | absent => exact fun c member => absurd member List.not_mem_nil
    | marked mark signed decimal =>
      refine List.forall_mem_cons.2 ⟨?_, List.forall_mem_append.2 ⟨sign signed, digits decimal⟩⟩
      rcases mark with rfl | rfl <;> decide

/-- A number of JSON is one whose digits are not padded with zeros, and that has no plus sign. -/
theorem isNumber_numeral (n : Json.Numeral) : IsNumber n.text := by
  have digits {cs : List Char} (decimal : Json.isDigits cs = true) : IsDigits cs := isDigits_iff.1 decimal
  have sign : ∃ negative, IsSign n.signText negative := by
    rw [Json.Numeral.signText]
    cases n.negative with
    | true => exact ⟨true, .minus⟩
    | false => exact ⟨false, .absent⟩
  have fraction : IsFraction n.fractionText := by
    rw [Json.Numeral.fractionText]
    cases given : n.fraction with
    | nil => exact .absent
    | cons d more =>
      refine .point (isDigits_iff.1 ?_)
      rw [isDigits, ← given, n.fractional, given]
      rfl
  have exponent : IsExponent n.exponentText := by
    rw [Json.Numeral.exponentText]
    cases n.exponent with
    | none => exact .absent
    | some e =>
      obtain ⟨negative, signed⟩ := isSign_iff.2 (e.isSign.imp_right Or.symm)
      exact .marked e.isMark signed (digits e.decimal)
  obtain ⟨negative, signed⟩ := sign
  exact .parts signed (digits n.decimal) fraction exponent

/-! ### Integers -/

theorem IsInteger.isNumber {cs : List Char} {n : Int} (integer : IsInteger cs n) : IsNumber cs := by
  obtain ⟨signed, digits⟩ := integer
  simpa using IsNumber.parts signed digits .absent .absent

/-- Every integer text is a number text. -/
theorem IsInteger.exists_number? {text : String} {n : Int} (integer : IsInteger text.toList n) : ∃ x, number? text = some x :=
  exists_number?_iff.2 integer.isNumber

theorem countP_append {sign digits : List Char} {negative : Bool} (signed : IsSign sign negative) (decimal : IsDigits digits) :
    (sign ++ digits).countP Text.isAsciiDigit = digits.length := by
  have none_ : sign.countP Text.isAsciiDigit = 0 := by cases signed <;> rfl
  rw [List.countP_append, none_, List.countP_eq_length.2 (List.all_eq_true.1 decimal.all), Nat.zero_add]

/-- An integer text is read as what it denotes, unless it has too many digits. -/
theorem IsInteger.readInteger_eq {text : String} {n : Int} (integer : IsInteger text.toList n) : readInteger text =
    if text.toList.countP Text.isAsciiDigit > Text.maxIntegerDigits then .tooLong else .value n := by
  rw [readInteger]
  generalize text.toList = cs at integer
  obtain ⟨signed, digits⟩ := integer
  simp only [signed.sign_digits digits, isDigits_iff.2 digits, countP_append signed digits,
    ← Text.decimalNumber_eq_ofDigits digits.2, Bool.not_true, Bool.false_eq_true, if_false]

theorem readInteger_eq_noInteger_iff {text : String} : readInteger text = .noInteger ↔ ∀ n, ¬ IsInteger text.toList n := by
  constructor
  · intro read n integer
    rw [integer.readInteger_eq] at read
    split at read <;> cases read
  · intro none_
    obtain ⟨sign, signed, split⟩ := exists_isSign text.toList
    have undigited : isDigits (Text.sign text.toList).2 = false := by
      rw [Bool.eq_false_iff]
      intro digits
      have integer := IsInteger.parts signed (isDigits_iff.1 digits)
      rw [← split] at integer
      exact none_ _ integer
    simp only [readInteger, undigited, Bool.not_false, if_true]

theorem exists_isInteger {text : String} (read : readInteger text ≠ .noInteger) : ∃ n, IsInteger text.toList n := by
  rwa [Ne, readInteger_eq_noInteger_iff, not_forall_not] at read

theorem readInteger_eq_value_iff {text : String} {n : Int} : readInteger text = .value n ↔
    IsInteger text.toList n ∧ text.toList.countP Text.isAsciiDigit ≤ Text.maxIntegerDigits := by
  constructor
  · intro read
    obtain ⟨m, integer⟩ := exists_isInteger fun none_ => nomatch read.symm.trans none_
    rw [integer.readInteger_eq] at read
    split at read
    next => cases read
    next short =>
      cases read
      exact ⟨integer, Nat.le_of_not_lt short⟩
  · rintro ⟨integer, short⟩
    rw [integer.readInteger_eq, if_neg (Nat.not_lt.2 short)]

/-! ### Integers as texts -/

theorem isDigits_toDigits (n : Nat) : IsDigits (Nat.toDigits 10 n) :=
  ⟨Nat.toDigits_ne_nil, fun _ member => Text.isAsciiDigit_iff.1 (Nat.isDigit_of_mem_toDigits (by decide) (by decide) member)⟩

theorem ofDigits_toDigits (n : Nat) : Nat.ofDigits 10 ((Nat.toDigits 10 n).reverse.map Text.digitChars.idxOf) = n := by
  rw [← Text.decimalNumber_eq_ofDigits (isDigits_toDigits n).2]
  exact Nat.ofDigitChars_toDigits (by decide) (by decide)

theorem toList_intText (n : Int) : ∃ sign negative, IsSign sign negative ∧ Text.signed negative n.natAbs = n ∧
    (intText n).toList = sign ++ Nat.toDigits 10 n.natAbs := by
  unfold intText Double.digitsText
  split
  next less =>
    refine ⟨['-'], true, .minus, ?_, by simp⟩
    rw [Text.signed, if_pos rfl]
    omega
  next more =>
    refine ⟨[], false, .absent, ?_, by simp⟩
    rw [Text.signed, if_neg Bool.false_ne_true]
    omega

/-- The integers that are written are those of few enough digits. -/
theorem isShowable_int_iff {n : Int} : (Atom.int n).isShowable = true ↔ n.natAbs < 10 ^ Text.maxIntegerDigits := by
  rw [Atom.isShowable, decide_eq_true_eq]
  unfold integerBound
  -- a power of this size is not to be evaluated
  generalize Text.maxIntegerDigits = most
  rfl

theorem readInteger_intText {n : Int} (short : n.natAbs < 10 ^ Text.maxIntegerDigits) :
    readInteger (intText n) = .value n := by
  obtain ⟨sign, negative, signed, value, text⟩ := toList_intText n
  have digits := isDigits_toDigits n.natAbs
  have integer := IsInteger.parts signed digits
  rw [ofDigits_toDigits, value] at integer
  refine readInteger_eq_value_iff.2 ⟨text ▸ integer, ?_⟩
  rw [text, countP_append signed digits]
  have some_ : 0 < Text.maxIntegerDigits := by decide
  generalize Text.maxIntegerDigits = most at short some_ ⊢
  exact (Nat.length_toDigits_le_iff (by decide) some_).2 short

/-! ### All readings -/

/-- Scalars are read by their grammar, whatever text is given: numbers, which all numbers of JSON
are and in which no other character stands than their own; integers up to a number of digits, as
those that they denote, so that an integer comes back from its text; and each integer is a number. -/
theorem readings_by_grammar :
    (∀ text, (∃ x, number? text = some x) ↔ IsNumber text.toList) ∧
    (∀ n : Json.Numeral, ∃ x, number? (String.ofList n.text) = some x) ∧
    (∀ text x, number? text = some x → ∀ c ∈ text.toList, c ∈ "0123456789.eE+-".toList) ∧
    (∀ text n, text.toList.countP Text.isAsciiDigit ≤ Text.maxIntegerDigits →
      (readInteger text = .value n ↔ IsInteger text.toList n)) ∧
    (∀ text, readInteger text = .noInteger ↔ ∀ n, ¬ IsInteger text.toList n) ∧
    (∀ n : Int, n.natAbs < 10 ^ Text.maxIntegerDigits → readInteger (intText n) = .value n) ∧
    ∀ text, readInteger text ≠ .noInteger → ∃ x, number? text = some x := by
  refine ⟨fun text => exists_number?_iff, fun n => ?_, fun text x read => (exists_number?_iff.1 ⟨x, read⟩).mem_chars,
    fun text n short => ?_, fun text => readInteger_eq_noInteger_iff, fun n short => readInteger_intText short,
    fun text read => ?_⟩
  · rw [exists_number?_iff, String.toList_ofList]
    exact isNumber_numeral n
  · rw [readInteger_eq_value_iff, and_iff_left short]
  · obtain ⟨n, integer⟩ := exists_isInteger read
    exact integer.exists_number?

theorem readings_by_grammar_padded :
    "-0042".toList.countP Text.isAsciiDigit ≤ Text.maxIntegerDigits ∧ readInteger "-0042" = .value (-42) ∧
      (-42 : Int).natAbs < 10 ^ Text.maxIntegerDigits ∧ readInteger (intText (-42)) = .value (-42) ∧
      readInteger "-0042" ≠ .noInteger ∧ (∃ x, number? "-0042" = some x) ∧ ∀ x, number? "-0042\n" ≠ some x := by
  obtain ⟨-, -, chars, integers, -, written, numbers⟩ := readings_by_grammar
  have short : "-0042".toList.countP Text.isAsciiDigit ≤ Text.maxIntegerDigits := by decide
  have digits : IsDigits ['0', '0', '4', '2'] := ⟨by decide, List.all_iff_forall_prop.1 (by decide)⟩
  have read : readInteger "-0042" = .value (-42) := (integers "-0042" (-42) short).2 (.parts .minus digits)
  have small : (-42 : Int).natAbs < 10 ^ Text.maxIntegerDigits :=
    Nat.lt_of_lt_of_le (by decide : 42 < 10 ^ 2) (Nat.pow_le_pow_right (by decide) (by decide))
  have integer : readInteger "-0042" ≠ .noInteger := by
    rw [read]
    exact nofun
  exact ⟨short, read, small, written (-42) small, integer, numbers "-0042" integer,
    fun x given => absurd (chars "-0042\n" x given '\n' (by decide)) (by decide)⟩

end Scalar

end SwaggerGate
