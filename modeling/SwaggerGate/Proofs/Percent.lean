import SwaggerGate.Url.Percent
import Mathlib.Data.List.Basic

/-! Percent decoding of texts. A character's bytes decode to the character, so a text in which
no escape begins is left as it is, and an escaped text is read as the text. A slash comes only of
a slash or of its escape, and where a slash stands the text on each side of it is decoded alone. -/
namespace SwaggerGate

namespace Text.Utf8

private theorem decode_start {b : UInt8} {p : Pending} (start : start? false b.toNat = some p) (rest : List UInt8) :
    decodeFrom false none (b :: rest) = decodeFrom false (some p) rest := by
  have high : ¬ b.toNat < 0x80 := by
    intro ascii
    rw [start?, if_pos (by omega)] at start
    cases start
  simp [decodeFrom, high, start]

private theorem decode_last {b : UInt8} {p : Pending} (one : p.missing = 1) (low : p.low ≤ b.toNat)
    (high : b.toNat ≤ p.high) (rest : List UInt8) :
    decodeFrom false (some p) (b :: rest) =
      some (charOf (p.code * 64 + (b.toNat - 0x80))) :: decodeFrom false none rest := by
  simp [decodeFrom, one, low, high]

private theorem decode_next {b : UInt8} {p : Pending} (more : p.missing ≠ 1) (low : p.low ≤ b.toNat)
    (high : b.toNat ≤ p.high) (rest : List UInt8) :
    decodeFrom false (some p) (b :: rest) =
      decodeFrom false (some ⟨p.missing - 1, 0x80, 0xbf, p.code * 64 + (b.toNat - 0x80)⟩) rest := by
  simp [decodeFrom, more, low, high]

private theorem charOf_toNat (c : Char) : charOf c.toNat = c := by
  have valid := c.valid
  have scalar : isSurrogate c.toNat = false := by
    simp only [isSurrogate, Bool.and_eq_false_iff, decide_eq_false_iff_not]
    rcases valid with below | above
    · left; change c.toNat < 0xd800 at below; omega
    · right; have := above.1; change 0xdfff < c.toNat at this; omega
  rw [charOf, scalar]
  exact Char.ofNat_toNat c

private theorem toNat_ofNat {n : Nat} (small : n < 256) : (UInt8.ofNat n).toNat = n := by
  rw [UInt8.toNat_ofNat']
  exact Nat.mod_eq_of_lt small

private theorem two_bytes {v : Nat} (low : 0x80 ≤ v) (high : v < 0x800) (rest : List UInt8) :
    decodeFrom false none (UInt8.ofNat (v / 64 % 0x20 + 0xc0) :: UInt8.ofNat (v % 0x40 + 0x80) :: rest) =
      some (charOf v) :: decodeFrom false none rest := by
  have first : (UInt8.ofNat (v / 64 % 0x20 + 0xc0)).toNat = v / 64 + 0xc0 := by rw [toNat_ofNat] <;> omega
  have last : (UInt8.ofNat (v % 0x40 + 0x80)).toNat = v % 64 + 0x80 := toNat_ofNat (by omega)
  have start : start? false (v / 64 + 0xc0) = some ⟨1, 0x80, 0xbf, v / 64⟩ := by
    rw [start?, if_neg (by omega), if_pos (by omega), Nat.add_sub_cancel]
  have code : v / 64 * 64 + (v % 64 + 0x80 - 0x80) = v := by omega
  rw [decode_start (by rw [first]; exact start), decode_last rfl (by rw [last]; simp) (by rw [last]; simp only; omega), last, code]

private theorem three_bytes {v : Nat} (low : 0x800 ≤ v) (high : v < 0x10000) (scalar : v < 0xd800 ∨ 0xdfff < v)
    (rest : List UInt8) :
    decodeFrom false none (UInt8.ofNat (v / 4096 % 0x10 + 0xe0) :: UInt8.ofNat (v / 64 % 0x40 + 0x80) ::
        UInt8.ofNat (v % 0x40 + 0x80) :: rest) = some (charOf v) :: decodeFrom false none rest := by
  have first : (UInt8.ofNat (v / 4096 % 0x10 + 0xe0)).toNat = v / 4096 + 0xe0 := by rw [toNat_ofNat] <;> omega
  have second : (UInt8.ofNat (v / 64 % 0x40 + 0x80)).toNat = v / 64 % 64 + 0x80 := toNat_ofNat (by omega)
  have last : (UInt8.ofNat (v % 0x40 + 0x80)).toNat = v % 64 + 0x80 := toNat_ofNat (by omega)
  -- overlong forms and surrogates leave less room for the second byte
  have start : ∃ below above, start? false (v / 4096 + 0xe0) = some ⟨2, below, above, v / 4096⟩ ∧
      below ≤ v / 64 % 64 + 0x80 ∧ v / 64 % 64 + 0x80 ≤ above := by
    unfold start?
    rw [if_neg (by omega), if_neg (by omega)]
    split
    next zero => exact ⟨0xa0, 0xbf, by congr 2; omega, by omega, by omega⟩
    split
    next d => exact ⟨0x80, 0x9f, by congr 2; omega, by omega, by omega⟩
    rw [if_pos (by omega)]
    exact ⟨0x80, 0xbf, by rw [Nat.add_sub_cancel], by omega, by omega⟩
  obtain ⟨below, above, start, fits, inside⟩ := start
  have code : (v / 4096 * 64 + (v / 64 % 64 + 0x80 - 0x80)) * 64 + (v % 64 + 0x80 - 0x80) = v := by omega
  rw [decode_start (by rw [first]; exact start), decode_next (by simp) (by rw [second]; exact fits) (by rw [second]; exact inside),
    second, decode_last rfl (by rw [last]; simp) (by rw [last]; simp only; omega), last, code]

private theorem four_bytes {v : Nat} (low : 0x10000 ≤ v) (high : v < 0x110000) (rest : List UInt8) :
    decodeFrom false none (UInt8.ofNat (v / 262144 % 0x08 + 0xf0) :: UInt8.ofNat (v / 4096 % 0x40 + 0x80) ::
        UInt8.ofNat (v / 64 % 0x40 + 0x80) :: UInt8.ofNat (v % 0x40 + 0x80) :: rest) =
      some (charOf v) :: decodeFrom false none rest := by
  have first : (UInt8.ofNat (v / 262144 % 0x08 + 0xf0)).toNat = v / 262144 + 0xf0 := by rw [toNat_ofNat] <;> omega
  have second : (UInt8.ofNat (v / 4096 % 0x40 + 0x80)).toNat = v / 4096 % 64 + 0x80 := toNat_ofNat (by omega)
  have third : (UInt8.ofNat (v / 64 % 0x40 + 0x80)).toNat = v / 64 % 64 + 0x80 := toNat_ofNat (by omega)
  have last : (UInt8.ofNat (v % 0x40 + 0x80)).toNat = v % 64 + 0x80 := toNat_ofNat (by omega)
  have start : ∃ below above, start? false (v / 262144 + 0xf0) = some ⟨3, below, above, v / 262144⟩ ∧
      below ≤ v / 4096 % 64 + 0x80 ∧ v / 4096 % 64 + 0x80 ≤ above := by
    unfold start?
    rw [if_neg (by omega), if_neg (by omega), if_neg (by omega), if_neg (by omega), if_neg (by omega)]
    split
    next zero => exact ⟨0x90, 0xbf, by congr 2; omega, by omega, by omega⟩
    split
    next => exact ⟨0x80, 0xbf, by rw [Nat.add_sub_cancel], by omega, by omega⟩
    rw [if_pos (by omega)]
    exact ⟨0x80, 0x8f, by congr 2; omega, by omega, by omega⟩
  obtain ⟨below, above, start, fits, inside⟩ := start
  have code : ((v / 262144 * 64 + (v / 4096 % 64 + 0x80 - 0x80)) * 64 + (v / 64 % 64 + 0x80 - 0x80)) * 64 +
      (v % 64 + 0x80 - 0x80) = v := by omega
  rw [decode_start (by rw [first]; exact start), decode_next (by simp) (by rw [second]; exact fits) (by rw [second]; exact inside),
    second, decode_next (by simp) (by rw [third]; simp) (by rw [third]; simp only; omega), third,
    decode_last rfl (by rw [last]; simp) (by rw [last]; simp only; omega), last, code]

/-- A character's bytes decode to the character, whatever follows. -/
private theorem decode_char (c : Char) (rest : List UInt8) :
    decodeFrom false none (String.utf8EncodeChar c ++ rest) = some c :: decodeFrom false none rest := by
  have bound : c.toNat < 0xd800 ∨ 0xdfff < c.toNat ∧ c.toNat < 0x110000 := c.valid
  have value : c.val.toNat = c.toNat := rfl
  rw [String.utf8EncodeChar, value, ← congrArg some (charOf_toNat c)]
  split
  next ascii =>
    have byte : (UInt8.ofNat c.toNat).toNat = c.toNat := toNat_ofNat (by omega)
    rw [List.singleton_append, decode_ascii (by omega), byte, charOf_toNat]
  split
  next => exact two_bytes (by omega) (by omega) rest
  split
  next => exact three_bytes (by omega) (by omega) (by omega) rest
  next => exact four_bytes (by omega) (by omega) rest

/-- Encoding a text and decoding its bytes gives the text back. -/
theorem decodeLossy_encode (cs : List Char) : decodeLossy (encode cs) = cs := by
  unfold decodeLossy
  induction cs with
  | nil => rfl
  | cons c rest ih =>
    rw [encode, List.flatMap_cons, decode_char, List.map_cons]
    exact congrArg (c :: ·) ih

private theorem decode_foreign {b : UInt8} (low : ¬ b.toNat < 0x80) (foreign : start? false b.toNat = none)
    (rest : List UInt8) : decodeFrom false none (b :: rest) = none :: decodeFrom false none rest := by
  simp [decodeFrom, low, foreign]

/-- A byte that does not continue a sequence is read anew. -/
private theorem decode_broken {b : UInt8} {p : Pending} (misfit : ¬ (p.low ≤ b.toNat ∧ b.toNat ≤ p.high))
    (rest : List UInt8) : decodeFrom false (some p) (b :: rest) = none :: decodeFrom false none (b :: rest) := by
  by_cases ascii : b.toNat < 0x80
  · simp [decodeFrom, misfit, ascii]
  · cases starts : start? false b.toNat <;> simp [decodeFrom, misfit, ascii, starts]

/-- What every sequence under way keeps to: its next byte is no ASCII, and with it the bits
read so far exceed ASCII before the last byte comes. -/
structure Pending.Ample (p : Pending) : Prop where
  beyond : 0x80 ≤ p.low
  last : p.missing = 1 → 2 ≤ p.code
  more : p.missing ≠ 1 → 2 ≤ p.code * 64 + (p.low - 0x80)

private theorem start?_ample {b : Nat} {p : Pending} (starts : start? false b = some p) : p.Ample := by
  unfold start? at starts
  split_ifs at starts <;> cases starts <;> constructor <;> simp only <;> omega

private theorem Pending.Ample.next {p : Pending} (ample : p.Ample) {b : Nat} (more : p.missing ≠ 1)
    (low : p.low ≤ b) : Ample ⟨p.missing - 1, 0x80, 0xbf, p.code * 64 + (b - 0x80)⟩ := by
  have beyond := ample.beyond
  have bits := ample.more more
  constructor <;> simp only <;> omega

private theorem toNat_charOf {n : Nat} (ascii : n < 0x80) : (charOf n).toNat = n := by
  have plain : isSurrogate n = false := by
    rw [isSurrogate, Bool.and_eq_false_iff, decide_eq_false_iff_not]
    exact .inl (by omega)
  have valid : n.isValidChar := .inl (by omega)
  rw [charOf, plain, if_neg (by decide), Char.ofNat, dif_pos valid]
  rfl

private theorem charOf_ne_slash {code : Nat} (beyond : 0x80 ≤ code) : charOf code ≠ '/' := by
  have other {n : Nat} (large : 0x80 ≤ n) : Char.ofNat n ≠ '/' := by
    intro same
    by_cases valid : n.isValidChar
    · rw [Char.ofNat, dif_pos valid] at same
      have value : n = 0x2f := congrArg Char.toNat same
      omega
    · rw [Char.ofNat, dif_neg valid] at same
      exact absurd same (by decide)
  unfold charOf
  split
  · apply other
    rw [surrogateBase]
    omega
  · exact other beyond

/-- What holds at the end of the bytes holds throughout if no byte breaks it: a byte outside a
sequence is a character, starts a sequence or is foreign, and one inside a sequence is its last
byte, continues it, or breaks it off and is read anew. -/
@[elab_as_elim]
private theorem decode_induction {motive : Option Pending → List UInt8 → Prop}
    (done : ∀ pending : Option Pending, (∀ p ∈ pending, p.Ample) → motive pending [])
    (ascii : ∀ b rest, b.toNat < 0x80 → motive none rest → motive none (b :: rest))
    (foreign : ∀ b rest, ¬ b.toNat < 0x80 → start? false b.toNat = none → motive none rest → motive none (b :: rest))
    (start : ∀ b rest p, start? false b.toNat = some p → motive (some p) rest → motive none (b :: rest))
    (last : ∀ (p : Pending) b rest, p.Ample → p.low ≤ b.toNat ∧ b.toNat ≤ p.high → p.missing = 1 →
      motive none rest → motive (some p) (b :: rest))
    (next : ∀ (p : Pending) b rest, p.low ≤ b.toNat ∧ b.toNat ≤ p.high → p.missing ≠ 1 →
      motive (some ⟨p.missing - 1, 0x80, 0xbf, p.code * 64 + (b.toNat - 0x80)⟩) rest → motive (some p) (b :: rest))
    (broken : ∀ (p : Pending) b rest, ¬ (p.low ≤ b.toNat ∧ b.toNat ≤ p.high) →
      motive none (b :: rest) → motive (some p) (b :: rest)) (pending : Option Pending) (bytes : List UInt8)
    (ample : ∀ p ∈ pending, p.Ample) : motive pending bytes := by
  induction bytes generalizing pending with
  | nil => exact done pending ample
  | cons b rest ih =>
    have outside : motive none rest := ih none (by simp)
    have inside (p : Pending) (ample : p.Ample) : motive (some p) rest := ih (some p) (by simpa using ample)
    -- stated first, as a byte that breaks a sequence off comes back to it
    have fresh : motive none (b :: rest) := by
      by_cases low : b.toNat < 0x80
      · exact ascii b rest low outside
      cases starts : start? false b.toNat with
      | none => exact foreign b rest low starts outside
      | some p => exact start b rest p starts (inside p (start?_ample starts))
    cases pending with
    | none => exact fresh
    | some p =>
      have ample := ample p rfl
      by_cases fits : p.low ≤ b.toNat ∧ b.toNat ≤ p.high
      · by_cases one : p.missing = 1
        · exact last p b rest ample fits one outside
        · exact next p b rest fits one (inside _ (ample.next one fits.1))
      · exact broken p b rest fits fresh

/-- An ASCII byte stands for itself, whatever stands before it. -/
private theorem decode_append_ascii {a : UInt8} (plain : a.toNat < 0x80) (rest front : List UInt8)
    (pending : Option Pending) (ample : ∀ p ∈ pending, p.Ample) :
    decodeFrom false pending (front ++ a :: rest) =
      decodeFrom false pending front ++ some (charOf a.toNat) :: decodeFrom false none rest := by
  refine decode_induction ?done ?ascii ?foreign ?start ?last ?next ?broken pending front ample
  case done =>
    intro pending ample
    cases pending with
    | none => exact decode_ascii plain rest
    | some p =>
      have beyond := (ample p rfl).beyond
      rw [List.nil_append, decode_broken (by omega), decode_ascii plain]
      rfl
  case ascii =>
    intro b front low ih
    rw [List.cons_append, decode_ascii low, decode_ascii low, ih, List.cons_append]
  case foreign =>
    intro b front low none_ ih
    rw [List.cons_append, decode_foreign low none_, decode_foreign low none_, ih, List.cons_append]
  case start =>
    intro b front p starts ih
    rw [List.cons_append, decode_start starts, decode_start starts, ih]
  case last =>
    intro p b front _ fits one ih
    rw [List.cons_append, decode_last one fits.1 fits.2, decode_last one fits.1 fits.2, ih, List.cons_append]
  case next =>
    intro p b front fits more ih
    rw [List.cons_append, decode_next more fits.1 fits.2, decode_next more fits.1 fits.2, ih]
  case broken =>
    intro p b front misfit ih
    rw [List.cons_append, decode_broken misfit, decode_broken misfit, ← List.cons_append, ih, List.cons_append]

private theorem slash_mem_of_decodeFrom (pending : Option Pending) (bytes : List UInt8)
    (ample : ∀ p ∈ pending, p.Ample) : some '/' ∈ decodeFrom false pending bytes → (0x2f : UInt8) ∈ bytes := by
  refine decode_induction ?done ?ascii ?foreign ?start ?last ?next ?broken pending bytes ample
  case done =>
    intro pending _
    cases pending <;> simp [decodeFrom]
  case ascii =>
    intro b rest low ih
    rw [decode_ascii low, List.mem_cons, List.mem_cons]
    apply Or.imp _ ih
    intro same
    have value := congrArg Char.toNat (Option.some.inj same)
    rw [toNat_charOf low] at value
    exact UInt8.toNat_inj.1 value
  case foreign =>
    intro b rest low none_ ih
    rw [decode_foreign low none_]
    simpa using fun read => Or.inr (ih read)
  case start =>
    intro b rest p starts ih
    rw [decode_start starts]
    exact fun read => List.mem_cons_of_mem _ (ih read)
  case last =>
    intro p b rest ample fits one ih
    rw [decode_last one fits.1 fits.2, List.mem_cons, List.mem_cons]
    refine Or.imp (fun same => absurd (Option.some.inj same).symm (charOf_ne_slash ?_)) ih
    have bits := ample.last one
    omega
  case next =>
    intro p b rest fits more ih
    rw [decode_next more fits.1 fits.2]
    exact fun read => List.mem_cons_of_mem _ (ih read)
  case broken =>
    intro p b rest misfit ih
    rw [decode_broken misfit]
    simpa using ih

theorem decodeLossy_append_slash (front rest : List UInt8) :
    decodeLossy (front ++ 0x2f :: rest) = decodeLossy front ++ '/' :: decodeLossy rest := by
  have split := decode_append_ascii (a := 0x2f) (by decide) rest front none (by simp)
  unfold decodeLossy
  rw [split, List.map_append, List.map_cons]
  rfl

/-- No byte but its own is read as a slash. -/
theorem slash_mem_decodeLossy {bytes : List UInt8} : '/' ∈ decodeLossy bytes ↔ (0x2f : UInt8) ∈ bytes := by
  constructor
  · intro read
    obtain ⟨c, member, same⟩ := List.mem_map.1 read
    cases c with
    | none => exact absurd same (by decide)
    | some c =>
      obtain rfl : c = '/' := same
      exact slash_mem_of_decodeFrom none bytes (by simp) member
  · intro member
    obtain ⟨front, rest, rfl⟩ := List.append_of_mem member
    rw [decodeLossy_append_slash]
    simp

private theorem decodeFrom_some_ne_nil (bytes : List UInt8) :
    ∀ p : Pending, decodeFrom false (some p) bytes ≠ [] := by
  induction bytes with
  | nil => simp [decodeFrom]
  | cons b rest ih =>
    intro p
    by_cases fits : p.low ≤ b.toNat ∧ b.toNat ≤ p.high
    · by_cases one : p.missing = 1
      · simp [decode_last one fits.1 fits.2]
      · rw [decode_next one fits.1 fits.2]
        exact ih _
    · simp [decode_broken fits]

theorem decodeLossy_eq_nil {bytes : List UInt8} : decodeLossy bytes = [] ↔ bytes = [] := by
  rw [decodeLossy, List.map_eq_nil_iff]
  cases bytes with
  | nil => simp [decodeFrom]
  | cons b rest =>
    by_cases low : b.toNat < 0x80
    · simp [decode_ascii low]
    cases starts : start? false b.toNat with
    | none => simp [decode_foreign low starts]
    | some p => simp [decode_start starts, decodeFrom_some_ne_nil]

end Text.Utf8

namespace Url

/-- Whether two hexadecimal digits follow a percent sign somewhere in a text. -/
def hasEscape : List Char → Bool
  | '%' :: a :: b :: rest => ((Text.hexDigit? a).isSome && (Text.hexDigit? b).isSome) || hasEscape (a :: b :: rest)
  | _ :: rest => hasEscape rest
  | [] => false

private theorem percentBytes_of_no_escape (cs : List Char) (none_ : hasEscape cs = false) :
    percentBytes cs = Text.Utf8.encode cs := by
  fun_induction percentBytes cs with
  | case1 a b rest high low first second =>
    simp [hasEscape, first, second] at none_
  | case2 a b rest incomplete ih =>
    simp only [hasEscape, Bool.or_eq_false_iff] at none_
    rw [ih none_.2]
    rfl
  | case3 c rest other ih =>
    have none_ : hasEscape rest = false := by
      rw [hasEscape] at none_
      · exact none_
      · exact other
    rw [ih none_]
    rfl
  | case4 => rfl

private theorem percentBytes_of_ne {c : Char} (plain : c ≠ '%') (rest : List Char) :
    percentBytes (c :: rest) = String.utf8EncodeChar c ++ percentBytes rest := by
  rw [percentBytes]
  intro a b more same
  exact absurd same plain

private theorem percentBytes_of_incomplete {rest : List Char}
    (incomplete : ∀ a b more, rest = a :: b :: more → Text.hexDigit? a = none ∨ Text.hexDigit? b = none) :
    percentBytes ('%' :: rest) = String.utf8EncodeChar '%' ++ percentBytes rest := by
  rcases rest with _ | ⟨a, _ | ⟨b, more⟩⟩
  · rfl
  · rw [percentBytes]
    rintro _ _ _ - ⟨⟩
  · rw [percentBytes]
    split
    next high low first second =>
      rcases incomplete a b more rfl with none_ | none_
      · rw [none_] at first
        cases first
      · rw [none_] at second
        cases second
    next => rfl

private theorem digits_incomplete {a b : Char}
    (incomplete : ∀ high low, Text.hexDigit? a = some high → Text.hexDigit? b = some low → False) :
    Text.hexDigit? a = none ∨ Text.hexDigit? b = none := by
  cases first : Text.hexDigit? a with
  | none => exact .inl rfl
  | some high =>
    cases second : Text.hexDigit? b with
    | none => exact .inr rfl
    | some low => exact (incomplete high low first second).elim

private theorem percentBytes_append_slash (front rest : List Char) :
    percentBytes (front ++ '/' :: rest) = percentBytes front ++ 0x2f :: percentBytes rest := by
  have no_digit : Text.hexDigit? '/' = none := by decide
  fun_induction percentBytes front with
  | case1 a b front high low first second ih =>
    simp only [List.cons_append, percentBytes, first, second]
    exact congrArg _ ih
  | case2 a b front incomplete ih =>
    rw [List.cons_append, percentBytes_of_incomplete]
    · rw [ih, List.append_assoc]
    · rintro _ _ _ ⟨⟩
      exact digits_incomplete incomplete
  | case3 c front other ih =>
    rw [List.cons_append]
    by_cases percent : c = '%'
    · subst percent
      rw [percentBytes_of_incomplete, ih, List.append_assoc]
      intro a b more same
      -- the slash is among the two characters behind the percent sign, and is no digit
      rcases front with _ | ⟨x, _ | ⟨y, front⟩⟩
      · cases same
        exact .inl no_digit
      · cases same
        exact .inr no_digit
      · exact absurd rfl (other x y front rfl)
    · rw [percentBytes_of_ne percent, ih, List.append_assoc]
  | case4 => exact percentBytes_of_ne (by decide) rest

theorem percentDecode_append_slash (front rest : List Char) :
    percentDecode (front ++ '/' :: rest) = percentDecode front ++ '/' :: percentDecode rest := by
  rw [percentDecode, percentBytes_append_slash, Text.Utf8.decodeLossy_append_slash]
  rfl

theorem percentDecode_slash (rest : List Char) : percentDecode ('/' :: rest) = '/' :: percentDecode rest :=
  percentDecode_append_slash [] rest

/-- Whether a text has the escape of a slash. -/
def hasSlashEscape : List Char → Bool
  | '%' :: a :: b :: rest => (a == '2' && (b == 'F' || b == 'f')) || hasSlashEscape (a :: b :: rest)
  | _ :: rest => hasSlashEscape rest
  | [] => false

theorem hasSlashEscape_of_ne {c : Char} (plain : c ≠ '%') (rest : List Char) :
    hasSlashEscape (c :: rest) = hasSlashEscape rest := by
  rw [hasSlashEscape]
  intro a b more same
  exact absurd same plain

private theorem slash_mem_utf8EncodeChar {c : Char} : (0x2f : UInt8) ∈ String.utf8EncodeChar c ↔ '/' = c := by
  have whole : String.utf8EncodeChar c = Text.Utf8.encode [c] := by simp [Text.Utf8.encode]
  rw [whole, ← Text.Utf8.slash_mem_decodeLossy, Text.Utf8.decodeLossy_encode, List.mem_singleton]

private theorem hexDigit?_cases {c : Char} {d : Nat} (digit : Text.hexDigit? c = some d) :
    (48 ≤ c.toNat ∧ c.toNat ≤ 57 ∧ d = c.toNat - 48) ∨ (97 ≤ c.toNat ∧ c.toNat ≤ 102 ∧ d = c.toNat - 87) ∨
      (65 ≤ c.toNat ∧ c.toNat ≤ 70 ∧ d = c.toNat - 55) := by
  unfold Text.hexDigit? at digit
  split at digit
  next range =>
    cases digit
    exact .inl ⟨range.1, range.2, rfl⟩
  split at digit
  next range =>
    cases digit
    have low : 97 ≤ c.toNat := range.1
    have zero : 'a'.toNat = 97 := rfl
    exact .inr (.inl ⟨low, range.2, by omega⟩)
  split at digit
  next range =>
    cases digit
    have low : 65 ≤ c.toNat := range.1
    have zero : 'A'.toNat = 65 := rfl
    exact .inr (.inr ⟨low, range.2, by omega⟩)
  next => cases digit

private theorem hexDigit?_ne {c : Char} {d : Nat} (digit : Text.hexDigit? c = some d) : c ≠ '%' ∧ '/' ≠ c := by
  constructor
  · rintro rfl
    exact absurd digit (by decide +revert)
  · rintro rfl
    exact absurd digit (by decide +revert)

private theorem slash_byte_iff {a b : Char} {high low : Nat} (first : Text.hexDigit? a = some high)
    (second : Text.hexDigit? b = some low) :
    UInt8.ofNat (16 * high + low) = 0x2f ↔ (a == '2' && (b == 'F' || b == 'f')) = true := by
  have charEq (c other : Char) : c = other ↔ c.toNat = other.toNat := by
    rw [← Char.toNat_inj]
  have highs := hexDigit?_cases first
  have lows := hexDigit?_cases second
  have two : '2'.toNat = 50 := rfl
  have upper : 'F'.toNat = 70 := rfl
  have lower : 'f'.toNat = 102 := rfl
  rw [← UInt8.toNat_inj, UInt8.toNat_ofNat', Nat.mod_eq_of_lt (by omega)]
  simp only [Bool.and_eq_true, Bool.or_eq_true, beq_iff_eq, charEq, two, upper, lower]
  have value : UInt8.toNat 0x2f = 47 := rfl
  omega

/-- The bytes of a text have a slash where the text has one, or the escape of one. -/
private theorem slash_mem_percentBytes (cs : List Char) :
    (0x2f : UInt8) ∈ percentBytes cs ↔ '/' ∈ cs ∨ hasSlashEscape cs = true := by
  fun_induction percentBytes cs with
  | case1 a b rest high low second first ih =>
    obtain ⟨percentA, slashA⟩ := hexDigit?_ne first
    obtain ⟨percentB, slashB⟩ := hexDigit?_ne second
    have inside : hasSlashEscape (a :: b :: rest) = hasSlashEscape rest := by
      rw [hasSlashEscape_of_ne percentA, hasSlashEscape_of_ne percentB]
    have byte := slash_byte_iff first second
    rw [eq_comm] at byte
    rw [hasSlashEscape, inside, List.mem_cons, ih, byte, Bool.or_eq_true]
    simp only [List.mem_cons, slashA, slashB, show '/' ≠ '%' by decide, false_or]
    tauto
  | case2 a b rest incomplete ih =>
    have whole : (a == '2' && (b == 'F' || b == 'f')) = false := by
      by_contra escape
      simp only [Bool.not_eq_false, Bool.and_eq_true, Bool.or_eq_true, beq_iff_eq] at escape
      obtain ⟨rfl, rfl | rfl⟩ := escape
      · exact incomplete 2 15 (by decide) (by decide)
      · exact incomplete 2 15 (by decide) (by decide)
    rw [hasSlashEscape, whole, Bool.false_or]
    simp only [List.mem_append, slash_mem_utf8EncodeChar, ih, List.mem_cons, or_assoc]
  | case3 c rest other ih =>
    have later : hasSlashEscape (c :: rest) = hasSlashEscape rest := by
      rw [hasSlashEscape]
      exact other
    rw [later]
    simp only [List.mem_append, slash_mem_utf8EncodeChar, ih, List.mem_cons, or_assoc]
  | case4 => simp [hasSlashEscape]

/-- A decoded text has a slash where the text has one, or the escape of one. -/
theorem slash_mem_percentDecode (cs : List Char) :
    '/' ∈ percentDecode cs ↔ '/' ∈ cs ∨ hasSlashEscape cs = true := by
  rw [percentDecode, Text.Utf8.slash_mem_decodeLossy, slash_mem_percentBytes]

theorem percentDecode_eq_nil {cs : List Char} : percentDecode cs = [] ↔ cs = [] := by
  rw [percentDecode, Text.Utf8.decodeLossy_eq_nil]
  fun_cases percentBytes cs with
  | case1 a b rest high low second first => simp
  | case2 a b rest incomplete => simp
  | case3 c rest other => simp
  | case4 => simp

theorem percentDecode_of_no_escape (cs : List Char) (none_ : hasEscape cs = false) : percentDecode cs = cs := by
  rw [percentDecode, percentBytes_of_no_escape cs none_, Text.Utf8.decodeLossy_encode]

/-! ### Escaped texts -/

private theorem hexDigit?_upperHexDigit {n : Nat} (digit : n < 16) : Text.hexDigit? (Text.upperHexDigit n) = some n := by
  decide +revert

private theorem isUnreserved_upperHexDigit {n : Nat} (digit : n < 16) : isUnreserved (Text.upperHexDigit n) = true := by
  decide +revert

/-- The escapes of bytes are read as the bytes. -/
private theorem percentBytes_escapes (bytes : List UInt8) (rest : List Char) :
    percentBytes ((bytes.flatMap fun b => ['%', Text.upperHexDigit (b.toNat / 16), Text.upperHexDigit (b.toNat % 16)])
      ++ rest) = bytes ++ percentBytes rest := by
  induction bytes with
  | nil => rfl
  | cons b bytes ih =>
    have byte : b.toNat < 256 := b.toNat_lt
    have whole : UInt8.ofNat (16 * (b.toNat / 16) + b.toNat % 16) = b := by
      rw [Nat.div_add_mod, UInt8.ofNat_toNat]
    simp only [List.flatMap_cons, List.cons_append, List.nil_append, percentBytes,
      hexDigit?_upperHexDigit (n := b.toNat / 16) (by omega), hexDigit?_upperHexDigit (n := b.toNat % 16) (by omega), whole, ih]

private theorem percentBytes_percentEncode (cs : List Char) : percentBytes (percentEncode cs) = Text.Utf8.encode cs := by
  induction cs with
  | nil => rfl
  | cons c rest ih =>
    have ih : percentBytes (rest.flatMap _) = Text.Utf8.encode rest := ih
    rw [percentEncode, List.flatMap_cons, Text.Utf8.encode, List.flatMap_cons]
    split
    next unreserved =>
      have plain : c ≠ '%' := by
        rintro rfl
        exact absurd unreserved (by decide)
      rw [List.singleton_append, percentBytes_of_ne plain, ih]
      rfl
    next =>
      rw [percentBytes_escapes, ih]
      rfl

/-- Escaping a text and undoing the escapes gives the text back. -/
theorem percentDecode_percentEncode (cs : List Char) : percentDecode (percentEncode cs) = cs := by
  rw [percentDecode, percentBytes_percentEncode, Text.Utf8.decodeLossy_encode]

theorem mem_percentEncode {c : Char} {cs : List Char} (member : c ∈ percentEncode cs) :
    isUnreserved c = true ∨ c = '%' := by
  obtain ⟨source, -, member⟩ := List.mem_flatMap.1 member
  split at member
  next unreserved =>
    obtain rfl := List.mem_singleton.1 member
    exact .inl unreserved
  next =>
    obtain ⟨b, -, member⟩ := List.mem_flatMap.1 member
    have byte : b.toNat < 256 := b.toNat_lt
    simp only [List.mem_cons, List.not_mem_nil, or_false] at member
    rcases member with rfl | rfl | rfl
    · exact .inr rfl
    · exact .inl (isUnreserved_upperHexDigit (by omega))
    · exact .inl (isUnreserved_upperHexDigit (by omega))

theorem percentEncode_eq_nil {cs : List Char} : percentEncode cs = [] ↔ cs = [] := by
  rw [← percentDecode_eq_nil, percentDecode_percentEncode]

end Url
end SwaggerGate
