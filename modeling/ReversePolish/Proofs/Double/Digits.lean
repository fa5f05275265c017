import Mathlib.Data.List.Basic
import Mathlib.Tactic.Ring
import ReversePolish.Double.Numeral
import ReversePolish.Proofs.NumberWords

/-! # Digits that are read

A text of digits spells a number, and whole numbers are written so that they are spelled again.
Digits, of whatever script, are read up to the first character that is none; with a point among
them or an exponent behind them they give the decimal that one expects.
-/

namespace ReversePolish

open Unicode

namespace Numeral

/-- The text consists of ASCII digits. -/
def AreDigits (text : Text) : Prop := ∀ c ∈ text, c.isDigit = true

/-- The number that a text of digits spells. -/
def number (text : Text) : Nat := spelled (text.map digitOf)

section Digits

variable {text left right : Text}

theorem digitValue?_of_ascii {c : Char} (digit : c.isDigit = true) :
    digitValue? c = some (c.toNat - '0'.toNat) := by
  obtain ⟨low, high⟩ := Char.isDigit_iff_toNat.mp digit
  have ascii : digitAbove c.toNat 0x0030 = some (c.toNat - 0x0030) := by
    rw [digitAbove, if_pos ⟨low, Nat.lt_succ_of_le high⟩]
  rw [digitValue?, zeros, List.findSome?_cons, ascii]
  rfl

theorem isDigit_of_ascii {c : Char} (digit : c.isDigit = true) : Unicode.isDigit c = true := by
  rw [Unicode.isDigit, digitValue?_of_ascii digit, Option.isSome_some]

theorem AreDigits.isDigit (areDigits : AreDigits text) : ∀ c ∈ text, Unicode.isDigit c = true :=
  fun c member => isDigit_of_ascii (areDigits c member)

theorem AreDigits.append (leftDigits : AreDigits left) (rightDigits : AreDigits right) :
    AreDigits (left ++ right) :=
  List.forall_mem_append.mpr ⟨leftDigits, rightDigits⟩

theorem areDigits_zeros (count : Nat) : AreDigits (List.replicate count '0') := by
  intro c member
  rw [List.eq_of_mem_replicate member]
  rfl

theorem areDigits_zero : AreDigits ['0'] := areDigits_zeros 1

theorem areDigits_ofNat (n : Nat) : AreDigits (Text.ofNat n) :=
  fun _ member => Nat.isDigit_of_mem_toDigits (by decide) (by decide) member

theorem spelled_append (left right : List Nat) :
    spelled (left ++ right) = spelled left * 10 ^ right.length + spelled right := by
  have shifted : ∀ init, right.foldl (fun n digit => 10 * n + digit) init =
      init * 10 ^ right.length + spelled right := by
    induction right with
    | nil => simp [spelled]
    | cons digit right ih =>
        intro init
        have first := ih (10 * init + digit)
        have second := ih (10 * 0 + digit)
        simp only [spelled, List.foldl_cons, List.length_cons, first, second, Nat.pow_succ]
        ring
  rw [spelled, List.foldl_append, shifted]
  rfl

theorem number_append (left right : Text) :
    number (left ++ right) = number left * 10 ^ right.length + number right := by
  rw [number, List.map_append, spelled_append, List.length_map]
  rfl

theorem number_zeros (count : Nat) : number (List.replicate count '0') = 0 := by
  induction count with
  | zero => rfl
  | succ count ih => rw [List.replicate_succ', number_append, ih, Nat.zero_mul]; decide

theorem number_zeros_append (count : Nat) (text : Text) :
    number (List.replicate count '0' ++ text) = number text := by
  rw [number_append, number_zeros, Nat.zero_mul, Nat.zero_add]

theorem number_append_zeros (text : Text) (count : Nat) :
    number (text ++ List.replicate count '0') = number text * 10 ^ count := by
  rw [number_append, number_zeros, List.length_replicate, Nat.add_zero]

theorem number_ofNat (n : Nat) : number (Text.ofNat n) = n := by
  have digits := areDigits_ofNat n
  have read : ∀ text : Text, AreDigits text → number text = Nat.ofDigitChars 10 text 0 := by
    intro text areDigits
    rw [number, spelled, List.foldl_map, Nat.ofDigitChars]
    refine List.foldl_ext _ _ _ fun n c member => ?_
    rw [digitOf, digitValue?_of_ascii (areDigits c member), Option.getD_some]
  rw [read _ digits]
  exact Nat.ofDigitChars_ten_toDigits

theorem splitDigits_append (digits : ∀ c ∈ left, Unicode.isDigit c = true)
    (ends : ∀ c ∈ right.head?, Unicode.isDigit c = false) :
    splitDigits (left ++ right) = (left.map digitOf, right) := by
  have stops : right.takeWhile Unicode.isDigit = [] ∧ right.dropWhile Unicode.isDigit = right := by
    cases right with
    | nil => exact ⟨rfl, rfl⟩
    | cons c rest => simp [ends c rfl]
  rw [splitDigits_eq, List.takeWhile_append_of_pos digits, List.dropWhile_append_of_pos digits,
    stops.1, stops.2, List.append_nil]

end Digits

section Decimals

variable {whole fraction suffix : Text}

/-- Digits behind the mark of an exponent, and perhaps a sign in front of them. -/
theorem exponent?_digits {mark : Char} (marked : mark = 'e' ∨ mark = 'E') {text digits : Text}
    {negative : Bool} (sign : splitSign text = (negative, digits)) (nonempty : digits ≠ [])
    (areDigits : ∀ c ∈ digits, Unicode.isDigit c = true) :
    exponent? (mark :: text) =
      some (if negative then -(number digits : Int) else number digits) := by
  have split : splitDigits digits = (digits.map digitOf, []) := by
    simpa using splitDigits_append areDigits (show ∀ c ∈ ([] : Text).head?, _ by simp)
  obtain ⟨first, more, rfl⟩ := List.exists_cons_of_ne_nil nonempty
  simp only [exponent?, marked, sign, split, if_true, List.map_cons, number]

/-- An exponent that is written is the exponent that is read. -/
theorem exponent?_exponentText (exponent : Int) :
    exponent? ('e' :: Double.exponentText exponent) = some exponent := by
  obtain ⟨first, more, areDigits, value, written⟩ : ∃ first more, AreDigits (first :: more) ∧
      number (first :: more) = exponent.natAbs ∧ Double.exponentText exponent =
        (if exponent < 0 then '-' else '+') :: first :: more := by
    by_cases short : (Text.ofNat exponent.natAbs).length < 2
    · refine ⟨'0', Text.ofNat exponent.natAbs, areDigits_zero.append (areDigits_ofNat _), ?_, ?_⟩
      · exact (number_zeros_append 1 _).trans (number_ofNat _)
      · simp only [Double.exponentText, short, if_true]
    · obtain ⟨first, more, digits⟩ : ∃ first more, Text.ofNat exponent.natAbs = first :: more :=
        List.exists_cons_of_ne_nil Nat.toDigits_ne_nil
      refine ⟨first, more, digits ▸ areDigits_ofNat _, digits ▸ number_ofNat _, ?_⟩
      simp only [Double.exponentText, short, if_false]
      rw [digits]
  have digits : first :: more ≠ [] := List.cons_ne_nil _ _
  rw [written]
  by_cases negative : exponent < 0
  · have sign : splitSign ('-' :: first :: more) = (true, first :: more) := rfl
    rw [if_pos negative, exponent?_digits (.inl rfl) sign digits areDigits.isDigit, value,
      if_pos rfl]
    congr 1
    omega
  · have sign : splitSign ('+' :: first :: more) = (false, first :: more) := rfl
    rw [if_neg negative, exponent?_digits (.inl rfl) sign digits areDigits.isDigit, value,
      if_neg Bool.false_ne_true]
    congr 1
    omega

/-- Digits around a point. -/
theorem decimal?_pointed (wholeDigits : ∀ c ∈ whole, Unicode.isDigit c = true)
    (fractionDigits : ∀ c ∈ fraction, Unicode.isDigit c = true)
    (nonempty : whole ≠ [] ∨ fraction ≠ [])
    (ends : ∀ c ∈ suffix.head?, Unicode.isDigit c = false) :
    decimal? (whole ++ '.' :: (fraction ++ suffix)) =
      (exponent? suffix).map fun e => ⟨number (whole ++ fraction), e - fraction.length⟩ := by
  have wholeSplit : splitDigits (whole ++ '.' :: (fraction ++ suffix)) =
      (whole.map digitOf, '.' :: (fraction ++ suffix)) :=
    splitDigits_append wholeDigits (by rintro c ⟨⟩; decide)
  have fractionSplit : splitFraction ('.' :: (fraction ++ suffix)) =
      (fraction.map digitOf, suffix) := by
    rw [splitFraction, if_pos rfl, splitDigits_append fractionDigits ends]
  have present : ¬ (whole = [] ∧ fraction = []) := not_and_or.mpr nonempty
  simp only [decimal?, wholeSplit, fractionSplit, List.map_eq_nil_iff, present, if_false, number,
    List.map_append, List.length_map]

theorem decimal?_pointed_end (wholeDigits : ∀ c ∈ whole, Unicode.isDigit c = true)
    (fractionDigits : ∀ c ∈ fraction, Unicode.isDigit c = true)
    (nonempty : whole ≠ [] ∨ fraction ≠ []) :
    decimal? (whole ++ '.' :: fraction) =
      some ⟨number (whole ++ fraction), -fraction.length⟩ := by
  have read := decimal?_pointed wholeDigits fractionDigits nonempty
    (show ∀ c ∈ ([] : Text).head?, Unicode.isDigit c = false by simp)
  simpa [exponent?] using read

/-- Digits without a point. -/
theorem decimal?_unpointed (wholeDigits : ∀ c ∈ whole, Unicode.isDigit c = true)
    (nonempty : whole ≠ []) (ends : ∀ c ∈ suffix.head?, Unicode.isDigit c = false ∧ c ≠ '.') :
    decimal? (whole ++ suffix) = (exponent? suffix).map fun e => ⟨number whole, e⟩ := by
  have wholeSplit : splitDigits (whole ++ suffix) = (whole.map digitOf, suffix) :=
    splitDigits_append wholeDigits fun c first => (ends c first).1
  have fractionSplit : splitFraction suffix = ([], suffix) := by
    cases suffix with
    | nil => rfl
    | cons c rest => rw [splitFraction, if_neg (ends c rfl).2]
  simp only [decimal?, wholeSplit, fractionSplit, List.map_eq_nil_iff, nonempty, false_and,
    if_false, number, List.append_nil, List.length_nil, Nat.cast_zero, sub_zero]

end Decimals

end Numeral

end ReversePolish
