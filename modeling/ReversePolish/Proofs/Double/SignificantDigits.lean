import ReversePolish.Proofs.Double.Readable
import ReversePolish.Proofs.Double.Shortest

/-! # Numerals have the fewest digits

The digits of a numeral that count are those in front of its exponent, without the zeros at both
ends (`significantDigits`).  White space, underscores, sign and point make no difference to them,
and there are at most so many of them just if the coefficient of the decimal that is read has no
more digits.  So the numeral of a double, which spells the shortest decimal, has no more of them
than any text that is read as the double (`Double.text_readBack_shortest`).
-/

namespace ReversePolish

open Unicode NumberWord

/-- The digits in front of the exponent. -/
def mantissaDigits (text : Text) : Text :=
  (text.takeWhile fun c => c ≠ 'e' ∧ c ≠ 'E').filter isDigit

def isZero (c : Char) : Bool := digitValue? c = some 0

/-- The digits of a numeral that count. -/
def significantDigits (text : Text) : Text := Text.trim isZero (mantissaDigits text)

/-- Sign, point, underscores and exponent are left out, and zeros are kept only between others. -/
example : significantDigits "-0_10.250e+3".toList = "1025".toList := by decide +kernel

namespace Text

variable {drop : Char → Bool} {text : Text}

theorem head?_trim : ∀ c ∈ (trim drop text).head?, drop c = false := by
  intro c first
  obtain ⟨cut, split, -⟩ := exists_trimRight_append drop (text.dropWhile drop)
  have kept := List.head?_dropWhile_not drop text
  have front : (trimRight drop (text.dropWhile drop)).head? = some c := first
  rw [split, List.head?_append, front] at kept
  exact kept

theorem getLast?_trim : ∀ c ∈ (trim drop text).getLast?, drop c = false := getLast?_trimRight

end Text

namespace Numeral

theorem digitOf_lt (c : Char) : digitOf c < 10 := by
  rw [digitOf]
  cases value : digitValue? c with
  | none => decide
  | some n => exact digitValue?_lt value

theorem digitOf_pos {c : Char} (digit : isDigit c = true) (nonzero : isZero c = false) :
    0 < digitOf c := by
  obtain ⟨n, value⟩ := Option.isSome_iff_exists.mp digit
  rw [isZero, value] at nonzero
  rw [digitOf, value, Option.getD_some]
  refine Nat.pos_of_ne_zero fun zero => ?_
  simp [zero] at nonzero

theorem number_singleton (c : Char) : number [c] = digitOf c := by simp [number, spelled]

theorem number_cons (c : Char) (more : Text) :
    number (c :: more) = digitOf c * 10 ^ more.length + number more := by
  rw [← number_singleton, ← number_append, List.singleton_append]

theorem number_lt (text : Text) : number text < 10 ^ text.length := by
  induction text with
  | nil => decide
  | cons c more ih =>
      calc number (c :: more) = digitOf c * 10 ^ more.length + number more := number_cons c more
        _ < (digitOf c + 1) * 10 ^ more.length := by linarith
        _ ≤ 10 * 10 ^ more.length := Nat.mul_le_mul_right _ (digitOf_lt c)
        _ = 10 ^ (c :: more).length := (Nat.pow_succ' ..).symm

theorem number_eq_zero {text : Text} (zeros : ∀ c ∈ text, isZero c = true) : number text = 0 := by
  induction text with
  | nil => rfl
  | cons c more ih =>
      have zero : digitOf c = 0 := by
        have value : digitValue? c = some 0 := by simpa [isZero] using zeros c (by simp)
        rw [digitOf, value, Option.getD_some]
      have later := ih fun c member => zeros c (List.mem_cons_of_mem _ member)
      rw [number_cons, zero, Nat.zero_mul, later]

theorem pow_le_number {c : Char} (digit : isDigit c = true) (nonzero : isZero c = false)
    (more : Text) : 10 ^ more.length ≤ number (c :: more) := by
  rw [number_cons]
  exact (Nat.le_mul_of_pos_left _ (digitOf_pos digit nonzero)).trans (Nat.le_add_right _ _)

theorem not_ten_dvd_number {text : Text} (nonempty : text ≠ [])
    (digits : ∀ c ∈ text, isDigit c = true) (last : ∀ c ∈ text.getLast?, isZero c = false) :
    ¬ 10 ∣ number text := by
  obtain ⟨front, c, rfl⟩ := (List.eq_nil_or_concat' text).resolve_left nonempty
  have positive := digitOf_pos (digits c (by simp)) (last c (by simp))
  have less := digitOf_lt c
  rw [number_append, number_singleton, List.length_singleton]
  omega

/-- Digits of which neither the first nor the last is zero are as many as their number has. -/
theorem length_le_iff_fitsIn {text : Text} (digits : ∀ c ∈ text, isDigit c = true)
    (first : ∀ c ∈ text.head?, isZero c = false) (last : ∀ c ∈ text.getLast?, isZero c = false)
    {count : Nat} : text.length ≤ count ↔ FitsIn count (number text) := by
  constructor
  · intro few
    refine ⟨number text, 0, ?_, (Nat.mul_one _).symm⟩
    exact (number_lt text).trans_le (Nat.pow_le_pow_right (by decide) few)
  · rintro ⟨coefficient, zeros, small, same⟩
    by_cases empty : text = []
    · rw [empty]
      exact Nat.zero_le count
    · have unscaled : number text = coefficient := by
        cases zeros with
        | zero => rw [same, Nat.pow_zero, Nat.mul_one]
        | succ zeros =>
            refine absurd ?_ (not_ten_dvd_number empty digits last)
            rw [same, Nat.pow_succ, ← Nat.mul_assoc]
            exact Nat.dvd_mul_left 10 _
      obtain ⟨c, more, rfl⟩ := List.exists_cons_of_ne_nil empty
      have leading := pow_le_number (digits c (List.mem_cons_self ..)) (first c rfl) more
      rw [unscaled] at leading
      exact (Nat.pow_lt_pow_iff_right (by decide)).mp (leading.trans_lt small)

/-- Without the zeros at both ends, digits are as many as their number has. -/
theorem length_trim_le_iff_fitsIn {text : Text} (digits : ∀ c ∈ text, isDigit c = true)
    {count : Nat} : (Text.trim isZero text).length ≤ count ↔ FitsIn count (number text) := by
  obtain ⟨left, right, split, leftZeros, rightZeros⟩ := Text.exists_append_trim_append isZero text
  have kept : ∀ c ∈ Text.trim isZero text, isDigit c = true := by
    intro c member
    refine digits c ?_
    rw [split]
    exact List.mem_append_left _ (List.mem_append_right _ member)
  have scaled : number text = number (Text.trim isZero text) * 10 ^ right.length := by
    conv_lhs => rw [split]
    rw [number_append, number_append, number_eq_zero leftZeros, number_eq_zero rightZeros,
      Nat.zero_mul, Nat.zero_add, Nat.add_zero]
  rw [scaled, fitsIn_mul_pow_iff, length_le_iff_fitsIn kept Text.head?_trim Text.getLast?_trim]

end Numeral

section MantissaDigits

variable {c : Char} {text : Text}

theorem mantissaDigits_cons (c : Char) (text : Text) :
    mantissaDigits (c :: text) =
      if c = 'e' ∨ c = 'E' then []
      else if isDigit c = true then c :: mantissaDigits text
      else mantissaDigits text := by
  by_cases mark : c = 'e' ∨ c = 'E'
  · rw [if_pos mark, mantissaDigits, List.takeWhile_cons_of_neg
      (by simpa [or_iff_not_imp_left] using mark), List.filter_nil]
  · rw [if_neg mark, mantissaDigits, List.takeWhile_cons_of_pos (by simpa [not_or] using mark),
      List.filter_cons, mantissaDigits]

theorem mantissaDigits_cons_congr {left right : Text}
    (same : mantissaDigits left = mantissaDigits right) (c : Char) :
    mantissaDigits (c :: left) = mantissaDigits (c :: right) := by
  rw [mantissaDigits_cons, mantissaDigits_cons, same]

theorem not_mark_of_isDigit (digit : isDigit c = true) : ¬ (c = 'e' ∨ c = 'E') := by
  rintro (rfl | rfl)
  · exact absurd digit (by decide)
  · exact absurd digit (by decide)

theorem mantissaDigits_cons_of_digit (digit : isDigit c = true) (text : Text) :
    mantissaDigits (c :: text) = c :: mantissaDigits text := by
  rw [mantissaDigits_cons, if_neg (not_mark_of_isDigit digit), if_pos digit]

theorem mantissaDigits_cons_of_other (unmarked : ¬ (c = 'e' ∨ c = 'E')) (other : isDigit c = false)
    (text : Text) : mantissaDigits (c :: text) = mantissaDigits text := by
  rw [mantissaDigits_cons, if_neg unmarked, other, if_neg Bool.false_ne_true]

theorem mantissaDigits_white_append {left : Text} (white : ∀ c ∈ left, isWhiteSpace c = true)
    (text : Text) : mantissaDigits (left ++ text) = mantissaDigits text := by
  have unmarked : ∀ c, isWhiteSpace c = true → ¬ (c = 'e' ∨ c = 'E') := by
    rintro c blank (rfl | rfl)
    · exact absurd blank (by decide)
    · exact absurd blank (by decide)
  induction left with
  | nil => rfl
  | cons c left ih =>
      have blank := white c (List.mem_cons_self ..)
      rw [List.cons_append, mantissaDigits_cons_of_other (unmarked c blank)
        (isDigit_of_isBlank (isBlank_of_isWhiteSpace blank)),
        ih fun c member => white c (List.mem_cons_of_mem _ member)]

theorem mantissaDigits_append_white {right : Text} (white : ∀ c ∈ right, isWhiteSpace c = true)
    (text : Text) : mantissaDigits (text ++ right) = mantissaDigits text := by
  induction text with
  | nil =>
      have blank := mantissaDigits_white_append white []
      rwa [List.append_nil] at blank
  | cons c text ih => exact mantissaDigits_cons_congr ih c

/-- Underscores between digits are no digits. -/
theorem mantissaDigits_of_grouped {word : Text} (grouped : Numeral.Grouped word text) :
    mantissaDigits text = mantissaDigits word := by
  induction grouped with
  | nil => rfl
  | cons _ _ ih => exact mantissaDigits_cons_congr ih _
  | group before _ _ ih =>
      refine mantissaDigits_cons_congr ?_ _
      rw [mantissaDigits_cons_of_other (by decide) (by decide), ih]

end MantissaDigits

namespace NumberWord

theorem mantissaDigits_textOf_append (digits : List Digit) (text : Text) :
    mantissaDigits (textOf digits ++ text) = textOf digits ++ mantissaDigits text := by
  induction digits with
  | nil => rfl
  | cons digit more ih =>
      have split : textOf (digit :: more) = digit.val :: textOf more := rfl
      rw [split, List.cons_append, mantissaDigits_cons_of_digit digit.property, ih,
        List.cons_append]

theorem mantissaDigits_form (sign : Sign) (form : DecimalForm) :
    mantissaDigits (sign.text ++ form.text) =
      textOf (form.mantissa.front ++ form.mantissa.behind) := by
  have unsigned : mantissaDigits (sign.text ++ form.text) = mantissaDigits form.text := by
    cases sign with
    | absent => rfl
    | plus => exact mantissaDigits_cons_of_other (by decide) (by decide) _
    | minus => exact mantissaDigits_cons_of_other (by decide) (by decide) _
  have point : ∀ text, mantissaDigits ('.' :: text) = mantissaDigits text :=
    mantissaDigits_cons_of_other (by decide) (by decide)
  have ends : mantissaDigits ((form.exponent.map Exponent.text).getD []) = [] := by
    cases form.exponent with
    | none => rfl
    | some exponent => exact (mantissaDigits_cons ..).trans (if_pos exponent.marked)
  rw [unsigned, DecimalForm.text]
  cases form.mantissa with
  | whole whole fraction =>
      cases fraction with
      | none =>
          simp only [Mantissa.text, Mantissa.front, Mantissa.behind, fractionText, List.append_nil,
            Option.getD_none, mantissaDigits_textOf_append, ends]
      | some fraction =>
          simp only [Mantissa.text, Mantissa.front, Mantissa.behind, fractionText,
            List.append_assoc, List.cons_append, Option.getD_some, mantissaDigits_textOf_append,
            point, ends, textOf_append, List.append_nil]
  | fractional digits =>
      simp only [Mantissa.text, Mantissa.front, Mantissa.behind, List.cons_append,
        mantissaDigits_textOf_append, point, ends, List.append_nil, List.nil_append]

/-- The digits of a word that count are at most so many just if the coefficient of the decimal that
    the word spells has at most so many. -/
theorem length_significantDigits_form_le_iff (sign : Sign) (form : DecimalForm) {count : Nat} :
    (significantDigits (sign.text ++ form.text)).length ≤ count ↔
      FitsIn count form.decimal.coefficient := by
  rw [significantDigits, mantissaDigits_form,
    Numeral.length_trim_le_iff_fitsIn fun _ => isDigit_of_mem_textOf, number_textOf]
  rfl

end NumberWord

namespace Double

open Numeral

/-- A text that is read as a finite double is a word of digits, but for white space around it and
    underscores in it, which make no difference to the digits that count. -/
theorem exists_form_of_finite {text : Text} {negative : Bool} {rank : Fin rankCount}
    (reads : ofText? text = some (.finite negative rank)) :
    ∃ (sign : Sign) (form : DecimalForm),
      significantDigits text = significantDigits (sign.text ++ form.text) ∧
        form.decimal.rank = rank := by
  obtain ⟨left, word, grouped, right, rfl, white, groups, readable, reads⟩ :=
    ofText?_eq_some_iff.mp reads
  obtain ⟨leftWhite, rightWhite⟩ := List.forall_mem_append.mp white
  have decimal : isDecimal (unsigned word) = true := by
    rw [ofText?_of_readable readable, plain?_eq] at reads
    split at reads
    · cases reads
    · split at reads
      · cases reads
      · obtain ⟨d, found, -⟩ := Option.map_eq_some_iff.mp reads
        rw [← isSome_decimal?, found, Option.isSome_some]
  obtain ⟨sign, form, rfl⟩ := exists_form_of_isDecimal decimal
  refine ⟨sign, form, ?_, ?_⟩
  · rw [significantDigits, mantissaDigits_append_white rightWhite,
      mantissaDigits_white_append leftWhite, mantissaDigits_of_grouped groups, significantDigits]
  · rw [ofText?_form] at reads
    exact eq_of_ofRank (Option.some.inj reads)

/-- The numeral of a magnitude has no more digits that count than the coefficient of the shortest
    decimal. -/
theorem length_significantDigits_text_le_iff (negative : Bool) (rank : Fin rankCount)
    (positive : 0 < rank.val) {count : Nat} :
    (significantDigits (text (.finite negative rank))).length ≤ count ↔
      FitsIn count (shortest rank).coefficient := by
  obtain ⟨read, reads, rescaled⟩ := rescaled_magnitudeText rank.isLt positive
  have decimal := isDecimal_magnitudeText rank.isLt
  obtain ⟨form, written⟩ := exists_decimalForm decimal
  obtain ⟨sign, signed⟩ : ∃ sign : Sign, sign.text = signText negative := by
    cases negative with
    | false => exact ⟨.absent, rfl⟩
    | true => exact ⟨.minus, rfl⟩
  rw [← written, form.decimal?_text] at reads
  rw [text, ← signed, ← written, length_significantDigits_form_le_iff, Option.some.inj reads,
    rescaled.fitsIn_iff]

/-- The numeral of a double is a number word and is read as the double itself.  No text that is read
    as the double has fewer digits that count. -/
theorem text_readBack_shortest (value : Double) :
    classify value.text = .number ∧ ofText value.text = .ok value ∧
      ∀ other, ofText other = .ok value →
        (significantDigits value.text).length ≤ (significantDigits other).length := by
  refine ⟨classify_eq_number_iff.mpr value.isNumber_text,
    ofText_eq_ok_iff.mpr (ofText?_text value), ?_⟩
  intro other reads
  cases value with
  | nan => exact Nat.zero_le _
  | inf negative => cases negative <;> exact Nat.zero_le _
  | finite negative rank =>
      by_cases zero : rank.val = 0
      · obtain rfl : rank = 0 := Fin.ext zero
        cases negative <;> exact Nat.zero_le _
      · have positive := Nat.pos_of_ne_zero zero
        obtain ⟨sign, form, digits, found⟩ :=
          exists_form_of_finite (ofText_eq_ok_iff.mp reads)
        rw [length_significantDigits_text_le_iff negative rank positive, digits]
        refine fitsIn_shortest positive rank.isLt found ?_
        exact (length_significantDigits_form_le_iff sign form).mp le_rfl

/-- The smallest magnitude is 4.94…·10⁻³²⁴, and many digits of it are read as it. -/
theorem text_readBack_shortest_least :
    ofText "4.940656458412465e-324".toList = .ok (.finite false 1) ∧
      (significantDigits (text (.finite false 1))).length ≤
        (significantDigits "4.940656458412465e-324".toList).length := by
  have reads : ofText "4.940656458412465e-324".toList = .ok (.finite false 1) :=
    ofText_eq_ok_iff.mpr (by decide +kernel)
  exact ⟨reads, (text_readBack_shortest (.finite false 1)).2.2 _ reads⟩

end Double

end ReversePolish
