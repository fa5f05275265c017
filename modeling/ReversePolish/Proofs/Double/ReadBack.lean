import ReversePolish.Proofs.Double.Digits
import ReversePolish.Proofs.Double.Rank

/-! # Numerals are read back

The numeral that a double is written with is a number word, and reading it gives the same
double (`Double.ofText?_text`).  The numeral of a magnitude need not spell the shortest decimal
itself: zeros may be filled in between the digits and the point.  It spells a decimal of
the same value, and so one of the same rank.
-/

namespace ReversePolish

open Unicode NumberWord

namespace Text

/-- What is cut off at the end of a text is a run of the characters to be dropped. -/
theorem append_replicate_of_trimRight (dropped : Char) (text : Text) :
    ∃ count, text = trimRight (· = dropped) text ++ List.replicate count dropped := by
  obtain ⟨cut, split, same⟩ := exists_trimRight_append (· = dropped) text
  have all : cut = List.replicate cut.length dropped :=
    List.eq_replicate_of_mem fun c member => by simpa using same c member
  exact ⟨cut.length, all ▸ split⟩

end Text

namespace Double

open Numeral

/-- Around a point in the text stand the given digits, but for zeros in front of them and a
    number of zeros behind them, with the point where it counts. -/
def SpellsAt (digits : Text) (point : Int) (text : Text) : Prop :=
  ∃ (whole fraction : Text) (zeros : Nat), text = whole ++ '.' :: fraction ∧
    AreDigits whole ∧ AreDigits fraction ∧ whole ≠ [] ∧
    number (whole ++ fraction) = number digits * 10 ^ zeros ∧
    (-fraction.length : Int) = point - digits.length - zeros

section Digits

variable {digits : Text} (areDigits : AreDigits digits)

/-- Whatever spells the digits at a point is read as the digits and some zeros. -/
theorem SpellsAt.decimal?_eq {point : Int} {text : Text} (spells : SpellsAt digits point text) :
    ∃ zeros : Nat, decimal? text =
      some ⟨number digits * 10 ^ zeros, point - digits.length - zeros⟩ := by
  obtain ⟨whole, fraction, zeros, rfl, wholeDigits, fractionDigits, some_digit, value, length⟩ :=
    spells
  refine ⟨zeros, ?_⟩
  rw [decimal?_pointed_end wholeDigits.isDigit fractionDigits.isDigit (.inl some_digit), value,
    length]

include areDigits

/-- The point stands in front of a digit. -/
theorem spellsAt_of_lt {point : Nat} (inside : point < digits.length) :
    SpellsAt digits point (positional digits point) := by
  have nonempty : digits ≠ [] := List.ne_nil_of_length_pos (by omega)
  have unfilled : point - digits.length = 0 := by omega
  have fraction : digits.drop point ≠ [] := by simpa using inside
  have fractionDigits : AreDigits (digits.drop point) :=
    fun c member => areDigits c (List.mem_of_mem_drop member)
  have length : (-(digits.drop point).length : Int) = point - digits.length - (0 : Nat) := by
    rw [List.length_drop]
    omega
  by_cases front : digits.take point = []
  · have start : digits.drop point = digits := by
      rw [(List.take_eq_nil_iff.mp front).resolve_right nonempty, List.drop_zero]
    refine ⟨['0'], digits.drop point, 0, ?_, areDigits_zero, fractionDigits, by simp, ?_, length⟩
    · simp only [positional, unfilled, List.replicate_zero, List.append_nil, front, if_true,
        fraction, if_false, List.cons_append, List.nil_append]
    · rw [start, Nat.pow_zero, Nat.mul_one]
      exact number_zeros_append 1 digits
  · refine ⟨digits.take point, digits.drop point, 0, ?_,
      fun c member => areDigits c (List.mem_of_mem_take member), fractionDigits, front, ?_, length⟩
    · simp only [positional, unfilled, List.replicate_zero, List.append_nil, front, fraction,
        if_false]
    · rw [List.take_append_drop, Nat.pow_zero, Nat.mul_one]

/-- The point stands behind all digits, and zeros fill the places in between. -/
theorem spellsAt_of_le (nonempty : digits ≠ []) {point : Nat} (beyond : digits.length ≤ point) :
    SpellsAt digits point (positional digits point) := by
  have fraction : digits.drop point = [] := by simpa using beyond
  have whole : digits ++ List.replicate (point - digits.length) '0' ≠ [] := by
    simp [nonempty]
  refine ⟨digits ++ List.replicate (point - digits.length) '0', ['0'],
    point - digits.length + 1, ?_, areDigits.append (areDigits_zeros _), areDigits_zero,
    whole, ?_, ?_⟩
  · simp only [positional, List.take_of_length_le beyond, whole, fraction, if_true, if_false]
  · rw [List.append_assoc, ← List.replicate_succ', number_append_zeros]
  · rw [List.length_singleton]
    omega

/-- The point stands in front of all digits, with zeros in between. -/
theorem spellsAt_negSucc (point : Nat) :
    SpellsAt digits (.negSucc point) (positional digits (.negSucc point)) := by
  refine ⟨['0'], List.replicate (point + 1) '0' ++ digits, 0, rfl, areDigits_zero,
    (areDigits_zeros _).append areDigits, by simp, ?_, ?_⟩
  · rw [← List.append_assoc, ← List.replicate_one, List.replicate_append_replicate,
      number_zeros_append, Nat.pow_zero, Nat.mul_one]
  · rw [List.length_append, List.length_replicate]
    omega

theorem spellsAt_positional (nonempty : digits ≠ []) (point : Int) :
    SpellsAt digits point (positional digits point) := by
  cases point with
  | ofNat point =>
      rcases Nat.lt_or_ge point digits.length with inside | beyond
      · exact spellsAt_of_lt areDigits inside
      · exact spellsAt_of_le areDigits nonempty beyond
  | negSucc point => exact spellsAt_negSucc areDigits point

/-- Digits with an exponent spell the number of the digits scaled by it. -/
theorem decimal?_scientific (nonempty : digits ≠ []) (exponent : Int) :
    decimal? (scientific digits exponent) =
      some ⟨number digits, exponent + 1 - digits.length⟩ := by
  have ends : ∀ c ∈ ('e' :: exponentText exponent).head?,
      Unicode.isDigit c = false ∧ c ≠ '.' := by
    rintro c ⟨⟩
    decide
  match digits, nonempty with
  | [digit], _ =>
      have read := decimal?_unpointed areDigits.isDigit (by simp) ends
      rw [exponent?_exponentText, Option.map_some] at read
      simpa [scientific] using read
  | digit :: second :: more, _ =>
      have whole : AreDigits [digit] :=
        fun c member => areDigits c (by simp [List.mem_singleton.mp member])
      have fraction : AreDigits (second :: more) :=
        fun c member => areDigits c (List.mem_cons_of_mem _ member)
      have read := decimal?_pointed whole.isDigit fraction.isDigit (by simp)
        fun c first => (ends c first).1
      rw [exponent?_exponentText, Option.map_some] at read
      simpa [scientific] using read

end Digits

/-- The numeral of a decimal is read as the decimal, but for zeros behind its digits. -/
theorem rescaled_decimalText {d : Decimal} (positive : 0 < d.coefficient) :
    ∃ read, decimal? (decimalText d) = some read ∧ d.Rescaled read := by
  obtain ⟨coefficient, exponent⟩ := d
  obtain ⟨zeros, split⟩ := Text.append_replicate_of_trimRight '0' (Text.ofNat coefficient)
  have value : coefficient =
      number (Text.trimRight (· = '0') (Text.ofNat coefficient)) * 10 ^ zeros := by
    rw [← number_append_zeros, ← split, number_ofNat]
  have areDigits : AreDigits (Text.trimRight (· = '0') (Text.ofNat coefficient)) := by
    intro c member
    refine areDigits_ofNat coefficient c ?_
    rw [split]
    exact List.mem_append_left _ member
  have length := congrArg List.length split
  simp only [decimalText]
  -- From here on only the digits that are kept and the number of zeros cut off matter.
  generalize Text.trimRight (· = '0') (Text.ofNat coefficient) = digits at *
  rw [List.length_append, List.length_replicate] at length
  have nonempty : digits ≠ [] := by
    rintro rfl
    rw [value] at positive
    exact absurd positive (by simp [number, spelled])
  have place : exponent + (Text.ofNat coefficient).length - 1 + 1 - digits.length =
      exponent + zeros := by
    rw [length]
    omega
  have rescaled : ∀ readZeros : Nat, Decimal.Rescaled ⟨coefficient, exponent⟩
      ⟨number digits * 10 ^ readZeros, exponent + zeros - readZeros⟩ := by
    intro readZeros
    refine ⟨number digits, exponent + zeros, zeros, readZeros, ?_, rfl⟩
    rw [← value, Int.add_sub_cancel]
  split
  · obtain ⟨readZeros, reads⟩ := (spellsAt_positional areDigits nonempty _).decimal?_eq
    rw [place] at reads
    exact ⟨_, reads, rescaled readZeros⟩
  · have reads := decimal?_scientific areDigits nonempty
      (exponent + (Text.ofNat coefficient).length - 1)
    rw [place] at reads
    exact ⟨_, reads, by simpa using rescaled 0⟩

section Magnitude

variable {rank : Nat} (finite : rank < rankCount)

include finite

/-- The numeral of a magnitude is read as its shortest decimal, but for zeros behind the digits. -/
theorem rescaled_magnitudeText (positive : 0 < rank) :
    ∃ read, decimal? (magnitudeText rank) = some read ∧ (shortest rank).Rescaled read := by
  have found := rank_shortest positive finite
  rw [magnitudeText, if_neg positive.ne']
  exact rescaled_decimalText (Decimal.coefficient_pos (found.symm ▸ positive))

/-- The numeral of a magnitude is read as a decimal of its rank. -/
theorem rank_magnitudeText :
    ∃ read, decimal? (magnitudeText rank) = some read ∧ read.rank = rank := by
  by_cases zero : rank = 0
  · subst zero
    exact ⟨⟨0, -1⟩, by decide, by decide⟩
  · have positive : 0 < rank := Nat.pos_of_ne_zero zero
    obtain ⟨read, reads, rescaled⟩ := rescaled_magnitudeText finite positive
    exact ⟨read, reads, rescaled.rank_eq.trans (rank_shortest positive finite)⟩

end Magnitude

/-- A decimal begins with no letter, and so it is no name. -/
theorem toLower_ne_name_of_isDecimal {body name : Text} (decimal : isDecimal body = true)
    (letters : ∀ letter ∈ name, letter ∈ nameLetters) : body.map Char.toLower ≠ name := by
  rintro rfl
  cases body with
  | nil => cases decimal
  | cons c rest =>
      have small : c.toLower ∈ nameLetters := letters _ (by simp)
      rcases head_of_isDecimal decimal with rfl | digit
      · exact absurd small (by decide)
      · have none : ∀ mark ∈ marks, Unicode.isDigit mark = false := by decide
        rw [none c (mem_marks_of_toLower small)] at digit
        cases digit

/-- Behind its sign a decimal is read as such, and then as the double of the decimal. -/
theorem plain?_of_isDecimal {text : Text} (decimal : isDecimal (unsigned text) = true) :
    plain? text = (decimal? (unsigned text)).map (Decimal.toDouble (splitSign text).1) := by
  have unnamed : ∀ name : Text, (∀ letter ∈ name, letter ∈ nameLetters) →
      (unsigned text).map Char.toLower ≠ name :=
    fun name letters => toLower_ne_name_of_isDecimal decimal letters
  rw [plain?_eq, if_neg (not_or.mpr ⟨unnamed _ (by decide), unnamed _ (by decide)⟩),
    if_neg (unnamed _ (by decide))]

section Decimal

variable {body : Text} (decimal : isDecimal body = true)

include decimal

theorem splitSign_signText (negative : Bool) :
    splitSign (signText negative ++ body) = (negative, body) := by
  cases negative with
  | true => rfl
  | false =>
      cases body with
      | nil => rfl
      | cons c rest =>
          have minus : c ≠ '-' := by
            rintro rfl
            exact absurd (head_of_isDecimal decimal) (by decide)
          have plus : c ≠ '+' := by
            rintro rfl
            exact absurd (head_of_isDecimal decimal) (by decide)
          simp [signText, splitSign, minus, plus]

theorem unsigned_signText (negative : Bool) : unsigned (signText negative ++ body) = body := by
  rw [← splitSign_snd, splitSign_signText decimal]

/-- A decimal with a sign is read as the double of the decimal. -/
theorem plain?_signText (negative : Bool) :
    plain? (signText negative ++ body) = (decimal? body).map (Decimal.toDouble negative) := by
  have bare := unsigned_signText decimal negative
  rw [plain?_of_isDecimal (by rw [bare, decimal]), bare, splitSign_signText decimal]

end Decimal

theorem isDecimal_magnitudeText {rank : Nat} (finite : rank < rankCount) :
    isDecimal (magnitudeText rank) = true := by
  obtain ⟨read, reads, -⟩ := rank_magnitudeText finite
  rw [← isSome_decimal?, reads, Option.isSome_some]

/-- The numeral of a double is a number word. -/
theorem isNumber_text (value : Double) : isNumber value.text = true := by
  cases value with
  | nan => decide
  | inf negative => cases negative <;> decide
  | finite negative rank =>
      have decimal := isDecimal_magnitudeText rank.isLt
      rw [text, isNumber, unsigned_signText decimal, decimal, Bool.true_or]

/-- The numeral of a double is read as it: the two zeros stay apart, and nan is nan. -/
theorem ofText?_text (value : Double) : ofText? value.text = some value := by
  rw [ofText?_of_isNumber (isNumber_text value)]
  cases value with
  | nan => decide
  | inf negative => cases negative <;> decide
  | finite negative rank =>
      obtain ⟨read, reads, found⟩ := rank_magnitudeText rank.isLt
      rw [text, plain?_signText (isDecimal_magnitudeText rank.isLt), reads,
        Option.map_some, Decimal.toDouble, found, ofRank, dif_pos rank.isLt]

theorem text_injective : Function.Injective text := by
  intro value other same
  have read := congrArg ofText? same
  rw [ofText?_text, ofText?_text] at read
  exact Option.some.inj read

end Double

end ReversePolish
