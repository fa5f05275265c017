import ReversePolish.Proofs.Double.Nearest
import ReversePolish.Proofs.Double.Readable
import ReversePolish.Proofs.Double.ReadBack
import ReversePolish.Proofs.Grammar

/-! # Literals are correctly rounded

A word of digits denotes a rational number, given by the places of its digits and by its exponent.
Reading the word gives the double nearest to this number, with the sign of the word
(`NumberWord.DecimalForm.read_nearest`).  Decimals too large or too small to be expanded are no
exception: they lie beyond all midpoints on their side.
-/

namespace ReversePolish

open Unicode

namespace Unicode

/-- The ASCII digit with the value of a digit; any other character itself. -/
def asciiDigit (c : Char) : Char := ((digitValue? c).map Nat.digitChar).getD c

theorem digitValue?_lt {c : Char} {n : Nat} (value : digitValue? c = some n) : n < 10 := by
  obtain ⟨origin, -, above⟩ := List.exists_of_findSome?_eq_some value
  rw [digitAbove] at above
  split at above
  · cases above
    omega
  · cases above

theorem digitValue?_asciiDigit {c : Char} {n : Nat} (value : digitValue? c = some n) :
    digitValue? (asciiDigit c) = some n := by
  have all : ∀ n < 10, digitValue? n.digitChar = some n := by decide
  rw [asciiDigit, value]
  exact all n (digitValue?_lt value)

end Unicode

namespace Decimal

/-- The number that a decimal stands for. -/
def value (d : Decimal) : ℚ := d.coefficient * 10 ^ d.exponent

theorem ten_zpow_pos (exponent : ℤ) : (0 : ℚ) < 10 ^ exponent := zpow_pos (by norm_num) exponent

theorem value_nonneg (d : Decimal) : 0 ≤ d.value :=
  mul_nonneg (Nat.cast_nonneg _) (ten_zpow_pos _).le

theorem lt_pow_digitCount (n : Nat) : n < 10 ^ digitCount n :=
  (digitCount_le_iff Nat.length_toDigits_pos).mp le_rfl

theorem pow_digitCount_le {n : Nat} (positive : 0 < n) : 10 ^ (digitCount n - 1) ≤ n := by
  by_cases single : digitCount n = 1
  · rw [single]
    exact positive
  · have several : 0 < digitCount n - 1 := by
      have some_digit : 0 < digitCount n := Nat.length_toDigits_pos
      omega
    refine Nat.not_lt.mp fun less => ?_
    have fewer := (digitCount_le_iff several).mpr less
    omega

/-- The bounds that counting digits gives. -/
theorem value_lt (d : Decimal) : d.value < 10 ^ (d.exponent + digitCount d.coefficient) := by
  rw [value, add_comm, zpow_add₀ (by norm_num), zpow_natCast]
  refine mul_lt_mul_of_pos_right ?_ (ten_zpow_pos _)
  exact_mod_cast lt_pow_digitCount d.coefficient

theorem le_value {d : Decimal} (positive : 0 < d.coefficient) :
    (10 : ℚ) ^ (d.exponent + digitCount d.coefficient - 1) ≤ d.value := by
  have some_digit : 0 < digitCount d.coefficient := Nat.length_toDigits_pos
  have size : d.exponent + digitCount d.coefficient - 1 =
      ((digitCount d.coefficient - 1 : Nat) : ℤ) + d.exponent := by omega
  rw [value, size, zpow_add₀ (by norm_num), zpow_natCast]
  refine mul_le_mul_of_nonneg_right ?_ (ten_zpow_pos _).le
  exact_mod_cast pow_digitCount_le positive

/-- A decimal that is too small to be expanded is not beyond half of the smallest magnitude. -/
theorem value_le_of_size_lt {d : Decimal}
    (small : d.exponent + digitCount d.coefficient < -323) : d.value ≤ 1 / 2 ^ 1075 := by
  have bound : (2 : ℚ) ^ 1075 ≤ 10 ^ 324 := by
    have whole : 2 ^ 1075 ≤ 10 ^ 324 := by decide +kernel
    exact_mod_cast whole
  calc d.value ≤ 10 ^ (d.exponent + digitCount d.coefficient) := d.value_lt.le
    _ ≤ 10 ^ (-324 : ℤ) := zpow_le_zpow_right₀ (by norm_num) (by omega)
    _ = 1 / 10 ^ 324 := by rw [zpow_neg, one_div]; rfl
    _ ≤ 1 / 2 ^ 1075 := one_div_le_one_div_of_le (by positivity) bound

/-- A decimal that is too large to be expanded is beyond 2¹⁰²⁴. -/
theorem le_value_of_lt_size {d : Decimal} (positive : 0 < d.coefficient)
    (large : 309 < d.exponent + digitCount d.coefficient) : 2 ^ 1024 - 2 ^ 970 ≤ d.value := by
  have bound : (2 : ℚ) ^ 1024 ≤ 10 ^ 309 := by
    have whole : 2 ^ 1024 ≤ 10 ^ 309 := by decide +kernel
    exact_mod_cast whole
  have size : (10 : ℚ) ^ 309 ≤ 10 ^ (d.exponent + digitCount d.coefficient - 1) := by
    rw [← zpow_natCast]
    exact zpow_le_zpow_right₀ (by norm_num) (by omega)
  have gap : (0 : ℚ) ≤ 2 ^ 970 := by positivity
  exact (sub_le_self _ gap).trans (bound.trans (size.trans (le_value positive)))

/-- The double of an expanded decimal. -/
theorem isNearest_expandedRank (negative : Bool) (coefficient : Nat) (exponent : Int) :
    Double.IsNearest negative (value ⟨coefficient, exponent⟩)
      (.ofRank negative (expandedRank coefficient exponent)) := by
  cases exponent with
  | ofNat e =>
      have rounded := Double.isNearest_round_ones (coefficient * 10 ^ e) Nat.one_pos negative
      rw [Nat.cast_one, div_one] at rounded
      rw [expandedRank_ofNat, value, Int.ofNat_eq_natCast, zpow_natCast]
      exact_mod_cast rounded
  | negSucc e =>
      have positive : 0 < 10 ^ (e + 1) := natPow_pos (by decide) _
      have rounded := Double.isNearest_round_ones coefficient positive negative
      rw [expandedRank_negSucc, value, zpow_negSucc, ← div_eq_mul_inv]
      exact_mod_cast rounded

/-- The double of a decimal is nearest to the number that the decimal stands for. -/
theorem isNearest_toDouble (negative : Bool) (d : Decimal) :
    Double.IsNearest negative d.value (d.toDouble negative) := by
  have least : Double.ofRank negative 0 = .zero negative := rfl
  have beyond : Double.ofRank negative Double.rankCount = .inf negative := rfl
  rw [toDouble, rank]
  by_cases zero : d.coefficient = 0
  · rw [if_pos (.inl zero), least]
    refine Double.isNearest_zero negative d.value_nonneg ?_
    rw [value, zero, Nat.cast_zero, zero_mul]
    positivity
  · by_cases small : d.exponent + digitCount d.coefficient < -323
    · rw [if_pos (.inr small), least]
      exact Double.isNearest_zero negative d.value_nonneg (value_le_of_size_lt small)
    · rw [if_neg (not_or.mpr ⟨zero, small⟩)]
      split
      · rename_i large
        rw [beyond]
        exact Double.isNearest_inf negative (le_value_of_lt_size (Nat.pos_of_ne_zero zero) large)
      · exact isNearest_expandedRank negative d.coefficient d.exponent

end Decimal

namespace NumberWord

/-- The digits in front of the point count as a whole number, and those behind it as that many
    tenths, hundredths and so on. -/
def Mantissa.value (mantissa : Mantissa) : ℚ :=
  numberOf mantissa.front + numberOf mantissa.behind / 10 ^ mantissa.behind.length

def DecimalForm.value (form : DecimalForm) : ℚ :=
  form.mantissa.value * 10 ^ (form.exponent.map Exponent.value).getD 0

theorem numberOf_append (left right : List Digit) :
    numberOf (left ++ right) = numberOf left * 10 ^ right.length + numberOf right := by
  rw [← number_textOf, textOf_append, Numeral.number_append, number_textOf, number_textOf, textOf,
    List.length_map]

/-- The decimal that the digits spell stands for the number that they denote. -/
theorem DecimalForm.value_decimal (form : DecimalForm) : form.decimal.value = form.value := by
  have ten : (10 : ℚ) ^ form.mantissa.behind.length ≠ 0 := by positivity
  rw [Decimal.value, DecimalForm.decimal, DecimalForm.value, Mantissa.value, numberOf_append,
    zpow_sub₀ (by norm_num), zpow_natCast]
  push_cast
  field_simp

section Form

variable (sign : Sign) (form : DecimalForm)

theorem isNumber_form : isNumber (sign.text ++ form.text) = true :=
  isNumber_iff_isWritten.mpr ⟨⟨sign, .decimal form⟩, rfl⟩

theorem classify_form : classify (sign.text ++ form.text) = .number :=
  classify_eq_number_iff.mpr (isNumber_form sign form)

/-- A word of digits is read as the double of the decimal that it spells. -/
theorem ofText?_form :
    Double.ofText? (sign.text ++ form.text) = some (form.decimal.toDouble sign.negative) := by
  have split := splitSign_text sign (Body.decimal form).bare
  rw [Body.text] at split
  have bare : unsigned (sign.text ++ form.text) = form.text := by
    rw [← Numeral.splitSign_snd, split]
  rw [Double.ofText?_of_isNumber (isNumber_form sign form),
    Double.plain?_of_isDecimal (by rw [bare, form.isDecimal_text]), bare, split,
    form.decimal?_text, Option.map_some]

end Form

theorem Digit.value_eq (digit : Digit) : digitValue? digit.val = some digit.value :=
  (Option.some_get _).symm

def Digit.ascii (digit : Digit) : Digit :=
  ⟨asciiDigit digit.val, by rw [isDigit, digitValue?_asciiDigit digit.value_eq, Option.isSome_some]⟩

theorem Digit.value_ascii (digit : Digit) : digit.ascii.value = digit.value :=
  Option.some.inj (digit.ascii.value_eq.symm.trans (digitValue?_asciiDigit digit.value_eq))

def Digits.ascii (digits : Digits) : Digits :=
  ⟨digits.list.map Digit.ascii, fun none => digits.nonempty (List.map_eq_nil_iff.mp none)⟩

def Mantissa.ascii : Mantissa → Mantissa
  | .whole digits fraction => .whole digits.ascii (fraction.map (List.map Digit.ascii))
  | .fractional digits => .fractional digits.ascii

def Exponent.ascii (exponent : Exponent) : Exponent :=
  { exponent with digits := exponent.digits.ascii }

/-- The same form with ASCII digits. -/
def DecimalForm.ascii (form : DecimalForm) : DecimalForm :=
  ⟨form.mantissa.ascii, form.exponent.map Exponent.ascii⟩

theorem textOf_map_ascii (digits : List Digit) :
    textOf (digits.map Digit.ascii) = (textOf digits).map asciiDigit := by
  simp only [textOf, List.map_map]
  rfl

theorem numberOf_map_ascii (digits : List Digit) :
    numberOf (digits.map Digit.ascii) = numberOf digits := by
  induction digits with
  | nil => rfl
  | cons digit more ih =>
      simp only [List.map_cons, numberOf, digit.value_ascii, List.length_map, ih]

theorem Sign.map_asciiDigit_text (sign : Sign) : sign.text.map asciiDigit = sign.text := by
  cases sign <;> decide

theorem Mantissa.text_ascii (mantissa : Mantissa) :
    mantissa.ascii.text = mantissa.text.map asciiDigit := by
  have point : asciiDigit '.' = '.' := by decide
  cases mantissa with
  | whole digits fraction =>
      cases fraction <;>
        simp [Mantissa.ascii, Mantissa.text, Digits.ascii, fractionText, textOf_map_ascii, point]
  | fractional digits => simp [Mantissa.ascii, Mantissa.text, Digits.ascii, textOf_map_ascii, point]

theorem Exponent.text_ascii (exponent : Exponent) :
    exponent.ascii.text = exponent.text.map asciiDigit := by
  have mark : asciiDigit exponent.mark = exponent.mark := by
    rcases exponent.marked with small | capital
    · rw [small]
      decide
    · rw [capital]
      decide
  simp [Exponent.ascii, Exponent.text, Digits.ascii, textOf_map_ascii, mark,
    exponent.sign.map_asciiDigit_text]

theorem DecimalForm.text_ascii (form : DecimalForm) :
    form.ascii.text = form.text.map asciiDigit := by
  obtain ⟨mantissa, exponent⟩ := form
  cases exponent <;>
    simp [DecimalForm.ascii, DecimalForm.text, mantissa.text_ascii, Exponent.text_ascii]

theorem Mantissa.digits_ascii (mantissa : Mantissa) :
    mantissa.ascii.front = mantissa.front.map Digit.ascii ∧
      mantissa.ascii.behind = mantissa.behind.map Digit.ascii := by
  cases mantissa with
  | whole digits fraction => cases fraction <;> exact ⟨rfl, rfl⟩
  | fractional digits => exact ⟨rfl, rfl⟩

theorem Exponent.value_ascii (exponent : Exponent) : exponent.ascii.value = exponent.value := by
  simp only [Exponent.value, Exponent.ascii, Digits.ascii, numberOf_map_ascii]

/-- With ASCII digits the same decimal is spelled. -/
theorem DecimalForm.decimal_ascii (form : DecimalForm) : form.ascii.decimal = form.decimal := by
  obtain ⟨front, behind⟩ := form.mantissa.digits_ascii
  have exponent : (form.exponent.map Exponent.ascii).map Exponent.value =
      form.exponent.map Exponent.value := by
    rw [Option.map_map]
    congr 1
    exact funext Exponent.value_ascii
  simp only [DecimalForm.decimal, DecimalForm.ascii, front, behind, ← List.map_append,
    numberOf_map_ascii, List.length_map, exponent]

/-- A word of digits is a number.  It is read as the double nearest to what the digits denote, with
    the sign of the word, and as no other.  The word with ASCII digits of the same values is
    a number as well and is read as the same double. -/
theorem DecimalForm.read_nearest (sign : Sign) (form : DecimalForm) :
    classify (sign.text ++ form.text) = .number ∧
    (∃ value, Double.ofText (sign.text ++ form.text) = .ok value ∧
      ∀ other, Double.IsNearest sign.negative form.value other ↔ other = value) ∧
    classify ((sign.text ++ form.text).map asciiDigit) = .number ∧
    Double.ofText ((sign.text ++ form.text).map asciiDigit) =
      Double.ofText (sign.text ++ form.text) := by
  have reads := fun form => Double.ofText_eq_ok_iff.mpr (ofText?_form sign form)
  have nearest := form.decimal.isNearest_toDouble sign.negative
  rw [form.value_decimal] at nearest
  have ascii : (sign.text ++ form.text).map asciiDigit = sign.text ++ form.ascii.text := by
    rw [List.map_append, sign.map_asciiDigit_text, form.text_ascii]
  refine ⟨classify_form sign form, ⟨form.decimal.toDouble sign.negative, reads form, ?_⟩, ?_⟩
  · intro other
    constructor
    · exact fun otherNearest => otherNearest.unique nearest
    · rintro rfl
      exact nearest
  · rw [ascii, reads, reads, form.decimal_ascii]
    exact ⟨classify_form sign form.ascii, rfl⟩

end NumberWord

end ReversePolish
