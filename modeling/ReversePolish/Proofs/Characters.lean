import ReversePolish.Unicode.Alphanumeric
import ReversePolish.Unicode.Blank
import ReversePolish.Unicode.Digit

/-! # Blanks against the characters of words

The characters that separate words are few, so what holds of all of them is settled by going
through them.  None is a digit, a letter or a number, and every character that may surround
a numeral is one of them.
-/

namespace ReversePolish.Unicode

namespace Ranges

/-- The code points of a set, one by one. -/
def codes (ranges : Ranges) : List Nat :=
  ranges.flatMap fun run => List.range' run.1 (run.2 + 1 - run.1)

theorem mem_codes_of_contains {ranges : Ranges} {code : Nat}
    (inside : ranges.contains code = true) : code ∈ ranges.codes := by
  induction ranges with
  | nil => simp [contains] at inside
  | cons run later ih =>
      obtain ⟨first, last⟩ := run
      simp only [contains] at inside
      split at inside
      · simp at inside
      · simp only [codes, List.flatMap_cons, List.mem_append, List.mem_range'_1]
        rcases (Bool.or_eq_true _ _).mp inside with here | beyond
        · have bounded : code ≤ last := by simpa using here
          left
          omega
        · exact .inr (ih beyond)

end Ranges

variable {c : Char}

theorem isDigit_of_isBlank (blank : isBlank c = true) : isDigit c = false := by
  have none : ∀ code ∈ blankRanges.codes, (zeros.findSome? (digitAbove code)).isSome = false := by
    decide +kernel
  exact none c.toNat (Ranges.mem_codes_of_contains blank)

theorem isAlphanumeric_of_isBlank (blank : isBlank c = true) : isAlphanumeric c = false := by
  have none : ∀ code ∈ blankRanges.codes, alphanumericRanges.contains code = false := by
    decide +kernel
  exact none c.toNat (Ranges.mem_codes_of_contains blank)

theorem isBlank_of_isWhiteSpace (white : isWhiteSpace c = true) : isBlank c = true := by
  have all : ∀ code ∈ whiteSpaceRanges.codes, blankRanges.contains code = true := by
    decide +kernel
  exact all c.toNat (Ranges.mem_codes_of_contains white)

/-- An alphanumeric character is no blank. -/
theorem not_isBlank_of_isAlphanumeric (alphanumeric : isAlphanumeric c = true) :
    isBlank c = false := by
  cases blank : isBlank c with
  | false => rfl
  | true => rw [isAlphanumeric_of_isBlank blank] at alphanumeric; cases alphanumeric

theorem not_isBlank_of_isDigit (digit : isDigit c = true) : isBlank c = false := by
  cases blank : isBlank c with
  | false => rfl
  | true => rw [isDigit_of_isBlank blank] at digit; cases digit

theorem not_isWhiteSpace_of_not_isBlank (inWord : isBlank c = false) : isWhiteSpace c = false := by
  cases white : isWhiteSpace c with
  | false => rfl
  | true => rw [isBlank_of_isWhiteSpace white] at inWord; cases inWord

end ReversePolish.Unicode
