import Mathlib.Data.List.TakeWhile
import ReversePolish.Double.Reading
import ReversePolish.Token.NumberWord
import ReversePolish.Proofs.Characters
import ReversePolish.Proofs.Trimming

/-! # Number words and numerals

The form of a number word and the reading of a numeral are two descriptions of numbers that
know nothing of each other.  Here they are compared.  On decimals they agree
(`Numeral.isSome_decimal?`).  On names they agree up to the two Turkish letters that pass for an
`i`.  A number word has neither white space nor underscores, so what a numeral may have around
and between its digits makes no difference (`Double.ofText?_of_isNumber`).  What
remains is `Double.ofText?_eq_none_iff`: the number words that cannot be read are those with
one of the two letters.
-/

namespace ReversePolish

open Unicode NumberWord

namespace Numeral

/-- The value of a digit, and zero for any other character. -/
def digitOf (c : Char) : Nat := (digitValue? c).getD 0

theorem splitDigits_eq (text : Text) :
    splitDigits text = ((text.takeWhile isDigit).map digitOf, text.dropWhile isDigit) := by
  induction text with
  | nil => rfl
  | cons c rest ih =>
      cases value : digitValue? c with
      | none => simp [splitDigits, value, isDigit]
      | some digit => simp [splitDigits, value, isDigit, ih, digitOf]

theorem splitSign_snd (text : Text) : (splitSign text).2 = unsigned text := by
  cases text with
  | nil => rfl
  | cons c rest =>
      by_cases minus : c = '-'
      · simp [splitSign, unsigned, minus]
      · by_cases plus : c = '+' <;> simp [splitSign, unsigned, minus, plus]

theorem isDigits_eq (text : Text) :
    isDigits text = (!(text.takeWhile isDigit).isEmpty && (text.dropWhile isDigit).isEmpty) := by
  cases text with
  | nil => rfl
  | cons c rest =>
      cases digit : isDigit c with
      | false => simp [isDigits, digit]
      | true =>
          have all : rest.all isDigit = (rest.dropWhile isDigit).isEmpty := by
            rw [Bool.eq_iff_iff, List.all_eq_true, List.isEmpty_iff, List.dropWhile_eq_nil_iff]
          simp [isDigits, digit, all]

theorem isSome_exponent? (text : Text) : (exponent? text).isSome = isExponent text := by
  cases text with
  | nil => rfl
  | cons mark rest =>
      by_cases marked : mark = 'e' ∨ mark = 'E'
      · have sign := splitSign_snd rest
        rcases split : splitSign rest with ⟨negative, digits⟩
        rw [split] at sign
        subst sign
        simp only [exponent?, isExponent, marked, split, splitDigits_eq, isDigits_eq, if_true,
          ← Bool.decide_or, decide_true, Bool.true_and]
        cases (unsigned rest).takeWhile isDigit with
        | nil => rfl
        | cons first digits => cases (unsigned rest).dropWhile isDigit <;> rfl
      · simp [exponent?, isExponent, marked]

/-- The decimals that are read are those of the form of a number word. -/
theorem isSome_decimal? (text : Text) : (decimal? text).isSome = isDecimal text := by
  cases text with
  | nil => rfl
  | cons c rest =>
      by_cases point : c = '.'
      · subst point
        have noDigit : isDigit '.' = false := by decide
        cases rest with
        | nil => rfl
        | cons first rest =>
            cases digit : isDigit first with
            | false =>
                simp [decimal?, isDecimal, splitDigits_eq, splitFraction, noDigit, digit]
            | true =>
                simp [decimal?, isDecimal, splitDigits_eq, splitFraction, noDigit, digit,
                  isSome_exponent?]
      · cases digit : isDigit c with
        | false =>
            simp [decimal?, isDecimal, splitDigits_eq, splitFraction, point, digit]
        | true =>
            simp only [decimal?, isDecimal, splitDigits_eq, List.takeWhile_cons, digit, if_true,
              List.map_cons, List.dropWhile_cons, reduceCtorEq, false_and, if_false,
              Option.isSome_map, point, Bool.true_and]
            cases rest.dropWhile isDigit with
            | nil => rfl
            | cons next more =>
                by_cases pointed : next = '.' <;>
                  simp [isTail, splitFraction, splitDigits_eq, pointed, isSome_exponent?]

end Numeral

namespace NumberWord

/-- The characters of decimals that are no digits. -/
def decimalMarks : List Char := ['.', 'e', 'E', '+', '-']

/-- The small letters of the names `inf`, `infinity` and `nan`. -/
def nameLetters : List Char := ['i', 'n', 'f', 't', 'y', 'a']

/-- The letters that pass for an `i` where capitals are ignored, beside the `I`. -/
def turkishLetters : List Char := ['\u0130', '\u0131']

/-- The characters of number words that are no digits. -/
def marks : List Char :=
  decimalMarks ++ nameLetters ++ ['I', 'N', 'F', 'T', 'Y', 'A'] ++ turkishLetters

/-- A character that may stand in a number word. -/
def IsNumberChar (c : Char) : Prop := isDigit c = true ∨ c ∈ marks

/-- A character that may stand in a decimal. -/
def IsDecimalChar (c : Char) : Prop := isDigit c = true ∨ c ∈ decimalMarks

section Characters

variable {c : Char} {text : Text}

theorem mem_unsigned (member : c ∈ text) : c = '+' ∨ c = '-' ∨ c ∈ unsigned text := by
  cases text with
  | nil => cases member
  | cons first rest =>
      by_cases sign : first = '+' ∨ first = '-'
      · rcases List.mem_cons.mp member with rfl | later
        · exact sign.imp_right .inl
        · exact .inr (.inr (by simpa [unsigned, sign] using later))
      · exact .inr (.inr (by simpa [unsigned, sign] using member))

theorem mem_of_mem_unsigned (member : c ∈ unsigned text) : c ∈ text := by
  cases text with
  | nil => cases member
  | cons first rest =>
      by_cases sign : first = '+' ∨ first = '-'
      · exact List.mem_cons_of_mem _ (by simpa [unsigned, sign] using member)
      · simpa [unsigned, sign] using member

theorem mem_dropWhile_isDigit (member : c ∈ text) :
    isDigit c = true ∨ c ∈ text.dropWhile isDigit := by
  rw [← List.takeWhile_append_dropWhile (p := isDigit) (l := text), List.mem_append] at member
  exact member.imp_left List.mem_takeWhile_imp

theorem isDecimalChar_of_isExponent (exponent : isExponent text = true) (member : c ∈ text) :
    IsDecimalChar c := by
  cases text with
  | nil => cases member
  | cons mark rest =>
      simp only [isExponent, isDigits, Bool.and_eq_true, Bool.or_eq_true, decide_eq_true_eq,
        List.all_eq_true] at exponent
      obtain ⟨marked, -, digits⟩ := exponent
      rcases List.mem_cons.mp member with rfl | later
      · rcases marked with rfl | rfl <;> simp [IsDecimalChar, decimalMarks]
      · rcases mem_unsigned later with rfl | rfl | digit
        · simp [IsDecimalChar, decimalMarks]
        · simp [IsDecimalChar, decimalMarks]
        · exact .inl (digits c digit)

theorem isDecimalChar_of_isTail (tail : isTail text = true) (member : c ∈ text) :
    IsDecimalChar c := by
  cases text with
  | nil => cases member
  | cons first rest =>
      by_cases point : first = '.'
      · rcases List.mem_cons.mp member with rfl | later
        · simp [IsDecimalChar, decimalMarks, point]
        · rcases mem_dropWhile_isDigit later with digit | behind
          · exact .inl digit
          · exact isDecimalChar_of_isExponent (by simpa [isTail, point] using tail) behind
      · exact isDecimalChar_of_isExponent (by simpa [isTail, point] using tail) member

theorem isDecimalChar_of_isDecimal (decimal : isDecimal text = true) (member : c ∈ text) :
    IsDecimalChar c := by
  cases text with
  | nil => cases member
  | cons first rest =>
      by_cases point : first = '.'
      · simp only [isDecimal, point, if_true, Bool.and_eq_true] at decimal
        rcases List.mem_cons.mp member with rfl | later
        · simp [IsDecimalChar, decimalMarks, point]
        · rcases mem_dropWhile_isDigit later with digit | behind
          · exact .inl digit
          · exact isDecimalChar_of_isExponent decimal.2 behind
      · simp only [isDecimal, point, if_false, Bool.and_eq_true] at decimal
        rcases List.mem_cons.mp member with rfl | later
        · exact .inl decimal.1
        · rcases mem_dropWhile_isDigit later with digit | behind
          · exact .inl digit
          · exact isDecimalChar_of_isTail decimal.2 behind

theorem head_of_isDecimal {rest : Text} (decimal : isDecimal (c :: rest) = true) :
    c = '.' ∨ isDigit c = true := by
  by_cases point : c = '.'
  · exact .inl point
  · simp only [isDecimal, point, if_false, Bool.and_eq_true] at decimal
    exact .inr decimal.1

/-- Only an ASCII capital has another small letter than itself. -/
theorem toLower_eq_self (small : 91 ≤ c.toNat) : c.toLower = c := by
  refine dif_neg fun inside => ?_
  have bounded : c.toNat ≤ 90 := inside.2
  omega

theorem mem_marks_of_toLower (small : c.toLower ∈ nameLetters) : c ∈ marks := by
  by_cases capital : c.toNat < 91
  · have all : ∀ code < 91, (Char.ofNat code).toLower ∈ nameLetters → Char.ofNat code ∈ marks := by
      decide
    simpa using all c.toNat capital (by simpa using small)
  · rw [toLower_eq_self (Nat.not_lt.mp capital)] at small
    simp [marks, small]

theorem mem_marks_of_spells {name : Text} (letters : ∀ letter ∈ name, letter ∈ nameLetters)
    (spelled : spells name text = true) (member : c ∈ text) : c ∈ marks := by
  induction text generalizing name with
  | nil => cases member
  | cons first text ih =>
      cases name with
      | nil => simp [spells] at spelled
      | cons letter name =>
          simp only [spells, Bool.and_eq_true] at spelled
          rcases List.mem_cons.mp member with rfl | later
          · simp only [passesFor, Bool.or_eq_true, Bool.and_eq_true, decide_eq_true_eq]
              at spelled
            rcases spelled.1 with small | ⟨-, turkish⟩
            · exact mem_marks_of_toLower (small ▸ letters letter (by simp))
            · rcases turkish with rfl | rfl <;> decide
          · exact ih (fun letter member => letters letter (by simp [member])) spelled.2 later

/-- A number word is made of digits and the marks. -/
theorem isNumberChar_of_isNumber (number : isNumber text = true) (member : c ∈ text) :
    IsNumberChar c := by
  rcases mem_unsigned member with rfl | rfl | inBody
  · exact .inr (by decide)
  · exact .inr (by decide)
  · rcases (Bool.or_eq_true _ _).mp number with decimal | named
    · refine (isDecimalChar_of_isDecimal decimal inBody).imp_right fun mark => ?_
      simp [marks, mark]
    · simp only [isNamed, Bool.or_eq_true] at named
      rcases named with (named | named) | named
      · exact .inr (mem_marks_of_spells (by decide) named inBody)
      · exact .inr (mem_marks_of_spells (by decide) named inBody)
      · exact .inr (mem_marks_of_spells (by decide) named inBody)

theorem IsNumberChar.not_isBlank (mark : IsNumberChar c) : isBlank c = false := by
  have none : ∀ mark ∈ marks, isBlank mark = false := by decide
  exact mark.elim not_isBlank_of_isDigit (none c)

theorem IsNumberChar.ne_underscore (mark : IsNumberChar c) : c ≠ '_' := by
  rintro rfl
  revert mark
  unfold IsNumberChar
  decide

end Characters

/-- Without the Turkish letters, ignoring capitals is looking at the small letters. -/
theorem spells_iff_toLower {name text : Text} (plain : ∀ c ∈ turkishLetters, c ∉ text) :
    spells name text = true ↔ text.map Char.toLower = name := by
  induction text generalizing name with
  | nil => cases name <;> simp [spells]
  | cons c text ih =>
      have later : ∀ name, spells name text = true ↔ text.map Char.toLower = name := fun name =>
        ih fun c turkish member => plain c turkish (List.mem_cons_of_mem _ member)
      have dotted : c ≠ '\u0130' := fun same => plain '\u0130' (by decide) (by simp [same])
      have dotless : c ≠ '\u0131' := fun same => plain '\u0131' (by decide) (by simp [same])
      cases name with
      | nil => simp [spells]
      | cons letter name => simp [spells, passesFor, dotted, dotless, later]

/-- A Turkish letter stands in no decimal. -/
theorem isDecimal_eq_false_of_turkish {text : Text} {c : Char} (turkish : c ∈ turkishLetters)
    (member : c ∈ text) : isDecimal text = false := by
  have foreign : ∀ c ∈ turkishLetters, ¬ (isDigit c = true ∨ c ∈ decimalMarks) := by decide
  refine Bool.eq_false_iff.mpr fun decimal => foreign c turkish ?_
  exact isDecimalChar_of_isDecimal decimal member

/-- A Turkish letter has no capital or small letter that stands in a name. -/
theorem toLower_ne_name_of_turkish {name text : Text} {c : Char}
    (letters : ∀ letter ∈ name, letter ∈ nameLetters) (turkish : c ∈ turkishLetters)
    (member : c ∈ text) : text.map Char.toLower ≠ name := by
  have foreign : ∀ c ∈ turkishLetters, c.toLower ∉ nameLetters := by decide
  rintro rfl
  exact foreign c turkish (letters _ (List.mem_map_of_mem member))

end NumberWord

namespace Numeral

theorem plain?_eq (text : Text) :
    plain? text =
      if (unsigned text).map Char.toLower = "inf".toList ∨
          (unsigned text).map Char.toLower = "infinity".toList then
        some (.inf (splitSign text).1)
      else if (unsigned text).map Char.toLower = "nan".toList then some .nan
      else (decimal? (unsigned text)).map (Decimal.toDouble (splitSign text).1) := by
  rw [← splitSign_snd]
  rfl

/-- A number word denotes a double unless one of its letters only passes for an `i`. -/
theorem plain?_eq_none_iff {text : Text} (number : isNumber text = true) :
    plain? text = none ↔ ∃ c ∈ turkishLetters, c ∈ text := by
  rw [plain?_eq]
  constructor
  · -- Without the two letters the word is a decimal or spells a name as it is read.
    intro unread
    by_contra plain
    have noTurkish : ∀ c ∈ turkishLetters, c ∉ unsigned text := fun c turkish member =>
      plain ⟨c, turkish, mem_of_mem_unsigned member⟩
    rcases (Bool.or_eq_true _ _).mp number with decimal | named
    · rw [← isSome_decimal?] at decimal
      split at unread
      · cases unread
      · split at unread
        · cases unread
        · rw [Option.map_eq_none_iff] at unread
          simp [unread] at decimal
    · simp only [isNamed, Bool.or_eq_true, spells_iff_toLower noTurkish] at named
      split at unread
      · cases unread
      · rename_i noInfinity
        rw [if_pos (named.resolve_left noInfinity)] at unread
        cases unread
  · -- With one of them it is neither, since their small letters stand in no name.
    rintro ⟨c, turkish, member⟩
    have inBody : c ∈ unsigned text := by
      rcases mem_unsigned member with rfl | rfl | inBody
      · simp [turkishLetters] at turkish
      · simp [turkishLetters] at turkish
      · exact inBody
    have undecimal : decimal? (unsigned text) = none := by
      rw [← Option.isNone_iff_eq_none, ← Option.not_isSome, isSome_decimal?,
        isDecimal_eq_false_of_turkish turkish inBody]
      rfl
    have unnamed : ∀ name : Text, (∀ letter ∈ name, letter ∈ nameLetters) →
        (unsigned text).map Char.toLower ≠ name :=
      fun name letters => toLower_ne_name_of_turkish letters turkish inBody
    rw [if_neg (not_or.mpr ⟨unnamed _ (by decide), unnamed _ (by decide)⟩),
      if_neg (unnamed _ (by decide)), undecimal, Option.map_none]

end Numeral

theorem Numeral.joinGroups_eq_self {text : Text} (ungrouped : '_' ∉ text) (afterDigit : Bool) :
    joinGroups afterDigit text = some text := by
  induction text generalizing afterDigit with
  | nil => rfl
  | cons c rest ih =>
      have first : c ≠ '_' := fun same => ungrouped (by simp [same])
      simp [joinGroups, first, ih fun member => ungrouped (List.mem_cons_of_mem _ member)]

namespace Double

/-- Nothing stands around or between the digits of a number word. -/
theorem ofText?_of_isNumber {text : Text} (number : isNumber text = true) :
    ofText? text = Numeral.plain? text := by
  have marks := fun c => isNumberChar_of_isNumber (c := c) number
  have trimmed : Text.trim isWhiteSpace text = text :=
    Text.trim_eq_self fun c member =>
      not_isWhiteSpace_of_not_isBlank (marks c member).not_isBlank
  have ungrouped : '_' ∉ text := fun member => (marks _ member).ne_underscore rfl
  rw [ofText?, trimmed, Numeral.joinGroups_eq_self ungrouped, Option.bind_some]

/-- The number words that cannot be read are those with a Turkish letter. -/
theorem ofText?_eq_none_iff {word : Text} (number : isNumber word = true) :
    ofText? word = none ↔ ∃ c ∈ turkishLetters, c ∈ word := by
  rw [ofText?_of_isNumber number, Numeral.plain?_eq_none_iff number]

end Double

end ReversePolish
