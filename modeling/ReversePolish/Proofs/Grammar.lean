import Mathlib.Data.List.Forall2
import ReversePolish.Proofs.Classification
import ReversePolish.Proofs.Double.Digits

/-! # The grammar of number words

A number word is written out from a tree: a sign, and behind it either a mantissa with an exponent
or the spelling of a name.  The trees say which words these are and know nothing of reading from
left to right.  A word has the form of a number just if it is written out from a tree
(`NumberWord.isNumber_iff_isWritten`), and this settles the kinds of all words that are not
reserved (`classify_grammar`).

A tree of digits also says which decimal it spells, and this decimal is the one that is read
(`NumberWord.DecimalForm.decimal?_text`).
-/

namespace ReversePolish

open Unicode NumberWord

namespace NumberWord

/-- A decimal digit of any script. -/
abbrev Digit := { c : Char // isDigit c = true }

/-- Digits, written one behind the other. -/
def textOf (digits : List Digit) : Text := digits.map Subtype.val

/-- One digit or more. -/
structure Digits where
  list : List Digit
  nonempty : list ≠ []

inductive Sign where
  | absent
  | plus
  | minus
  deriving DecidableEq

inductive Mantissa where
  /-- Digits, and perhaps a point behind them with any number of digits. -/
  | whole (digits : Digits) (fraction : Option (List Digit))
  /-- A point with digits only behind it. -/
  | fractional (digits : Digits)

structure Exponent where
  mark : Char
  marked : mark = 'e' ∨ mark = 'E'
  sign : Sign
  digits : Digits

/-- Digits with an optional point and an optional exponent. -/
structure DecimalForm where
  mantissa : Mantissa
  exponent : Option Exponent

inductive Name where
  | inf
  | infinity
  | nan

def Name.letters : Name → Text
  | .inf => "inf".toList
  | .infinity => "infinity".toList
  | .nan => "nan".toList

/-- A character stands for a small letter if it is the letter or its capital.  Two Turkish letters
    stand for an `i`, too. -/
def StandsFor (c letter : Char) : Prop :=
  c = letter ∨ c = letter.toUpper ∨ letter = 'i' ∧ (c = '\u0130' ∨ c = '\u0131')

/-- A name in capitals or not. -/
structure Spelling where
  name : Name
  text : Text
  spelled : List.Forall₂ StandsFor text name.letters

inductive Body where
  | decimal (form : DecimalForm)
  | named (spelling : Spelling)

structure Form where
  sign : Sign
  body : Body

def Sign.text : Sign → Text
  | .absent => []
  | .plus => ['+']
  | .minus => ['-']

/-- A point with digits behind it, or nothing. -/
def fractionText : Option (List Digit) → Text
  | none => []
  | some digits => '.' :: textOf digits

def Mantissa.text : Mantissa → Text
  | .whole digits fraction => textOf digits.list ++ fractionText fraction
  | .fractional digits => '.' :: textOf digits.list

def Exponent.text (exponent : Exponent) : Text :=
  exponent.mark :: (exponent.sign.text ++ textOf exponent.digits.list)

def DecimalForm.text (form : DecimalForm) : Text :=
  form.mantissa.text ++ (form.exponent.map Exponent.text).getD []

def Body.text : Body → Text
  | .decimal form => form.text
  | .named spelling => spelling.text

def Form.text (form : Form) : Text := form.sign.text ++ form.body.text

def Sign.negative (sign : Sign) : Bool := sign = .minus

/-- The digits in front of the point. -/
def Mantissa.front : Mantissa → List Digit
  | .whole digits _ => digits.list
  | .fractional _ => []

/-- The digits behind the point. -/
def Mantissa.behind : Mantissa → List Digit
  | .whole _ fraction => fraction.getD []
  | .fractional digits => digits.list

def Digit.value (digit : Digit) : Nat := (digitValue? digit.val).get digit.property

/-- The number that digits spell: each counts ten times as much as the one behind it. -/
def numberOf : List Digit → Nat
  | [] => 0
  | digit :: more => digit.value * 10 ^ more.length + numberOf more

def Exponent.value (exponent : Exponent) : Int :=
  if exponent.sign.negative then -(numberOf exponent.digits.list : Int)
  else numberOf exponent.digits.list

/-- The decimal that digits with a point and an exponent spell. -/
def DecimalForm.decimal (form : DecimalForm) : Decimal :=
  ⟨numberOf (form.mantissa.front ++ form.mantissa.behind),
    (form.exponent.map Exponent.value).getD 0 - form.mantissa.behind.length⟩

theorem isDigit_of_mem_textOf {digits : List Digit} {c : Char} (member : c ∈ textOf digits) :
    isDigit c = true := by
  obtain ⟨digit, -, rfl⟩ := List.mem_map.mp member
  exact digit.property

theorem textOf_append (left right : List Digit) :
    textOf (left ++ right) = textOf left ++ textOf right :=
  List.map_append

theorem textOf_ne_nil {digits : List Digit} (nonempty : digits ≠ []) : textOf digits ≠ [] :=
  fun none => nonempty (List.map_eq_nil_iff.mp none)

theorem number_textOf (digits : List Digit) : Numeral.number (textOf digits) = numberOf digits := by
  induction digits with
  | nil => rfl
  | cons digit more ih =>
      have single : Numeral.number [digit.val] = digit.value := by
        simp only [Numeral.number, Numeral.spelled, List.map_cons, List.map_nil, List.foldl_cons,
          List.foldl_nil, Numeral.digitOf, Nat.mul_zero, Nat.zero_add]
        exact (Option.get_eq_getD _).symm
      have split : textOf (digit :: more) = [digit.val] ++ textOf more := rfl
      rw [split, Numeral.number_append, single, ih, textOf, List.length_map, numberOf]

/-- A sign is split off in front of anything that does not begin with one. -/
theorem splitSign_text (sign : Sign) {text : Text}
    (bare : ∀ c ∈ text.head?, c ≠ '-' ∧ c ≠ '+') :
    Numeral.splitSign (sign.text ++ text) = (sign.negative, text) := by
  cases sign with
  | absent =>
      cases text with
      | nil => rfl
      | cons c rest =>
          obtain ⟨minus, plus⟩ := bare c rfl
          simp [Sign.text, Sign.negative, Numeral.splitSign, minus, plus]
  | plus => rfl
  | minus => rfl

theorem not_sign_of_isDigit {c : Char} (digit : isDigit c = true) : c ≠ '-' ∧ c ≠ '+' := by
  constructor
  · rintro rfl
    exact absurd digit (by decide)
  · rintro rfl
    exact absurd digit (by decide)

theorem Exponent.exponent?_text (exponent : Exponent) :
    Numeral.exponent? exponent.text = some exponent.value := by
  have bare : ∀ c ∈ (textOf exponent.digits.list).head?, c ≠ '-' ∧ c ≠ '+' :=
    fun c first => not_sign_of_isDigit (isDigit_of_mem_textOf (List.mem_of_mem_head? first))
  rw [Exponent.text, Numeral.exponent?_digits exponent.marked (splitSign_text _ bare)
    (textOf_ne_nil exponent.digits.nonempty) fun c => isDigit_of_mem_textOf, number_textOf,
    Exponent.value]

theorem exponent?_optional (exponent : Option Exponent) :
    Numeral.exponent? ((exponent.map Exponent.text).getD []) =
      some ((exponent.map Exponent.value).getD 0) := by
  cases exponent with
  | none => rfl
  | some exponent => exact exponent.exponent?_text

/-- An exponent begins with a letter. -/
theorem head_optional (exponent : Option Exponent) :
    ∀ c ∈ ((exponent.map Exponent.text).getD []).head?, isDigit c = false ∧ c ≠ '.' := by
  intro c first
  cases exponent with
  | none => cases first
  | some exponent =>
      cases first
      rcases exponent.marked with small | capital
      · rw [small]
        decide
      · rw [capital]
        decide

/-- What was written out from digits is read as the decimal that they spell. -/
theorem DecimalForm.decimal?_text (form : DecimalForm) :
    Numeral.decimal? form.text = some form.decimal := by
  obtain ⟨mantissa, exponent⟩ := form
  have ends := head_optional exponent
  have noPoint := fun c first => (ends c first).1
  have read := exponent?_optional exponent
  have digits : ∀ (list : List Digit), ∀ c ∈ textOf list, isDigit c = true :=
    fun _ _ => isDigit_of_mem_textOf
  simp only [DecimalForm.text, DecimalForm.decimal, ← number_textOf, textOf_append]
  generalize (exponent.map Exponent.text).getD [] = suffix at *
  cases mantissa with
  | whole whole fraction =>
      have nonempty := textOf_ne_nil whole.nonempty
      cases fraction with
      | none =>
          rw [Mantissa.text, fractionText, List.append_nil,
            Numeral.decimal?_unpointed (digits _) nonempty ends, read]
          simp [Mantissa.front, Mantissa.behind, textOf]
      | some fraction =>
          rw [Mantissa.text, fractionText, List.append_assoc, List.cons_append,
            Numeral.decimal?_pointed (digits _) (digits _) (.inl nonempty) noPoint, read]
          simp [Mantissa.front, Mantissa.behind, textOf]
  | fractional fraction =>
      have nonempty := textOf_ne_nil fraction.nonempty
      have split : (Mantissa.fractional fraction).text ++ suffix =
          [] ++ '.' :: (textOf fraction.list ++ suffix) := rfl
      rw [split, Numeral.decimal?_pointed (by simp) (digits _) (.inr nonempty) noPoint, read]
      simp [Mantissa.front, Mantissa.behind, textOf]

theorem DecimalForm.isDecimal_text (form : DecimalForm) : isDecimal form.text = true := by
  rw [← Numeral.isSome_decimal?, form.decimal?_text, Option.isSome_some]

/-- The characters that stand for a letter of a name are those that pass for it. -/
theorem passesFor_iff {c letter : Char} (inName : letter ∈ nameLetters) :
    passesFor c letter = true ↔ StandsFor c letter := by
  have small : c.toLower = letter ↔ c = letter ∨ c = letter.toUpper := by
    by_cases capital : c.toNat < 91
    · have all : ∀ code < 91, ∀ letter ∈ nameLetters, (Char.ofNat code).toLower = letter ↔
          Char.ofNat code = letter ∨ Char.ofNat code = letter.toUpper := by
        decide
      simpa using all c.toNat capital letter inName
    · have capitals : ∀ letter ∈ nameLetters, letter.toUpper.toNat < 91 := by decide
      have noCapital : c ≠ letter.toUpper := by
        rintro rfl
        exact capital (capitals letter inName)
      rw [toLower_eq_self (Nat.not_lt.mp capital), or_iff_left noCapital]
  simp [passesFor, StandsFor, small, or_assoc]

/-- A name is spelled with one character for each of its letters. -/
theorem spells_iff_forall₂ {name text : Text} (letters : ∀ letter ∈ name, letter ∈ nameLetters) :
    spells name text = true ↔ List.Forall₂ StandsFor text name := by
  induction text generalizing name with
  | nil => cases name <;> simp [spells]
  | cons c text ih =>
      cases name with
      | nil => simp [spells]
      | cons letter name =>
          have later := ih fun c member => letters c (List.mem_cons_of_mem _ member)
          simp [spells, passesFor_iff (letters letter (List.mem_cons_self ..)), later]

theorem Name.letters_known (name : Name) : ∀ letter ∈ name.letters, letter ∈ nameLetters := by
  cases name <;> decide

theorem isNamed_iff_exists_spelling {text : Text} :
    isNamed text = true ↔ ∃ spelling : Spelling, spelling.text = text := by
  constructor
  · intro named
    obtain ⟨name, spelled⟩ : ∃ name : Name, spells name.letters text = true := by
      simp only [isNamed, Bool.or_eq_true] at named
      rcases named with (inf | infinity) | nan
      · exact ⟨.inf, inf⟩
      · exact ⟨.infinity, infinity⟩
      · exact ⟨.nan, nan⟩
    exact ⟨⟨name, text, (spells_iff_forall₂ name.letters_known).mp spelled⟩, rfl⟩
  · rintro ⟨⟨name, text, spelled⟩, rfl⟩
    have recognised := (spells_iff_forall₂ name.letters_known).mpr spelled
    simp only [isNamed, Bool.or_eq_true]
    cases name with
    | inf => exact .inl (.inl recognised)
    | infinity => exact .inl (.inr recognised)
    | nan => exact .inr recognised

theorem exists_textOf {text : Text} (digits : ∀ c ∈ text, isDigit c = true) :
    ∃ list : List Digit, textOf list = text := by
  refine ⟨text.pmap Subtype.mk digits, ?_⟩
  rw [textOf, List.map_pmap]
  simp

theorem exists_digits {text : Text} (digits : isDigits text = true) :
    ∃ list : Digits, textOf list.list = text := by
  simp only [isDigits, Bool.and_eq_true, List.all_eq_true] at digits
  obtain ⟨list, rfl⟩ := exists_textOf digits.2
  refine ⟨⟨list, ?_⟩, rfl⟩
  rintro rfl
  exact absurd digits.1 (by decide)

theorem exists_sign (text : Text) : ∃ sign : Sign, text = sign.text ++ unsigned text := by
  cases text with
  | nil => exact ⟨.absent, rfl⟩
  | cons c rest =>
      by_cases plus : c = '+'
      · exact ⟨.plus, by simp [plus, unsigned, Sign.text]⟩
      · by_cases minus : c = '-'
        · exact ⟨.minus, by simp [minus, unsigned, Sign.text]⟩
        · exact ⟨.absent, by simp [plus, minus, unsigned, Sign.text]⟩

theorem exists_exponent {text : Text} (recognised : isExponent text = true) :
    ∃ exponent : Option Exponent, text = (exponent.map Exponent.text).getD [] := by
  cases text with
  | nil => exact ⟨none, rfl⟩
  | cons mark rest =>
      simp only [isExponent, Bool.and_eq_true, Bool.or_eq_true, decide_eq_true_eq] at recognised
      obtain ⟨sign, split⟩ := exists_sign rest
      obtain ⟨digits, written⟩ := exists_digits recognised.2
      refine ⟨some ⟨mark, recognised.1, sign, digits⟩, ?_⟩
      simp only [Option.map_some, Option.getD_some, Exponent.text]
      rw [written, ← split]

/-- The digits at the front of a text, of which there is one if the text begins with a digit. -/
theorem exists_leading_digits (text : Text) :
    ∃ list : List Digit, text = textOf list ++ text.dropWhile isDigit ∧
      (text.head?.any isDigit = true → list ≠ []) := by
  have digits : ∀ c ∈ text.takeWhile isDigit, isDigit c = true := fun _ => List.mem_takeWhile_imp
  obtain ⟨list, written⟩ := exists_textOf digits
  refine ⟨list, by rw [written, List.takeWhile_append_dropWhile], ?_⟩
  rintro digit rfl
  cases text with
  | nil => cases digit
  | cons c rest =>
      have first : isDigit c = true := by simpa using digit
      rw [List.takeWhile_cons_of_pos first] at written
      cases written

theorem exists_tail {text : Text} (recognised : isTail text = true) :
    ∃ (fraction : Option (List Digit)) (exponent : Option Exponent),
      text = fractionText fraction ++ (exponent.map Exponent.text).getD [] := by
  cases text with
  | nil => exact ⟨none, none, rfl⟩
  | cons c rest =>
      by_cases point : c = '.'
      · simp only [isTail, point, if_true] at recognised
        obtain ⟨fraction, split, -⟩ := exists_leading_digits rest
        obtain ⟨exponent, written⟩ := exists_exponent recognised
        refine ⟨some fraction, exponent, ?_⟩
        rw [fractionText, List.cons_append, ← written, ← split, point]
      · simp only [isTail, point, if_false] at recognised
        obtain ⟨exponent, written⟩ := exists_exponent recognised
        exact ⟨none, exponent, written⟩

theorem exists_decimalForm {text : Text} (recognised : isDecimal text = true) :
    ∃ form : DecimalForm, form.text = text := by
  cases text with
  | nil => cases recognised
  | cons c rest =>
      by_cases point : c = '.'
      · simp only [isDecimal, point, if_true, Bool.and_eq_true] at recognised
        obtain ⟨fraction, split, nonempty⟩ := exists_leading_digits rest
        obtain ⟨exponent, written⟩ := exists_exponent recognised.2
        refine ⟨⟨.fractional ⟨fraction, nonempty recognised.1⟩, exponent⟩, ?_⟩
        rw [DecimalForm.text, Mantissa.text, ← written, List.cons_append, ← split, point]
      · simp only [isDecimal, point, if_false, Bool.and_eq_true] at recognised
        obtain ⟨whole, split, nonempty⟩ := exists_leading_digits (c :: rest)
        obtain ⟨fraction, exponent, written⟩ := exists_tail recognised.2
        rw [List.dropWhile_cons_of_pos recognised.1] at split
        refine ⟨⟨.whole ⟨whole, nonempty (by simpa using recognised.1)⟩ fraction, exponent⟩, ?_⟩
        rw [DecimalForm.text, Mantissa.text, List.append_assoc, ← written, ← split]

theorem exists_form_of_isDecimal {word : Text} (decimal : isDecimal (unsigned word) = true) :
    ∃ (sign : Sign) (form : DecimalForm), word = sign.text ++ form.text := by
  obtain ⟨sign, split⟩ := exists_sign word
  obtain ⟨form, written⟩ := exists_decimalForm decimal
  exact ⟨sign, form, by rw [written, ← split]⟩

theorem not_sign_of_spelled {name text : Text} (letters : ∀ letter ∈ name, letter ∈ nameLetters)
    (spelled : List.Forall₂ StandsFor text name) : ∀ c ∈ text.head?, c ≠ '-' ∧ c ≠ '+' := by
  have none : ∀ letter ∈ nameLetters, ¬ StandsFor '-' letter ∧ ¬ StandsFor '+' letter := by
    unfold StandsFor
    decide
  intro c first
  cases spelled with
  | nil => cases first
  | @cons _ letter _ _ stands =>
      cases first
      obtain ⟨noMinus, noPlus⟩ := none letter (letters letter (List.mem_cons_self ..))
      constructor
      · rintro rfl
        exact noMinus stands
      · rintro rfl
        exact noPlus stands

/-- A body does not begin with a sign. -/
theorem Body.bare (body : Body) : ∀ c ∈ body.text.head?, c ≠ '-' ∧ c ≠ '+' := by
  intro c first
  cases body with
  | decimal form =>
      obtain ⟨rest, split⟩ := List.head?_eq_some_iff.mp first
      have decimal := form.isDecimal_text
      rw [show form.text = c :: rest from split] at decimal
      rcases head_of_isDecimal decimal with rfl | digit
      · decide
      · exact not_sign_of_isDigit digit
  | named spelling => exact not_sign_of_spelled spelling.name.letters_known spelling.spelled c first

/-- A word is a number by the grammar if it is written out from a tree. -/
def IsWritten (word : Text) : Prop := ∃ form : Form, form.text = word

/-- The form of a number word is that of the grammar. -/
theorem isNumber_iff_isWritten {word : Text} : isNumber word = true ↔ IsWritten word := by
  constructor
  · intro number
    rcases (Bool.or_eq_true _ _).mp number with decimal | named
    · obtain ⟨sign, form, rfl⟩ := exists_form_of_isDecimal decimal
      exact ⟨⟨sign, .decimal form⟩, rfl⟩
    · obtain ⟨sign, split⟩ := exists_sign word
      obtain ⟨spelling, written⟩ := isNamed_iff_exists_spelling.mp named
      exact ⟨⟨sign, .named spelling⟩, by rw [Form.text, Body.text, written, ← split]⟩
  · rintro ⟨⟨sign, body⟩, rfl⟩
    rw [isNumber, Form.text, ← Numeral.splitSign_snd, splitSign_text sign body.bare,
      Bool.or_eq_true]
    cases body with
    | decimal form => exact .inl form.isDecimal_text
    | named spelling => exact .inr (isNamed_iff_exists_spelling.mpr ⟨spelling, rfl⟩)

end NumberWord

variable {word : Text}

/-- A word is a name if it is made of letters and numbers. -/
def IsName (word : Text) : Prop := word ≠ [] ∧ ∀ c ∈ word, isAlphanumeric c = true

theorem lookup_eq_none_of_unlisted (unlisted : ∀ kind, (word, kind) ∉ reservedWords) :
    reservedWords.lookup word = none := by
  rw [Option.eq_none_iff_forall_ne_some]
  exact fun kind found => unlisted kind (mem_reservedWords_of_lookup found)

/-- The kind of a word that is not listed is settled by its characters. -/
theorem classify_of_unlisted (unlisted : ∀ kind, (word, kind) ∉ reservedWords) :
    classify word =
      if isNumber word = true then .number
      else if word ≠ [] ∧ ∀ c ∈ word, isAlphanumeric c = true then .identifier
      else .invalid := by
  simp [classify, lookup_eq_none_of_unlisted unlisted]

/-- A reserved word has the kind it is listed with, which is none of those that other words have,
    and it is no number.  Any other word is a number if the grammar of number words has it; else it
    is an identifier if it is a name, and invalid if it is neither. -/
theorem classify_grammar (word : Text) :
    (∀ kind, (word, kind) ∈ reservedWords →
      classify word = kind ∧ kind ∉ [Kind.number, .identifier, .invalid] ∧ ¬ IsWritten word) ∧
    ((∀ kind, (word, kind) ∉ reservedWords) →
      (classify word = .number ↔ IsWritten word) ∧
      (classify word = .identifier ↔ ¬ IsWritten word ∧ IsName word) ∧
      (classify word = .invalid ↔ ¬ IsWritten word ∧ ¬ IsName word)) := by
  constructor
  · intro kind listed
    have listedKind : kind ∈ reservedWords.map Prod.snd := List.mem_map.mpr ⟨_, listed, rfl⟩
    have apart : ∀ kind ∈ reservedWords.map Prod.snd,
        kind ∉ [Kind.number, .identifier, .invalid] := by
      decide
    refine ⟨(classify_eq_iff_of_reserved listedKind).mpr listed, apart kind listedKind, ?_⟩
    rw [← isNumber_iff_isWritten, isNumber_eq_false_of_reserved listed]
    exact Bool.false_ne_true
  · intro unlisted
    rw [classify_of_unlisted unlisted, ← isNumber_iff_isWritten]
    by_cases number : isNumber word = true
    · simp [number]
    · rw [if_neg number]
      by_cases name : IsName word
      · simp [number, name, if_pos (show word ≠ [] ∧ _ from name)]
      · simp [number, name, if_neg (show ¬ (word ≠ [] ∧ _) from name)]

/-- The fold `sum` has a name's form, and `1e` lacks the digits of its exponent. -/
theorem classify_grammar_unfinished :
    (("sum".toList, Kind.fold) ∈ reservedWords ∧ classify "sum".toList = .fold ∧
      ¬ IsWritten "sum".toList) ∧
    (∀ kind, ("1e".toList, kind) ∉ reservedWords) ∧
      ¬ IsWritten "1e".toList ∧ IsName "1e".toList := by
  have sum := (classify_grammar "sum".toList).1 .fold (by decide)
  have unlisted : ∀ kind, ("1e".toList, kind) ∉ reservedWords := by
    intro kind
    cases kind <;> decide
  have unfinished := ((classify_grammar "1e".toList).2 unlisted).2.1
  exact ⟨⟨by decide, sum.1, sum.2.2⟩, unlisted, unfinished.mp (by decide +kernel)⟩

end ReversePolish
