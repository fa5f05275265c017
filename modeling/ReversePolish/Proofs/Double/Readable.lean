import ReversePolish.Proofs.NumberWords

/-! # What is read as a double

The texts that are read as doubles are the number words without Turkish letters, but for white
space around them and single underscores between their digits (`Numeral.Grouped`).  A text that has
neither blanks nor underscores is therefore read just if it is such a word, and so the form of
a number word and the reading of a numeral agree on it (`Double.isNumber_iff_readable`).
-/

namespace ReversePolish

open Unicode NumberWord

namespace Numeral

theorem spells_of_toLower {name text : Text} (small : text.map Char.toLower = name) :
    spells name text = true := by
  subst small
  induction text with
  | nil => rfl
  | cons c rest ih => simp [spells, passesFor, ih]

/-- What is read without white space and underscores is a number word. -/
theorem isNumber_of_plain? {text : Text} {value : Double} (reads : plain? text = some value) :
    isNumber text = true := by
  rw [plain?_eq] at reads
  rw [isNumber, Bool.or_eq_true]
  split at reads
  · rename_i infinity
    right
    rcases infinity with short | long
    · simp only [isNamed, spells_of_toLower short, Bool.true_or]
    · simp only [isNamed, spells_of_toLower long, Bool.or_true, Bool.true_or]
  · split at reads
    · rename_i nan
      right
      simp only [isNamed, spells_of_toLower nan, Bool.or_true]
    · left
      obtain ⟨d, decimal, -⟩ := Option.map_eq_some_iff.mp reads
      rw [← isSome_decimal?, decimal, Option.isSome_some]

/-- A word is a number word without Turkish letters. -/
def Readable (word : Text) : Prop := isNumber word = true ∧ ∀ c ∈ turkishLetters, c ∉ word

theorem exists_plain?_iff {text : Text} : (∃ value, plain? text = some value) ↔ Readable text := by
  constructor
  · rintro ⟨value, reads⟩
    have number := isNumber_of_plain? reads
    refine ⟨number, fun c turkish member => ?_⟩
    have unread : plain? text = none := (plain?_eq_none_iff number).mpr ⟨c, turkish, member⟩
    rw [unread] at reads
    cases reads
  · rintro ⟨number, plain⟩
    rw [← Option.isSome_iff_exists, ← Option.ne_none_iff_isSome, Ne, plain?_eq_none_iff number]
    rintro ⟨c, turkish, member⟩
    exact plain c turkish member

/-- The second text is the first one with single underscores between some of its digits. -/
inductive Grouped : Text → Text → Prop where
  | nil : Grouped [] []
  | cons {c : Char} {plain text : Text} (noUnderscore : c ≠ '_') (grouped : Grouped plain text) :
    Grouped (c :: plain) (c :: text)
  | group {c : Char} {plain text : Text} (before : isDigit c = true)
    (after : text.head?.any isDigit = true) (grouped : Grouped plain text) :
    Grouped (c :: plain) (c :: '_' :: text)

theorem Grouped.mem {plain text : Text} (grouped : Grouped plain text) {c : Char}
    (member : c ∈ text) : c = '_' ∨ c ∈ plain := by
  induction grouped with
  | nil => cases member
  | cons noUnderscore grouped ih =>
      rcases List.mem_cons.mp member with here | later
      · exact .inr (here ▸ List.mem_cons_self ..)
      · exact (ih later).imp_right (List.mem_cons_of_mem _)
  | group before after grouped ih =>
      rcases List.mem_cons.mp member with here | behind
      · exact .inr (here ▸ List.mem_cons_self ..)
      · rcases List.mem_cons.mp behind with underscore | later
        · exact .inl underscore
        · exact (ih later).imp_right (List.mem_cons_of_mem _)

/-- Behind a character that is no underscore the groups go on, or an underscore stands between the
    character and the next one and both are digits. -/
theorem grouped_cons_iff {c : Char} (noUnderscore : c ≠ '_') {plain rest : Text} :
    Grouped plain (c :: rest) ↔
      ∃ later, plain = c :: later ∧
        (Grouped later rest ∨ isDigit c = true ∧ ∃ behind, rest = '_' :: behind ∧
          behind.head?.any isDigit = true ∧ Grouped later behind) := by
  constructor
  · intro grouped
    cases grouped with
    | cons _ grouped => exact ⟨_, rfl, .inl grouped⟩
    | group before after grouped => exact ⟨_, rfl, .inr ⟨before, _, rfl, after, grouped⟩⟩
  · rintro ⟨later, rfl, grouped | ⟨before, behind, rfl, after, grouped⟩⟩
    · exact .cons noUnderscore grouped
    · exact .group before after grouped

/-- The underscores that are removed are those of groups.  In front of the text one may stand only
    if a digit comes before it. -/
theorem joinGroups_eq_some_iff {afterDigit : Bool} {plain text : Text} :
    joinGroups afterDigit text = some plain ↔
      Grouped plain text ∨
        afterDigit = true ∧ ∃ behind, text = '_' :: behind ∧
          behind.head?.any isDigit = true ∧ Grouped plain behind := by
  induction text generalizing afterDigit plain with
  | nil =>
      constructor
      · intro joined
        cases joined
        exact .inl .nil
      · rintro (grouped | ⟨-, behind, none, -⟩)
        · cases grouped
          rfl
        · cases none
  | cons c rest ih =>
      by_cases underscore : c = '_'
      · subst underscore
        have starts : ¬ Grouped plain ('_' :: rest) := by
          intro grouped
          cases grouped with
          | cons noUnderscore => exact noUnderscore rfl
          | group before => exact absurd before (by decide)
        have later : joinGroups false rest = some plain ↔ Grouped plain rest := by simp [ih]
        rw [joinGroups, if_pos rfl]
        by_cases between : afterDigit = true ∧ rest.head?.any isDigit = true
        · simp only [between, Bool.and_self, if_true, later, starts, false_or, true_and,
            List.cons.injEq, exists_eq_left']
        · rw [← Bool.and_eq_true, Bool.not_eq_true] at between
          rw [between, if_neg Bool.false_ne_true]
          refine iff_of_false (by simp) ?_
          rintro (grouped | ⟨digit, behind, same, after, -⟩)
          · exact starts grouped
          · obtain ⟨-, rfl⟩ := List.cons.inj same
            simp [digit, after] at between
      · rw [joinGroups, if_neg underscore, Option.map_eq_some_iff, grouped_cons_iff underscore]
        simp only [ih, List.cons.injEq, underscore, false_and, exists_false, or_false,
          eq_comm, and_comm]

end Numeral

namespace Double

open Numeral

theorem ofText_eq_ok_iff {text : Text} {value : Double} :
    ofText text = .ok value ↔ ofText? text = some value := by
  rw [ofText]
  cases ofText? text <;> simp

theorem ofText?_of_readable {word : Text} (readable : Readable word) :
    ofText? word = plain? word :=
  ofText?_of_isNumber readable.1

/-- A text is read if it is a readable word with white space around it and underscores between its
    digits, and then it is read as the word. -/
theorem ofText?_eq_some_iff {text : Text} {value : Double} :
    ofText? text = some value ↔
      ∃ left word grouped right, text = left ++ grouped ++ right ∧
        (∀ c ∈ left ++ right, isWhiteSpace c = true) ∧ Grouped word grouped ∧
        Readable word ∧ ofText? word = some value := by
  constructor
  · intro reads
    obtain ⟨left, right, split, leftWhite, rightWhite⟩ :=
      Text.exists_append_trim_append isWhiteSpace text
    obtain ⟨word, joined, plain⟩ := Option.bind_eq_some_iff.mp reads
    have readable : Readable word := exists_plain?_iff.mp ⟨value, plain⟩
    have grouped : Grouped word (Text.trim isWhiteSpace text) := by
      simpa using joinGroups_eq_some_iff.mp joined
    refine ⟨left, word, _, right, split, ?_, grouped, readable, ?_⟩
    · exact List.forall_mem_append.mpr ⟨leftWhite, rightWhite⟩
    · rw [ofText?_of_readable readable, plain]
  · rintro ⟨left, word, grouped, right, rfl, white, groups, readable, reads⟩
    obtain ⟨leftWhite, rightWhite⟩ := List.forall_mem_append.mp white
    have kept : ∀ c ∈ grouped, isWhiteSpace c = false := by
      intro c member
      rcases groups.mem member with rfl | inWord
      · decide
      · have mark := isNumberChar_of_isNumber readable.1 inWord
        exact not_isWhiteSpace_of_not_isBlank mark.not_isBlank
    have joined : joinGroups false grouped = some word :=
      joinGroups_eq_some_iff.mpr (.inl groups)
    rw [ofText?_of_readable readable] at reads
    rw [ofText?, Text.trim_append leftWhite kept rightWhite, joined, Option.bind_some, reads]

/-- The form of a number word and the reading of a numeral agree on what a number is: a text is a
    number word without Turkish letters just if it is read as a double and has neither
    underscores nor blanks.  More is read than such words only with white space around them or
    with single underscores between their digits, and this makes no difference to the double. -/
theorem isNumber_iff_readable (text : Text) :
    ((isNumber text = true ∧ ∀ c ∈ turkishLetters, c ∉ text) ↔
      (∃ value, ofText text = .ok value) ∧ '_' ∉ text ∧ ∀ c ∈ text, isBlank c = false) ∧
    ∀ value, ofText text = .ok value ↔
      ∃ left word grouped right, text = left ++ grouped ++ right ∧
        (∀ c ∈ left ++ right, isWhiteSpace c = true) ∧ Grouped word grouped ∧
        (isNumber word = true ∧ ∀ c ∈ turkishLetters, c ∉ word) ∧ ofText word = .ok value := by
  simp only [ofText_eq_ok_iff]
  refine ⟨⟨?_, ?_⟩, fun value => ofText?_eq_some_iff⟩
  · intro readable
    have marks := fun c => isNumberChar_of_isNumber (c := c) readable.1
    refine ⟨?_, fun member => (marks _ member).ne_underscore rfl,
      fun c member => (marks c member).not_isBlank⟩
    rw [ofText?_of_readable readable]
    exact exists_plain?_iff.mpr readable
  · rintro ⟨⟨value, reads⟩, ungrouped, noBlank⟩
    have trimmed : Text.trim isWhiteSpace text = text :=
      Text.trim_eq_self fun c member => not_isWhiteSpace_of_not_isBlank (noBlank c member)
    rw [ofText?, trimmed, joinGroups_eq_self ungrouped, Option.bind_some] at reads
    exact exists_plain?_iff.mp ⟨value, reads⟩

end Double

end ReversePolish
