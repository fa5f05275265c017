import ReversePolish.Keyword
import ReversePolish.Token
import ReversePolish.Proofs.NumberWords
import ReversePolish.Proofs.Words

/-! # The kinds of words

The reserved words are looked up first, but none of them has the form of a number, so a word is
a number just if it has that form.  Numbers and identifiers have no blanks, and so a line that
holds them gives them back as words.
-/

namespace ReversePolish

open Unicode NumberWord

variable {word : Text}

theorem isNumber_eq_false_of_reserved {kind : Kind} (reserved : (word, kind) ∈ reservedWords) :
    isNumber word = false := by
  have none : ∀ entry ∈ reservedWords, isNumber entry.1 = false := by decide +kernel
  exact none _ reserved

theorem mem_reservedWords_of_lookup {kind : Kind} (found : reservedWords.lookup word = some kind) :
    (word, kind) ∈ reservedWords := by
  obtain ⟨before, after, split, -⟩ := List.lookup_eq_some_iff.mp found
  simp [split]

/-- The words of kind number are those with the form of a number. -/
theorem classify_eq_number_iff : classify word = .number ↔ isNumber word = true := by
  unfold classify
  cases found : reservedWords.lookup word with
  | none =>
      simp only [ite_eq_left_iff, Bool.not_eq_true]
      constructor
      · intro number
        by_contra other
        have rest := number (by simpa using other)
        split at rest <;> cases rest
      · intro number other
        rw [number] at other
        cases other
  | some kind =>
      have reserved := mem_reservedWords_of_lookup found
      have none : ∀ entry ∈ reservedWords, entry.2 ≠ .number := by decide
      rw [isNumber_eq_false_of_reserved reserved]
      exact iff_of_false (none _ reserved) Bool.false_ne_true

/-- An identifier is made of letters and numbers. -/
theorem alphanumeric_of_identifier (identifier : classify word = .identifier) :
    word ≠ [] ∧ ∀ c ∈ word, isAlphanumeric c = true := by
  unfold classify at identifier
  cases found : reservedWords.lookup word with
  | none =>
      rw [found] at identifier
      simp only at identifier
      split at identifier
      · cases identifier
      · split at identifier
        · rename_i letters
          simpa using letters
        · cases identifier
  | some kind =>
      have none : ∀ entry ∈ reservedWords, entry.2 ≠ .identifier := by decide
      rw [found] at identifier
      exact absurd identifier (none _ (mem_reservedWords_of_lookup found))

theorem isWord_of_identifier (identifier : classify word = .identifier) : Words.IsWord word := by
  obtain ⟨nonempty, letters⟩ := alphanumeric_of_identifier identifier
  exact ⟨nonempty, fun c member => not_isBlank_of_isAlphanumeric (letters c member)⟩

theorem isWord_of_isNumber (number : isNumber word = true) : Words.IsWord word := by
  refine ⟨?_, fun c member => (isNumberChar_of_isNumber number member).not_isBlank⟩
  rintro rfl
  exact absurd number (by decide)

theorem isWord_of_number (number : classify word = .number) : Words.IsWord word :=
  isWord_of_isNumber (classify_eq_number_iff.mp number)

/-- A kind other than number, identifier and invalid is that of listed words only. -/
theorem classify_eq_iff_of_reserved {kind : Kind} (reserved : kind ∈ reservedWords.map Prod.snd) :
    classify word = kind ↔ (word, kind) ∈ reservedWords := by
  constructor
  · intro classified
    unfold classify at classified
    cases found : reservedWords.lookup word with
    | some listed =>
        rw [found] at classified
        exact classified ▸ mem_reservedWords_of_lookup found
    | none =>
        -- An unlisted word is of one of the three kinds that are not reserved.
        exfalso
        have unlisted : kind = .number ∨ kind = .identifier ∨ kind = .invalid := by
          rw [found] at classified
          simp only at classified
          split at classified
          · exact .inl classified.symm
          · split at classified
            · exact .inr (.inl classified.symm)
            · exact .inr (.inr classified.symm)
        rcases unlisted with rfl | rfl | rfl <;> exact absurd reserved (by decide)
  · intro member
    have kinds : ∀ entry ∈ reservedWords, classify entry.1 = entry.2 := by decide
    exact kinds _ member

theorem classify_eq_assignment_iff : classify word = .assignment ↔ word = ['='] := by
  rw [classify_eq_iff_of_reserved (by decide)]
  simp [reservedWords]

theorem classify_eq_operator_iff : classify word = .binaryOperator ↔
    word = ['+'] ∨ word = ['-'] ∨ word = ['*'] ∨ word = ['/'] := by
  rw [classify_eq_iff_of_reserved (by decide)]
  simp [reservedWords]

theorem classify_eq_fold_iff :
    classify word = .fold ↔ word = "sum".toList ∨ word = "prod".toList := by
  rw [classify_eq_iff_of_reserved (by decide)]
  simp [reservedWords]

theorem Keyword.mem_all (keyword : Keyword) : keyword ∈ all := by
  cases keyword <;> decide

/-- The words that are read as keywords are those of the keywords that can be carried out. -/
theorem mem_reservedKeywords_iff :
    word ∈ reservedKeywords ↔ ∃ keyword : Keyword, word = keyword.word := by
  have same : reservedKeywords = Keyword.all.map Keyword.word := rfl
  simp [same, Keyword.mem_all, eq_comm]

theorem classify_eq_keyword_iff :
    classify word = .keyword ↔ ∃ keyword : Keyword, word = keyword.word := by
  rw [classify_eq_iff_of_reserved (by decide), ← mem_reservedKeywords_iff]
  simp [reservedWords]

end ReversePolish
