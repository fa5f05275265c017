import ReversePolish.Cursor

/-! # Words of composed texts

Two facts about the words of a text carry everything that is said about lines.  A run of
characters that are not blank, with nothing of its kind behind it, is one word
(`split_word_append`).  A blank separates: the words of a text are those in front of it
followed by those behind it (`split_append_blank`).

A cursor that reads word after word finds the words that `split` finds
(`Cursor.words_start`), so the two facts hold of lines as they are read.
-/

namespace ReversePolish

open Unicode

namespace Words

/-- A text that may stand as a word: it is not empty and has no blank. -/
def IsWord (word : Text) : Prop := word ≠ [] ∧ ∀ c ∈ word, isBlank c = false

theorem extend_ne_nil (c : Char) (words : List Text) : extend c words ≠ [] := by
  cases words <;> simp [extend]

theorem extend_append {c : Char} {words : List Text} (found : words ≠ []) (more : List Text) :
    extend c (words ++ more) = extend c words ++ more := by
  cases words with
  | nil => exact absurd rfl found
  | cons word words => rfl

theorem split_ne_nil {c : Char} (inWord : isBlank c = false) (rest : Text) :
    split (c :: rest) ≠ [] := by
  simp only [split, inWord, Bool.false_eq_true, if_false]
  split
  · exact List.cons_ne_nil _ _
  · exact extend_ne_nil _ _

/-- A word that is not continued comes first, and the words behind it follow. -/
theorem split_word_append {word rest : Text} (isWord : IsWord word) (ends : wordEnds rest = true) :
    split (word ++ rest) = word :: split rest := by
  obtain ⟨notEmpty, noBlank⟩ := isWord
  induction word with
  | nil => exact absurd rfl notEmpty
  | cons c word ih =>
      have inWord : isBlank c = false := noBlank c (List.mem_cons_self ..)
      cases word with
      | nil => simp [split, inWord, ends]
      | cons next word =>
          have goesOn : wordEnds (next :: word ++ rest) = false := noBlank next (by simp)
          have later := ih (List.cons_ne_nil _ _) (fun c member => noBlank c (by simp [member]))
          simp only [List.cons_append] at goesOn later ⊢
          rw [split]
          simp only [inWord, goesOn, Bool.false_eq_true, if_false, later, extend]

/-- What is split off may stand as a word. -/
theorem isWord_of_mem_split {text word : Text} (member : word ∈ split text) : IsWord word := by
  induction text generalizing word with
  | nil => cases member
  | cons c rest ih =>
      rw [split] at member
      split at member
      · exact ih member
      · rename_i blank
        have inWord : isBlank c = false := by simpa using blank
        split at member
        · rcases List.mem_cons.mp member with rfl | later
          · exact ⟨List.cons_ne_nil _ _, by simpa using inWord⟩
          · exact ih later
        · cases words : split rest with
          | nil =>
              rw [words, extend, List.mem_singleton] at member
              rw [member]
              exact ⟨List.cons_ne_nil _ _, by simpa using inWord⟩
          | cons first others =>
              rw [words, extend] at member
              rcases List.mem_cons.mp member with rfl | later
              · obtain ⟨-, noBlank⟩ := ih (words ▸ List.mem_cons_self ..)
                exact ⟨List.cons_ne_nil _ _, List.forall_mem_cons.mpr ⟨inWord, noBlank⟩⟩
              · exact ih (words ▸ List.mem_cons_of_mem _ later)

theorem split_word {word : Text} (isWord : IsWord word) : split word = [word] := by
  simpa [split] using split_word_append isWord (show wordEnds [] = true from rfl)

/-- Blanks at the front belong to no word. -/
theorem split_blanks_append {blanks : Text} (blank : ∀ c ∈ blanks, isBlank c = true)
    (rest : Text) : split (blanks ++ rest) = split rest := by
  induction blanks with
  | nil => rfl
  | cons c blanks ih =>
      have first : isBlank c = true := blank c (List.mem_cons_self ..)
      simp only [List.cons_append, split, first, if_true]
      exact ih fun c member => blank c (List.mem_cons_of_mem _ member)

/-- Words split at a blank. -/
theorem split_append_blank {c : Char} (blank : isBlank c = true) (before after : Text) :
    split (before ++ c :: after) = split before ++ split after := by
  induction before with
  | nil => simp [split, blank]
  | cons first before ih =>
      cases inWord : isBlank first with
      | true => simpa [split, inWord] using ih
      | false =>
          cases before with
          | nil => simp [split, inWord, wordEnds, blank]
          | cons second before =>
              cases ends : isBlank second with
              | true => simpa [split, inWord, wordEnds, ends] using ih
              | false =>
                  have found : split (second :: before) ≠ [] := split_ne_nil ends before
                  rw [List.cons_append, split, split]
                  simp only [List.cons_append] at ih
                  simp only [inWord, wordEnds, ends, Bool.false_eq_true, if_false,
                    List.cons_append, ih, extend_append found]

/-- Two texts with blanks between them have the words of the one and then those of the
    other. -/
theorem split_append {blanks : Text} (some_blank : blanks ≠ [])
    (blank : ∀ c ∈ blanks, isBlank c = true) (before after : Text) :
    split (before ++ blanks ++ after) = split before ++ split after := by
  cases blanks with
  | nil => exact absurd rfl some_blank
  | cons c blanks =>
      rw [List.append_assoc, List.cons_append, split_append_blank (blank c (by simp)),
        split_blanks_append fun c member => blank c (by simp [member])]

/-- Texts with single spaces between them have the words of each of them, one after the other. -/
theorem split_joinWith_texts (texts : List Text) :
    split (Text.joinWith [' '] texts) = texts.flatMap split := by
  induction texts with
  | nil => rfl
  | cons text texts ih =>
      cases texts with
      | nil => simp [Text.joinWith]
      | cons next texts =>
          have joined : Text.joinWith [' '] (text :: next :: texts) =
              text ++ ' ' :: Text.joinWith [' '] (next :: texts) := by simp [Text.joinWith]
          rw [joined, split_append_blank (by decide), ih]
          exact List.flatMap_cons.symm

theorem flatMap_split_words {words : List Text} (areWords : ∀ word ∈ words, IsWord word) :
    words.flatMap split = words := by
  induction words with
  | nil => rfl
  | cons word words ih =>
      obtain ⟨isWord, later⟩ := List.forall_mem_cons.mp areWords
      rw [List.flatMap_cons, split_word isWord, ih later, List.singleton_append]

/-- Words with single spaces between them are the words of the text that they make. -/
theorem split_joinWith {words : List Text} (areWords : ∀ word ∈ words, IsWord word) :
    split (Text.joinWith [' '] words) = words := by
  rw [split_joinWith_texts, flatMap_split_words areWords]

end Words

namespace Cursor

open Words

theorem drop_length_takeWhile (p : Char → Bool) (text : Text) :
    text.drop (text.takeWhile p).length = text.dropWhile p := by
  calc text.drop (text.takeWhile p).length
      = (text.takeWhile p ++ text.dropWhile p).drop (text.takeWhile p).length := by
        rw [List.takeWhile_append_dropWhile]
    _ = text.dropWhile p := List.drop_left

theorem readBlanks_rest (cursor : Cursor) :
    cursor.readBlanks.2.rest = cursor.rest.dropWhile isBlank := by
  obtain ⟨position, rest⟩ := cursor
  cases rest with
  | nil => rfl
  | cons c rest => exact drop_length_takeWhile isBlank (c :: rest)

/-- What is read as a word is the first word of what is still to be read. -/
theorem readWord_split {cursor : Cursor} {c : Char} {later : Text}
    (here : cursor.rest = c :: later) (inWord : isBlank c = false) :
    ∃ word, cursor.readWord.1 = .found word ∧
      split cursor.rest = word :: split cursor.readWord.2.rest := by
  let more := fun c => !isBlank c
  have found : cursor.rest.takeWhile more ≠ [] := by simp [here, more, inWord]
  have read : cursor.readWord =
      (.found (cursor.rest.takeWhile more),
        cursor.advance (cursor.rest.takeWhile more).length) := by
    simp only [readWord, isFinished, here, List.isEmpty_cons, Bool.false_eq_true, if_false]
    rw [← here]
    exact if_neg found
  have isWord : IsWord (cursor.rest.takeWhile more) :=
    ⟨found, fun c member => by simpa [more] using List.all_eq_true.mp List.all_takeWhile c member⟩
  have ends : wordEnds (cursor.rest.dropWhile more) = true := by
    cases behind : cursor.rest.dropWhile more with
    | nil => rfl
    | cons next rest =>
        have stopped := List.head?_dropWhile_not more cursor.rest
        simpa [behind, more, wordEnds] using stopped
  refine ⟨_, by rw [read], ?_⟩
  rw [read]
  simp only [advance, drop_length_takeWhile]
  calc split cursor.rest
      = split (cursor.rest.takeWhile more ++ cursor.rest.dropWhile more) := by
        rw [List.takeWhile_append_dropWhile]
    _ = cursor.rest.takeWhile more :: split (cursor.rest.dropWhile more) :=
        split_word_append isWord ends

/-- Reading blanks takes no words away. -/
theorem split_readBlanks (cursor : Cursor) :
    split cursor.rest = split cursor.readBlanks.2.rest := by
  calc split cursor.rest
      = split (cursor.rest.takeWhile isBlank ++ cursor.rest.dropWhile isBlank) := by
        rw [List.takeWhile_append_dropWhile]
    _ = split (cursor.rest.dropWhile isBlank) :=
        split_blanks_append (List.all_eq_true.mp List.all_takeWhile) _
    _ = split cursor.readBlanks.2.rest := by rw [readBlanks_rest]

/-- Behind the blanks there is either a word, which is then read, or nothing at all. -/
theorem nextWord_split (cursor : Cursor) :
    (cursor.nextWord.1 = .ended ∧ split cursor.rest = []) ∨
      ∃ word, cursor.nextWord.1 = .found word ∧
        split cursor.rest = word :: split cursor.nextWord.2.rest := by
  rw [split_readBlanks]
  cases behind : cursor.readBlanks.2.rest with
  | nil => exact .inl ⟨by simp [nextWord, readWord, isFinished, behind], rfl⟩
  | cons c later =>
      have inWord : isBlank c = false := by
        have stopped := List.head?_dropWhile_not isBlank cursor.rest
        simpa [← readBlanks_rest, behind] using stopped
      rw [← behind]
      exact .inr (readWord_split behind inWord)

/-- Reading word after word gives the words of what is still to be read. -/
theorem words_eq_split (cursor : Cursor) : cursor.words.1 = split cursor.rest := by
  fun_induction words cursor with
  | case1 cursor word next read later ih =>
      rcases nextWord_split cursor with ⟨ended, -⟩ | ⟨found, reads, splits⟩
      · simp [read] at ended
      · simp only [read, Reading.found.injEq] at reads splits
        rw [splits, reads, ← ih]
  | case2 cursor reading next stopped read =>
      rcases nextWord_split cursor with ⟨-, none⟩ | ⟨found, reads, -⟩
      · exact none.symm
      · exact absurd reads (by simpa [read] using stopped found)

/-- The words at the start of a text are those of the text. -/
theorem words_start (text : Text) : (start text).words.1 = split text := words_eq_split _

end Cursor

end ReversePolish
