import ReversePolish.Proofs.Words

/-! # What a cursor reads

A cursor answers requests in any order, and it moves on over the text from each to the next.
Whatever it was asked, the words that came back and the words of what is still to be read are
together the words of the text (`Cursor.returned_append_split`); this one invariant says that no
word is split, lost or read twice.  Word after word is generated until the end of the text is
reported (`Cursor.Generates`), which is the reading to the end that `Cursor.words` does.
-/

namespace ReversePolish

open Unicode Words

/-- The words that an answer returns to a request for words. -/
def Request.returned : Request → Answer → List Text
  | .word, .reading (.found text) => [text]
  | .nextWord, .reading (.found text) => [text]
  | .words, .words texts => texts
  | _, _ => []

namespace Cursor

/-- The cursor that requests lead to. -/
def after (cursor : Cursor) (requests : List Request) : Cursor :=
  requests.foldl (fun cursor request => (cursor.answer request).2) cursor

/-- The words that come back when requests are answered one after the other. -/
def returned (cursor : Cursor) (requests : List Request) : List Text :=
  (requests.zip (cursor.answers requests)).flatMap fun entry => entry.1.returned entry.2.1

/-- How words are generated: the next word is read again and again, and what comes back is yielded,
    be it a word or the notice that there is none here, until the end of the text is reported. -/
inductive Generates : Cursor → List (Option Text) → Cursor → Prop where
  | ended {cursor : Cursor} (ended : cursor.nextWord.1 = .ended) :
    Generates cursor [] cursor.nextWord.2
  | found {cursor last : Cursor} {word : Text} {items : List (Option Text)}
    (found : cursor.nextWord.1 = .found word) (later : Generates cursor.nextWord.2 items last) :
    Generates cursor (some word :: items) last
  | absent {cursor last : Cursor} {items : List (Option Text)}
    (absent : cursor.nextWord.1 = .absent) (later : Generates cursor.nextWord.2 items last) :
    Generates cursor (none :: items) last

/-- The second cursor is the first one after it was moved over some of what was to be read. -/
def MovesTo (cursor next : Cursor) : Prop :=
  ∃ count, count ≤ cursor.rest.length ∧ next = cursor.advance count

variable {text : Text} {cursor next last : Cursor}

theorem MovesTo.refl (cursor : Cursor) : cursor.MovesTo cursor := ⟨0, Nat.zero_le _, rfl⟩

theorem MovesTo.trans (first : cursor.MovesTo next) (second : next.MovesTo last) :
    cursor.MovesTo last := by
  obtain ⟨count, bounded, rfl⟩ := first
  obtain ⟨more, stillBounded, rfl⟩ := second
  simp only [advance, List.length_drop] at stillBounded
  refine ⟨count + more, by omega, ?_⟩
  simp only [advance, List.drop_drop, Nat.add_assoc]

theorem movesTo_readBlanks (cursor : Cursor) : cursor.MovesTo cursor.readBlanks.2 := by
  rw [readBlanks]
  split
  · exact .refl cursor
  · exact ⟨_, (List.takeWhile_prefix _).length_le, rfl⟩

theorem movesTo_readWord (cursor : Cursor) : cursor.MovesTo cursor.readWord.2 := by
  rw [readWord]
  split
  · exact .refl cursor
  · dsimp only
    split
    · exact .refl cursor
    · exact ⟨_, (List.takeWhile_prefix _).length_le, rfl⟩

theorem movesTo_nextWord (cursor : Cursor) : cursor.MovesTo cursor.nextWord.2 :=
  (movesTo_readBlanks cursor).trans (movesTo_readWord _)

theorem movesTo_words (cursor : Cursor) : cursor.MovesTo cursor.words.2 := by
  fun_induction words cursor with
  | case1 cursor word next read later ih =>
      have first := movesTo_nextWord cursor
      rw [read] at first
      exact first.trans ih
  | case2 cursor reading next stopped read =>
      have first := movesTo_nextWord cursor
      rw [read] at first
      exact first

theorem movesTo_answer (cursor : Cursor) (request : Request) :
    cursor.MovesTo (cursor.answer request).2 := by
  cases request with
  | blanks => exact movesTo_readBlanks cursor
  | word => exact movesTo_readWord cursor
  | nextWord => exact movesTo_nextWord cursor
  | words => exact movesTo_words cursor

/-- The cursor stands in the text: what is still to be read is the text from its position on. -/
structure StandsIn (text : Text) (cursor : Cursor) : Prop where
  within : cursor.position ≤ text.length
  rest : cursor.rest = text.drop cursor.position

theorem standsIn_start (text : Text) : StandsIn text (start text) := ⟨Nat.zero_le _, rfl⟩

theorem StandsIn.movesTo (stands : StandsIn text cursor) (moves : cursor.MovesTo next) :
    StandsIn text next := by
  obtain ⟨count, bounded, rfl⟩ := moves
  have within := stands.within
  rw [stands.rest, List.length_drop] at bounded
  constructor
  · simp only [advance]
    omega
  · simp only [advance, stands.rest, List.drop_drop]

theorem StandsIn.after (stands : StandsIn text cursor) (requests : List Request) :
    StandsIn text (cursor.after requests) := by
  induction requests generalizing cursor with
  | nil => exact stands
  | cons request later ih => exact ih (stands.movesTo (movesTo_answer cursor request))

theorem StandsIn.eq_end (stands : StandsIn text cursor) (finished : cursor.rest = []) :
    cursor = ⟨text.length, []⟩ := by
  have within := stands.within
  have behind := congrArg List.length stands.rest
  rw [finished, List.length_nil, List.length_drop] at behind
  have position : cursor.position = text.length := by omega
  rw [← position, ← finished]

theorem MovesTo.position_le (moves : cursor.MovesTo next) : cursor.position ≤ next.position := by
  obtain ⟨count, -, rfl⟩ := moves
  exact Nat.le_add_right ..

theorem take_length_takeWhile (p : Char → Bool) (text : Text) :
    text.take (text.takeWhile p).length = text.takeWhile p :=
  (List.prefix_iff_eq_take.mp (List.takeWhile_prefix p)).symm

/-- Blanks that are found are what the cursor moved over. -/
theorem eq_take_of_readBlanks {found : Text} (reads : cursor.readBlanks.1 = .found found) :
    found = cursor.rest.take (cursor.readBlanks.2.position - cursor.position) := by
  rw [readBlanks] at reads ⊢
  split at reads
  · cases reads
  · rename_i unfinished
    cases reads
    simp [unfinished, advance, take_length_takeWhile]

/-- A word that is found is what the cursor moved over. -/
theorem eq_take_of_readWord {found : Text} (reads : cursor.readWord.1 = .found found) :
    found = cursor.rest.take (cursor.readWord.2.position - cursor.position) := by
  rw [readWord] at reads ⊢
  split at reads
  · cases reads
  · rename_i unfinished
    dsimp only at reads
    split at reads
    · cases reads
    · rename_i nonempty
      cases reads
      simp [unfinished, nonempty, advance, take_length_takeWhile]

/-- A word is absent just if a blank stands at the cursor. -/
theorem readWord_absent_iff :
    cursor.readWord.1 = .absent ↔ ∃ c, cursor.rest.head? = some c ∧ isBlank c = true := by
  obtain ⟨position, rest⟩ := cursor
  cases rest with
  | nil => simp [readWord, isFinished]
  | cons c rest => cases blank : isBlank c <;> simp [readWord, isFinished, blank]

theorem readWord_eq_self_of_absent (absent : cursor.readWord.1 = .absent) :
    cursor.readWord.2 = cursor := by
  rw [readWord] at absent ⊢
  split at absent
  · cases absent
  · rename_i unfinished
    dsimp only at absent
    split at absent
    · rename_i empty
      simp [unfinished, empty]
    · cases absent

theorem readWord_rest_of_ended (ended : cursor.readWord.1 = .ended) :
    cursor.readWord.2.rest = [] := by
  obtain ⟨position, rest⟩ := cursor
  cases rest with
  | nil => rfl
  | cons c rest => cases blank : isBlank c <;> simp [readWord, isFinished, blank] at ended

/-- Behind the blanks there is never no word: there is one, or nothing more to be read. -/
theorem nextWord_ne_absent (cursor : Cursor) : cursor.nextWord.1 ≠ .absent := by
  intro absent
  rcases nextWord_split cursor with ⟨ended, -⟩ | ⟨word, found, -⟩
  · rw [absent] at ended
    cases ended
  · rw [absent] at found
    cases found

theorem words_of_found {word : Text} (found : cursor.nextWord.1 = .found word) :
    cursor.words = (word :: cursor.nextWord.2.words.1, cursor.nextWord.2.words.2) := by
  rw [words]
  split
  · rename_i first next read
    rw [read] at found ⊢
    cases found
    rfl
  · rename_i reading next stopped read
    rw [read] at found
    exact absurd found (stopped word)

theorem words_of_not_found (stops : ∀ word, cursor.nextWord.1 ≠ .found word) :
    cursor.words = ([], cursor.nextWord.2) := by
  rw [words]
  split
  · rename_i word next read
    exact absurd (congrArg Prod.fst read) (stops word)
  · rename_i reading next stopped read
    rw [read]

theorem words_rest (cursor : Cursor) : cursor.words.2.rest = [] := by
  fun_induction words cursor with
  | case1 cursor word next read later ih => exact ih
  | case2 cursor reading next stopped read =>
      rcases nextWord_split cursor with ⟨ended, -⟩ | ⟨word, found, -⟩
      · have finished : cursor.nextWord.2.rest = [] := readWord_rest_of_ended ended
        rwa [read] at finished
      · exact absurd found (by simpa [read] using stopped word)

/-- A word is read, or the cursor stays where it is. -/
theorem readWord_cases (cursor : Cursor) :
    (∃ word, cursor.readWord.1 = .found word ∧
        split cursor.rest = word :: split cursor.readWord.2.rest) ∨
      (cursor.readWord.1 = .absent ∨ cursor.readWord.1 = .ended) ∧
        cursor.readWord.2 = cursor := by
  cases rest : cursor.rest with
  | nil => exact .inr (by simp [readWord, isFinished, rest])
  | cons c later =>
      cases blank : isBlank c with
      | false => exact .inl (rest ▸ readWord_split rest blank)
      | true => exact .inr (by simp [readWord, isFinished, rest, blank])

/-- The words of what is to be read are those that come back and those of what is then left. -/
theorem split_answer (cursor : Cursor) (request : Request) :
    split cursor.rest =
      request.returned (cursor.answer request).1 ++ split (cursor.answer request).2.rest := by
  cases request with
  | blanks => exact split_readBlanks cursor
  | word =>
      simp only [answer, Prod.map_fst, Prod.map_snd, id]
      rcases readWord_cases cursor with ⟨word, found, splits⟩ | ⟨absent | ended, stays⟩
      · rw [found, splits]
        rfl
      · rw [absent, stays]
        rfl
      · rw [ended, stays]
        rfl
  | nextWord =>
      simp only [answer, Prod.map_fst, Prod.map_snd, id]
      rcases nextWord_split cursor with ⟨ended, none⟩ | ⟨word, found, splits⟩
      · have finished : cursor.nextWord.2.rest = [] := readWord_rest_of_ended ended
        rw [ended, none, finished]
        rfl
      · rw [found, splits]
        rfl
  | words =>
      simp only [answer, Prod.map_fst, Prod.map_snd, id, words_rest, Request.returned]
      rw [words_eq_split, split, List.append_nil]

theorem answers_append (cursor : Cursor) (past : List Request) (request : Request) :
    cursor.answers (past ++ [request]) =
      cursor.answers past ++ [(cursor.after past).answer request] := by
  induction past generalizing cursor with
  | nil => rfl
  | cons first past ih => simp only [List.cons_append, answers, ih, after, List.foldl_cons]

theorem returned_cons (cursor : Cursor) (request : Request) (later : List Request) :
    cursor.returned (request :: later) =
      request.returned (cursor.answer request).1 ++ (cursor.answer request).2.returned later := rfl

/-- The words that came back and those of what is still to be read are the words that there were
    to be read. -/
theorem returned_append_split (cursor : Cursor) (requests : List Request) :
    cursor.returned requests ++ split (cursor.after requests).rest = split cursor.rest := by
  induction requests generalizing cursor with
  | nil => rfl
  | cons request later ih =>
      have rest := ih (cursor.answer request).2
      rw [returned_cons, List.append_assoc, split_answer cursor request, ← rest]
      rfl

/-- Once all words were read, there are none left. -/
theorem split_after_of_words {requests : List Request} (asked : .words ∈ requests) :
    split (cursor.after requests).rest = [] := by
  induction requests generalizing cursor with
  | nil => cases asked
  | cons request later ih =>
      rcases List.mem_cons.mp asked with rfl | asked
      · have finished : (cursor.answer .words).2.rest = [] := words_rest cursor
        have left := returned_append_split (cursor.answer .words).2 later
        rw [finished, split, List.append_eq_nil_iff] at left
        exact left.2
      · exact ih asked

theorem generates_words (cursor : Cursor) :
    cursor.Generates (cursor.words.1.map some) cursor.words.2 := by
  fun_induction words cursor with
  | case1 cursor word next read later ih =>
      have found : cursor.nextWord.1 = .found word := congrArg Prod.fst read
      have follows : Generates cursor.nextWord.2 (later.1.map some) later.2 := by rwa [read]
      exact .found found follows
  | case2 cursor reading next stopped read =>
      rcases nextWord_split cursor with ⟨ended, -⟩ | ⟨word, found, -⟩
      · have ends := Generates.ended ended
        rwa [read] at ends
      · exact absurd found (by simpa [read] using stopped word)

/-- The words are generated as they are read to the end, and in no other way. -/
theorem generates_iff {items : List (Option Text)} :
    cursor.Generates items last ↔ items = cursor.words.1.map some ∧ last = cursor.words.2 := by
  constructor
  · intro generates
    induction generates with
    | ended ended =>
        rw [words_of_not_found fun word found => by rw [ended] at found; cases found]
        exact ⟨rfl, rfl⟩
    | found found later ih =>
        rw [words_of_found found, ih.1, ih.2]
        exact ⟨rfl, rfl⟩
    | absent absent => exact absurd absent (nextWord_ne_absent _)
  · rintro ⟨rfl, rfl⟩
    exact generates_words cursor

/-- What a request does at a cursor that stands in the text. -/
structure Reads (text : Text) (cursor : Cursor) (request : Request) : Prop where
  forward : cursor.position ≤ (cursor.answer request).2.position
  within : (cursor.answer request).2.position ≤ text.length
  /-- Blanks, or a word, are what the cursor moved over. -/
  slice : ∀ found, request = .blanks ∨ request = .word →
    (cursor.answer request).1 = .reading (.found found) →
    found = (text.drop cursor.position).take
      ((cursor.answer request).2.position - cursor.position)
  /-- A word is absent just if a blank stands at the cursor, and then the cursor stays there. -/
  absent : request = .word →
    ((cursor.answer request).1 = .reading .absent ↔
      ∃ c, text[cursor.position]? = some c ∧ isBlank c = true) ∧
    ((cursor.answer request).1 = .reading .absent → (cursor.answer request).2 = cursor)
  /-- All words that are left are generated one by one, with nothing else between them. -/
  generates : request = .words → ∀ items last, cursor.Generates items last ↔
    ∃ words, items = words.map some ∧ cursor.answer request = (.words words, last)

theorem StandsIn.reads (stands : StandsIn text cursor) (request : Request) :
    Reads text cursor request := by
  have moves := movesTo_answer cursor request
  constructor
  · exact moves.position_le
  · exact (stands.movesTo moves).within
  · intro found asked reads
    rw [← stands.rest]
    rcases asked with rfl | rfl
    · exact eq_take_of_readBlanks (Answer.reading.inj reads)
    · exact eq_take_of_readWord (Answer.reading.inj reads)
  · rintro rfl
    have same : (cursor.answer .word).1 = .reading .absent ↔ cursor.readWord.1 = .absent :=
      ⟨Answer.reading.inj, congrArg Answer.reading⟩
    have here : cursor.rest.head? = text[cursor.position]? := by
      rw [stands.rest, List.head?_drop]
    rw [same, ← here]
    exact ⟨readWord_absent_iff, readWord_eq_self_of_absent⟩
  · rintro rfl items last
    have read : cursor.answer .words = (.words cursor.words.1, cursor.words.2) := rfl
    rw [generates_iff, read]
    constructor
    · rintro ⟨rfl, rfl⟩
      exact ⟨_, rfl, rfl⟩
    · rintro ⟨words, rfl, same⟩
      cases same
      exact ⟨rfl, rfl⟩

/-- A cursor never splits, loses or repeats a word, whatever it was asked in the past.  The words
    that came back begin the words of the text, and are all of them once they were read to the
    end.  Any further request moves the cursor forward inside the text and returns what it
    moved over.  From the start, the words of the text are generated, each of them a
    word, and this comes to the end of the text. -/
theorem returned_prefix_split (text : Text) (past : List Request) :
    let cursor := (start text).after past
    (start text).returned past <+: split text ∧
      (.words ∈ past → (start text).returned past = split text) ∧
      (∀ request, (start text).answers (past ++ [request]) =
          (start text).answers past ++ [cursor.answer request] ∧
        Reads text cursor request) ∧
      ∀ items last, (start text).Generates items last ↔
        items = (split text).map some ∧ last = ⟨text.length, []⟩ := by
  intro cursor
  have whole : (start text).returned past ++ split cursor.rest = split text :=
    returned_append_split (start text) past
  refine ⟨⟨_, whole⟩, ?_, ?_, ?_⟩
  · intro asked
    rw [← whole, split_after_of_words asked, List.append_nil]
  · intro request
    exact ⟨answers_append _ past request, ((standsIn_start text).after past).reads request⟩
  · intro items last
    have stands := (standsIn_start text).movesTo (movesTo_words (start text))
    rw [generates_iff, words_start, stands.eq_end (words_rest _)]

end Cursor

end ReversePolish
