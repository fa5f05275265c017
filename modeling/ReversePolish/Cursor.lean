import ReversePolish.Words

/-! # Cursors

A cursor reads a text from front to back, by blanks and by words.  It never goes back,
and what a reading returns is what the cursor moved over, except that a word is returned
without the blanks in front of it when both are read together.
-/

namespace ReversePolish

/-- A place in a text: how many characters have been read, and what is still to be read. -/
structure Cursor where
  position : Nat
  rest : Text
  deriving Repr, DecidableEq

/-- What a reading at a cursor gives. -/
inductive Reading where
  /-- The cursor moved over this text. -/
  | found (text : Text)
  /-- What was asked for does not start here. -/
  | absent
  /-- The text had been read to its end. -/
  | ended
  deriving Repr, DecidableEq

namespace Cursor

open Unicode

def start (text : Text) : Cursor := ⟨0, text⟩

def isFinished (cursor : Cursor) : Bool := cursor.rest.isEmpty

def advance (cursor : Cursor) (count : Nat) : Cursor :=
  ⟨cursor.position + count, cursor.rest.drop count⟩

/-- Read the blanks at the cursor, even if there are none. -/
def readBlanks (cursor : Cursor) : Reading × Cursor :=
  if cursor.isFinished then (.ended, cursor)
  else
    let blanks := cursor.rest.takeWhile isBlank
    (.found blanks, cursor.advance blanks.length)

/-- Read the word that starts at the cursor. -/
def readWord (cursor : Cursor) : Reading × Cursor :=
  if cursor.isFinished then (.ended, cursor)
  else
    let word := cursor.rest.takeWhile (fun c => !isBlank c)
    if word = [] then (.absent, cursor) else (.found word, cursor.advance word.length)

/-- Read the word that starts behind the blanks at the cursor. -/
def nextWord (cursor : Cursor) : Reading × Cursor := cursor.readBlanks.2.readWord

theorem readBlanks_rest_le (cursor : Cursor) :
    cursor.readBlanks.2.rest.length ≤ cursor.rest.length := by
  unfold readBlanks
  split
  · exact Nat.le_refl _
  · simp only [advance, List.length_drop]
    omega

/-- Reading a word leaves less to be read. -/
theorem readWord_rest_lt {cursor : Cursor} {word : Text} (h : cursor.readWord.1 = .found word) :
    cursor.readWord.2.rest.length < cursor.rest.length := by
  obtain ⟨position, rest⟩ := cursor
  cases rest with
  | nil => simp [readWord, isFinished] at h
  | cons c rest =>
    by_cases blank : isBlank c = true
    · simp [readWord, isFinished, blank] at h
    · have inWord : isBlank c = false := by simpa using blank
      simp only [readWord, isFinished, List.isEmpty_cons, Bool.false_eq_true, if_false,
        List.takeWhile_cons, inWord, Bool.not_false, if_true, reduceCtorEq, advance,
        List.length_drop, List.length_cons]
      omega

theorem nextWord_rest_lt {cursor : Cursor} {word : Text} (h : cursor.nextWord.1 = .found word) :
    cursor.nextWord.2.rest.length < cursor.rest.length :=
  Nat.lt_of_lt_of_le (readWord_rest_lt h) (readBlanks_rest_le cursor)

/-- Read word after word to the end of the text. -/
def words (cursor : Cursor) : List Text × Cursor :=
  match _read : cursor.nextWord with
  | (.found word, next) =>
    let later := next.words
    (word :: later.1, later.2)
  | (_, next) => ([], next)
termination_by cursor.rest.length
decreasing_by
  have shorter := @nextWord_rest_lt cursor word (by rw [_read])
  rw [_read] at shorter
  exact shorter

end Cursor

inductive Request where
  | blanks
  | word
  | nextWord
  | words
  deriving Repr, DecidableEq

inductive Answer where
  | reading (reading : Reading)
  | words (words : List Text)
  deriving Repr, DecidableEq

namespace Cursor

def answer (cursor : Cursor) : Request → Answer × Cursor
  | .blanks => cursor.readBlanks.map .reading id
  | .word => cursor.readWord.map .reading id
  | .nextWord => cursor.nextWord.map .reading id
  | .words => cursor.words.map .words id

/-- Answer requests one after the other, each with the cursor as it then stands. -/
def answers : Cursor → List Request → List (Answer × Cursor)
  | _, [] => []
  | cursor, request :: later =>
    let answered := cursor.answer request
    answered :: answers answered.2 later

end Cursor

end ReversePolish
