import ReversePolish.CommandLine.Program
import ReversePolish.Proofs.Atomicity
import ReversePolish.Proofs.Classification
import ReversePolish.Proofs.Composition

/-! # What ends a session

Errors are meant to be told to the user, and only `exit` is meant to end a session.  There is
one kind of word for which this is not so: a number word with a Turkish letter in the place
of an `i` has no double, and its conversion ends the whole program.  Nothing else does: a
session endures its lines (`CommandLine.Endures`) just if it tries no such word.

The argument goes from the word (`Token.effect_escaped_iff`) to the line
(`Run.escaped_iff`), and from there by induction on the lines to both ways to run them.
-/

namespace ReversePolish

open NumberWord

namespace Token

/-- The token is a number word with a letter that only passes for an `i`. -/
def Unreadable (token : Token) : Prop :=
  token.kind = .number ∧ ∃ c ∈ turkishLetters, c ∈ token.word

theorem ofText_error_iff {word : Text} (number : isNumber word = true) :
    (∃ error, Double.ofText word = .error error) ↔ ∃ c ∈ turkishLetters, c ∈ word := by
  rw [← Double.ofText?_eq_none_iff number, Double.ofText]
  cases Double.ofText? word <;> simp

/-- The words that escape are the unreadable numbers. -/
theorem effect_escaped_iff (vocabulary : Vocabulary) (word : Text) (state : State) :
    (∃ error, ((ofWord word).effect vocabulary state).ending = .escaped error) ↔
      (ofWord word).Unreadable := by
  constructor
  · rintro ⟨error, escaped⟩
    rcases effect_cases vocabulary (ofWord word) state with regular | ⟨error, number, unread, -⟩
    · exfalso
      generalize (ofWord word).effect vocabulary state = effect at regular escaped
      cases regular with
      | carriedOut completed => rw [completed] at escaped; cases escaped
      | exited | failed failure => cases escaped
    · exact ⟨number, (ofText_error_iff (classify_eq_number_iff.mp number)).mp ⟨error, unread⟩⟩
  · rintro ⟨number, turkish⟩
    obtain ⟨error, unread⟩ := (ofText_error_iff (classify_eq_number_iff.mp number)).mpr turkish
    refine ⟨error, ?_⟩
    change classify word = .number at number
    simp only [effect_eq_direct, directEffect, ofWord, number, unread]

end Token

namespace Run

/-- The run ended with a conversion that escaped. -/
def Escaped (run : Run) : Prop := ∃ error, run.ending = .escaped error

instance (run : Run) : Decidable run.Escaped :=
  match ending : run.ending with
  | .escaped error => .isTrue ⟨error, ending⟩
  | .completed | .exited | .abandoned _ => .isFalse (by simp [Escaped, ending])

theorem ofTokens_escaped_iff (vocabulary : Vocabulary) (words : List Text) (state : State) :
    (ofTokens vocabulary (Token.ofWords words) state).Escaped ↔
      ∃ token ∈ (ofTokens vocabulary (Token.ofWords words) state).tried, token.Unreadable := by
  induction words generalizing state with
  | nil => simp [Token.ofWords, ofTokens, Escaped]
  | cons word words ih =>
      -- A token that completes is readable, so it changes neither side.
      have escapes := Token.effect_escaped_iff vocabulary word state
      rw [Token.ofWords, List.map_cons, ← Token.ofWords]
      by_cases completed : ((Token.ofWord word).effect vocabulary state).ending = .completed
      · have readable : ¬ (Token.ofWord word).Unreadable := by
          rw [← escapes, completed]
          rintro ⟨error, ⟨⟩⟩
        rw [ofTokens_cons_of_completed completed]
        simp only [andThen, Escaped, List.cons_append, List.nil_append, List.mem_cons,
          exists_eq_or_imp, readable, false_or]
        exact ih _
      · rw [ofTokens_cons_of_stopped completed]
        simp only [Escaped, List.mem_singleton, exists_eq_left]
        exact escapes

/-- A line escapes just if an unreadable number is tried. -/
theorem escaped_iff (vocabulary : Vocabulary) (line : Text) (state : State) :
    (ofLine vocabulary line state).Escaped ↔
      ∃ token ∈ (ofLine vocabulary line state).tried, token.Unreadable := by
  rw [ofLine_eq]
  exact ofTokens_escaped_iff vocabulary _ state

end Run

namespace Feedback

/-- The line came back, and all that was printed is written out, then the report of the
    failure if one abandoned the line, and then the display if it is shown. -/
inductive Told (feedback : Feedback) : Prop where
  | ran (ending : feedback.run.ending = .completed ∨ feedback.run.ending = .exited)
      (written : feedback.output = Text.lines feedback.run.printed ++ feedback.session.shown)
  | failed (failure : Failure) (ending : feedback.run.ending = .abandoned failure)
      (written : feedback.output =
        Text.lines (feedback.run.printed ++ [Run.report failure]) ++ feedback.session.shown)

theorem Told.not_escaped {feedback : Feedback} (told : feedback.Told) :
    ¬ feedback.run.Escaped := by
  rintro ⟨error, escaped⟩
  rcases told with ⟨ending, -⟩ | ⟨failure, ending, -⟩
  · rcases ending with ending | ending <;> rw [ending] at escaped <;> cases escaped
  · rw [ending] at escaped
    cases escaped

end Feedback

namespace Session

theorem feed_output_of_not_escaped {session : Session} {line : Text}
    (returned : ¬ (session.feed line).run.Escaped) :
    (session.feed line).output =
      Text.lines (session.feed line).run.messages ++ (session.feed line).session.shown := by
  unfold feed at returned ⊢
  simp only
  split
  · rename_i error escaped
    exact absurd ⟨error, escaped⟩ returned
  · rfl

theorem feed_output_of_escaped {session : Session} {line : Text} {error : ConversionError}
    (escaped : (session.feed line).run.ending = .escaped error) :
    (session.feed line).output = [] := by
  unfold feed at escaped ⊢
  simp only at escaped ⊢
  simp only [escaped]

/-- A line is told just if it does not escape. -/
theorem feed_told_iff (session : Session) (line : Text) :
    (session.feed line).Told ↔ ¬ (session.feed line).run.Escaped := by
  refine ⟨Feedback.Told.not_escaped, fun returned => ?_⟩
  have written := feed_output_of_not_escaped returned
  cases ending : (session.feed line).run.ending with
  | completed =>
      rw [Run.messages, ending] at written
      exact .ran (.inl ending) written
  | exited =>
      rw [Run.messages, ending] at written
      exact .ran (.inr ending) written
  | abandoned failure =>
      rw [Run.messages, ending] at written
      exact .failed failure ending written
  | escaped error => exact absurd ⟨error, ending⟩ returned

/-- What comes back for each of some lines, up to and including the first one that exits. -/
def feedbacks (session : Session) : List Text → List Feedback
  | [] => []
  | line :: later =>
    let fed := session.feed line
    match fed.run.ending with
    | .exited => [fed]
    | _ => fed :: feedbacks fed.session later

theorem feedbacks_cons_of_exited {session : Session} {line : Text}
    (exited : (session.feed line).run.ending = .exited) (later : List Text) :
    session.feedbacks (line :: later) = [session.feed line] := by
  simp only [feedbacks, exited]

theorem feedbacks_cons_of_not_exited {session : Session} {line : Text}
    (goesOn : (session.feed line).run.ending ≠ .exited) (later : List Text) :
    session.feedbacks (line :: later) =
      session.feed line :: (session.feed line).session.feedbacks later := by
  rw [feedbacks]
  cases ending : (session.feed line).run.ending with
  | exited => exact absurd ending goesOn
  | completed | abandoned failure | escaped error => rfl

/-- Every feedback is that of a line to some session. -/
theorem mem_feedbacks {session : Session} {lines : List Text} {feedback : Feedback}
    (member : feedback ∈ session.feedbacks lines) :
    ∃ (before : Session) (line : Text), line ∈ lines ∧ feedback = before.feed line := by
  induction lines generalizing session with
  | nil => cases member
  | cons line later ih =>
      by_cases exited : (session.feed line).run.ending = .exited
      · rw [feedbacks_cons_of_exited exited, List.mem_singleton] at member
        exact ⟨session, line, by simp, member⟩
      · rw [feedbacks_cons_of_not_exited exited] at member
        rcases List.mem_cons.mp member with here | below
        · exact ⟨session, line, by simp, here⟩
        · obtain ⟨before, line, among, same⟩ := ih below
          exact ⟨before, line, List.mem_cons_of_mem _ among, same⟩

end Session

namespace CommandLine

/-- What asking for lines writes in the end: the prompt for a line that never came, unless
    the session is over. -/
def closing (feedbacks : List Feedback) : Text :=
  if feedbacks.any (fun feedback => feedback.run.ending = .exited) then [] else prompt ++ ['\n']

/-- A session endures its lines: each line is told, and both ways to run them return, with
    all written out that comes back up to the first line that exits. -/
structure Endures (session : Session) (lines : List Text) : Prop where
  told : ∀ feedback ∈ session.feedbacks lines, feedback.Told
  run_returned : (runLines session lines).conclusion = .returned
  run_output : (runLines session lines).output =
    (session.feedbacks lines).flatMap Feedback.output
  asked_returned : (askLines session lines).conclusion = .returned
  asked_output : (askLines session lines).output =
    (session.feedbacks lines).flatMap (fun feedback => prompt ++ feedback.output) ++
      closing (session.feedbacks lines)

section Lines

variable {session : Session} {line : Text} (told : (session.feed line).Told)
  (goesOn : (session.feed line).run.ending ≠ .exited)

include told goesOn

theorem runLines_cons_of_told (later : List Text) :
    runLines session (line :: later) =
      (runLines (session.feed line).session later).after (session.feed line).output
        (Entry.ofRun line (session.feed line).run) := by
  rw [runLines]
  cases ending : (session.feed line).run.ending with
  | completed | abandoned failure => rfl
  | exited => exact absurd ending goesOn
  | escaped error => exact absurd ⟨error, ending⟩ told.not_escaped

theorem askLines_cons_of_told (later : List Text) :
    askLines session (line :: later) =
      (askLines (session.feed line).session later).after (prompt ++ (session.feed line).output)
        (Entry.ofRun line (session.feed line).run) := by
  rw [askLines, Turn.ofAnswer, Turn.ofLine]
  cases ending : (session.feed line).run.ending with
  | completed | abandoned failure => rfl
  | exited => exact absurd ending goesOn
  | escaped error => exact absurd ⟨error, ending⟩ told.not_escaped

end Lines

theorem askLines_cons_of_exited {session : Session} {line : Text}
    (exited : (session.feed line).run.ending = .exited) (later : List Text) :
    askLines session (line :: later) =
      ⟨prompt ++ (session.feed line).output,
        Entry.ofRun line (session.feed line).run ++ [.sessionOver], .returned⟩ := by
  simp only [askLines, Turn.ofAnswer, Turn.ofLine, exited, Turn.transcript]

theorem askLines_cons_of_escaped {session : Session} {line : Text} {error : ConversionError}
    (escaped : (session.feed line).run.ending = .escaped error) (later : List Text) :
    askLines session (line :: later) =
      ⟨prompt ++ (session.feed line).output, Entry.ofRun line (session.feed line).run,
        .escaped error⟩ := by
  simp only [askLines, Turn.ofAnswer, Turn.ofLine, escaped, Turn.transcript]

namespace Endures

variable {session : Session} {line : Text}

theorem nil (session : Session) : Endures session [] where
  told _ member := by cases member
  run_returned := rfl
  run_output := rfl
  asked_returned := rfl
  asked_output := rfl

/-- The lines behind one that exits do not matter. -/
theorem cons_of_exited (told : (session.feed line).Told)
    (exited : (session.feed line).run.ending = .exited) (later : List Text) :
    Endures session (line :: later) := by
  have fed := Session.feedbacks_cons_of_exited exited later
  constructor
  · simpa only [fed, List.mem_singleton, forall_eq] using told
  · simp only [runLines, exited]
  · simp [runLines, exited, fed]
  · rw [askLines_cons_of_exited exited]
  · simp [askLines_cons_of_exited exited, exited, fed, closing]

/-- A line that is told and does not exit is endured if the later ones are. -/
theorem cons_of_not_exited (told : (session.feed line).Told)
    (goesOn : (session.feed line).run.ending ≠ .exited) {later : List Text}
    (endures : Endures (session.feed line).session later) : Endures session (line :: later) := by
  have fed := Session.feedbacks_cons_of_not_exited goesOn later
  have runs := runLines_cons_of_told told goesOn later
  have asks := askLines_cons_of_told told goesOn later
  constructor
  · rw [fed]
    exact List.forall_mem_cons.mpr ⟨told, endures.told⟩
  · rw [runs]
    exact endures.run_returned
  · simp only [runs, Transcript.after, endures.run_output, fed, List.flatMap_cons]
  · rw [asks]
    exact endures.asked_returned
  · simp [asks, Transcript.after, endures.asked_output, fed, closing, goesOn]

/-- A session endures lines that do not escape. -/
theorem of_none_escaped {lines : List Text}
    (returned : ∀ feedback ∈ session.feedbacks lines, ¬ feedback.run.Escaped) :
    Endures session lines := by
  induction lines generalizing session with
  | nil => exact nil session
  | cons line later ih =>
      by_cases exited : (session.feed line).run.ending = .exited
      · rw [Session.feedbacks_cons_of_exited exited] at returned
        exact cons_of_exited ((session.feed_told_iff line).mpr (returned _ (by simp))) exited later
      · rw [Session.feedbacks_cons_of_not_exited exited, List.forall_mem_cons] at returned
        exact cons_of_not_exited ((session.feed_told_iff line).mpr returned.1) exited
          (ih returned.2)

end Endures

/-- A session endures its lines just if none of them, up to the first one that exits, tries a
    number word with a Turkish letter. -/
theorem endures_iff (session : Session) (lines : List Text) :
    Endures session lines ↔
      ∀ feedback ∈ session.feedbacks lines, ∀ token ∈ feedback.run.tried, ¬ token.Unreadable := by
  have escapes : ∀ feedback ∈ session.feedbacks lines,
      (feedback.run.Escaped ↔ ∃ token ∈ feedback.run.tried, token.Unreadable) := by
    intro feedback member
    obtain ⟨before, line, -, rfl⟩ := Session.mem_feedbacks member
    exact Run.escaped_iff before.machine.vocabulary line before.state
  constructor
  · intro endures feedback member token tried unreadable
    refine (endures.told feedback member).not_escaped ?_
    exact (escapes feedback member).mpr ⟨token, tried, unreadable⟩
  · intro readable
    refine Endures.of_none_escaped fun feedback member escaped => ?_
    obtain ⟨token, tried, unreadable⟩ := (escapes feedback member).mp escaped
    exact readable feedback member token tried unreadable

/-- A session that is asked to show a number and then to read an infinity with a dotless `i`:
    the number is printed but never written out, and the session does not endure the line. -/
theorem not_endures_dotless :
    let session := Session.start true
    let line := "5 print -\u0131nf".toList
    (session.feed line).run.printed = ["5.0".toList] ∧ (session.feed line).output = [] ∧
      (session.feed line).run.ending = .escaped (.notNumeral "-\u0131nf".toList) ∧
      ¬ Endures session [line] := by
  intro session line
  have run : (session.feed line).run = Run.ofTokens Vocabulary.standard
      (Token.ofWords (Words.split line)) State.initial := Run.ofLine_eq _ _ _
  have escaped : (session.feed line).run.ending = .escaped (.notNumeral "-\u0131nf".toList) := by
    rw [run]
    decide +kernel
  refine ⟨?_, ?_, escaped, fun endures => ?_⟩
  · rw [run]
    decide +kernel
  · exact Session.feed_output_of_escaped escaped
  · have goesOn : (session.feed line).run.ending ≠ .exited := by simp [escaped]
    have told := endures.told (session.feed line)
      (by simp [Session.feedbacks_cons_of_not_exited goesOn])
    exact told.not_escaped ⟨_, escaped⟩

end CommandLine

end ReversePolish
