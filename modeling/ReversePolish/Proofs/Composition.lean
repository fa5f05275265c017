import ReversePolish.Machine
import ReversePolish.Proofs.Words

/-! # Lines compose

A line that is put behind another one, with blanks between them, is run where the other one
ends.  If the first line comes to its end, the whole line goes on as the second line does in
the state that the first one left; if the first line stops early, the second one is never
reached.

Both halves rest on the same fact about tokens (`Run.ofTokens_append_of_completed`,
`Run.ofTokens_append_of_stopped`), by induction on the tokens in front.
-/

namespace ReversePolish

namespace Run

/-- A run followed by another one. -/
def andThen (first second : Run) : Run where
  state := second.state
  printed := first.printed ++ second.printed
  tried := first.tried ++ second.tried
  ending := second.ending

/-- Where no failure abandoned the line, the messages are what was printed. -/
theorem messages_of_not_abandoned {run : Run}
    (goesThrough : ∀ failure, run.ending ≠ .abandoned failure) : run.messages = run.printed := by
  unfold messages
  split
  · rename_i failure abandoned
    exact absurd abandoned (goesThrough failure)
  · rfl

theorem messages_of_abandoned {run : Run} {failure : Failure}
    (abandoned : run.ending = .abandoned failure) :
    run.messages = run.printed ++ [report failure] := by
  rw [messages, abandoned]

theorem messages_andThen (first second : Run) :
    (first.andThen second).messages = first.printed ++ second.messages := by
  unfold messages andThen
  cases second.ending <;> simp

section Tokens

variable {vocabulary : Vocabulary} {state : State}

theorem ofTokens_cons_of_completed {token : Token}
    (completed : (token.effect vocabulary state).ending = .completed) (later : List Token) :
    ofTokens vocabulary (token :: later) state =
      andThen ⟨(token.effect vocabulary state).state, (token.effect vocabulary state).printed,
        [token], .completed⟩ (ofTokens vocabulary later (token.effect vocabulary state).state) := by
  simp only [ofTokens, completed]
  rfl

theorem ofTokens_cons_of_stopped {token : Token}
    (stopped : (token.effect vocabulary state).ending ≠ .completed) (later : List Token) :
    ofTokens vocabulary (token :: later) state =
      ⟨(token.effect vocabulary state).state, (token.effect vocabulary state).printed, [token],
        (token.effect vocabulary state).ending⟩ := by
  rw [ofTokens]
  cases ending : (token.effect vocabulary state).ending with
  | completed => exact absurd ending stopped
  | exited | abandoned failure | escaped error => rfl

/-- Where the tokens in front come to their end, the run goes on in the state they leave. -/
theorem ofTokens_append_of_completed {before : List Token}
    (completed : (ofTokens vocabulary before state).ending = .completed) (after : List Token) :
    ofTokens vocabulary (before ++ after) state =
      (ofTokens vocabulary before state).andThen
        (ofTokens vocabulary after (ofTokens vocabulary before state).state) := by
  induction before generalizing state with
  | nil => rfl
  | cons token before ih =>
      by_cases first : (token.effect vocabulary state).ending = .completed
      · rw [ofTokens_cons_of_completed first] at completed ⊢
        rw [List.cons_append, ofTokens_cons_of_completed first, ih completed]
        simp only [andThen, List.append_assoc]
      · rw [ofTokens_cons_of_stopped first] at completed
        exact absurd completed first

/-- Where the tokens in front stop early, those behind them are not reached. -/
theorem ofTokens_append_of_stopped {before : List Token}
    (stopped : (ofTokens vocabulary before state).ending ≠ .completed) (after : List Token) :
    ofTokens vocabulary (before ++ after) state = ofTokens vocabulary before state := by
  induction before generalizing state with
  | nil => exact absurd rfl stopped
  | cons token before ih =>
      by_cases first : (token.effect vocabulary state).ending = .completed
      · rw [ofTokens_cons_of_completed first] at stopped ⊢
        rw [List.cons_append, ofTokens_cons_of_completed first, ih stopped]
      · rw [List.cons_append, ofTokens_cons_of_stopped first, ofTokens_cons_of_stopped first]

end Tokens

theorem ofLine_eq (vocabulary : Vocabulary) (line : Text) (state : State) :
    ofLine vocabulary line state =
      ofTokens vocabulary (Token.ofWords (Words.split line)) state := by
  rw [ofLine, Cursor.words_start]

section Lines

variable {vocabulary : Vocabulary} {state : State} {before blanks : Text}

/-- Two lines with blanks between them have the tokens of the one and then those of the
    other. -/
theorem ofLine_append (some_blank : blanks ≠ []) (blank : ∀ c ∈ blanks, Unicode.isBlank c = true)
    (before after : Text) :
    ofLine vocabulary (before ++ blanks ++ after) state =
      ofTokens vocabulary
        (Token.ofWords (Words.split before) ++ Token.ofWords (Words.split after)) state := by
  rw [ofLine_eq, Words.split_append some_blank blank]
  simp only [Token.ofWords, List.map_append]

theorem ofLine_append_of_completed (some_blank : blanks ≠ [])
    (blank : ∀ c ∈ blanks, Unicode.isBlank c = true)
    (completed : (ofLine vocabulary before state).ending = .completed) (after : Text) :
    ofLine vocabulary (before ++ blanks ++ after) state =
      (ofLine vocabulary before state).andThen
        (ofLine vocabulary after (ofLine vocabulary before state).state) := by
  rw [ofLine_append some_blank blank]
  simp only [ofLine_eq] at completed ⊢
  exact ofTokens_append_of_completed completed _

theorem ofLine_append_of_stopped (some_blank : blanks ≠ [])
    (blank : ∀ c ∈ blanks, Unicode.isBlank c = true)
    (stopped : (ofLine vocabulary before state).ending ≠ .completed) (after : Text) :
    ofLine vocabulary (before ++ blanks ++ after) state = ofLine vocabulary before state := by
  rw [ofLine_append some_blank blank]
  simp only [ofLine_eq] at stopped ⊢
  exact ofTokens_append_of_stopped stopped _

end Lines

end Run

namespace Machine

/-- What becomes of a machine and a state depends on the run of the line alone. -/
theorem processLine_congr {machine : Machine} {line other : Text} {state : State}
    (same : Run.ofLine machine.vocabulary line state = Run.ofLine machine.vocabulary other state) :
    machine.processLine line state = machine.processLine other state := by
  simp only [processLine, same]

/-- A line `before`, then blanks, then a line `after`: if `before` comes to its end, the state,
    the running flag and the way to end are those of `after` in the state that `before` left,
    and its messages follow those of `before`.  If `before` stops early, by a failure, by an
    exit or by an escaping conversion, then all is as if `after` were not there. -/
theorem processLine_append (machine : Machine) (before blanks after : Text) (state : State)
    (some_blank : blanks ≠ []) (blank : ∀ c ∈ blanks, Unicode.isBlank c = true) :
    let whole := machine.processLine (before ++ blanks ++ after) state
    let first := machine.processLine before state
    let second := first.1.processLine after first.2.state
    (first.2.ending = .completed →
      whole.2.state = second.2.state ∧ whole.2.ending = second.2.ending ∧
        whole.1.messages = first.1.messages ++ second.1.messages ∧
        whole.1.running = second.1.running) ∧
      (first.2.ending ≠ .completed → whole = first) := by
  intro whole first second
  constructor
  · intro completed
    have wholeRun : whole.2 = first.2.andThen second.2 :=
      Run.ofLine_append_of_completed some_blank blank completed after
    have wholeMessages : whole.1.messages = whole.2.messages := rfl
    refine ⟨by rw [wholeRun]; rfl, by rw [wholeRun]; rfl, ?_, ?_⟩
    · have firstMessages : first.1.messages = first.2.printed :=
        Run.messages_of_not_abandoned fun _ abandoned =>
          Ending.noConfusion (completed.symm.trans abandoned)
      rw [wholeMessages, wholeRun, Run.messages_andThen, firstMessages]
      rfl
    · have wholeRunning : whole.1.running = whole.2.goesOn := rfl
      rw [wholeRunning, wholeRun]
      rfl
  · intro stopped
    have wholeRun : whole.2 = first.2 :=
      Run.ofLine_append_of_stopped some_blank blank stopped after
    exact processLine_congr wholeRun

/-- The second line follows a line that prints, behind a no-break space, and fails itself. -/
theorem processLine_append_failing :
    let before := "1 2 print x".toList
    let blanks := [' ', '\u00A0', '\n']
    let after := "print + exit".toList
    let whole := Machine.fresh.processLine (before ++ blanks ++ after) State.initial
    let first := Machine.fresh.processLine before State.initial
    let second := first.1.processLine after first.2.state
    blanks ≠ [] ∧ (∀ c ∈ blanks, Unicode.isBlank c = true) ∧ first.2.ending = .completed ∧
      whole.1.messages = first.1.messages ++ second.1.messages ∧
      second.1.messages = [['x'], "? insufficient values for + (need 2, have 1)".toList] := by
  intro before blanks after whole first second
  have some_blank : blanks ≠ [] := by decide
  have blank : ∀ c ∈ blanks, Unicode.isBlank c = true := by decide
  have completed : first.2.ending = .completed := by
    simp only [first, processLine, Run.ofLine_eq]
    decide +kernel
  have laws := processLine_append Machine.fresh before blanks after State.initial some_blank blank
  refine ⟨some_blank, blank, completed, (laws.1 completed).2.2.1, ?_⟩
  simp only [second, first, processLine, Run.ofLine_eq]
  decide +kernel

end Machine

end ReversePolish
