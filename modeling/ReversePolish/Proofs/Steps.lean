import ReversePolish.Proofs.Composition

/-! # The steps of a run

A run is made of steps: a token that is tried, the state it meets, and its effect.  What is to be
shown of a run is shown of its steps.  Two runs of the same tokens are alike if each step of
the one is matched by what its token does to any state related to the one the step met
(`Run.related_of_steps`); this is the one induction on tokens behind all comparisons of runs.
-/

namespace ReversePolish

structure Step where
  token : Token
  before : State
  effect : Effect

/-- The step that a token takes from a state. -/
def Step.take (vocabulary : Vocabulary) (token : Token) (state : State) : Step :=
  ⟨token, state, token.effect vocabulary state⟩

/-- The state that steps lead to. -/
def State.after (state : State) (steps : List Step) : State :=
  steps.foldl (fun _ step => step.effect.state) state

theorem Token.ofWords_cons (word : Text) (words : List Text) :
    ofWords (word :: words) = ofWord word :: ofWords words := rfl

namespace Run

/-- The steps of a run, one for each token that is tried. -/
def steps (vocabulary : Vocabulary) : List Token → State → List Step
  | [], _ => []
  | token :: later, state =>
    let step := Step.take vocabulary token state
    step :: match step.effect.ending with
      | .completed => steps vocabulary later step.effect.state
      | _ => []

section Steps

variable {vocabulary : Vocabulary} {token : Token} {state : State}

theorem steps_cons_of_completed (completed : (token.effect vocabulary state).ending = .completed)
    (later : List Token) :
    steps vocabulary (token :: later) state =
      .take vocabulary token state ::
        steps vocabulary later (token.effect vocabulary state).state := by
  simp only [steps, Step.take, completed]

theorem steps_cons_of_stopped (stopped : (token.effect vocabulary state).ending ≠ .completed)
    (later : List Token) :
    steps vocabulary (token :: later) state = [.take vocabulary token state] := by
  rw [steps, Step.take]
  cases ending : (token.effect vocabulary state).ending with
  | completed => exact absurd ending stopped
  | exited | abandoned failure | escaped error => rfl

/-- The steps are those of the tokens that the run tries. -/
theorem map_token_steps (tokens : List Token) (state : State) :
    (steps vocabulary tokens state).map Step.token = (ofTokens vocabulary tokens state).tried := by
  induction tokens generalizing state with
  | nil => rfl
  | cons token later ih =>
      by_cases completed : (token.effect vocabulary state).ending = .completed
      · rw [steps_cons_of_completed completed, ofTokens_cons_of_completed completed, List.map_cons,
          ih]
        rfl
      · rw [steps_cons_of_stopped completed, ofTokens_cons_of_stopped completed]
        rfl

/-- The steps lead to the state that the run leaves. -/
theorem after_steps (tokens : List Token) (state : State) :
    state.after (steps vocabulary tokens state) = (ofTokens vocabulary tokens state).state := by
  induction tokens generalizing state with
  | nil => rfl
  | cons token later ih =>
      by_cases completed : (token.effect vocabulary state).ending = .completed
      · rw [steps_cons_of_completed completed, ofTokens_cons_of_completed completed]
        exact ih _
      · rw [steps_cons_of_stopped completed, ofTokens_cons_of_stopped completed]
        rfl

theorem mem_steps {tokens : List Token} {step : Step}
    (member : step ∈ steps vocabulary tokens state) :
    ∃ token ∈ tokens, ∃ before, step = .take vocabulary token before := by
  induction tokens generalizing state with
  | nil => cases member
  | cons token later ih =>
      by_cases completed : (token.effect vocabulary state).ending = .completed
      · rw [steps_cons_of_completed completed] at member
        rcases List.mem_cons.mp member with rfl | below
        · exact ⟨token, List.mem_cons_self .., state, rfl⟩
        · obtain ⟨other, among, taken⟩ := ih below
          exact ⟨other, List.mem_cons_of_mem _ among, taken⟩
      · rw [steps_cons_of_stopped completed, List.mem_singleton] at member
        exact ⟨token, List.mem_cons_self .., state, member⟩

/-- A step that does not complete is the last one, and the run ends as it does. -/
theorem ending_of_mem_steps {tokens : List Token} {step : Step}
    (member : step ∈ steps vocabulary tokens state) (stopped : step.effect.ending ≠ .completed) :
    (ofTokens vocabulary tokens state).ending = step.effect.ending := by
  induction tokens generalizing state with
  | nil => cases member
  | cons token later ih =>
      by_cases completed : (token.effect vocabulary state).ending = .completed
      · rw [steps_cons_of_completed completed] at member
        rw [ofTokens_cons_of_completed completed]
        rcases List.mem_cons.mp member with rfl | below
        · exact absurd completed stopped
        · exact ih below
      · rw [steps_cons_of_stopped completed, List.mem_singleton] at member
        rw [ofTokens_cons_of_stopped completed, member]
        rfl

/-- A run that does not complete ends as its last step does. -/
theorem getLast?_steps {tokens : List Token}
    (stopped : (ofTokens vocabulary tokens state).ending ≠ .completed) :
    ∃ step, (steps vocabulary tokens state).getLast? = some step ∧
      step.effect.ending = (ofTokens vocabulary tokens state).ending := by
  induction tokens generalizing state with
  | nil => exact absurd rfl stopped
  | cons token later ih =>
      by_cases completed : (token.effect vocabulary state).ending = .completed
      · rw [ofTokens_cons_of_completed completed] at stopped ⊢
        obtain ⟨step, last, ending⟩ := ih stopped
        refine ⟨step, ?_, ending⟩
        rw [steps_cons_of_completed completed, List.getLast?_cons, last]
        rfl
      · rw [steps_cons_of_stopped completed, ofTokens_cons_of_stopped completed]
        exact ⟨_, rfl, rfl⟩

/-- What is printed at the steps, one after the other, is what the run prints. -/
theorem flatMap_printed_steps (tokens : List Token) (state : State) :
    (steps vocabulary tokens state).flatMap (·.effect.printed) =
      (ofTokens vocabulary tokens state).printed := by
  induction tokens generalizing state with
  | nil => rfl
  | cons token later ih =>
      by_cases completed : (token.effect vocabulary state).ending = .completed
      · rw [steps_cons_of_completed completed, ofTokens_cons_of_completed completed,
          List.flatMap_cons, ih]
        rfl
      · rw [steps_cons_of_stopped completed, ofTokens_cons_of_stopped completed,
          List.flatMap_singleton]
        rfl

/-- What holds at the start and is kept by the tokens holds before every step. -/
theorem before_of_mem_steps {holds : State → Prop} {tokens : List Token} (start : holds state)
    (kept : ∀ token ∈ tokens, ∀ before, holds before →
      holds (token.effect vocabulary before).state)
    {step : Step} (member : step ∈ steps vocabulary tokens state) : holds step.before := by
  induction tokens generalizing state with
  | nil => cases member
  | cons token later ih =>
      by_cases completed : (token.effect vocabulary state).ending = .completed
      · rw [steps_cons_of_completed completed] at member
        rcases List.mem_cons.mp member with rfl | below
        · exact start
        · exact ih (kept token (List.mem_cons_self ..) state start)
            (fun token among => kept token (List.mem_cons_of_mem _ among)) below
      · rw [steps_cons_of_stopped completed, List.mem_singleton] at member
        rw [member]
        exact start

end Steps

end Run

/-- Two effects that differ in their states only, and these are related. -/
structure Effect.Related (R : State → State → Prop) (first second : Effect) : Prop where
  printed : first.printed = second.printed
  ending : first.ending = second.ending
  state : R first.state second.state

namespace Run

/-- Two runs that differ in their states only, and these are related. -/
structure Related (R : State → State → Prop) (first second : Run) : Prop where
  tried : first.tried = second.tried
  printed : first.printed = second.printed
  ending : first.ending = second.ending
  state : R first.state second.state

variable {R : State → State → Prop}

theorem Related.messages {first second : Run} (related : Related R first second) :
    first.messages = second.messages := by
  simp only [Run.messages, related.printed, related.ending]

theorem Related.goesOn {first second : Run} (related : Related R first second) :
    first.goesOn = second.goesOn := by
  simp only [Run.goesOn, related.ending]

/-- Runs of the same tokens on related states are alike if the second one can match each step
    of the first one from whatever state it may then be in. -/
theorem related_of_steps {vocabulary : Vocabulary} {tokens : List Token} {first second : State}
    (start : R first second)
    (matched : ∀ step ∈ steps vocabulary tokens first, ∀ other, R step.before other →
      Effect.Related R step.effect (step.token.effect vocabulary other)) :
    Related R (ofTokens vocabulary tokens first) (ofTokens vocabulary tokens second) := by
  induction tokens generalizing first second with
  | nil => exact ⟨rfl, rfl, rfl, start⟩
  | cons token later ih =>
      have here : Effect.Related R (token.effect vocabulary first)
          (token.effect vocabulary second) :=
        matched (.take vocabulary token first) (List.mem_cons_self ..) second start
      by_cases completed : (token.effect vocabulary first).ending = .completed
      · have alsoCompleted : (token.effect vocabulary second).ending = .completed :=
          here.ending ▸ completed
        rw [steps_cons_of_completed completed] at matched
        have rest := ih here.state fun step member => matched step (List.mem_cons_of_mem _ member)
        rw [ofTokens_cons_of_completed completed, ofTokens_cons_of_completed alsoCompleted]
        constructor
        · simp only [andThen, rest.tried]
        · simp only [andThen, here.printed, rest.printed]
        · exact rest.ending
        · exact rest.state
      · have alsoStopped : (token.effect vocabulary second).ending ≠ .completed :=
          here.ending ▸ completed
        rw [ofTokens_cons_of_stopped completed, ofTokens_cons_of_stopped alsoStopped]
        exact ⟨rfl, here.printed, here.ending, here.state⟩

end Run

namespace Machine

/-- The steps that a machine takes on a line. -/
def steps (machine : Machine) (line : Text) (state : State) : List Step :=
  Run.steps machine.vocabulary (Token.ofWords (Words.split line)) state

section Steps

variable {machine : Machine} {line : Text} {state : State} {step : Step}

theorem processLine_snd (machine : Machine) (line : Text) (state : State) :
    (machine.processLine line state).2 =
      Run.ofTokens machine.vocabulary (Token.ofWords (Words.split line)) state :=
  Run.ofLine_eq _ _ _

theorem processLine_messages (machine : Machine) (line : Text) (state : State) :
    (machine.processLine line state).1.messages = (machine.processLine line state).2.messages := rfl

theorem map_token_steps (machine : Machine) (line : Text) (state : State) :
    (machine.steps line state).map Step.token = (machine.processLine line state).2.tried := by
  rw [processLine_snd]
  exact Run.map_token_steps _ _

theorem after_steps (machine : Machine) (line : Text) (state : State) :
    state.after (machine.steps line state) = (machine.processLine line state).2.state := by
  rw [processLine_snd]
  exact Run.after_steps _ _

theorem mem_steps (member : step ∈ machine.steps line state) :
    ∃ word ∈ Words.split line, ∃ before, step = .take machine.vocabulary (.ofWord word) before := by
  obtain ⟨token, among, before, taken⟩ := Run.mem_steps member
  obtain ⟨word, known, rfl⟩ := List.mem_map.mp among
  exact ⟨word, known, before, taken⟩

theorem ending_of_mem_steps (member : step ∈ machine.steps line state)
    (stopped : step.effect.ending ≠ .completed) :
    (machine.processLine line state).2.ending = step.effect.ending := by
  rw [processLine_snd]
  exact Run.ending_of_mem_steps member stopped

theorem getLast?_steps (stopped : (machine.processLine line state).2.ending ≠ .completed) :
    ∃ step, (machine.steps line state).getLast? = some step ∧
      step.effect.ending = (machine.processLine line state).2.ending := by
  rw [processLine_snd] at stopped ⊢
  exact Run.getLast?_steps stopped

theorem flatMap_printed_steps (machine : Machine) (line : Text) (state : State) :
    (machine.steps line state).flatMap (·.effect.printed) =
      (machine.processLine line state).2.printed := by
  rw [processLine_snd]
  exact Run.flatMap_printed_steps _ _

end Steps

section Related

variable {R : State → State → Prop} {machine : Machine} {line : Text} {first second : State}

theorem related_of_steps (start : R first second)
    (matched : ∀ step ∈ machine.steps line first, ∀ other, R step.before other →
      Effect.Related R step.effect (step.token.effect machine.vocabulary other)) :
    Run.Related R (machine.processLine line first).2 (machine.processLine line second).2 := by
  rw [processLine_snd, processLine_snd]
  exact Run.related_of_steps start matched

end Related

end Machine

end ReversePolish
