import ReversePolish.Proofs.Actions
import ReversePolish.Proofs.Atomicity
import ReversePolish.Proofs.Dump
import ReversePolish.Proofs.Steps

/-! # Variables and the past

The values of variables are what the past has made of them.  All that has ever been carried out
is a history of steps (`State.history`), and of its steps only assignments that succeed and
`reset` touch a variable.  So a variable has the value of the latest assignment to it, if no
`reset` came after.  What holds after a history is found by one induction (`Follow.holds_iff`)
from what one step does.
-/

namespace ReversePolish

/-- A cell has a value: a number has its own, and a variable the one that it is bound to. -/
inductive Bindings.Gives (bindings : Bindings) : Cell → Double → Prop where
  | number (value : Double) : Gives bindings (.number value) value
  | named {name : Text} {value : Double} (bound : bindings.get? name = some value) :
    Gives bindings (.named name) value

theorem Bindings.valueOf_eq_ok_iff {bindings : Bindings} {cell : Cell} {value : Double} :
    bindings.valueOf cell = .ok value ↔ bindings.Gives cell value := by
  constructor
  · intro found
    cases cell with
    | number own =>
        cases found
        exact .number value
    | named name =>
        cases bound : bindings.get? name with
        | none => simp [valueOf, bound] at found
        | some known =>
            simp only [valueOf, bound, Except.ok.injEq] at found
            exact .named (found ▸ bound)
  · intro gives
    cases gives with
    | number => rfl
    | named bound => simp only [valueOf, bound]

theorem Bindings.Gives.unique {bindings : Bindings} {cell : Cell} {value other : Double}
    (gives : bindings.Gives cell value) (also : bindings.Gives cell other) : other = value := by
  have found := valueOf_eq_ok_iff.mpr gives
  rw [valueOf_eq_ok_iff.mpr also] at found
  exact Except.ok.inj found

namespace State

theorem assignTop_of_gives {state : State} {target : Text} {source : Cell} {rest : Stack}
    {value : Double} (operands : state.stack = .named target :: source :: rest)
    (gives : state.bindings.Gives source value) :
    state.assignTop = .done ⟨rest, state.bindings.set target value⟩ := by
  simp only [assignTop, operands, Bindings.valueOf_eq_ok_iff.mpr gives]

/-- An assignment succeeds if a variable lies on top of a cell that has a value. -/
theorem assignTop_completed_iff {state : State} :
    state.assignTop.ending = .completed ↔ ∃ target source rest value,
      state.stack = .named target :: source :: rest ∧ state.bindings.Gives source value := by
  constructor
  · intro completed
    obtain ⟨stack, bindings⟩ := state
    match stack with
    | [] | [.number _] | [.named _] | .number _ :: _ :: _ => cases completed
    | .named target :: source :: rest =>
        cases found : bindings.valueOf source with
        | error failure =>
            simp only [assignTop, found] at completed
            cases completed
        | ok value => exact ⟨target, source, rest, value, rfl, Bindings.valueOf_eq_ok_iff.mp found⟩
  · rintro ⟨target, source, rest, value, operands, gives⟩
    rw [assignTop_of_gives operands gives]
    rfl

/-- An assignment that fails leaves the variables alone. -/
theorem assignTop_bindings {state : State} (fails : state.assignTop.ending ≠ .completed) :
    state.assignTop.state.bindings = state.bindings := by
  have regular := state.assignTop_regular
  generalize state.assignTop = effect at fails regular ⊢
  cases regular with
  | carriedOut completed => exact absurd completed fails
  | exited => rfl
  | failed failure => rfl

end State

/-- Apart from assignments and `reset`, no action touches a variable. -/
theorem Action.bindings_effect {action : Action} (noAssignment : action ≠ .assign)
    (noReset : action ≠ .act .reset) (state : State) :
    (action.effect state).state.bindings = state.bindings := by
  have outcome := action.outcome_effect state
  generalize action.effect state = effect at outcome ⊢
  cases outcome with
  | assigned => exact absurd rfl noAssignment
  | reset => exact absurd rfl noReset
  | restacked | failed | printed | exited | escaped => rfl

namespace Step

/-- The step is an assignment that succeeds: the target on top gets the value that the cell
    beneath it has at that moment. -/
structure Assigns (step : Step) (target : Text) (value : Double) : Prop where
  word : step.token.word = ['=']
  completed : step.effect.ending = .completed
  operands : ∃ source rest, step.before.stack = .named target :: source :: rest ∧
    step.before.bindings.Gives source value

def Resets (step : Step) : Prop := step.token.word = Keyword.reset.word

/-- The step does away with the value that the variable had. -/
def Rebinds (step : Step) (name : Text) : Prop := step.Resets ∨ ∃ value, step.Assigns name value

/-- The step is what a word does to the state that it meets. -/
inductive Taken : Step → Prop where
  | ofWord (vocabulary : Vocabulary) (word : Text) (before : State) :
    Taken (take vocabulary (.ofWord word) before)

variable {step : Step}

theorem Assigns.not_resets {target : Text} {value : Double} (assigns : step.Assigns target value) :
    ¬ step.Resets := by
  intro resets
  have same : ['='] = Keyword.reset.word := assigns.word.symm.trans resets
  revert same
  decide

theorem Assigns.unique {target name : Text} {given value : Double}
    (assigns : step.Assigns target given) (also : step.Assigns name value) :
    name = target ∧ value = given := by
  obtain ⟨-, -, source, rest, operands, gives⟩ := assigns
  obtain ⟨-, -, otherSource, otherRest, otherOperands, otherGives⟩ := also
  rw [operands] at otherOperands
  cases otherOperands
  exact ⟨rfl, gives.unique otherGives⟩

namespace Taken

theorem effect_of_assignment (taken : step.Taken) (assignment : step.token.word = ['=']) :
    step.effect = step.before.assignTop := by
  cases taken with
  | ofWord vocabulary word before =>
      obtain rfl : word = ['='] := assignment
      rw [take, Token.effect_eq_action, Token.action_eq_assign_iff.mpr rfl]
      rfl

theorem effect_of_resets (taken : step.Taken) (resets : step.Resets) :
    step.effect = .done State.initial := by
  cases taken with
  | ofWord vocabulary word before =>
      obtain rfl : word = Keyword.reset.word := resets
      rw [take, Token.effect_eq_action, Token.action_eq_act_iff.mpr rfl]
      rfl

/-- The word `=` assigns if a variable lies on top of a cell that has a value. -/
theorem completed_iff (taken : step.Taken) (assignment : step.token.word = ['=']) :
    step.effect.ending = .completed ↔
      ∃ target source rest value, step.before.stack = .named target :: source :: rest ∧
        step.before.bindings.Gives source value := by
  rw [taken.effect_of_assignment assignment]
  exact State.assignTop_completed_iff

theorem bindings_of_assigns (taken : step.Taken) {target : Text} {value : Double}
    (assigns : step.Assigns target value) :
    step.effect.state.bindings = step.before.bindings.set target value := by
  obtain ⟨source, rest, operands, gives⟩ := assigns.operands
  rw [taken.effect_of_assignment assigns.word, State.assignTop_of_gives operands gives]
  rfl

/-- A step that is no assignment, or one that fails, and no `reset` leaves all variables alone. -/
theorem bindings_unchanged (taken : step.Taken)
    (noAssignment : ∀ target value, ¬ step.Assigns target value) (noReset : ¬ step.Resets) :
    step.effect.state.bindings = step.before.bindings := by
  by_cases assignment : step.token.word = ['=']
  · have fails : step.effect.ending ≠ .completed := by
      intro completed
      obtain ⟨target, source, rest, value, operands, gives⟩ :=
        (taken.completed_iff assignment).mp completed
      exact noAssignment target value ⟨assignment, completed, source, rest, operands, gives⟩
    rw [taken.effect_of_assignment assignment] at fails ⊢
    exact State.assignTop_bindings fails
  · cases taken with
    | ofWord vocabulary word before =>
        rw [take, Token.effect_eq_action]
        apply Action.bindings_effect
        · intro assigns
          exact assignment (Token.action_eq_assign_iff.mp assigns)
        · intro resets
          exact noReset (Token.action_eq_act_iff.mp resets)

/-- A variable has a value after a step if the step assigns it, or if the variable had it before
    and the step did not do away with it. -/
theorem get?_eq_some_iff (taken : step.Taken) {name : Text} {value : Double} :
    step.effect.state.bindings.get? name = some value ↔
      step.Assigns name value ∨
        step.before.bindings.get? name = some value ∧ ¬ step.Rebinds name := by
  by_cases resets : step.Resets
  · rw [taken.effect_of_resets resets]
    constructor
    · intro found
      cases found
    · rintro (assigns | ⟨-, stays⟩)
      · exact absurd resets assigns.not_resets
      · exact absurd (.inl resets) stays
  · by_cases assignment : ∃ target given, step.Assigns target given
    · obtain ⟨target, given, assigns⟩ := assignment
      rw [taken.bindings_of_assigns assigns, NameTable.get?_set]
      by_cases same : name = target
      · subst same
        rw [if_pos rfl, Option.some.injEq]
        constructor
        · rintro rfl
          exact .inl assigns
        · rintro (also | ⟨-, stays⟩)
          · exact (assigns.unique also).2.symm
          · exact absurd (.inr ⟨given, assigns⟩) stays
      · rw [if_neg same]
        have others : ∀ value, ¬ step.Assigns name value :=
          fun value also => same (assigns.unique also).1
        simp only [others, Rebinds, resets, exists_false, or_false, false_or, not_false_eq_true,
          and_true]
    · have none : ∀ target value, ¬ step.Assigns target value :=
        fun target value assigns => assignment ⟨target, value, assigns⟩
      rw [taken.bindings_unchanged none resets]
      simp only [none, Rebinds, resets, exists_false, or_false, false_or, not_false_eq_true,
        and_true]

/-- A variable is bound after a step if the step assigns it, or if it was bound before and the
    step is no `reset`. -/
theorem contains_iff (taken : step.Taken) {name : Text} :
    step.effect.state.bindings.contains name = true ↔
      (∃ value, step.Assigns name value) ∨
        step.before.bindings.contains name = true ∧ ¬ step.Resets := by
  simp only [NameTable.contains, Option.isSome_iff_exists, taken.get?_eq_some_iff]
  constructor
  · rintro ⟨value, assigns | ⟨known, stays⟩⟩
    · exact .inl ⟨value, assigns⟩
    · exact .inr ⟨⟨value, known⟩, fun resets => stays (.inl resets)⟩
  · rintro (⟨value, assigns⟩ | ⟨⟨value, known⟩, noReset⟩)
    · exact ⟨value, .inl assigns⟩
    · by_cases again : ∃ other, step.Assigns name other
      · obtain ⟨other, assigns⟩ := again
        exact ⟨other, .inl assigns⟩
      · exact ⟨value, .inr ⟨known, fun rebinds => rebinds.elim noReset again⟩⟩

end Taken

end Step

/-- Some step is such as is asked for, and no step after it undoes what it did. -/
inductive Since (asked undoes : Step → Prop) : List Step → Prop where
  | here {step : Step} {later : List Step} (done : asked step)
    (stays : ∀ next ∈ later, ¬ undoes next) : Since asked undoes (step :: later)
  | later {step : Step} {later : List Step} (since : Since asked undoes later) :
    Since asked undoes (step :: later)

theorem since_cons_iff {asked undoes : Step → Prop} {step : Step} {later : List Step} :
    Since asked undoes (step :: later) ↔
      Since asked undoes later ∨ asked step ∧ ∀ next ∈ later, ¬ undoes next := by
  constructor
  · intro since
    cases since with
    | here done stays => exact .inr ⟨done, stays⟩
    | later since => exact .inl since
  · rintro (since | ⟨done, stays⟩)
    · exact .later since
    · exact .here done stays

/-- Steps that words take one after the other, each from the state that the one before left. -/
inductive Follow : State → List Step → Prop where
  | nil {state : State} : Follow state []
  | cons {step : Step} {later : List Step} (taken : step.Taken)
    (follow : Follow step.effect.state later) : Follow step.before (step :: later)

namespace State

theorem after_append (state : State) (first later : List Step) :
    state.after (first ++ later) = (state.after first).after later :=
  List.foldl_append

/-- All steps that lines take one after the other, whatever way each of them ends. -/
def history (state : State) : List (Machine × Text) → List Step
  | [] => []
  | line :: lines =>
    line.1.steps line.2 state ++ history (line.1.processLine line.2 state).2.state lines

theorem after_history (state : State) (lines : List (Machine × Text)) :
    state.after (state.history lines) = state.afterLines lines := by
  induction lines generalizing state with
  | nil => rfl
  | cons line lines ih =>
      rw [history, after_append, Machine.after_steps, ih]
      rfl

end State

theorem follow_append_iff {state : State} {first later : List Step} :
    Follow state (first ++ later) ↔ Follow state first ∧ Follow (state.after first) later := by
  constructor
  · intro follow
    induction first generalizing state with
    | nil => exact ⟨.nil, follow⟩
    | cons step first ih =>
        cases follow with
        | cons taken follow =>
            obtain ⟨front, back⟩ := ih follow
            exact ⟨.cons taken front, back⟩
  · rintro ⟨front, back⟩
    induction front with
    | nil => exact back
    | cons taken front ih => exact .cons taken (ih back)

namespace Follow

theorem run_steps (vocabulary : Vocabulary) (words : List Text) (state : State) :
    Follow state (Run.steps vocabulary (Token.ofWords words) state) := by
  induction words generalizing state with
  | nil => exact .nil
  | cons word words ih =>
      rw [Token.ofWords_cons]
      by_cases completed : ((Token.ofWord word).effect vocabulary state).ending = .completed
      · rw [Run.steps_cons_of_completed completed]
        exact .cons (.ofWord vocabulary word state) (ih _)
      · rw [Run.steps_cons_of_stopped completed]
        exact .cons (.ofWord vocabulary word state) .nil

theorem history (state : State) (lines : List (Machine × Text)) :
    Follow state (state.history lines) := by
  induction lines generalizing state with
  | nil => exact .nil
  | cons line lines ih =>
      rw [State.history, follow_append_iff, Machine.after_steps]
      exact ⟨run_steps _ _ state, ih _⟩

/-- What holds after a step if the step brings it about, or if it held before and the step does
    not undo it, holds after many steps if one of them brought it about and none undid it
    since, or if it held before them all and none undid it. -/
theorem holds_iff (holds : State → Prop) {asked undoes : Step → Prop}
    (stepwise : ∀ step : Step, step.Taken →
      (holds step.effect.state ↔ asked step ∨ holds step.before ∧ ¬ undoes step))
    {state : State} {steps : List Step} (follow : Follow state steps) :
    holds (state.after steps) ↔
      Since asked undoes steps ∨ holds state ∧ ∀ step ∈ steps, ¬ undoes step := by
  induction follow with
  | nil =>
      have never : ¬ Since asked undoes [] := fun since => nomatch since
      simp only [State.after, List.foldl_nil, never, List.not_mem_nil, false_imp_iff,
        implies_true, and_true, false_or]
  | @cons step later taken follow ih =>
      rw [since_cons_iff, List.forall_mem_cons, or_assoc]
      refine ih.trans (or_congr_right ?_)
      rw [← and_assoc, ← or_and_right]
      exact and_congr_left' (stepwise step taken)

end Follow

namespace State

/-- The variables are what the assignments and resets of the past have made of them.

    At every point of a history of lines, a variable is bound if an assignment to it succeeded
    since the latest `reset`, or if it was bound from the start and there was no `reset`; its
    value is that of the latest such assignment, or else the one from the start.  An
    assignment succeeds if a variable lies on top of a number or of a variable that is bound
    at that moment, and gives the target the value of that cell.  Other steps, and assignments
    that fail, change no variable. -/
theorem history_replays (state : State) (lines : List (Machine × Text)) :
    let history := state.history lines
    state.after history = state.afterLines lines ∧
      (∀ past, past <+: history → ∀ name,
        ((state.after past).bindings.contains name = true ↔
          Since (fun step => ∃ value, step.Assigns name value) Step.Resets past ∨
            state.bindings.contains name = true ∧ ∀ step ∈ past, ¬ step.Resets) ∧
        ∀ value, (state.after past).bindings.get? name = some value ↔
          Since (·.Assigns name value) (·.Rebinds name) past ∨
            state.bindings.get? name = some value ∧ ∀ step ∈ past, ¬ step.Rebinds name) ∧
      ∀ past step, past ++ [step] <+: history →
        step.before = state.after past ∧
          (step.token.word = ['='] → (step.effect.ending = .completed ↔
            ∃ target source rest value, step.before.stack = .named target :: source :: rest ∧
              step.before.bindings.Gives source value)) ∧
          ((∀ target value, ¬ step.Assigns target value) → ¬ step.Resets →
            step.effect.state.bindings = step.before.bindings) := by
  intro history
  have follow : Follow state history := .history state lines
  refine ⟨state.after_history lines, ?_, ?_⟩
  · rintro past ⟨later, split⟩ name
    have pastFollows : Follow state past := (follow_append_iff.mp (split ▸ follow)).1
    constructor
    · exact pastFollows.holds_iff (·.bindings.contains name = true)
        fun _ taken => taken.contains_iff
    · intro value
      exact pastFollows.holds_iff (·.bindings.get? name = some value)
        fun _ taken => taken.get?_eq_some_iff
  · rintro past step ⟨later, split⟩
    rw [List.append_assoc] at split
    have here := (follow_append_iff.mp (split ▸ follow)).2
    generalize state.after past = before at here ⊢
    cases here with
    | cons taken => exact ⟨rfl, taken.completed_iff, taken.bindings_unchanged⟩

end State

end ReversePolish
