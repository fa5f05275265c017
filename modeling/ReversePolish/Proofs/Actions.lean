import ReversePolish.Proofs.Classification
import ReversePolish.Proofs.Effects

/-! # Actions

What a token does is settled in two stages.  The word and the vocabulary fix an action, without
a look at the state (`Token.action`); the action then has an effect on each state
(`Action.effect`).  Whatever is said about the effects of all tokens is said by cases on their
actions, and what the words of a line are tells which actions they have.
-/

namespace ReversePolish

/-- What a token does, to whatever state. -/
inductive Action where
  | put (cell : Cell)
  /-- Convert a number word that has no double. -/
  | escape (error : ConversionError)
  | assign
  | operate (symbol : Text) (combine : Combination)
  | act (keyword : Keyword)
  | foldAll (fold : Fold)
  | fail (failure : Failure)

namespace Action

def effect (action : Action) (state : State) : Effect :=
  match action with
  | .put cell => .done (state.push cell)
  | .escape error => ⟨state, [], .escaped error⟩
  | .assign => state.assignTop
  | .operate symbol combine => state.operate symbol combine
  | .act keyword => state.act keyword
  | .foldAll fold => state.foldAll fold
  | .fail failure => .failed state failure

end Action

namespace Token

def action (vocabulary : Vocabulary) (token : Token) : Action :=
  match token.kind with
  | .number =>
    match Double.ofText token.word with
    | .ok value => .put (.number value)
    | .error error => .escape error
  | .identifier => .put (.named token.word)
  | .assignment => .assign
  | .binaryOperator =>
    match vocabulary.operators.get? token.word with
    | some combine => .operate token.word combine
    | none => .fail (.noOperator token.word)
  | .keyword =>
    match Keyword.ofWord? token.word with
    | some keyword => .act keyword
    | none => .fail (.noKeyword token.word)
  | .fold =>
    match vocabulary.folds.get? token.word with
    | some fold => .foldAll fold
    | none => .fail (.noFold token.word)
  | .invalid => .fail (.unrecognised token.word)

theorem effect_eq_action (vocabulary : Vocabulary) (token : Token) (state : State) :
    token.effect vocabulary state = (token.action vocabulary).effect state := by
  rw [effect_eq_direct]
  unfold directEffect action
  cases token.kind with
  | number => cases Double.ofText token.word <;> rfl
  | identifier | assignment | invalid => rfl
  | binaryOperator => cases vocabulary.operators.get? token.word <;> rfl
  | keyword => cases Keyword.ofWord? token.word <;> rfl
  | fold => cases vocabulary.folds.get? token.word <;> rfl

end Token

namespace Action

/-- What an action can come to on a state.  Most of them only rearrange or combine cells, and a
    failure leaves the state as it is. -/
inductive Outcome (state : State) : Action → Effect → Prop where
  | restacked {action : Action} (stack : Stack) :
    Outcome state action (.done ⟨stack, state.bindings⟩)
  | failed {action : Action} (failure : Failure) : Outcome state action (.failed state failure)
  | assigned (stack : Stack) (bindings : Bindings) : Outcome state .assign (.done ⟨stack, bindings⟩)
  | printed (cell : Cell) (rest : Stack) (stack : state.stack = cell :: rest) :
    Outcome state (.act .print) ⟨⟨rest, state.bindings⟩, [cell.text], .completed⟩
  | reset : Outcome state (.act .reset) (.done State.initial)
  | exited : Outcome state (.act .exit) ⟨state, [], .exited⟩
  | escaped (error : ConversionError) :
    Outcome state (.escape error) ⟨state, [], .escaped error⟩

theorem outcome_effect (action : Action) (state : State) :
    Outcome state action (action.effect state) := by
  obtain ⟨stack, bindings⟩ := state
  cases action with
  | put cell => exact .restacked _
  | escape error => exact .escaped error
  | fail failure => exact .failed failure
  | assign =>
      simp only [effect, State.assignTop]
      split
      · exact .failed _
      · split
        · exact .assigned _ _
        · exact .failed _
      · exact .failed _
  | operate symbol combine =>
      simp only [effect, State.operate]
      split
      · split
        · exact .restacked _
        · exact .failed _
        · exact .failed _
      · exact .failed _
  | foldAll fold =>
      simp only [effect, State.foldAll]
      split
      · exact .restacked _
      · exact .failed _
  | act keyword =>
      cases keyword with
      | clear => exact .restacked _
      | reset => exact .reset
      | exit => exact .exited
      | print =>
          cases stack with
          | nil => exact .failed _
          | cons cell rest => exact .printed cell rest rfl
      | drop | dup =>
          cases stack with
          | nil => exact .failed _
          | cons cell rest => exact .restacked _
      | swap =>
          rcases stack with _ | ⟨last, _ | ⟨previous, rest⟩⟩
          · exact .failed _
          · exact .failed _
          · exact .restacked _

/-- Only `exit` exits and only a number without a double escapes; all other actions are carried
    out or fail. -/
theorem ending_cases (action : Action) (state : State) :
    (action.effect state).ending = .completed ∨
      (∃ failure, (action.effect state).ending = .abandoned failure) ∨
      (action = .act .exit ∧ (action.effect state).ending = .exited) ∨
      ∃ error, action = .escape error ∧ (action.effect state).ending = .escaped error := by
  have outcome := action.outcome_effect state
  generalize action.effect state = effect at outcome ⊢
  cases outcome with
  | restacked | assigned | printed | reset => exact .inl rfl
  | failed failure => exact .inr (.inl ⟨failure, rfl⟩)
  | exited => exact .inr (.inr (.inl ⟨rfl, rfl⟩))
  | escaped error => exact .inr (.inr (.inr ⟨error, rfl, rfl⟩))

end Action

/-- Too few cells on the stack made an end of it. -/
def Ending.underflows : Ending → Bool
  | .abandoned (.underflow ..) => true
  | _ => false

theorem Ending.not_completed_of_underflows {ending : Ending}
    (underflows : ending.underflows = true) : ending ≠ .completed := by
  rintro rfl
  cases underflows

namespace Keyword

theorem ofWord?_word (keyword : Keyword) : ofWord? keyword.word = some keyword := by
  cases keyword <;> decide

theorem eq_word_of_ofWord? {word : Text} {keyword : Keyword} (found : ofWord? word = some keyword) :
    word = keyword.word := by
  have same : keyword.word = word := by simpa using List.find?_some found
  exact same.symm

end Keyword

namespace Token

variable {vocabulary : Vocabulary} {word : Text}

/-- To exit and to escape is a matter of the word alone: a token that is carried out on one state
    and stops on another fails there. -/
theorem abandoned_of_completed {token : Token} {first second : State}
    (completed : (token.effect vocabulary first).ending = .completed)
    (stopped : (token.effect vocabulary second).ending ≠ .completed) :
    ∃ failure, (token.effect vocabulary second).ending = .abandoned failure := by
  rw [effect_eq_action] at completed stopped ⊢
  rcases (token.action vocabulary).ending_cases second with
    ending | failed | ⟨exits, -⟩ | ⟨error, escapes, -⟩
  · exact absurd ending stopped
  · exact failed
  · rw [exits] at completed
    cases completed
  · rw [escapes] at completed
    cases completed

theorem action_eq_assign_iff : (ofWord word).action vocabulary = .assign ↔ word = ['='] := by
  rw [← classify_eq_assignment_iff]
  constructor
  · intro assigns
    unfold action at assigns
    grind [ofWord]
  · intro assignment
    simp only [action, ofWord, assignment]

theorem action_eq_act_iff {keyword : Keyword} :
    (ofWord word).action vocabulary = .act keyword ↔ word = keyword.word := by
  constructor
  · intro acts
    unfold action at acts
    grind [ofWord, Keyword.eq_word_of_ofWord?]
  · rintro rfl
    have isKeyword : classify keyword.word = .keyword := classify_eq_keyword_iff.mpr ⟨keyword, rfl⟩
    simp only [action, ofWord, isKeyword, Keyword.ofWord?_word]

theorem word_of_action_eq_foldAll {fold : Fold}
    (folds : (ofWord word).action vocabulary = .foldAll fold) :
    word = "sum".toList ∨ word = "prod".toList := by
  rw [← classify_eq_fold_iff]
  unfold action at folds
  grind [ofWord]

end Token

end ReversePolish
