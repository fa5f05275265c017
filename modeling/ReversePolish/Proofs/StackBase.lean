import ReversePolish.Proofs.Actions
import ReversePolish.Proofs.Steps

/-! # Cells beneath the stack

Most words look at the top of the stack only.  A line that uses no other words, and for which
the stack is deep enough, does not notice cells that lie beneath it: it does the same, and
leaves these cells where they are.
-/

namespace ReversePolish

/-- The words that act on the stack as a whole. -/
def wholeStackWords : List Text := ["clear", "reset", "sum", "prod"].map String.toList

/-- The state with more cells beneath those of its stack. -/
def State.onTopOf (state : State) (base : Stack) : State :=
  { state with stack := state.stack ++ base }

def Effect.onTopOf (effect : Effect) (base : Stack) : Effect :=
  { effect with state := effect.state.onTopOf base }

namespace State

theorem assignTop_onTopOf {state : State}
    (enough : state.assignTop.ending.underflows = false) (base : Stack) :
    (state.onTopOf base).assignTop = state.assignTop.onTopOf base := by
  obtain ⟨stack, bindings⟩ := state
  match stack with
  | [] | [.number _] | [.named _] => cases enough
  | .number target :: source :: rest => rfl
  | .named target :: source :: rest =>
      simp only [assignTop, onTopOf, List.cons_append]
      cases bindings.valueOf source <;> rfl

theorem operate_onTopOf {state : State} {symbol : Text} {combine : Combination}
    (enough : (state.operate symbol combine).ending.underflows = false) (base : Stack) :
    (state.onTopOf base).operate symbol combine = (state.operate symbol combine).onTopOf base := by
  obtain ⟨stack, bindings⟩ := state
  match stack with
  | [] | [_] => cases enough
  | right :: left :: rest =>
      simp only [operate, onTopOf, List.cons_append]
      cases bindings.valueOf left with
      | error failure => rfl
      | ok a => cases bindings.valueOf right <;> rfl

theorem act_onTopOf {state : State} {keyword : Keyword} (noClear : keyword ≠ .clear)
    (noReset : keyword ≠ .reset) (enough : (state.act keyword).ending.underflows = false)
    (base : Stack) : (state.onTopOf base).act keyword = (state.act keyword).onTopOf base := by
  obtain ⟨stack, bindings⟩ := state
  cases keyword with
  | clear => exact absurd rfl noClear
  | reset => exact absurd rfl noReset
  | exit => rfl
  | print | drop | dup =>
      cases stack with
      | nil => cases enough
      | cons cell rest => rfl
  | swap =>
      match stack with
      | [] | [_] => cases enough
      | last :: previous :: rest => rfl

end State

namespace Action

/-- The action looks at the top of the stack only. -/
def OnTop : Action → Prop
  | .foldAll _ | .act .clear | .act .reset => False
  | _ => True

/-- An action on the top of a stack that is deep enough does not notice what lies beneath. -/
theorem effect_onTopOf {action : Action} (onTop : action.OnTop) {state : State}
    (enough : (action.effect state).ending.underflows = false) (base : Stack) :
    action.effect (state.onTopOf base) = (action.effect state).onTopOf base := by
  cases action with
  | put cell | escape error | fail failure => rfl
  | foldAll fold => cases onTop
  | assign => exact State.assignTop_onTopOf enough base
  | operate symbol combine => exact State.operate_onTopOf enough base
  | act keyword =>
      refine State.act_onTopOf ?_ ?_ enough base
      · rintro rfl
        cases onTop
      · rintro rfl
        cases onTop

end Action

namespace Token

/-- A word that is not one for the whole stack acts on the top of it. -/
theorem onTop_action {vocabulary : Vocabulary} {word : Text} (other : word ∉ wholeStackWords) :
    ((ofWord word).action vocabulary).OnTop := by
  cases action : (ofWord word).action vocabulary with
  | put | escape | assign | operate | fail => trivial
  | foldAll fold =>
      apply other
      rcases word_of_action_eq_foldAll action with rfl | rfl <;> decide
  | act keyword =>
      obtain rfl := action_eq_act_iff.mp action
      cases keyword with
      | clear | reset => exact other (by decide)
      | exit | print | drop | dup | swap => trivial

theorem effect_onTopOf {vocabulary : Vocabulary} {word : Text} {state : State}
    (other : word ∉ wholeStackWords)
    (enough : ((ofWord word).effect vocabulary state).ending.underflows = false) (base : Stack) :
    (ofWord word).effect vocabulary (state.onTopOf base) =
      ((ofWord word).effect vocabulary state).onTopOf base := by
  rw [effect_eq_action] at enough
  rw [effect_eq_action, effect_eq_action]
  exact Action.effect_onTopOf (onTop_action other) enough base

end Token

namespace Machine

/-- A line that uses no word for the whole stack and finds enough cells does the same on top of
    other cells, and leaves these where they are. -/
theorem processLine_onTopOf (machine : Machine) (line : Text) (state : State) (base : Stack)
    (onTop : ∀ token ∈ (machine.processLine line state).2.tried, token.word ∉ wholeStackWords)
    (enough : (machine.processLine line state).2.ending.underflows = false) :
    let alone := machine.processLine line state
    let based := machine.processLine line (state.onTopOf base)
    based.2.tried = alone.2.tried ∧ based.1.messages = alone.1.messages ∧
      based.1.running = alone.1.running ∧ based.2.ending = alone.2.ending ∧
      based.2.state = alone.2.state.onTopOf base := by
  intro alone based
  have related : Run.Related (fun above whole => whole = above.onTopOf base) alone.2 based.2 := by
    refine related_of_steps rfl ?_
    rintro step member _ rfl
    have tried : step.token ∈ alone.2.tried := by
      rw [← map_token_steps]
      exact List.mem_map_of_mem member
    have stepEnough : step.effect.ending.underflows = false := by
      by_contra lacks
      have underflows : step.effect.ending.underflows = true := by simpa using lacks
      have last := ending_of_mem_steps member (Ending.not_completed_of_underflows underflows)
      rw [last, underflows] at enough
      cases enough
    obtain ⟨word, -, before, rfl⟩ := mem_steps member
    have same := Token.effect_onTopOf (onTop _ tried) stepEnough base
    exact ⟨(congrArg Effect.printed same).symm, (congrArg Effect.ending same).symm,
      congrArg Effect.state same⟩
  exact ⟨related.tried.symm, related.messages.symm, related.goesOn.symm, related.ending.symm,
    related.state⟩

/-- A line that runs into a number as the target of an assignment, on top of a variable and
    with an addition that was changed. -/
theorem processLine_onTopOf_failing :
    let machine := Machine.fresh.addOperator ['+'] Double.sub
    let line := "x + dup print 5 = drop".toList
    let state : State := ⟨[.number .one], NameTable.ofList [(['x'], .inf true)]⟩
    let base : Stack := [.named ['y'], .number .nan]
    let alone := machine.processLine line state
    let based := machine.processLine line (state.onTopOf base)
    (∀ token ∈ alone.2.tried, token.word ∉ wholeStackWords) ∧ alone.2.ending.underflows = false ∧
      based.1.messages = alone.1.messages ∧ based.2.state = alone.2.state.onTopOf base ∧
      alone.1.messages = ["inf".toList, "? cannot assign to 5.0".toList] := by
  intro machine line state base alone based
  have run : alone.2 = Run.ofTokens machine.vocabulary (Token.ofWords (Words.split line)) state :=
    processLine_snd machine line state
  have onTop : ∀ token ∈ alone.2.tried, token.word ∉ wholeStackWords := by
    rw [run]
    decide +kernel
  have enough : alone.2.ending.underflows = false := by
    rw [run]
    decide +kernel
  have same := processLine_onTopOf machine line state base onTop enough
  refine ⟨onTop, enough, same.2.1, same.2.2.2.2, ?_⟩
  rw [processLine_messages, run]
  decide +kernel

end Machine

end ReversePolish
