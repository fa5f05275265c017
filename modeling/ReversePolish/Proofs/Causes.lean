import ReversePolish.Proofs.Depth

/-! # Why lines are abandoned

A line is abandoned for one of four causes: a word of no kind, too few cells for a word, operands
that cannot be assigned, or a variable without a value that an operator or a fold consumes
(`Token.Cause`).  The vocabulary and the check of the depth stand in the way of all other
failures: no machine forgets a reserved word, and no word takes a cell that is not there.
-/

namespace ReversePolish

/-- Why a token fails in a state, and with which failure. -/
inductive Token.Cause (token : Token) (state : State) : Failure → Prop where
  | unrecognised (invalid : classify token.word = .invalid) :
    Cause token state (.unrecognised token.word)
  /-- The stack has fewer cells than the word needs. -/
  | lacking (few : state.stack.length < token.demand.need) :
    Cause token state (.underflow token.demand.need state.stack.length (some token.purpose))
  | numberTarget {target : Double} {source : Cell} {rest : Stack}
    (assignment : token.word = ['='])
    (operands : state.stack = .number target :: source :: rest) :
    Cause token state (.assignedToNumber target.text)
  | valuelessSource {target source : Text} {rest : Stack} (assignment : token.word = ['='])
    (operands : state.stack = .named target :: .named source :: rest)
    (unbound : state.bindings.get? source = none) :
    Cause token state (.assignedUnassigned source target)
  | unassigned {name : Text}
    (consumer : classify token.word = .binaryOperator ∨ classify token.word = .fold)
    (stacked : .named name ∈ state.stack) (unbound : state.bindings.get? name = none) :
    Cause token state (.unassigned name)

/-- The failures that guard against a disagreement between the parts of the calculator: a word
    that only one of them knows, and a cell that is taken without a check of the depth. -/
def Failure.isDefensive : Failure → Bool
  | .unknownOperator _ | .unknownKeyword _ | .other _ | .underflow _ _ none => true
  | .unrecognised _ | .underflow _ _ (some _) | .unassigned _ | .invalidOperands _ => false

namespace Token.Cause

variable {token : Token} {state : State} {failure : Failure}

theorem not_defensive (cause : token.Cause state failure) : failure.isDefensive = false := by
  cases cause <;> rfl

/-- An assignment reports a variable without a value as an operand of its own. -/
theorem ne_unassigned (cause : token.Cause state failure) (assignment : token.word = ['='])
    (name : Text) : failure ≠ .unassigned name := by
  cases cause with
  | unrecognised | lacking | numberTarget | valuelessSource => exact Failure.noConfusion
  | unassigned consumer =>
      rw [assignment] at consumer
      exact absurd consumer (by decide)

end Token.Cause

namespace State

variable {state : State} {failure : Failure}

theorem operate_abandoned {symbol : Text} {combine : Combination}
    (enough : 2 ≤ state.stack.length)
    (abandoned : (state.operate symbol combine).ending = .abandoned failure) :
    ∃ name, .named name ∈ state.stack ∧ state.bindings.get? name = none ∧
      failure = .unassigned name := by
  obtain ⟨stack, bindings⟩ := state
  match stack with
  | [] | [_] => simp at enough
  | right :: left :: rest =>
      simp only [operate] at abandoned
      cases leftValue : bindings.valueOf left with
      | error reason =>
          simp only [leftValue] at abandoned
          cases abandoned
          obtain ⟨name, rfl, unbound, unassigned⟩ := Bindings.unassigned_of_valueOf leftValue
          exact ⟨name, by simp, unbound, unassigned⟩
      | ok a =>
          cases rightValue : bindings.valueOf right with
          | error reason =>
              simp only [leftValue, rightValue] at abandoned
              cases abandoned
              obtain ⟨name, rfl, unbound, unassigned⟩ := Bindings.unassigned_of_valueOf rightValue
              exact ⟨name, by simp, unbound, unassigned⟩
          | ok b =>
              simp only [leftValue, rightValue] at abandoned
              cases abandoned

theorem foldAll_abandoned {fold : Fold}
    (abandoned : (state.foldAll fold).ending = .abandoned failure) :
    ∃ name, .named name ∈ state.stack ∧ state.bindings.get? name = none ∧
      failure = .unassigned name := by
  unfold foldAll at abandoned
  cases values : state.bindings.valuesOf state.stack.bottomUp with
  | ok values =>
      rw [values] at abandoned
      cases abandoned
  | error reason =>
      rw [values] at abandoned
      cases abandoned
      obtain ⟨name, among, unbound, unassigned⟩ := Bindings.unassigned_of_valuesOf values
      exact ⟨name, List.mem_reverse.mp among, unbound, unassigned⟩

theorem assignTop_abandoned (enough : 2 ≤ state.stack.length)
    (abandoned : state.assignTop.ending = .abandoned failure) :
    (∃ target source rest, state.stack = .number target :: source :: rest ∧
        failure = .assignedToNumber target.text) ∨
      ∃ target source rest, state.stack = .named target :: .named source :: rest ∧
        state.bindings.get? source = none ∧ failure = .assignedUnassigned source target := by
  obtain ⟨stack, bindings⟩ := state
  match stack with
  | [] | [.number _] | [.named _] => simp at enough
  | .number target :: source :: rest =>
      cases abandoned
      exact .inl ⟨target, source, rest, rfl, rfl⟩
  | .named target :: source :: rest =>
      simp only [assignTop] at abandoned
      cases value : bindings.valueOf source with
      | ok value =>
          rw [value] at abandoned
          cases abandoned
      | error reason =>
          rw [value] at abandoned
          cases abandoned
          obtain ⟨name, rfl, unbound, -⟩ := Bindings.unassigned_of_valueOf value
          exact .inr ⟨target, name, rest, rfl, unbound, rfl⟩

theorem act_not_abandoned {keyword : Keyword} (enough : keyword.demand.need ≤ state.stack.length) :
    (state.act keyword).ending ≠ .abandoned failure := by
  obtain ⟨stack, bindings⟩ := state
  cases keyword with
  | clear | reset | exit => exact Ending.noConfusion
  | print | drop | dup =>
      cases stack with
      | nil => simp [Keyword.demand] at enough
      | cons cell rest => exact Ending.noConfusion
  | swap =>
      rcases stack with _ | ⟨last, _ | ⟨previous, rest⟩⟩
      · simp [Keyword.demand] at enough
      · simp [Keyword.demand] at enough
      · exact Ending.noConfusion

end State

/-- A word that fails has one of the causes. -/
theorem Token.cause_of_abandoned {vocabulary : Vocabulary} (complete : vocabulary.Complete)
    {word : Text} {state : State} {failure : Failure}
    (abandoned : ((ofWord word).effect vocabulary state).ending = .abandoned failure) :
    (ofWord word).Cause state failure := by
  by_cases few : state.stack.length < (ofWord word).demand.need
  · rw [(effect_meets complete word state).lacking few] at abandoned
    cases abandoned
    exact .lacking few
  -- The other causes are those of words that find enough cells.
  have enough := Nat.not_lt.mp few
  rw [effect_eq_action] at abandoned
  cases kind : classify word with
  | number =>
      simp only [action, ofWord, kind] at abandoned
      split at abandoned <;> cases abandoned
  | identifier =>
      simp only [action, ofWord, kind] at abandoned
      cases abandoned
  | invalid =>
      simp only [action, ofWord, kind] at abandoned
      cases abandoned
      exact .unrecognised kind
  | assignment =>
      have assignment : word = ['='] := classify_eq_assignment_iff.mp kind
      simp only [demand, ofWord, kind] at enough
      simp only [action, ofWord, kind] at abandoned
      rcases State.assignTop_abandoned enough abandoned with
        ⟨target, source, rest, operands, rfl⟩ | ⟨target, source, rest, operands, unbound, rfl⟩
      · exact .numberTarget assignment operands
      · exact .valuelessSource assignment operands unbound
  | binaryOperator =>
      obtain ⟨combine, operates⟩ := complete.action_operator kind
      rw [operates] at abandoned
      simp only [demand, ofWord, kind] at enough
      obtain ⟨name, stacked, unbound, rfl⟩ := State.operate_abandoned enough abandoned
      exact .unassigned (.inl kind) stacked unbound
  | keyword =>
      obtain ⟨keyword, rfl⟩ := classify_eq_keyword_iff.mp kind
      rw [action_eq_act_iff.mpr rfl] at abandoned
      simp only [demand, ofWord, kind, Keyword.ofWord?_word] at enough
      exact absurd abandoned (State.act_not_abandoned enough)
  | fold =>
      obtain ⟨fold, folds⟩ := complete.action_fold kind
      rw [folds] at abandoned
      obtain ⟨name, stacked, unbound, rfl⟩ := State.foldAll_abandoned abandoned
      exact .unassigned (.inr kind) stacked unbound

namespace Machine

/-- The last step of a line that is abandoned has a cause to fail. -/
theorem last_step_of_abandoned {machine : Machine} (made : machine.Made) {line : Text}
    {state : State} {failure : Failure}
    (abandoned : (machine.processLine line state).2.ending = .abandoned failure) :
    ∃ step, (machine.steps line state).getLast? = some step ∧
      step.effect.ending = .abandoned failure ∧ step.token.Cause step.before failure := by
  have stopped : (machine.processLine line state).2.ending ≠ .completed := by
    rw [abandoned]
    exact Ending.noConfusion
  obtain ⟨step, last, ending⟩ := getLast?_steps stopped
  rw [abandoned] at ending
  refine ⟨step, last, ending, ?_⟩
  obtain ⟨word, -, before, rfl⟩ := mem_steps (List.mem_of_getLast? last)
  exact Token.cause_of_abandoned made.complete ending

/-- A line is abandoned at its last step, and for one of the causes.  It is never abandoned by a
    failure that guards against a disagreement between parts of the calculator, and an
    assignment never fails as an operator or a fold does. -/
theorem processLine_abandoned_cause {machine : Machine} (made : machine.Made) (line : Text)
    (state : State) {failure : Failure}
    (abandoned : (machine.processLine line state).2.ending = .abandoned failure) :
    ∃ step, (machine.steps line state).getLast? = some step ∧
      step.effect.ending = .abandoned failure ∧ step.token.Cause step.before failure ∧
      failure.isDefensive = false ∧
      (step.token.word = ['='] → ∀ name, failure ≠ .unassigned name) := by
  obtain ⟨step, last, ending, cause⟩ := last_step_of_abandoned made abandoned
  exact ⟨step, last, ending, cause, cause.not_defensive, cause.ne_unassigned⟩

/-- A fold comes to a variable without a value, on a machine that knows `drop` as a fold and has
    another product. -/
theorem processLine_abandoned_cause_fold :
    let machine := (Machine.fresh.addFold "drop".toList ⟨Double.add, .one⟩).addFold "prod".toList
      ⟨Double.sub, .nan⟩
    let line := "y x = dup drop z prod exit".toList
    let state : State := ⟨[.number .one], NameTable.ofList [(['y'], .inf true)]⟩
    (machine.processLine line state).2.ending = .abandoned (.unassigned ['z']) ∧
      ∃ step, (machine.steps line state).getLast? = some step ∧
        step.token.Cause step.before (.unassigned ['z']) := by
  intro machine line state
  have made : machine.Made := .addFold (.addFold .fresh _ _) _ _
  have abandoned : (machine.processLine line state).2.ending = .abandoned (.unassigned ['z']) := by
    rw [processLine_snd]
    decide +kernel
  obtain ⟨step, last, -, cause, -⟩ := processLine_abandoned_cause made line state abandoned
  exact ⟨abandoned, step, last, cause⟩

end Machine

end ReversePolish
