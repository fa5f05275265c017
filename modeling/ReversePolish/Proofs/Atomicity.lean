import ReversePolish.Machine
import ReversePolish.Proofs.Effects

/-! # Words are atomic

A token is either carried out to its end or leaves no trace: unless it completes, the state is
the one before and nothing was printed.  `Token.effect_cases` says once how a token can end, and
that only a number word can escape.  For a machine that interprets single words this means
that a word that raises leaves all of it alone: the stack, the variables in their order, the
messages and the running flag.
-/

namespace ReversePolish

namespace Effect

/-- How a word ends that converts no number: it is carried out, or it ends the session, or it
    fails, and then it leaves no trace. -/
inductive Regular (state : State) : Effect → Prop where
  | carriedOut {effect : Effect} (completed : effect.ending = .completed) : Regular state effect
  | exited : Regular state ⟨state, [], .exited⟩
  | failed (failure : Failure) : Regular state (failed state failure)

/-- The effect is a failure of the line, or a conversion that escapes. -/
def Raised (effect : Effect) : Prop :=
  (∃ failure, effect.ending = .abandoned failure) ∨ ∃ error, effect.ending = .escaped error

theorem regular_done (before after : State) : Regular before (done after) := .carriedOut rfl

theorem Raised.not_completed {effect : Effect} (raised : effect.Raised) :
    effect.ending ≠ .completed := by
  intro completed
  rcases raised with ⟨failure, ending⟩ | ⟨error, ending⟩ <;> rw [completed] at ending <;>
    cases ending

theorem Raised.not_exited {effect : Effect} (raised : effect.Raised) :
    effect.ending ≠ .exited := by
  intro exited
  rcases raised with ⟨failure, ending⟩ | ⟨error, ending⟩ <;> rw [exited] at ending <;>
    cases ending

end Effect

namespace State

open Effect

theorem operate_regular (state : State) (symbol : Text) (combine : Combination) :
    Regular state (state.operate symbol combine) := by
  unfold operate
  split
  · split
    · exact regular_done _ _
    · exact .failed _
    · exact .failed _
  · exact .failed _

theorem foldAll_regular (state : State) (fold : Fold) : Regular state (state.foldAll fold) := by
  unfold foldAll
  split
  · exact regular_done _ _
  · exact .failed _

theorem assignTop_regular (state : State) : Regular state state.assignTop := by
  unfold assignTop
  split
  · exact .failed _
  · split
    · exact regular_done _ _
    · exact .failed _
  · exact .failed _

theorem act_regular (state : State) (keyword : Keyword) : Regular state (state.act keyword) := by
  unfold act
  split
  · exact regular_done _ _
  · exact regular_done _ _
  · exact .exited
  · exact .carriedOut rfl
  · exact regular_done _ _
  · exact regular_done _ _
  · exact regular_done _ _
  · exact .failed _
  · exact .failed _

end State

namespace Token

open Effect

/-- A token that does not complete leaves no trace, and if it is no number it does not escape. -/
theorem effect_cases (vocabulary : Vocabulary) (token : Token) (state : State) :
    Regular state (token.effect vocabulary state) ∨
      ∃ error, token.kind = .number ∧ Double.ofText token.word = .error error ∧
        token.effect vocabulary state = ⟨state, [], .escaped error⟩ := by
  rw [effect_eq_direct]
  unfold directEffect
  split
  · rename_i number
    split
    · exact .inl (regular_done _ _)
    · rename_i error unread
      exact .inr ⟨error, number, unread, rfl⟩
  · exact .inl (regular_done _ _)
  · exact .inl state.assignTop_regular
  · split
    · exact .inl (state.operate_regular _ _)
    · exact .inl (.failed _)
  · split
    · exact .inl (state.act_regular _)
    · exact .inl (.failed _)
  · split
    · exact .inl (state.foldAll_regular _)
    · exact .inl (.failed _)
  · exact .inl (.failed _)

/-- A token that raises leaves the state alone and prints nothing. -/
theorem effect_of_raised {vocabulary : Vocabulary} {token : Token} {state : State}
    (raised : (token.effect vocabulary state).Raised) :
    (token.effect vocabulary state).state = state ∧
      (token.effect vocabulary state).printed = [] := by
  rcases effect_cases vocabulary token state with regular | ⟨error, -, -, escapes⟩
  · generalize token.effect vocabulary state = effect at raised regular ⊢
    cases regular with
    | carriedOut completed => exact absurd completed raised.not_completed
    | exited => exact ⟨rfl, rfl⟩
    | failed failure => exact ⟨rfl, rfl⟩
  · rw [escapes]
    exact ⟨rfl, rfl⟩

end Token

namespace Machine

/-- A machine that takes note of an effect that raised without a trace stays as it is. -/
theorem noting_eq_self {machine : Machine} {effect : Effect} (silent : effect.printed = [])
    (raised : effect.Raised) : machine.noting effect = machine := by
  simp [noting, silent, raised.not_exited]

/-- A word that raises, of whatever kind it is said to be, leaves the machine, the stack and
    the variables exactly as they were. -/
theorem interpretAs_of_raised (machine : Machine) (kindName word : Text) (state : State)
    (raised : (machine.interpretAs kindName word state).2.Raised) :
    (machine.interpretAs kindName word state).1 = machine ∧
      (machine.interpretAs kindName word state).2.state = state := by
  have untouched : (machine.interpretAs kindName word state).2.state = state ∧
      (machine.interpretAs kindName word state).2.printed = [] := by
    unfold interpretAs at raised ⊢
    cases found : Kind.ofName? kindName with
    | none => exact ⟨rfl, rfl⟩
    | some kind =>
        rw [found] at raised
        exact Token.effect_of_raised raised
  exact ⟨noting_eq_self untouched.2 raised, untouched.1⟩

/-- An assignment from a variable without a value, on a machine with a message from before
    and after the end of its session. -/
theorem interpretAs_of_raised_assignment :
    let machine : Machine := ⟨Vocabulary.standard, ["25.0".toList], false⟩
    let state : State :=
      ⟨[.named ['x'], .named ['y'], .number .one], NameTable.ofList [(['z'], .one)]⟩
    let result := machine.interpretAs "ASSIGNMENT".toList ['='] state
    result.2.Raised ∧ result.1 = machine ∧ result.2.state = state := by
  intro machine state result
  have raised : result.2.Raised :=
    .inl ⟨.assignedUnassigned ['y'] ['x'], by decide⟩
  exact ⟨raised, interpretAs_of_raised machine _ _ state raised⟩

end Machine

end ReversePolish
