import Mathlib.Data.List.Forall2
import ReversePolish.Proofs.Actions
import ReversePolish.Proofs.NameTables
import ReversePolish.Proofs.Steps

/-! # Late look-up

A variable on the stack is looked up when a word consumes it, and not when it is put there.  The
difference shows only when something is assigned in between, or when the cell itself is
printed.  Until then a state does the same as one in which some variables on the stack have
already been replaced by their values.
-/

namespace ReversePolish

/-- The second cell is the first one, or the value of the variable that the first one names. -/
inductive Cell.Resolved (bindings : Bindings) : Cell → Cell → Prop where
  | same (cell : Cell) : Resolved bindings cell cell
  | value {name : Text} {value : Double} (bound : bindings.get? name = some value) :
    Resolved bindings (.named name) (.number value)

/-- The second state is like the first one, except that some variables on its stack have been
    replaced by their values. -/
structure State.Resolved (lazy eager : State) : Prop where
  bindings : ∀ name, lazy.bindings.get? name = eager.bindings.get? name
  cells : List.Forall₂ (Cell.Resolved lazy.bindings) lazy.stack eager.stack

namespace Bindings

variable {bindings other : Bindings}

theorem valueOf_resolved (same : ∀ name, bindings.get? name = other.get? name)
    {lazy eager : Cell} (resolved : lazy.Resolved bindings eager) :
    bindings.valueOf lazy = other.valueOf eager := by
  cases resolved with
  | same =>
      cases lazy with
      | number value => rfl
      | named name => simp only [valueOf, same name]
  | value bound => simp only [valueOf, bound]

theorem valuesOf_resolved (same : ∀ name, bindings.get? name = other.get? name)
    {lazy eager : List Cell} (resolved : List.Forall₂ (Cell.Resolved bindings) lazy eager) :
    bindings.valuesOf lazy = other.valuesOf eager := by
  induction resolved with
  | nil => rfl
  | cons head tail ih => simp only [valuesOf, valueOf_resolved same head, ih]

end Bindings

namespace Effect

variable {lazy eager : State}

theorem related_done (resolved : lazy.Resolved eager) :
    Related State.Resolved (done lazy) (done eager) := ⟨rfl, rfl, resolved⟩

theorem related_failed (resolved : lazy.Resolved eager) (failure : Failure) :
    Related State.Resolved (failed lazy failure) (failed eager failure) := ⟨rfl, rfl, resolved⟩

theorem related_tooFew (resolved : lazy.Resolved eager) (needed : Nat) (purpose : Text) :
    Related State.Resolved (tooFew lazy needed purpose) (tooFew eager needed purpose) := by
  rw [tooFew, tooFew, resolved.cells.length_eq]
  exact related_failed resolved _

end Effect

namespace State

open Effect

variable {lazy eager : State}

theorem Resolved.push (resolved : lazy.Resolved eager) (cell : Cell) :
    (lazy.push cell).Resolved (eager.push cell) :=
  ⟨resolved.bindings, .cons (.same cell) resolved.cells⟩

theorem operate_resolved (resolved : lazy.Resolved eager) (symbol : Text) (combine : Combination) :
    Related Resolved (lazy.operate symbol combine) (eager.operate symbol combine) := by
  obtain ⟨lazyStack, bindings⟩ := lazy
  obtain ⟨eagerStack, other⟩ := eager
  obtain ⟨same, cells⟩ := id resolved
  cases cells with
  | nil => exact related_tooFew resolved 2 symbol
  | cons right cells =>
      cases cells with
      | nil => exact related_tooFew resolved 2 symbol
      | @cons leftCell _ rest _ left cells =>
          simp only [operate, ← Bindings.valueOf_resolved same left,
            ← Bindings.valueOf_resolved same right]
          cases bindings.valueOf leftCell with
          | error failure => exact related_failed resolved failure
          | ok a =>
              split
              · exact related_done ⟨same, .cons (.same _) cells⟩
              · exact related_failed resolved _
              · exact related_failed resolved _

theorem foldAll_resolved (resolved : lazy.Resolved eager) (fold : Fold) :
    Related Resolved (lazy.foldAll fold) (eager.foldAll fold) := by
  have cells : List.Forall₂ (Cell.Resolved lazy.bindings) lazy.stack.bottomUp
      eager.stack.bottomUp := List.rel_reverse resolved.cells
  simp only [foldAll, ← Bindings.valuesOf_resolved resolved.bindings cells]
  cases lazy.bindings.valuesOf lazy.stack.bottomUp with
  | error failure => exact related_failed resolved failure
  | ok values => exact related_done ⟨resolved.bindings, .cons (.same _) .nil⟩

theorem act_resolved (resolved : lazy.Resolved eager) {keyword : Keyword}
    (noPrint : keyword ≠ .print) : Related Resolved (lazy.act keyword) (eager.act keyword) := by
  obtain ⟨lazyStack, bindings⟩ := lazy
  obtain ⟨eagerStack, other⟩ := eager
  obtain ⟨same, cells⟩ := id resolved
  cases keyword with
  | print => exact absurd rfl noPrint
  | clear => exact related_done ⟨same, .nil⟩
  | reset => exact related_done ⟨fun _ => rfl, .nil⟩
  | exit => exact ⟨rfl, rfl, resolved⟩
  | drop =>
      cases cells with
      | nil => exact related_tooFew resolved 1 _
      | cons top cells => exact related_done ⟨same, cells⟩
  | dup =>
      cases cells with
      | nil => exact related_tooFew resolved 1 _
      | cons top cells => exact related_done ⟨same, .cons top (.cons top cells)⟩
  | swap =>
      cases cells with
      | nil => exact related_tooFew resolved 2 _
      | cons last cells =>
          cases cells with
          | nil => exact related_tooFew resolved 2 _
          | cons previous cells => exact related_done ⟨same, .cons previous (.cons last cells)⟩

end State

/-- Actions other than to assign and to print do the same on related states. -/
theorem Action.effect_resolved {action : Action} (noAssignment : action ≠ .assign)
    (noPrint : action ≠ .act .print) {lazy eager : State} (resolved : lazy.Resolved eager) :
    Effect.Related State.Resolved (action.effect lazy) (action.effect eager) := by
  cases action with
  | put cell => exact Effect.related_done (resolved.push cell)
  | escape error => exact ⟨rfl, rfl, resolved⟩
  | assign => exact absurd rfl noAssignment
  | operate symbol combine => exact State.operate_resolved resolved symbol combine
  | act keyword => exact State.act_resolved resolved fun prints => noPrint (prints ▸ rfl)
  | foldAll fold => exact State.foldAll_resolved resolved fold
  | fail failure => exact Effect.related_failed resolved failure

namespace Machine

/-- A line that assigns and prints nothing does not notice whether variables on the stack have
    already been replaced by their values. -/
theorem processLine_resolved (machine : Machine) (line : Text) {lazy eager : State}
    (resolved : lazy.Resolved eager) (noAssignment : ['='] ∉ Words.split line)
    (noPrint : Keyword.print.word ∉ Words.split line) :
    let late := machine.processLine line lazy
    let early := machine.processLine line eager
    late.1.messages = early.1.messages ∧ late.1.running = early.1.running ∧
      late.2.tried = early.2.tried ∧ late.2.ending = early.2.ending ∧
      late.2.state.Resolved early.2.state := by
  intro late early
  have related : Run.Related State.Resolved late.2 early.2 := by
    refine related_of_steps resolved ?_
    intro step member other before
    obtain ⟨word, known, state, rfl⟩ := mem_steps member
    simp only [Step.take, Token.effect_eq_action] at before ⊢
    refine Action.effect_resolved ?_ ?_ before
    · intro assigns
      exact noAssignment (Token.action_eq_assign_iff.mp assigns ▸ known)
    · intro prints
      exact noPrint (Token.action_eq_act_iff.mp prints ▸ known)
  exact ⟨related.messages, related.goesOn, related.tried, related.ending, related.state⟩

/-- A line that comes to a variable without a value, while another one has been replaced by
    its value in one of the states. -/
theorem processLine_resolved_unassigned :
    let machine := Machine.fresh.addOperator ['+'] Double.sub
    let line := "dup + swap sum 3 drop".toList
    let lazy : State := ⟨[.named ['x'], .named ['y']],
      NameTable.ofList [(['x'], .inf true), (['z'], .one)]⟩
    let eager : State := ⟨[.number (.inf true), .named ['y']],
      NameTable.ofList [(['z'], .one), (['x'], .inf true)]⟩
    let late := machine.processLine line lazy
    let early := machine.processLine line eager
    lazy.Resolved eager ∧ ['='] ∉ Words.split line ∧ Keyword.print.word ∉ Words.split line ∧
      late.1.messages = early.1.messages ∧
      early.1.messages = ["? variable not yet assigned: y".toList] ∧
      late.2.state.Resolved early.2.state := by
  intro machine line lazy eager late early
  have resolved : lazy.Resolved eager :=
    ⟨NameTable.get?_eq_of_perm (.swap ..), .cons (.value rfl) (.cons (.same _) .nil)⟩
  have noAssignment : ['='] ∉ Words.split line := by decide +kernel
  have noPrint : Keyword.print.word ∉ Words.split line := by decide +kernel
  have same := processLine_resolved machine line resolved noAssignment noPrint
  refine ⟨resolved, noAssignment, noPrint, same.1, ?_, same.2.2.2.2⟩
  simp only [early, processLine_messages, processLine_snd]
  decide +kernel

end Machine

end ReversePolish
