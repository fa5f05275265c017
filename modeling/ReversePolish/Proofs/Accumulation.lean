import ReversePolish.Machine
import ReversePolish.Proofs.Effects

/-! # Folds cell by cell

A fold looks up all cells of the stack first and combines their values afterwards.  The same can
be done with an operator word: put the initial number of the fold on an empty stack, and then
put the cells there one by one, from the bottom up, with the operator after each of them
(`Machine.accumulate`).  Both ways come to the same number, in the same order of combinations,
and where a variable has no value both complain about the same one.
-/

namespace ReversePolish

theorem Kind.ofName?_name (kind : Kind) : ofName? kind.name = some kind := by
  cases kind <;> decide

namespace Machine

/-- Combine cells, from the first to the last, with what lies on the stack: each cell is put on the
    stack, and the operator word is interpreted there. -/
def accumulate (machine : Machine) (symbol : Text) : List Cell → State → Effect
  | [], state => .done state
  | cell :: later, state =>
    let effect := (machine.interpretAs Kind.binaryOperator.name symbol (state.push cell)).2
    match effect.ending with
    | .completed =>
      let rest := machine.accumulate symbol later effect.state
      { rest with printed := effect.printed ++ rest.printed }
    | _ => effect

section Words

variable {machine : Machine} {symbol name : Text} {combine : Combination} {fold : Fold}

theorem interpretAs_operator (known : machine.vocabulary.operators.get? symbol = some combine)
    (state : State) :
    (machine.interpretAs Kind.binaryOperator.name symbol state).2 =
      state.operate symbol combine := by
  simp only [interpretAs, Kind.ofName?_name, Token.effect_eq_direct, Token.directEffect, known]

theorem interpretAs_fold (known : machine.vocabulary.folds.get? name = some fold) (state : State) :
    (machine.interpretAs Kind.fold.name name state).2 = state.foldAll fold := by
  simp only [interpretAs, Kind.ofName?_name, Token.effect_eq_direct, Token.directEffect, known]

end Words

section Accumulation

variable {machine : Machine} {symbol : Text} {combine : Combination}
  (known : machine.vocabulary.operators.get? symbol = some combine) {bindings : Bindings}

include known

theorem accumulate_cons_of_value {cell : Cell} {value : Double}
    (found : bindings.valueOf cell = .ok value) (later : List Cell) (start : Double) :
    machine.accumulate symbol (cell :: later) ⟨[.number start], bindings⟩ =
      machine.accumulate symbol later ⟨[.number (combine start value)], bindings⟩ := by
  have combined : State.operate ⟨[cell, .number start], bindings⟩ symbol combine =
      .done ⟨[.number (combine start value)], bindings⟩ := by
    simp only [State.operate, found]
    rfl
  rw [accumulate, State.push, interpretAs_operator known, combined]
  rfl

theorem accumulate_cons_of_failure {cell : Cell} {failure : Failure}
    (fails : bindings.valueOf cell = .error failure) (later : List Cell) (start : Double) :
    machine.accumulate symbol (cell :: later) ⟨[.number start], bindings⟩ =
      .failed ⟨[cell, .number start], bindings⟩ failure := by
  have failed : State.operate ⟨[cell, .number start], bindings⟩ symbol combine =
      .failed ⟨[cell, .number start], bindings⟩ failure := by
    simp only [State.operate, fails]
    rfl
  rw [accumulate, State.push, interpretAs_operator known, failed]
  rfl

/-- The values of cells are combined from the first to the last. -/
theorem accumulate_of_values {cells : List Cell} {values : List Double}
    (found : bindings.valuesOf cells = .ok values) (start : Double) :
    machine.accumulate symbol cells ⟨[.number start], bindings⟩ =
      .done ⟨[.number (values.foldl combine start)], bindings⟩ := by
  induction cells generalizing values start with
  | nil =>
      cases found
      rfl
  | cons cell later ih =>
      obtain ⟨value, others, first, rest, rfl⟩ := Bindings.valuesOf_cons_eq_ok_iff.mp found
      rw [accumulate_cons_of_value known first, ih rest, List.foldl_cons]

/-- The first cell without a value makes an end of it. -/
theorem accumulate_of_failure {cells : List Cell} {failure : Failure}
    (fails : bindings.valuesOf cells = .error failure) (start : Double) :
    (machine.accumulate symbol cells ⟨[.number start], bindings⟩).ending =
      .abandoned failure := by
  induction cells generalizing start with
  | nil => cases fails
  | cons cell later ih =>
      rcases Bindings.valuesOf_cons_eq_error_iff.mp fails with here | ⟨value, first, rest⟩
      · rw [accumulate_cons_of_failure known here]
        rfl
      · rw [accumulate_cons_of_value known first]
        exact ih rest _

end Accumulation

/-- An operator and a fold that combine in the same way agree on every stack.  If all cells have a
    value, the fold leaves what the operator leaves when it takes in the cells one by one,
    beginning with the initial number of the fold: a single number.  If not, both complain about
    the lowest variable without a value, and the fold leaves all as it was. -/
theorem interpretAs_fold_eq_accumulate {machine : Machine} {symbol name : Text} {fold : Fold}
    (operator : machine.vocabulary.operators.get? symbol = some fold.combine)
    (known : machine.vocabulary.folds.get? name = some fold) (state : State) :
    let folded := (machine.interpretAs Kind.fold.name name state).2
    let accumulated := machine.accumulate symbol state.stack.bottomUp
      (State.push ⟨[], state.bindings⟩ (.number fold.initial))
    ((∀ cell ∈ state.stack, state.bindings.resolves cell = true) →
      folded = accumulated ∧ ∃ value, folded = .done ⟨[.number value], state.bindings⟩) ∧
    ((∃ cell ∈ state.stack, state.bindings.resolves cell = false) →
      ∃ lower unassigned upper,
        state.stack.bottomUp = lower ++ .named unassigned :: upper ∧
        (∀ cell ∈ lower, state.bindings.resolves cell = true) ∧
        state.bindings.get? unassigned = none ∧
        folded = .failed state (.unassigned unassigned) ∧
        accumulated.ending = .abandoned (.unassigned unassigned)) := by
  intro folded accumulated
  have foldedAll : folded = state.foldAll fold := interpretAs_fold known state
  rw [State.foldAll] at foldedAll
  constructor
  · intro resolves
    have valued : ∃ values, state.bindings.valuesOf state.stack.bottomUp = .ok values :=
      Bindings.exists_valuesOf_iff.mpr fun cell member =>
        resolves cell (List.mem_reverse.mp member)
    obtain ⟨values, found⟩ := valued
    have accumulatedAll : accumulated =
        .done ⟨[.number (fold.result values)], state.bindings⟩ :=
      accumulate_of_values operator found fold.initial
    rw [found] at foldedAll
    exact ⟨foldedAll.trans accumulatedAll.symm, _, foldedAll⟩
  · rintro ⟨cell, member, valueless⟩
    cases found : state.bindings.valuesOf state.stack.bottomUp with
    | ok values =>
        have resolves := Bindings.exists_valuesOf_iff.mp ⟨values, found⟩
        rw [resolves cell (List.mem_reverse.mpr member)] at valueless
        cases valueless
    | error failure =>
        obtain ⟨lower, unassigned, upper, split, earlier, unbound, rfl⟩ :=
          Bindings.first_unassigned_of_valuesOf found
        rw [found] at foldedAll
        exact ⟨lower, unassigned, upper, split, earlier, unbound, foldedAll,
          accumulate_of_failure operator found fold.initial⟩

/-- The last value as an operator and as a fold, where all cells have a value, and `+` with `sum`
    on the same cells without the value of the variable. -/
theorem interpretAs_fold_eq_accumulate_last :
    let last : Combination := fun _ value => value
    let machine := (Machine.fresh.addOperator ['&'] last).addFold "last".toList ⟨last, .nan⟩
    let stack : Stack := [.named ['x'], .number .one]
    let valued : State := ⟨stack, NameTable.ofList [(['x'], .inf true)]⟩
    let valueless : State := ⟨stack, NameTable.empty⟩
    (machine.interpretAs Kind.fold.name "last".toList valued).2 =
        machine.accumulate ['&'] stack.bottomUp (State.push ⟨[], valued.bindings⟩ (.number .nan)) ∧
      ∃ name, (machine.interpretAs Kind.fold.name "sum".toList valueless).2 =
          .failed valueless (.unassigned name) ∧
        (machine.accumulate ['+'] stack.bottomUp
          (State.push ⟨[], valueless.bindings⟩ (.number (.zero false)))).ending =
          .abandoned (.unassigned name) := by
  intro last machine stack valued valueless
  have ampersand : machine.vocabulary.operators.get? ['&'] = some last := rfl
  have plus : machine.vocabulary.operators.get? ['+'] = some Double.add := rfl
  have knowsLast : machine.vocabulary.folds.get? "last".toList = some ⟨last, .nan⟩ := rfl
  have knowsSum : machine.vocabulary.folds.get? "sum".toList = some ⟨Double.add, .zero false⟩ := rfl
  have lasts := interpretAs_fold_eq_accumulate ampersand knowsLast valued
  have sums := interpretAs_fold_eq_accumulate plus knowsSum valueless
  obtain ⟨lower, name, upper, -, -, -, folded, accumulated⟩ := sums.2 (by decide)
  exact ⟨(lasts.1 (by decide)).1, name, folded, accumulated⟩

end Machine

end ReversePolish
