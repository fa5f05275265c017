import ReversePolish.Effect

/-! # Effects at one look

A procedure takes its cells one by one and puts them back if they are of no use.  Seen from
outside, nothing of that remains: the effect of a token on a state is decided by one look at
the cells it consumes, and where it fails the state is the one before.  `Token.directEffect`
says so word by word, and `Token.effect_eq_direct` proves that the procedures come to that.

The lemmas on `Procedure.outcome` say once what a step does to a workspace.
-/

namespace ReversePolish

namespace Procedure

variable {α β : Type} (workspace : Workspace)

@[simp] theorem outcome_bind (first : Procedure α) (later : α → Procedure β) :
    outcome (first >>= later) workspace =
      match outcome first workspace with
      | (.ok value, after) => outcome (later value) after
      | (.error interruption, after) => (.error interruption, after) := by
  simp only [outcome, ExceptT.run_bind, StateT.run_bind, Id.run_bind]
  rcases (ExceptT.run first).run workspace with ⟨result, after⟩
  cases result <;> rfl

@[simp] theorem outcome_tryCatch (procedure : Procedure α) (handle : Interruption → Procedure α) :
    outcome (tryCatch procedure handle) workspace =
      match outcome procedure workspace with
      | (.ok value, after) => (.ok value, after)
      | (.error interruption, after) => outcome (handle interruption) after := by
  simp only [outcome, tryCatch, tryCatchThe, MonadExceptOf.tryCatch, ExceptT.tryCatch, ExceptT.run,
    ExceptT.mk, StateT.run_bind, Id.run_bind]
  rcases StateT.run procedure workspace with ⟨result, after⟩
  cases result <;> rfl

@[simp] theorem outcome_currentState :
    outcome currentState workspace = (.ok workspace.state, workspace) := rfl

@[simp] theorem outcome_setBindings (bindings : Bindings) :
    outcome (setBindings bindings) workspace =
      (.ok (), { workspace with state.bindings := bindings }) := rfl

@[simp] theorem mapError_ok {ε δ : Type} (f : ε → δ) (value : α) :
    (Except.ok value : Except ε α).mapError f = .ok value := rfl

@[simp] theorem mapError_error {ε δ : Type} (f : ε → δ) (error : ε) :
    (Except.error error : Except ε α).mapError f = .error (f error) := rfl

@[simp] theorem outcome_resolve (cell : Cell) :
    outcome (resolve cell) workspace =
      ((workspace.state.bindings.valueOf cell).mapError .failure, workspace) := by
  simp only [resolve, outcome_bind, outcome_currentState]
  cases workspace.state.bindings.valueOf cell <;> rfl

@[simp] theorem outcome_pop (cell : Cell) (rest : Stack) (bindings : Bindings)
    (printed : List Text) (running : Bool) :
    outcome pop ⟨⟨cell :: rest, bindings⟩, printed, running⟩ =
      (.ok cell, ⟨⟨rest, bindings⟩, printed, running⟩) := rfl

@[simp] theorem outcome_need (count : Nat) (purpose : Text) :
    outcome (need count purpose) workspace =
      if workspace.state.stack.length < count then
        (.error (.failure (.underflow count workspace.state.stack.length (some purpose))),
          workspace)
      else (.ok (), workspace) := by
  simp only [need, outcome_bind, outcome_currentState]
  split <;> rfl

@[simp] theorem outcome_restoring (procedure : Procedure α) (cells : List Cell) :
    outcome (restoring procedure cells) workspace =
      match outcome procedure workspace with
      | (.ok value, after) => (.ok value, after)
      | (.error (.failure (.unassigned name)), after) =>
        (.error (.failure (.unassigned name)),
          { after with state.stack := cells.reverse ++ after.state.stack })
      | (.error interruption, after) => (.error interruption, after) := by
  simp only [restoring, outcome_tryCatch]
  rcases outcome procedure workspace with ⟨result, after⟩
  cases result with
  | ok value => rfl
  | error interruption =>
      cases interruption with
      | conversion error => rfl
      | failure failure => cases failure <;> rfl

end Procedure

namespace Bindings

/-- The values of cells, if all have one; otherwise the first cell without one fails. -/
def valuesOf (bindings : Bindings) : List Cell → Except Failure (List Double)
  | [] => .ok []
  | cell :: rest =>
    match valueOf bindings cell with
    | .error failure => .error failure
    | .ok value => (valuesOf bindings rest).map (value :: ·)

/-- Only a variable without a value fails. -/
theorem unassigned_of_valueOf {bindings : Bindings} {cell : Cell} {failure : Failure}
    (fails : bindings.valueOf cell = .error failure) :
    ∃ name, cell = .named name ∧ bindings.get? name = none ∧ failure = .unassigned name := by
  cases cell with
  | number value => simp [valueOf] at fails
  | named name =>
      cases bound : bindings.get? name with
      | some value => simp [valueOf, bound] at fails
      | none =>
          simp only [valueOf, bound, Except.error.injEq] at fails
          exact ⟨name, rfl, bound, fails.symm⟩

/-- The cells that have a value are those whose look-up does not fail. -/
theorem resolves_eq (bindings : Bindings) (cell : Cell) :
    bindings.resolves cell = (bindings.valueOf cell).toBool := by
  cases cell with
  | number value => rfl
  | named name =>
      simp only [resolves, valueOf, NameTable.contains]
      cases bindings.get? name <;> rfl

section Lists

variable {bindings : Bindings} {cell : Cell} {rest cells : List Cell} {values : List Double}
  {failure : Failure}

theorem valuesOf_cons_eq_ok_iff :
    bindings.valuesOf (cell :: rest) = .ok values ↔
      ∃ value others, bindings.valueOf cell = .ok value ∧ bindings.valuesOf rest = .ok others ∧
        values = value :: others := by
  rw [valuesOf]
  cases bindings.valueOf cell with
  | error failure => simp
  | ok value => cases bindings.valuesOf rest <;> simp [Except.map, eq_comm]

theorem valuesOf_cons_eq_error_iff :
    bindings.valuesOf (cell :: rest) = .error failure ↔
      bindings.valueOf cell = .error failure ∨
        ∃ value, bindings.valueOf cell = .ok value ∧ bindings.valuesOf rest = .error failure := by
  rw [valuesOf]
  cases bindings.valueOf cell with
  | error failure => simp
  | ok value => cases bindings.valuesOf rest <;> simp [Except.map]

/-- A list of cells fails with the first variable on it that has no value. -/
theorem first_unassigned_of_valuesOf (fails : bindings.valuesOf cells = .error failure) :
    ∃ before name after, cells = before ++ .named name :: after ∧
      (∀ cell ∈ before, bindings.resolves cell = true) ∧ bindings.get? name = none ∧
      failure = .unassigned name := by
  induction cells with
  | nil => cases fails
  | cons cell rest ih =>
      rcases valuesOf_cons_eq_error_iff.mp fails with here | ⟨value, found, later⟩
      · obtain ⟨name, rfl, unbound, unassigned⟩ := unassigned_of_valueOf here
        exact ⟨[], name, rest, rfl, List.forall_mem_nil _, unbound, unassigned⟩
      · obtain ⟨before, name, after, split, earlier, unbound, unassigned⟩ := ih later
        have resolves : bindings.resolves cell = true := by
          rw [resolves_eq, found]
          rfl
        exact ⟨cell :: before, name, after, congrArg (cell :: ·) split,
          List.forall_mem_cons.mpr ⟨resolves, earlier⟩, unbound, unassigned⟩

/-- A list of cells fails with a variable on it that has no value. -/
theorem unassigned_of_valuesOf (fails : bindings.valuesOf cells = .error failure) :
    ∃ name, Cell.named name ∈ cells ∧ bindings.get? name = none ∧ failure = .unassigned name := by
  obtain ⟨before, name, after, split, -, unbound, unassigned⟩ := first_unassigned_of_valuesOf fails
  exact ⟨name, by simp [split], unbound, unassigned⟩

/-- A list of cells has values if each of them has one. -/
theorem exists_valuesOf_iff :
    (∃ values, bindings.valuesOf cells = .ok values) ↔
      ∀ cell ∈ cells, bindings.resolves cell = true := by
  constructor
  · rintro ⟨values, found⟩
    induction cells generalizing values with
    | nil => exact List.forall_mem_nil _
    | cons cell rest ih =>
        obtain ⟨value, others, first, later, -⟩ := valuesOf_cons_eq_ok_iff.mp found
        refine List.forall_mem_cons.mpr ⟨?_, ih others later⟩
        rw [resolves_eq, first]
        rfl
  · intro resolves
    cases found : bindings.valuesOf cells with
    | ok values => exact ⟨values, rfl⟩
    | error failure =>
        obtain ⟨name, among, unbound, -⟩ := unassigned_of_valuesOf found
        have bound := resolves _ among
        simp [Bindings.resolves, NameTable.contains, unbound] at bound

end Lists

end Bindings

namespace Procedure

/-- Looking up cells one after the other changes nothing. -/
@[simp] theorem outcome_resolve_all (cells : List Cell) (workspace : Workspace) :
    outcome (cells.mapM resolve) workspace =
      ((workspace.state.bindings.valuesOf cells).mapError .failure, workspace) := by
  induction cells with
  | nil => rfl
  | cons cell rest ih =>
      simp only [List.mapM_cons, outcome_bind, outcome_resolve, Bindings.valuesOf]
      cases workspace.state.bindings.valueOf cell with
      | error failure => rfl
      | ok value =>
          simp only [mapError_ok, ih]
          cases workspace.state.bindings.valuesOf rest <;> rfl

end Procedure

namespace Effect

/-- The effect of a word that is carried out without printing anything. -/
def done (state : State) : Effect := ⟨state, [], .completed⟩

/-- The effect of a word that fails: the state stays as it is. -/
def failed (state : State) (failure : Failure) : Effect := ⟨state, [], .abandoned failure⟩

/-- The effect of a word that needs more cells than the stack has. -/
def tooFew (state : State) (needed : Nat) (purpose : Text) : Effect :=
  failed state (.underflow needed state.stack.length (some purpose))

end Effect

namespace State

open Effect

/-- Put a cell on the stack. -/
def push (state : State) (cell : Cell) : State := { state with stack := cell :: state.stack }

/-- Combine the two top cells into one number, if both have a value. -/
def operate (state : State) (symbol : Text) (combine : Combination) : Effect :=
  match state.stack with
  | right :: left :: rest =>
    match state.bindings.valueOf left, state.bindings.valueOf right with
    | .ok a, .ok b => done { state with stack := .number (combine a b) :: rest }
    | .error failure, _ => failed state failure
    | .ok _, .error failure => failed state failure
  | _ => tooFew state 2 symbol

/-- Combine all cells into one number, if all have a value. -/
def foldAll (state : State) (fold : Fold) : Effect :=
  match state.bindings.valuesOf state.stack.bottomUp with
  | .ok values => done { state with stack := [.number (fold.result values)] }
  | .error failure => failed state failure

/-- Assign to the variable on top the value of the cell beneath it, and consume both. -/
def assignTop (state : State) : Effect :=
  match state.stack with
  | .number target :: _ :: _ => failed state (.assignedToNumber target.text)
  | .named target :: value :: rest =>
    match state.bindings.valueOf value with
    | .ok number => done ⟨rest, state.bindings.set target number⟩
    | .error _ => failed state (.assignedUnassigned value.text target)
  | _ => tooFew state 2 "assignment".toList

/-- What a keyword does to a state. -/
def act (state : State) (keyword : Keyword) : Effect :=
  match keyword, state.stack with
  | .clear, _ => done { state with stack := [] }
  | .reset, _ => done State.initial
  | .exit, _ => ⟨state, [], .exited⟩
  | .print, cell :: rest => ⟨{ state with stack := rest }, [cell.text], .completed⟩
  | .dup, cell :: rest => done { state with stack := cell :: cell :: rest }
  | .drop, _ :: rest => done { state with stack := rest }
  | .swap, last :: previous :: rest => done { state with stack := previous :: last :: rest }
  | .swap, _ => tooFew state 2 keyword.word
  | _, [] => tooFew state 1 keyword.word

end State

namespace Effect

open Procedure

theorem ofProcedure_operate (symbol : Text) (combine : Combination) (state : State) :
    ofProcedure (operate symbol combine) state = state.operate symbol combine := by
  obtain ⟨stack, bindings⟩ := state
  match stack with
  | [] | [_] => rfl
  | right :: left :: rest =>
      -- Both cells are there, so only their values decide what happens.
      have enough : ¬ rest.length + 1 + 1 < 2 := by omega
      simp only [ofProcedure, operate, State.operate, outcome_bind, outcome_need, List.length_cons,
        enough, if_false, outcome_pop, outcome_restoring, outcome_resolve]
      cases leftValue : bindings.valueOf left with
      | error failure =>
          obtain ⟨name, -, -, rfl⟩ := Bindings.unassigned_of_valueOf leftValue
          rfl
      | ok a =>
          cases rightValue : bindings.valueOf right with
          | error failure =>
              obtain ⟨name, -, -, rfl⟩ := Bindings.unassigned_of_valueOf rightValue
              simp only [mapError_ok, mapError_error, rightValue]
              rfl
          | ok b =>
              simp only [mapError_ok, rightValue]
              rfl

theorem ofProcedure_foldAll (fold : Fold) (state : State) :
    ofProcedure (foldAll fold) state = state.foldAll fold := by
  simp only [ofProcedure, foldAll, State.foldAll, outcome_bind, outcome_currentState,
    outcome_resolve_all]
  cases state.bindings.valuesOf state.stack.bottomUp <;> rfl

theorem ofProcedure_assignTop (state : State) :
    ofProcedure assignTop state = state.assignTop := by
  obtain ⟨stack, bindings⟩ := state
  match stack with
  | [] | [.number _] | [.named _] => rfl
  | target :: value :: rest =>
      have enough : ¬ rest.length + 1 + 1 < 2 := by omega
      simp only [ofProcedure, assignTop, State.assignTop, outcome_bind, outcome_need,
        List.length_cons, enough, if_false, outcome_pop]
      cases target with
      | number number => rfl
      | named name =>
          simp only [outcome_bind, outcome_currentState, Bindings.resolves_eq]
          cases found : bindings.valueOf value with
          | error failure => rfl
          | ok number => simp [Except.toBool, found, done]

theorem ofProcedure_ofKeyword (keyword : Keyword) (state : State) :
    ofProcedure (ofKeyword keyword) state = state.act keyword := by
  obtain ⟨stack, bindings⟩ := state
  cases keyword with
  | clear | reset | exit => rfl
  | print | dup | drop => cases stack <;> rfl
  | swap =>
      match stack with
      | [] | [_] => rfl
      | last :: previous :: rest => rfl

end Effect

namespace Token

open Effect

/-- What a token does, seen at one look. -/
def directEffect (vocabulary : Vocabulary) (token : Token) (state : State) : Effect :=
  match token.kind with
  | .number =>
    match Double.ofText token.word with
    | .ok value => done (state.push (.number value))
    | .error error => ⟨state, [], .escaped error⟩
  | .identifier => done (state.push (.named token.word))
  | .assignment => state.assignTop
  | .binaryOperator =>
    match vocabulary.operators.get? token.word with
    | some combine => state.operate token.word combine
    | none => failed state (.noOperator token.word)
  | .keyword =>
    match Keyword.ofWord? token.word with
    | some keyword => state.act keyword
    | none => failed state (.noKeyword token.word)
  | .fold =>
    match vocabulary.folds.get? token.word with
    | some fold => state.foldAll fold
    | none => failed state (.noFold token.word)
  | .invalid => failed state (.unrecognised token.word)

/-- The procedure of a token, step by step, comes to what one look tells. -/
theorem effect_eq_direct (vocabulary : Vocabulary) (token : Token) (state : State) :
    token.effect vocabulary state = token.directEffect vocabulary state := by
  obtain ⟨kind, word⟩ := token
  cases kind with
  | number =>
      simp only [effect, directEffect, Procedure.ofToken]
      cases Double.ofText word <;> rfl
  | identifier | invalid => rfl
  | assignment => exact ofProcedure_assignTop state
  | binaryOperator =>
      simp only [effect, directEffect, Procedure.ofToken]
      cases vocabulary.operators.get? word with
      | none => rfl
      | some combine => exact ofProcedure_operate word combine state
  | keyword =>
      simp only [effect, directEffect, Procedure.ofToken]
      cases Keyword.ofWord? word with
      | none => rfl
      | some keyword => exact ofProcedure_ofKeyword keyword state
  | fold =>
      simp only [effect, directEffect, Procedure.ofToken]
      cases vocabulary.folds.get? word with
      | none => rfl
      | some fold => exact ofProcedure_foldAll fold state

end Token

end ReversePolish
