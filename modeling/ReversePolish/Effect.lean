import ReversePolish.Keyword
import ReversePolish.Procedure
import ReversePolish.Token
import ReversePolish.Vocabulary

/-! # What words do

A token is carried out on a state by a procedure of its own.  Its effect is the state that
the procedure leaves, what it prints, and whether and how it ends the line.

A word first makes sure that the stack has as many cells as it consumes, and only then takes
them.  If one of them turns out to be of no use, all are put back in the order in which
they were, so that the line can be tried again once the cause is mended.
-/

namespace ReversePolish

namespace Procedure

/-- Combine the two top cells into one number.  The lower cell is the left operand, and
    its variable is looked up first. -/
def operate (symbol : Text) (combine : Combination) : Procedure Unit := do
  need 2 symbol
  let right ← pop
  let left ← pop
  let operands ← restoring (return (← resolve left, ← resolve right)) [left, right]
  push (.number (combine operands.1 operands.2))

/-- Combine all cells into one number, from the bottom up. -/
def foldAll (fold : Fold) : Procedure Unit := do
  let values ← (← currentState).stack.bottomUp.mapM resolve
  setStack []
  push (.number (fold.result values))

/-- Assign to the variable on top the value of the cell beneath it, and consume both. -/
def assignTop : Procedure Unit := do
  need 2 "assignment".toList
  let target ← pop
  let value ← pop
  match target with
  | .number number =>
    pushAll [value, target]
    fail (.assignedToNumber number.text)
  | .named name =>
    let bindings := (← currentState).bindings
    if bindings.resolves value then
      setBindings (bindings.set name (← resolve value))
    else
      pushAll [value, target]
      fail (.assignedUnassigned value.text name)

def ofKeyword (keyword : Keyword) : Procedure Unit :=
  match keyword with
  | .clear => setStack []
  | .reset => do
    setStack []
    setBindings NameTable.empty
  | .exit => stop
  | .print => do
    need 1 keyword.word
    emit (← pop).text
  | .drop => do
    need 1 keyword.word
    let _ ← pop
  | .dup => do
    need 1 keyword.word
    let cell ← pop
    pushAll [cell, cell]
  | .swap => do
    need 2 keyword.word
    let last ← pop
    let previous ← pop
    pushAll [last, previous]

/-- What a token does.  The words of operators, folds and keywords are looked up; a token
    whose word is unknown to its kind fails. -/
def ofToken (vocabulary : Vocabulary) (token : Token) : Procedure Unit :=
  match token.kind with
  | .number =>
    match Double.ofText token.word with
    | .ok value => push (.number value)
    | .error error => throw (.conversion error)
  | .identifier => push (.named token.word)
  | .assignment => assignTop
  | .binaryOperator =>
    match vocabulary.operators.get? token.word with
    | some combine => operate token.word combine
    | none => fail (.noOperator token.word)
  | .keyword =>
    match Keyword.ofWord? token.word with
    | some keyword => ofKeyword keyword
    | none => fail (.noKeyword token.word)
  | .fold =>
    match vocabulary.folds.get? token.word with
    | some fold => foldAll fold
    | none => fail (.noFold token.word)
  | .invalid => fail (.unrecognised token.word)

end Procedure

/-- How a token, or a line, ends. -/
inductive Ending where
  /-- It was carried out, and the next one may follow. -/
  | completed
  | exited
  /-- It failed, and the rest of the line is not run. -/
  | abandoned (failure : Failure)
  /-- A number word could not be converted. -/
  | escaped (error : ConversionError)
  deriving Repr, DecidableEq

structure Effect where
  state : State
  printed : List Text
  ending : Ending
  deriving Repr, DecidableEq

def Effect.ofProcedure (procedure : Procedure Unit) (state : State) : Effect :=
  match procedure.outcome ⟨state, [], true⟩ with
  | (.ok (), after) =>
    ⟨after.state, after.printed, if after.running then .completed else .exited⟩
  | (.error (.failure failure), after) => ⟨after.state, after.printed, .abandoned failure⟩
  | (.error (.conversion error), after) => ⟨after.state, after.printed, .escaped error⟩

def Token.effect (vocabulary : Vocabulary) (token : Token) (state : State) : Effect :=
  .ofProcedure (.ofToken vocabulary token) state

end ReversePolish
