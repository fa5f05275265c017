import ReversePolish.State

/-! # Procedures

A word is carried out as a procedure: small steps that take cells from the stack, put
cells on it, look variables up, or print.  A step may interrupt the procedure.  What the
steps before it did stays done, so a procedure that is to leave no trace when it is
interrupted has to put back what it took.
-/

namespace ReversePolish

/-- Why a procedure does not come to its end. -/
inductive Interruption where
  | failure (failure : Failure)
  /-- A number word could not be converted; this is no failure of the line but of the
      session as a whole. -/
  | conversion (error : ConversionError)
  deriving Repr, DecidableEq

/-- What a procedure works on: the state, all that was printed, and whether the session
    goes on. -/
structure Workspace where
  state : State
  printed : List Text
  running : Bool
  deriving Repr, DecidableEq

/-- Steps on a workspace that may be interrupted. -/
abbrev Procedure (α : Type) := ExceptT Interruption (StateM Workspace) α

namespace Procedure

/-- How a procedure ends on a workspace, and the workspace it leaves. -/
def outcome {α : Type} (procedure : Procedure α) (workspace : Workspace) :
    Except Interruption α × Workspace :=
  (procedure.run.run workspace).run

def fail {α : Type} (failure : Failure) : Procedure α := throw (.failure failure)

def currentState : Procedure State := return (← get).state

def setStack (stack : Stack) : Procedure Unit :=
  modify fun workspace => { workspace with state.stack := stack }

def setBindings (bindings : Bindings) : Procedure Unit :=
  modify fun workspace => { workspace with state.bindings := bindings }

def emit (text : Text) : Procedure Unit :=
  modify fun workspace => { workspace with printed := workspace.printed ++ [text] }

def stop : Procedure Unit := modify fun workspace => { workspace with running := false }

/-- Put cells on the stack one after the other; the last of them becomes the top. -/
def pushAll (cells : List Cell) : Procedure Unit := do
  setStack ((← currentState).stack.pushAll cells)

def push (cell : Cell) : Procedure Unit := pushAll [cell]

def pop : Procedure Cell := do
  match (← currentState).stack.pop with
  | .ok (cell, rest) =>
    setStack rest
    return cell
  | .error failure => fail failure

/-- Let the line fail unless the stack has a number of cells, for the word named by
    `purpose`. -/
def need (count : Nat) (purpose : Text) : Procedure Unit := do
  let found := (← currentState).stack.length
  if found < count then fail (.underflow count found (some purpose))

def resolve (cell : Cell) : Procedure Double := do
  match (← currentState).bindings.valueOf cell with
  | .ok value => return value
  | .error failure => fail failure

/-- Carry out a procedure; if a variable without a value interrupts it, put cells on the
    stack before the interruption goes on. -/
def restoring {α : Type} (procedure : Procedure α) (cells : List Cell) : Procedure α :=
  tryCatch procedure fun interruption => do
    match interruption with
    | .failure (.unassigned _) => pushAll cells
    | _ => pure ()
    throw interruption

end Procedure

end ReversePolish
