import ReversePolish.Double.Reading
import ReversePolish.NameTable
import ReversePolish.Stack

/-! # States

What a session remembers from line to line: a stack and the values of variables.
-/

namespace ReversePolish

/-- The values of variables, in the order in which the variables were first assigned. -/
abbrev Bindings := NameTable Double

namespace Bindings

/-- Assign a number that is handed in; if it has no double, nothing is assigned. -/
def assign (bindings : Bindings) (name : Text) (quantity : Quantity) :
    Except ConversionError Bindings :=
  quantity.toDouble.map (bindings.set name)

/-- The value of a cell: its number, or the value of its variable. -/
def valueOf (bindings : Bindings) : Cell → Except Failure Double
  | .number value => .ok value
  | .named name =>
    match bindings.get? name with
    | some value => .ok value
    | none => .error (.unassigned name)

def resolves (bindings : Bindings) : Cell → Bool
  | .number _ => true
  | .named name => bindings.contains name

end Bindings

structure State where
  stack : Stack
  bindings : Bindings
  deriving Repr, DecidableEq

def State.initial : State := ⟨[], NameTable.empty⟩

end ReversePolish
