import ReversePolish.Held
import ReversePolish.State

/-! # Environments

An environment is a table of variables together with the objects that it holds: each variable has a
number, and the number is an object of its own or one that is held elsewhere too.  The words of the
calculator work on the values alone, which are the `Bindings` of the environment.
-/

namespace ReversePolish

/-- The numbers of variables as objects, in the order in which the variables were first assigned. -/
abbrev Environment := NameTable (Held Double)

/-- What a variable is set to. -/
inductive Given where
  /-- A number, which is held as it is. -/
  | number (object : Held Double)
  /-- An integer or a text; a new object is made for its double, with the given mark. -/
  | converted (quantity : Quantity) (mark : Nat)
  deriving Repr, DecidableEq

/-- The object that is held, if there is a double for it. -/
def Given.held : Given → Except ConversionError (Held Double)
  | .number object => .ok object
  | .converted quantity mark => quantity.toDouble.map (⟨·, mark⟩)

namespace Environment

/-- The values of the variables, without the objects. -/
def values (environment : Environment) : Bindings := environment.map Held.value

/-- Whether two environments have the same names, and under each of them one object or objects with
    equal numbers, as IEEE 754 compares them. -/
def equal (left right : Environment) : Bool := left.equalBy (Held.same Double.equal) right

inductive Call where
  | set (name : Text) (given : Given)
  | clear
  | get (name : Text)
  | contains (name : Text)
  deriving Repr, DecidableEq

/-- What comes back from a call. -/
inductive Return where
  | done
  /-- What was handed in has no double. -/
  | refused (error : ConversionError)
  | number (number : Option (Held Double))
  | bound (bound : Bool)
  deriving Repr, DecidableEq

def call (environment : Environment) : Call → Return × Environment
  | .set name given =>
    match given.held with
    | .ok object => (.done, environment.set name object)
    | .error error => (.refused error, environment)
  | .clear => (.done, NameTable.empty)
  | .get name => (.number (environment.get? name), environment)
  | .contains name => (.bound (environment.contains name), environment)

/-- The environment after calls that are made one after the other. -/
def afterCalls (environment : Environment) (calls : List Call) : Environment :=
  calls.foldl (fun environment call => (environment.call call).2) environment

end Environment

/-- Whether two tables that share no number have equal values under the same names. -/
def Bindings.equal (left right : Bindings) : Bool :=
  Environment.equal (left.map (⟨·, 0⟩)) (right.map (⟨·, 1⟩))

end ReversePolish
