import ReversePolish.Double.Numeral
import ReversePolish.Failure
import ReversePolish.Held

/-! # Cells and stacks

A cell holds a number, or the name of a variable that is looked up only when a word
consumes the cell.  A stack is the list of its cells from the top down.
-/

namespace ReversePolish

inductive Cell where
  | number (value : Double)
  | named (name : Text)
  deriving Repr, DecidableEq

namespace Cell

/-- A number is shown as its numeral and a variable as its name, never as its value. -/
def text : Cell → Text
  | .number value => value.text
  | .named name => name

/-- Whether two cells hold equal numbers, as IEEE 754 compares them, or the same name. -/
def equal : Cell → Cell → Bool
  | .number x, .number y => x.equal y
  | .named x, .named y => x = y
  | _, _ => false

end Cell

/-- A stack, its top cell first. -/
abbrev Stack := List Cell

namespace Stack

def ofBottomUp (cells : List Cell) : Stack := cells.reverse

/-- The cells from the bottom up. -/
def bottomUp (stack : Stack) : List Cell := stack.reverse

/-- Put cells on a stack one after the other; the last of them becomes the top. -/
def pushAll (stack : Stack) (cells : List Cell) : Stack := cells.reverse ++ stack

def top : Stack → Except Failure Cell
  | [] => .error (.underflow 1 0 none)
  | cell :: _ => .ok cell

def pop : Stack → Except Failure (Cell × Stack)
  | [] => .error (.underflow 1 0 none)
  | cell :: rest => .ok (cell, rest)

/-- Whether two stacks have the same cells all the way down.  The mark of a cell is that of the
    number in it. -/
def same (left right : List (Held Cell)) : Bool := left.isEqv right (Held.same Cell.equal)

/-- Whether two stacks that share no number have equal cells all the way down. -/
def equal (left right : Stack) : Bool := same (left.map (⟨·, 0⟩)) (right.map (⟨·, 1⟩))

end Stack

end ReversePolish
