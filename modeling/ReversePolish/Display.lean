import ReversePolish.State
import ReversePolish.Unicode.Blank

/-! # The display

The display shows a state in two columns: on the left the stack with its top cell first,
on the right the variables by name.  A header with a rule beneath it comes first.  A side
without entries says so in its first row, and the shorter side is filled up with nothing.
-/

namespace ReversePolish.Display

/-- The width of the left column if none is asked for. -/
def standardWidth : Int := 24

/-- What stands on a side without entries. -/
def orEmpty (entries : List Text) : List Text :=
  if entries = [] then ["(empty)".toList] else entries

/-- The left column: the cells from the top down. -/
def stackColumn (stack : Stack) : List Text := orEmpty (stack.map Cell.text)

/-- The right column: the variables by name, each with its value. -/
def variableColumn (bindings : Bindings) : List Text :=
  orEmpty (bindings.sorted.map fun entry => entry.1 ++ " = ".toList ++ entry.2.text)

/-- Pair the entries of two columns row by row. -/
def pairRows : List Text → List Text → List (Text × Text)
  | [], rights => rights.map fun right => ([], right)
  | lefts, [] => lefts.map fun left => (left, [])
  | left :: lefts, right :: rights => (left, right) :: pairRows lefts rights

/-- All rows: the header, the rule and the entries.  The rule is as long as the width
    says, so a negative width leaves none. -/
def rows (state : State) (width : Int) : List (Text × Text) :=
  let rule := List.replicate width.toNat '-'
  ("stack".toList, "variables".toList) :: (rule, rule) ::
    pairRows (stackColumn state.stack) (variableColumn state.bindings)

/-- A row as a line of text without blanks at its end.  The left entry is filled up with
    spaces to the size of the width. -/
def rowText (width : Int) (row : Text × Text) : Text :=
  Text.trimRight Unicode.isBlank
    (Text.padRight width.natAbs row.1 ++ " | ".toList ++ row.2)

def render (state : State) (width : Int) : Text :=
  Text.joinWith ['\n'] ((rows state width).map (rowText width))

end ReversePolish.Display
