import ReversePolish.Display
import ReversePolish.Machine

/-! # Sessions

A session feeds lines to a machine and writes out what comes back: the messages of the
line and then, unless the session is quiet or over, the display of the state.
-/

namespace ReversePolish

/-- A machine, the state it works on, and whether the display is left out. -/
structure Session where
  machine : Machine
  state : State
  quiet : Bool

/-- What comes back when a line is fed. -/
structure Feedback where
  session : Session
  output : Text
  run : Run

namespace Session

def start (quiet : Bool) : Session := ⟨Machine.fresh, State.initial, quiet⟩

/-- The display of the state on lines of its own, if it is shown after a line. -/
def shown (session : Session) : Text :=
  if session.machine.running && !session.quiet
  then Text.lines [Display.render session.state Display.standardWidth] else []

/-- Feed a line.  A line with a number word that cannot be converted writes nothing. -/
def feed (session : Session) (line : Text) : Feedback :=
  let processed := session.machine.processLine line session.state
  let after := { session with machine := processed.1, state := processed.2.state }
  let output := match processed.2.ending with
    | .escaped _ => []
    | _ => Text.lines after.machine.messages ++ after.shown
  ⟨after, output, processed.2⟩

end Session

end ReversePolish
