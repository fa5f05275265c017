import ReversePolish.Cursor
import ReversePolish.Effect

/-! # Runs

A run carries out tokens from left to right until one of them ends the line.  What the
tokens before it did to the state stays done.
-/

namespace ReversePolish

structure Run where
  state : State
  printed : List Text
  /-- The tokens that were tried: all up to and including the one that ended the line. -/
  tried : List Token
  ending : Ending
  deriving Repr, DecidableEq

namespace Run

def ofTokens (vocabulary : Vocabulary) : List Token → State → Run
  | [], state => ⟨state, [], [], .completed⟩
  | token :: later, state =>
    let effect := token.effect vocabulary state
    match effect.ending with
    | .completed =>
      let run := ofTokens vocabulary later effect.state
      ⟨run.state, effect.printed ++ run.printed, token :: run.tried, run.ending⟩
    | ending => ⟨effect.state, effect.printed, [token], ending⟩

def ofLine (vocabulary : Vocabulary) (line : Text) (state : State) : Run :=
  ofTokens vocabulary (Token.ofWords (Cursor.start line).words.1) state

def goesOn (run : Run) : Bool := run.ending ≠ .exited

def report (failure : Failure) : Text := "? ".toList ++ failure.message

/-- What the user is told: all that was printed, and then the failure that abandoned the
    line, if one did. -/
def messages (run : Run) : List Text :=
  match run.ending with
  | .abandoned failure => run.printed ++ [report failure]
  | _ => run.printed

end Run

end ReversePolish
