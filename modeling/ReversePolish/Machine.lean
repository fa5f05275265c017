import ReversePolish.Run

/-! # Machines

A machine knows a vocabulary and keeps what it has to tell about the latest line.  It
holds nothing else from line to line: the state is handed to it and handed back.
-/

namespace ReversePolish

/-- A vocabulary, the messages since the latest line began, and whether the session goes
    on. -/
structure Machine where
  vocabulary : Vocabulary
  messages : List Text
  running : Bool

namespace Machine

def fresh : Machine := ⟨Vocabulary.standard, [], true⟩

def addOperator (machine : Machine) (symbol : Text) (combine : Combination) : Machine :=
  { machine with vocabulary := machine.vocabulary.addOperator symbol combine }

def addFold (machine : Machine) (name : Text) (fold : Fold) : Machine :=
  { machine with vocabulary := machine.vocabulary.addFold name fold }

/-- Process a line.  The machine forgets what it told before. -/
def processLine (machine : Machine) (line : Text) (state : State) : Machine × Run :=
  let run := Run.ofLine machine.vocabulary line state
  ({ machine with messages := run.messages, running := run.goesOn }, run)

/-- Take note of an effect: what it prints is added to the messages, and the session may
    be over. -/
def noting (machine : Machine) (effect : Effect) : Machine :=
  { machine with
      messages := machine.messages ++ effect.printed
      running := machine.running && effect.ending ≠ .exited }

/-- Let a word act on a state as a token of the kind with a given name, outside of any
    line.  A failure is left to the caller. -/
def interpretAs (machine : Machine) (kindName word : Text) (state : State) : Machine × Effect :=
  let effect := match Kind.ofName? kindName with
    | some kind => Token.effect machine.vocabulary ⟨kind, word⟩ state
    | none => .ofProcedure (Procedure.fail (.noKind kindName)) state
  (machine.noting effect, effect)

/-- The operator symbols in the order of code points. -/
def operatorWords (machine : Machine) : List Text :=
  machine.vocabulary.operators.sorted.map Prod.fst

def foldWords (machine : Machine) : List Text := machine.vocabulary.folds.sorted.map Prod.fst

def keywordWords : List Text :=
  (NameTable.ofList (Keyword.all.map fun keyword => (keyword.word, keyword))).sorted.map Prod.fst

end Machine

end ReversePolish
