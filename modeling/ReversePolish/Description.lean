import ReversePolish.Environment
import ReversePolish.Quoted

/-! # Descriptions

A description shows a cell, a stack, the variables or a state on one line, with kinds and
quoted names, for people who look into a session.  Stacks are shown from the bottom up and
variables in the order in which they were first assigned.
-/

namespace ReversePolish

def Text.listed (texts : List Text) : Text := Text.joinWith ", ".toList texts

/-- A cell with its kind and its number or quoted name. -/
def Cell.description : Cell → Text
  | .number value => "Cell(kind='NUMBER', value=".toList ++ value.text ++ [')']
  | .named name => "Cell(kind='VARIABLE', value=".toList ++ Quoted.quote name ++ [')']

/-- The cells of a stack from the bottom up. -/
def Stack.description (stack : Stack) : Text :=
  "ValueStack([".toList ++ Text.listed (stack.bottomUp.map Cell.description) ++ "])".toList

def Bindings.description (bindings : Bindings) : Text :=
  let assigned := bindings.entries.map fun entry =>
    Quoted.quote entry.1 ++ ": ".toList ++ entry.2.text
  "Environment(\x7b".toList ++ Text.listed assigned ++ "\x7d)".toList

/-- Of a number, only its value is shown. -/
def Environment.description (environment : Environment) : Text := environment.values.description

def State.description (state : State) : Text :=
  "State(stack=".toList ++ state.stack.description ++ ", variables=".toList
    ++ state.bindings.description ++ [')']

end ReversePolish
