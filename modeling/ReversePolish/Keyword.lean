import ReversePolish.Text

/-! # Keywords

The keywords are the words that act on the stack, the variables or the session as a whole
and whose meaning never changes.  The list here is that of the keywords that can be carried out.
Which words are read as keywords is another matter.
-/

namespace ReversePolish

inductive Keyword where
  /-- Empty the stack. -/
  | clear
  /-- Empty the stack and forget all variables. -/
  | reset
  /-- End the session. -/
  | exit
  /-- Show the top cell and remove it. -/
  | print
  /-- Put a copy of the top cell on the stack. -/
  | dup
  /-- Remove the top cell. -/
  | drop
  /-- Exchange the two top cells. -/
  | swap
  deriving Repr, DecidableEq

namespace Keyword

def all : List Keyword := [.clear, .reset, .exit, .print, .dup, .drop, .swap]

def word : Keyword → Text
  | .clear => "clear".toList
  | .reset => "reset".toList
  | .exit => "exit".toList
  | .print => "print".toList
  | .dup => "dup".toList
  | .drop => "drop".toList
  | .swap => "swap".toList

def ofWord? (word : Text) : Option Keyword := all.find? (fun keyword => keyword.word = word)

end Keyword

end ReversePolish
