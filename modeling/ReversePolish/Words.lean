import ReversePolish.Text
import ReversePolish.Unicode.Blank

/-! # Words

A word of a text is a longest run of characters that are not blank.
-/

namespace ReversePolish.Words

open Unicode

/-- Whether no word goes on at the start of a text: it is empty or starts with a blank. -/
def wordEnds : Text → Bool
  | [] => true
  | c :: _ => isBlank c

/-- Put a character in front of the first word. -/
def extend (c : Char) : List Text → List Text
  | [] => [[c]]
  | word :: words => (c :: word) :: words

def split : Text → List Text
  | [] => []
  | c :: rest =>
    if isBlank c then split rest
    else if wordEnds rest then [c] :: split rest
    else extend c (split rest)

example : split " 1\t22 + ".toList = ["1".toList, "22".toList, "+".toList] := by decide

end ReversePolish.Words
