import ReversePolish.Text
import ReversePolish.Unicode.Digit

/-! # Number words

A word of a line is a number if it has, from end to end, the form

    [+-] ( digits [.] [digits] | . digits ) [ (e|E) [+-] digits ]
    [+-] ( inf | infinity | nan )

with digits of any script and the names in capitals or not.  The form is narrower than
what can be read as a double: a number word has no underscores and no white space.  It is
also wider, at one place: where capitals are ignored, the two Turkish letters `İ` and `ı`
pass for an `i`.
-/

namespace ReversePolish.NumberWord

open Unicode

/-- A text without its leading sign. -/
def unsigned : Text → Text
  | [] => []
  | c :: rest => if c = '+' ∨ c = '-' then rest else c :: rest

/-- One digit or more, and nothing else. -/
def isDigits (text : Text) : Bool := !text.isEmpty && text.all isDigit

/-- An exponent, or nothing. -/
def isExponent : Text → Bool
  | [] => true
  | mark :: rest => (mark = 'e' || mark = 'E') && isDigits (unsigned rest)

/-- What may follow the digits in front of a decimal point. -/
def isTail : Text → Bool
  | [] => true
  | c :: rest => if c = '.' then isExponent (rest.dropWhile isDigit) else isExponent (c :: rest)

/-- Digits with an optional point and an optional exponent. -/
def isDecimal : Text → Bool
  | [] => false
  | c :: rest =>
    if c = '.' then rest.head?.any isDigit && isExponent (rest.dropWhile isDigit)
    else isDigit c && isTail (rest.dropWhile isDigit)

/-- Whether a character passes for a small letter where capitals are ignored. -/
def passesFor (c letter : Char) : Bool :=
  c.toLower = letter || (letter = 'i' && (c = '\u0130' || c = '\u0131'))

/-- Whether a text spells a name where capitals are ignored. -/
def spells : (name text : Text) → Bool
  | [], [] => true
  | letter :: name, c :: text => passesFor c letter && spells name text
  | _, _ => false

def isNamed (text : Text) : Bool :=
  spells "inf".toList text || spells "infinity".toList text || spells "nan".toList text

def isNumber (word : Text) : Bool := isDecimal (unsigned word) || isNamed (unsigned word)

end ReversePolish.NumberWord
