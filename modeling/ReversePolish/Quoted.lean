import ReversePolish.Text
import ReversePolish.Unicode.Printable

/-! # Quoted texts

A quoted text shows on one line what a text holds.  It stands in single quotes, or in
double quotes if it holds a single quote and no double one.  A backslash marks what
cannot stand for itself: the backslash, the quote in use, the line feed, carriage return
and tab by a letter, and any other character that is not printable by its code point in
two, four or eight hexadecimal digits.
-/

namespace ReversePolish.Quoted

open Unicode

def single : Char := '\x27'

def double : Char := '\x22'

/-- The quote that a text is put in. -/
def quoteFor (text : Text) : Char :=
  if text.contains single && !text.contains double then double else single

/-- The last `width` hexadecimal digits of a number, in lower case. -/
def hex : (width : Nat) → Nat → Text
  | 0, _ => []
  | width + 1, n => hex width (n / 16) ++ [Nat.digitChar (n % 16)]

/-- How a character is shown between the given quotes. -/
def escape (quote c : Char) : Text :=
  if c = '\\' ∨ c = quote then ['\\', c]
  else if c = '\n' then ['\\', 'n']
  else if c = '\r' then ['\\', 'r']
  else if c = '\t' then ['\\', 't']
  else if isPrintable c then [c]
  else if c.toNat < 0x100 then '\\' :: 'x' :: hex 2 c.toNat
  else if c.toNat < 0x10000 then '\\' :: 'u' :: hex 4 c.toNat
  else '\\' :: 'U' :: hex 8 c.toNat

def quote (text : Text) : Text :=
  let mark := quoteFor text
  mark :: (text.flatMap (escape mark) ++ [mark])

end ReversePolish.Quoted
