/-! # Text

A text is the list of its code points.  Every length, position, cut and order of
this library counts code points, so a text is a list of them and nothing more:
words, names, messages and whole screens are all of this type.
-/

namespace ReversePolish

abbrev Text := List Char

namespace Text

/-- What holds of all characters of a text is decided by going through the text, and not
    through all characters that there are. -/
instance (priority := high) decidableForallMem (text : List Char) (p : Char → Prop)
    [DecidablePred p] : Decidable (∀ c ∈ text, p c) :=
  List.decidableBAll p text

/-- The decimal numeral of a natural number. -/
def ofNat (n : Nat) : Text := Nat.toDigits 10 n

/-- The decimal numeral of an integer; a minus sign stands in front of a negative one. -/
def ofInt : Int → Text
  | .ofNat n => ofNat n
  | .negSucc n => '-' :: ofNat (n + 1)

/-- Fill a text with spaces on the right up to `width` code points.  A text that is
    long enough already is left as it is. -/
def padRight (width : Nat) (text : Text) : Text :=
  text ++ List.replicate (width - text.length) ' '

/-- Put the texts one after the other with `separator` between neighbours. -/
def joinWith (separator : Text) : List Text → Text
  | [] => []
  | [last] => last
  | text :: rest => text ++ separator ++ joinWith separator rest

/-- Remove the characters at the end of a text that satisfy `drop`. -/
def trimRight (drop : Char → Bool) : Text → Text
  | [] => []
  | c :: rest =>
    match trimRight drop rest with
    | [] => if drop c then [] else [c]
    | kept => c :: kept

/-- Remove the characters at both ends of a text that satisfy `drop`. -/
def trim (drop : Char → Bool) (text : Text) : Text :=
  trimRight drop (text.dropWhile drop)

/-- Each text followed by a line feed. -/
def lines (texts : List Text) : Text :=
  texts.flatMap (· ++ ['\n'])

end Text

end ReversePolish
