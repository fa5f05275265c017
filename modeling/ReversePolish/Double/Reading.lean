import ReversePolish.Quoted
import ReversePolish.Double.Decimal
import ReversePolish.Unicode.Blank
import ReversePolish.Unicode.Digit

/-! # Reading a double

A text is read as a double if it is a numeral, with white space around it if need be.  A
numeral is an optional sign and then either one of the names `inf`, `infinity` and `nan`,
in capitals or not, or digits with an optional point among them and an optional exponent.
The digits may be those of any script, and a single underscore may stand between two
digits.

Reading takes the exact decimal that the digits spell and rounds it once.
-/

namespace ReversePolish

/-- Why a number that was handed in has no double. -/
inductive ConversionError where
  | notNumeral (text : Text)
  /-- The integer is nearer to 2¹⁰²⁴ than to any double. -/
  | tooLarge
  deriving Repr, DecidableEq

def ConversionError.message : ConversionError → Text
  | .notNumeral text => "could not convert string to float: ".toList ++ Quoted.quote text
  | .tooLarge => "int too large to convert to float".toList

namespace Numeral

open Unicode

/-- Split off a leading sign; whether it is a minus sign comes first. -/
def splitSign : Text → Bool × Text
  | [] => (false, [])
  | c :: rest =>
    if c = '-' then (true, rest) else if c = '+' then (false, rest) else (false, c :: rest)

/-- Split off the leading digits, as their values. -/
def splitDigits : Text → List Nat × Text
  | [] => ([], [])
  | c :: rest =>
    match digitValue? c with
    | some digit =>
      let later := splitDigits rest
      (digit :: later.1, later.2)
    | none => ([], c :: rest)

/-- The number that decimal digits spell, the first digit counting most. -/
def spelled (digits : List Nat) : Nat := digits.foldl (fun n digit => 10 * n + digit) 0

/-- The exponent that the end of a numeral spells; without any text it is zero. -/
def exponent? : Text → Option Int
  | [] => some 0
  | mark :: rest =>
    if mark = 'e' ∨ mark = 'E' then
      match splitSign rest with
      | (negative, digits) =>
        match splitDigits digits with
        | ([], _) => none
        | (values, []) => some (if negative then -(spelled values : Int) else spelled values)
        | (_, _ :: _) => none
    else none

/-- The digits behind a decimal point, if there is one, and the rest. -/
def splitFraction : Text → List Nat × Text
  | [] => ([], [])
  | c :: rest => if c = '.' then splitDigits rest else ([], c :: rest)

/-- The decimal that digits with a point and an exponent spell. -/
def decimal? (text : Text) : Option Decimal :=
  let (whole, rest) := splitDigits text
  let (fraction, rest) := splitFraction rest
  if whole = [] ∧ fraction = [] then none
  else (exponent? rest).map fun e => ⟨spelled (whole ++ fraction), e - fraction.length⟩

/-- Remove the underscores of a numeral; `none` if one does not stand between digits.
    Whether the character before the text is a digit comes first. -/
def joinGroups : Bool → Text → Option Text
  | _, [] => some []
  | afterDigit, c :: rest =>
    if c = '_' then
      if afterDigit && (rest.head?.any isDigit) then joinGroups false rest else none
    else (joinGroups (isDigit c) rest).map (c :: ·)

/-- The double of a numeral without white space and underscores. -/
def plain? (text : Text) : Option Double :=
  let (negative, body) := splitSign text
  let name := body.map Char.toLower
  if name = "inf".toList ∨ name = "infinity".toList then some (.inf negative)
  else if name = "nan".toList then some .nan
  else (decimal? body).map (Decimal.toDouble negative)

end Numeral

namespace Double

/-- The double that a text is read as, if it is a numeral. -/
def ofText? (text : Text) : Option Double :=
  (Numeral.joinGroups false (Text.trim Unicode.isWhiteSpace text)).bind Numeral.plain?

def ofText (text : Text) : Except ConversionError Double :=
  match ofText? text with
  | some value => .ok value
  | none => .error (.notNumeral text)

/-- Groups of digits and white space are no hindrance. -/
example : ofText? " 1_000.5 ".toList = some (.finite false 0x408F440000000000) := by
  decide +kernel

/-- Half of the smallest magnitude is rounded to the even rank, which is zero. -/
example : ofText? "-2.4703282292062327e-324".toList = some (zero true) := by decide +kernel

def ofInt (n : Int) : Except ConversionError Double := (ofInt? n).elim (.error .tooLarge) .ok

end Double

/-- A number as it is handed in from outside. -/
inductive Quantity where
  | integer (n : Int)
  | numeral (text : Text)
  deriving Repr, DecidableEq

def Quantity.toDouble : Quantity → Except ConversionError Double
  | .integer n => Double.ofInt n
  | .numeral text => Double.ofText text

end ReversePolish
