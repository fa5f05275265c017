import ReversePolish.Text
import ReversePolish.Double.Shortest

/-! # The numeral of a double

A finite double is written with the shortest digits that are read back as it.  If its
leading digit stands for a power of ten from 10⁻⁴ to 10¹⁵, the digits are written around
a decimal point with at least one digit on either side.  Otherwise they are written as
one digit, the others behind a point, and an exponent of at least two digits with a sign.
-/

namespace ReversePolish.Double

/-- Digits written around a decimal point that stands after the first `point` of them.
    Zeros fill the places between the digits and the point. -/
def positional (digits : Text) : Int → Text
  | .ofNat point =>
    let whole := digits.take point ++ List.replicate (point - digits.length) '0'
    let fraction := digits.drop point
    (if whole = [] then ['0'] else whole) ++ '.' :: (if fraction = [] then ['0'] else fraction)
  | .negSucc point => '0' :: '.' :: (List.replicate (point + 1) '0' ++ digits)

/-- An exponent with its sign and at least two digits. -/
def exponentText (exponent : Int) : Text :=
  let digits := Text.ofNat exponent.natAbs
  (if exponent < 0 then '-' else '+') :: (if digits.length < 2 then '0' :: digits else digits)

/-- Digits written with an exponent; the first digit counts `10 ^ exponent`. -/
def scientific (digits : Text) (exponent : Int) : Text :=
  match digits with
  | [] => []
  | [digit] => digit :: 'e' :: exponentText exponent
  | digit :: more => digit :: '.' :: (more ++ 'e' :: exponentText exponent)

/-- A positive decimal as a numeral without superfluous zeros. -/
def decimalText (d : Decimal) : Text :=
  let written := Text.ofNat d.coefficient
  let digits := Text.trimRight (· = '0') written
  let leading : Int := d.exponent + written.length - 1
  if -4 ≤ leading ∧ leading < 16 then positional digits (leading + 1)
  else scientific digits leading

def magnitudeText (rank : Nat) : Text :=
  if rank = 0 then "0.0".toList else decimalText (shortest rank)

def signText (negative : Bool) : Text := if negative then ['-'] else []

/-- The numeral of a double.  A nan has no sign. -/
def text : Double → Text
  | .nan => "nan".toList
  | .inf s => signText s ++ "inf".toList
  | .finite s rank => signText s ++ magnitudeText rank

/-- The double nearest to a tenth is written as a tenth. -/
example : text (.finite false 0x3FB999999999999A) = "0.1".toList := by decide +kernel

/-- The smallest magnitude is 4.94…·10⁻³²⁴. -/
example : text (.finite true 1) = "-5e-324".toList := by decide +kernel

/-- 10¹⁶ is the first power of ten with an exponent. -/
example : text (.finite false 0x4341C37937E08000) = "1e+16".toList := by decide +kernel

end ReversePolish.Double
