import ReversePolish.Double.Rounding

/-! # Decimals and the doubles nearest to them

A decimal is a whole number times a power of ten.  Every numeral denotes one, of any
length and with any exponent; `Decimal.rank` rounds it to a rank.  Only decimals of
moderate size are expanded: one of 10³⁰⁹ or more is beyond 2¹⁰²⁴, one below 10⁻³²⁴ is
less than half of the smallest magnitude, and both are settled by counting digits.
-/

namespace ReversePolish

/-- The number `coefficient · 10 ^ exponent`. -/
structure Decimal where
  coefficient : Nat
  exponent : Int
  deriving Repr, DecidableEq

namespace Decimal

/-- How many digits a natural number is written with. -/
def digitCount (n : Nat) : Nat := (Nat.toDigits 10 n).length

/-- The rank nearest to a decimal whose size is moderate. -/
def expandedRank (coefficient : Nat) : Int → Nat
  | .ofNat e => Double.nearestRank (coefficient * Nat.pow 10 e * Nat.pow 2 1074) 1
  | .negSucc e => Double.nearestRank (coefficient * Nat.pow 2 1074) (Nat.pow 10 (e + 1))

/-- The rank nearest to a decimal.  The number `size` is such that the decimal is at
    least `10 ^ (size - 1)` and less than `10 ^ size`. -/
def rank (d : Decimal) : Nat :=
  let size := d.exponent + digitCount d.coefficient
  if d.coefficient = 0 ∨ size < -323 then 0
  else if 309 < size then Double.rankCount
  else expandedRank d.coefficient d.exponent

def toDouble (negative : Bool) (d : Decimal) : Double := Double.ofRank negative d.rank

end Decimal

end ReversePolish
