import ReversePolish.Double.Decimal

/-! # The shortest decimal of a magnitude

Among the decimals that are read back as a magnitude, the shortest ones have the fewest
digits, and of those the one nearest to the magnitude is taken, an even coefficient if
two are equally near.

A magnitude is a whole number of units of 2⁻¹⁰⁷⁴, hence a whole number of 10⁻¹⁰⁷⁴: its
exact decimal is `exact`, some hundreds of digits long.  Leaving out its last digits
gives a grid of decimals, the coarser the more digits are left out.  The search goes
from the coarsest grid to the finest.  On each grid only the two neighbours of the
magnitude need a test: the decimals that are read back as it form an interval around
it, so if a grid has one of them, it has one next to the magnitude.
-/

namespace ReversePolish.Double

/-- The coefficient of the exact decimal of a rank, whose exponent is -1074. -/
def exact (rank : Nat) : Nat := units rank * Nat.pow 5 1074

/-- The decimals on both sides of a magnitude when `dropped` digits of its exact decimal
    are left out, the nearer one in front. -/
def neighbours (rank dropped : Nat) : List Decimal :=
  let step := Nat.pow 10 dropped
  let below := exact rank / step
  let nearest := roundDiv (exact rank) step
  let farther := if nearest = below then below + 1 else below
  [⟨nearest, dropped - 1074⟩, ⟨farther, dropped - 1074⟩]

/-- The shortest decimal that is read back as a rank and leaves out at most the given
    number of digits of the exact decimal, which is always one itself. -/
def shortestWithin (rank : Nat) : Nat → Decimal
  | 0 => ⟨exact rank, -1074⟩
  | dropped + 1 =>
    ((neighbours rank (dropped + 1)).find? (fun d => d.rank = rank)).getD
      (shortestWithin rank dropped)

/-- How many digits may be left out of the exact decimal of a rank.  Since 2⁹³ is less than
    10²⁸, a number of `k` bits has at most `k * 28 / 93 + 1` digits. -/
def mostDropped (rank : Nat) : Nat := ((exact rank).log2 + 1) * 28 / 93

/-- The shortest decimal that is read back as a rank, and of these the nearest. -/
def shortest (rank : Nat) : Decimal := shortestWithin rank (mostDropped rank)

end ReversePolish.Double
