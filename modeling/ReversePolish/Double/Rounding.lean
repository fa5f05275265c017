import ReversePolish.Double.Basic

/-! # Rounding to the nearest double

A positive rational is given as a quotient of naturals that counts units of 2⁻¹⁰⁷⁴.
`nearestRank` finds the rank whose magnitude is nearest to it, of two equally near ones
the even rank.  Even ranks are those of even significands, so this is the rounding that
IEEE 754 calls round half to even.
-/

namespace ReversePolish

/-- The whole number nearest to `num / den`, of two equally near ones the even one. -/
def roundDiv (num den : Nat) : Nat :=
  let quotient := num / den
  let remainder := num % den
  if 2 * remainder < den then quotient
  else if den < 2 * remainder then quotient + 1
  else quotient + quotient % 2

namespace Double

/-- The rank nearest to `num / den` units.  Below 2⁵³ units every unit is a rank.  From
    there on the quotient is first scaled down to 53 bits; that it may round up to 2⁵³ is
    no special case, since the ranks of a binade go on where those of the one before end. -/
def nearestRank (num den : Nat) : Nat :=
  let scale := (num / den).log2 - 52
  scale * Nat.pow 2 52 + roundDiv num (den * Nat.pow 2 scale)

/-- The double nearest to `num / den` units with a sign put on it; infinite where the
    nearest rank is beyond the finite ones. -/
def round (negative : Bool) (num den : Nat) : Double := ofRank negative (nearestRank num den)

/-- A double if it is finite. -/
def finite? : Double → Option Double
  | .finite negative rank => some (.finite negative rank)
  | _ => none

/-- The double nearest to an integer, if it is finite. -/
def ofInt? (n : Int) : Option Double := (round (n < 0) (n.natAbs * Nat.pow 2 1074) 1).finite?

end Double

end ReversePolish
