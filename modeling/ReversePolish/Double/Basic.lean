/-! # Doubles

The 64-bit binary numbers of IEEE 754, without payloads: all nans are one value.

The finite magnitudes form a finite ascending sequence 0, 2⁻¹⁰⁷⁴, 2·2⁻¹⁰⁷⁴, …, and the
place of a magnitude in it, its *rank*, is what its exponent and fraction fields spell
when they are read as one number of 63 bits.  A double is stored as sign and rank.  Two
doubles are therefore the same bits exactly when they are equal as Lean values, and the
neighbour of a magnitude is its rank plus one.

Every magnitude is a whole multiple of the smallest one.  `units` is that multiple; all
arithmetic below is exact arithmetic on units followed by one rounding.
-/

namespace ReversePolish

/-- How many finite magnitudes there are: 2047 binades of 2⁵².  It is also the rank that
    2¹⁰²⁴ would have. -/
abbrev Double.rankCount : Nat := 0x7FF0000000000000

/-- A double of IEEE 754. -/
inductive Double where
  | nan
  | inf (negative : Bool)
  /-- A finite number; the two zeros have rank 0. -/
  | finite (negative : Bool) (rank : Fin Double.rankCount)
  deriving Repr, DecidableEq

namespace Double

/-- How far the unit of a rank's binade is scaled up, as a power of two.  The first two
    binades, the subnormal one and the one after it, share the smallest unit. -/
def scale (rank : Nat) : Nat := rank / Nat.pow 2 52 - 1

/-- The whole number that the fraction field stands for, with the leading bit that is
    implied from the second binade on. -/
def significand (rank : Nat) : Nat :=
  if rank < Nat.pow 2 52 then rank else Nat.pow 2 52 + rank % Nat.pow 2 52

/-- The magnitude of a rank as a multiple of 2⁻¹⁰⁷⁴. -/
def units (rank : Nat) : Nat := significand rank * Nat.pow 2 (scale rank)

/-- The zero of a sign. -/
def zero (negative : Bool) : Double := .finite negative 0

/-- The number one, 2¹⁰⁷⁴ units. -/
def one : Double := .finite false 0x3FF0000000000000

/-- The double of a sign and a rank; the ranks beyond the finite ones mean infinity. -/
def ofRank (negative : Bool) (rank : Nat) : Double :=
  if h : rank < rankCount then .finite negative ⟨rank, h⟩ else .inf negative

/-- Equality of IEEE 754: nan differs from everything and the two zeros are equal. -/
def equal : Double → Double → Bool
  | .inf s, .inf t => s == t
  | .finite s a, .finite t b => a == b && (s == t || a == 0)
  | _, _ => false

end Double

end ReversePolish
