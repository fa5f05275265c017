import Mathlib.Algebra.Group.Nat.Defs
import ReversePolish.Double.Shortest

/-! # Ranks that are found again

Rounding a magnitude gives its own rank (`Double.nearestRank_units`).  The rank of a decimal
depends on its value only: a zero put behind the coefficient is made good by the exponent
(`Decimal.rank_scaled`).  The exact decimal of a magnitude is therefore read back as its rank,
and so is the shortest one, which is tested before it is taken and is the exact one if
all tests fail.
-/

namespace ReversePolish

theorem roundDiv_mul (num den : Nat) {factor : Nat} (positive : 0 < factor) :
    roundDiv (num * factor) (den * factor) = roundDiv num den := by
  have below : 2 * (num % den * factor) < den * factor ↔ 2 * (num % den) < den := by
    rw [← Nat.mul_assoc, Nat.mul_lt_mul_right positive]
  have above : den * factor < 2 * (num % den * factor) ↔ den < 2 * (num % den) := by
    rw [← Nat.mul_assoc, Nat.mul_lt_mul_right positive]
  simp only [roundDiv, Nat.mul_div_mul_right _ _ positive, Nat.mul_mod_mul_right, below, above]

theorem roundDiv_self (quotient : Nat) {den : Nat} (positive : 0 < den) :
    roundDiv (quotient * den) den = quotient := by
  simp only [roundDiv, Nat.mul_mod_left, Nat.mul_zero, positive, if_true,
    Nat.mul_div_cancel _ positive]

/-- The powers of the definitions, written as powers. -/
theorem natPow_eq (base exponent : Nat) : Nat.pow base exponent = base ^ exponent := rfl

theorem natPow_pos {base : Nat} (positive : 0 < base) (exponent : Nat) : 0 < base ^ exponent :=
  Nat.pow_pos positive

namespace Double

theorem nearestRank_mul (num den : Nat) {factor : Nat} (positive : 0 < factor) :
    nearestRank (num * factor) (den * factor) = nearestRank num den := by
  simp only [nearestRank, Nat.mul_div_mul_right _ _ positive,
    Nat.mul_right_comm den factor, roundDiv_mul _ _ positive]

theorem scale_eq (rank : Nat) : scale rank = rank / 2 ^ 52 - 1 := by
  rw [scale, natPow_eq]

theorem significand_of_lt {rank : Nat} (subnormal : rank < 2 ^ 52) : significand rank = rank :=
  if_pos subnormal

theorem significand_of_le {rank : Nat} (normal : 2 ^ 52 ≤ rank) :
    significand rank = 2 ^ 52 + rank % 2 ^ 52 :=
  if_neg (Nat.not_lt.mpr normal)

theorem significand_lt (rank : Nat) : significand rank < 2 ^ 53 := by
  rcases Nat.lt_or_ge rank (2 ^ 52) with subnormal | normal
  · rw [significand_of_lt subnormal]
    omega
  · rw [significand_of_le normal]
    omega

theorem significand_pos {rank : Nat} (positive : 0 < rank) : 0 < significand rank := by
  rcases Nat.lt_or_ge rank (2 ^ 52) with subnormal | normal
  · rwa [significand_of_lt subnormal]
  · rw [significand_of_le normal]
    omega

theorem units_eq (rank : Nat) : units rank = significand rank * 2 ^ scale rank := by
  rw [units, natPow_eq]

theorem units_pos {rank : Nat} (positive : 0 < rank) : 0 < units rank := by
  rw [units_eq]
  exact Nat.mul_pos (significand_pos positive) (Nat.two_pow_pos _)

theorem units_of_lt {rank : Nat} (subnormal : rank < 2 ^ 52) : units rank = rank := by
  have unscaled : scale rank = 0 := by
    rw [scale_eq, Nat.div_eq_of_lt subnormal, Nat.zero_sub]
  rw [units_eq, unscaled, significand_of_lt subnormal, Nat.pow_zero, Nat.mul_one]

theorem log2_units_of_le {rank : Nat} (normal : 2 ^ 52 ≤ rank) :
    (units rank).log2 = scale rank + 52 := by
  have low : 2 ^ 52 ≤ significand rank := by
    rw [significand_of_le normal]
    exact Nat.le_add_right _ _
  have nonzero : units rank ≠ 0 := Nat.ne_of_gt (units_pos (by omega))
  rw [Nat.log2_eq_iff nonzero, units_eq]
  constructor
  · rw [Nat.add_comm, Nat.pow_add]
    exact Nat.mul_le_mul_right _ low
  · rw [Nat.add_assoc, Nat.add_comm, Nat.pow_add]
    exact Nat.mul_lt_mul_of_pos_right (significand_lt rank) (Nat.two_pow_pos _)

theorem nearestRank_eq (num den : Nat) : nearestRank num den =
    ((num / den).log2 - 52) * 2 ^ 52 + roundDiv num (den * 2 ^ ((num / den).log2 - 52)) := by
  simp only [nearestRank, natPow_eq]

/-- A magnitude is rounded to itself. -/
theorem nearestRank_units (rank : Nat) : nearestRank (units rank) 1 = rank := by
  by_cases subnormal : rank < 2 ^ 52
  · -- The units are the rank itself, and they are too few to be scaled.
    have small : rank.log2 - 52 = 0 := by
      by_cases zero : rank = 0
      · simp [zero]
      · have bits := (Nat.log2_lt zero).mpr subnormal
        omega
    have whole : roundDiv (rank * 1) 1 = rank := roundDiv_self rank Nat.one_pos
    rw [Nat.mul_one] at whole
    rw [nearestRank_eq, units_of_lt subnormal, Nat.div_one, small, Nat.pow_zero, Nat.one_mul,
      whole, Nat.zero_mul, Nat.zero_add]
  · -- The significand fills 53 bits, so that just its scale is taken off again.
    have normal : 2 ^ 52 ≤ rank := Nat.not_lt.mp subnormal
    have rounded : roundDiv (units rank) (1 * 2 ^ scale rank) = significand rank := by
      rw [Nat.one_mul, units_eq, roundDiv_self _ (Nat.two_pow_pos _)]
    rw [nearestRank_eq, Nat.div_one, log2_units_of_le normal, Nat.add_sub_cancel, rounded, scale_eq,
      significand_of_le normal]
    omega

theorem two_pow_le_two_pow {low high : Nat} (less : low ≤ high) : 2 ^ low ≤ 2 ^ high :=
  Nat.pow_le_pow_right (by decide) less

theorem units_lt {rank : Nat} (finite : rank < rankCount) : units rank < 2 ^ 53 * 2 ^ 2045 := by
  have bounded : rank < 2047 * 2 ^ 52 := finite
  have scaled : scale rank ≤ 2045 := by
    rw [scale_eq]
    omega
  calc units rank = significand rank * 2 ^ scale rank := units_eq rank
    _ < 2 ^ 53 * 2 ^ scale rank :=
        Nat.mul_lt_mul_of_pos_right (significand_lt rank) (Nat.two_pow_pos _)
    _ ≤ 2 ^ 53 * 2 ^ 2045 := Nat.mul_le_mul_left _ (two_pow_le_two_pow scaled)

end Double

namespace Decimal

theorem digitCount_le_iff {n count : Nat} (positive : 0 < count) :
    digitCount n ≤ count ↔ n < 10 ^ count :=
  Nat.length_toDigits_le_iff (by decide) positive

theorem digitCount_mul_ten {n : Nat} (positive : 0 < n) :
    digitCount (n * 10) = digitCount n + 1 := by
  have zero : Nat.toDigits 10 0 = ['0'] := Nat.toDigits_zero 10
  have appended := Nat.toDigits_append_toDigits (b := 10) (d := 0) (by decide) positive (by decide)
  rw [zero, Nat.add_zero, Nat.mul_comm] at appended
  rw [digitCount, ← appended, List.length_append]
  rfl

theorem expandedRank_ofNat (coefficient e : Nat) :
    expandedRank coefficient (.ofNat e) =
      Double.nearestRank (coefficient * 10 ^ e * 2 ^ 1074) 1 := by
  simp only [expandedRank, natPow_eq]

theorem expandedRank_negSucc (coefficient e : Nat) :
    expandedRank coefficient (.negSucc e) =
      Double.nearestRank (coefficient * 2 ^ 1074) (10 ^ (e + 1)) := by
  simp only [expandedRank, natPow_eq]

theorem expandedRank_mul_ten (coefficient : Nat) (exponent : Int) :
    expandedRank (coefficient * 10) (exponent - 1) = expandedRank coefficient exponent := by
  match exponent with
  | .ofNat 0 =>
      change expandedRank (coefficient * 10) (.negSucc 0) = _
      rw [expandedRank_negSucc, expandedRank_ofNat, Nat.pow_succ 10 0, Nat.pow_zero, Nat.mul_one,
        Nat.mul_right_comm, Double.nearestRank_mul _ _ (by decide)]
  | .ofNat (e + 1) =>
      have previous : Int.ofNat (e + 1) - 1 = Int.ofNat e := Int.add_sub_cancel e 1
      have tens : 10 ^ (e + 1) = 10 * 10 ^ e := Nat.pow_succ'
      rw [previous, expandedRank_ofNat, expandedRank_ofNat, tens, Nat.mul_assoc coefficient 10]
  | .negSucc e =>
      change expandedRank (coefficient * 10) (.negSucc (e + 1)) = _
      rw [expandedRank_negSucc, expandedRank_negSucc, Nat.pow_succ 10 (e + 1), Nat.mul_right_comm,
        Double.nearestRank_mul _ _ (by decide)]

theorem rank_mul_ten (coefficient : Nat) (exponent : Int) :
    rank ⟨coefficient * 10, exponent - 1⟩ = rank ⟨coefficient, exponent⟩ := by
  by_cases zero : coefficient = 0
  · subst zero
    simp [rank]
  · have size : exponent - 1 + (digitCount (coefficient * 10) : Nat) =
        exponent + (digitCount coefficient : Nat) := by
      rw [digitCount_mul_ten (Nat.pos_of_ne_zero zero)]
      omega
    simp only [rank, size, expandedRank_mul_ten, Nat.mul_eq_zero, zero, false_or,
      show ¬ 10 = 0 by decide]

/-- Zeros behind the coefficient make no difference if the exponent makes them good. -/
theorem rank_scaled (coefficient : Nat) (exponent : Int) (zeros : Nat) :
    rank ⟨coefficient * 10 ^ zeros, exponent - zeros⟩ = rank ⟨coefficient, exponent⟩ := by
  induction zeros with
  | zero => simp
  | succ zeros ih =>
      rw [← ih, ← rank_mul_ten (coefficient * 10 ^ zeros), Nat.pow_succ, ← Nat.mul_assoc]
      congr 2
      omega

theorem coefficient_pos {d : Decimal} (positive : 0 < d.rank) : 0 < d.coefficient := by
  refine Nat.pos_of_ne_zero fun zero => Nat.ne_of_gt positive ?_
  rw [rank, if_pos (.inl zero)]

/-- Two decimals spell one number, with more or fewer zeros behind its digits. -/
def Rescaled (d other : Decimal) : Prop :=
  ∃ (coefficient : Nat) (exponent : Int) (zeros otherZeros : Nat),
    d = ⟨coefficient * 10 ^ zeros, exponent - zeros⟩ ∧
      other = ⟨coefficient * 10 ^ otherZeros, exponent - otherZeros⟩

theorem Rescaled.rank_eq {d other : Decimal} (rescaled : d.Rescaled other) :
    other.rank = d.rank := by
  obtain ⟨coefficient, exponent, zeros, otherZeros, rfl, rfl⟩ := rescaled
  rw [rank_scaled, rank_scaled]

end Decimal

namespace Double

theorem ten_pow (n : Nat) : 10 ^ n = 5 ^ n * 2 ^ n := Nat.mul_pow 5 2 n

theorem exact_eq (rank : Nat) : exact rank = units rank * 5 ^ 1074 := by
  simp only [exact, natPow_eq]

theorem shortestWithin_succ (rank dropped : Nat) :
    shortestWithin rank (dropped + 1) =
      ((neighbours rank (dropped + 1)).find? (fun d => d.rank = rank)).getD
        (shortestWithin rank dropped) := rfl

section Shortest

variable {rank : Nat} (positive : 0 < rank) (finite : rank < rankCount)

include positive in
theorem exact_lower : 10 ^ 750 ≤ exact rank := by
  calc 10 ^ 750 ≤ 5 ^ 1074 := by decide +kernel
    _ ≤ units rank * 5 ^ 1074 := Nat.le_mul_of_pos_left (5 ^ 1074) (units_pos positive)
    _ = exact rank := (exact_eq rank).symm

include finite in
theorem exact_upper : exact rank < 10 ^ 1383 := by
  calc exact rank = units rank * 5 ^ 1074 := exact_eq rank
    _ < 2 ^ 53 * 2 ^ 2045 * 5 ^ 1074 :=
        Nat.mul_lt_mul_of_pos_right (units_lt finite) (natPow_pos (by decide) 1074)
    _ ≤ 10 ^ 1383 := by decide +kernel

include positive finite

/-- The exact decimal is of moderate size and is rounded to the magnitude itself. -/
theorem rank_exact : Decimal.rank ⟨exact rank, -1074⟩ = rank := by
  have nonzero : exact rank ≠ 0 := by
    rw [exact_eq]
    exact Nat.ne_of_gt (Nat.mul_pos (units_pos positive) (natPow_pos (by decide) 1074))
  have atLeast : ¬ Decimal.digitCount (exact rank) ≤ 750 := by
    rw [Decimal.digitCount_le_iff (by decide)]
    exact Nat.not_lt.mpr (exact_lower positive)
  have atMost : Decimal.digitCount (exact rank) ≤ 1383 :=
    (Decimal.digitCount_le_iff (by decide)).mpr (exact_upper finite)
  have moderate : ¬ (exact rank = 0 ∨ (-1074 : Int) + Decimal.digitCount (exact rank) < -323) := by
    omega
  have bounded : ¬ (309 : Int) < (-1074 : Int) + Decimal.digitCount (exact rank) := by
    omega
  have factor : 0 < 5 ^ 1074 * 2 ^ 1074 :=
    Nat.mul_pos (natPow_pos (by decide) 1074) (natPow_pos (by decide) 1074)
  calc Decimal.rank ⟨exact rank, -1074⟩
      = nearestRank (exact rank * 2 ^ 1074) (10 ^ 1074) := by
        simp only [Decimal.rank, moderate, bounded, if_false]
        exact Decimal.expandedRank_negSucc (exact rank) 1073
    _ = nearestRank (units rank * (5 ^ 1074 * 2 ^ 1074)) (1 * (5 ^ 1074 * 2 ^ 1074)) := by
        rw [Nat.one_mul, ← ten_pow, exact_eq, Nat.mul_assoc, ← ten_pow]
    _ = nearestRank (units rank) 1 := by rw [nearestRank_mul _ _ factor]
    _ = rank := nearestRank_units rank

theorem rank_shortestWithin (dropped : Nat) : (shortestWithin rank dropped).rank = rank := by
  induction dropped with
  | zero => exact rank_exact positive finite
  | succ dropped ih =>
      rw [shortestWithin_succ]
      cases found : (neighbours rank (dropped + 1)).find? (fun d => d.rank = rank) with
      | none => exact ih
      | some d => simpa using List.find?_some found

/-- The shortest decimal of a magnitude is read back as it. -/
theorem rank_shortest : (shortest rank).rank = rank :=
  rank_shortestWithin positive finite (mostDropped rank)

end Shortest

end Double

end ReversePolish
