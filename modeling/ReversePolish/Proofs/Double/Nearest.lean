import Mathlib.Algebra.Order.Field.Rat
import Mathlib.Data.Nat.Cast.Order.Field
import Mathlib.Tactic.FieldSimp
import Mathlib.Tactic.Linarith
import Mathlib.Tactic.Ring
import ReversePolish.Proofs.Double.Rank

/-! # The nearest double

Rounding is compared with what is asked of it: the double of a number is the nearest one, of two
equally near ones the one with the even significand, and beyond the midpoint above the greatest
finite magnitude it is infinite (`Double.IsNearest`).

The magnitudes are an ascending row of points that go on beyond the finite ones.  In a binade they
are the multiples of one power of two, and so the nearest one is found by rounding to whole
multiples; those of finer binades lie below the number and are farther away.
-/

namespace ReversePolish

section Midpoint

variable {left right x : ℚ}

theorem abs_sub_le_left_iff (less : left < right) :
    |x - left| ≤ |x - right| ↔ x ≤ (left + right) / 2 := by
  rw [← sq_le_sq]
  constructor
  · intro closer
    nlinarith
  · intro before
    nlinarith

theorem abs_sub_le_right_iff (less : left < right) :
    |x - right| ≤ |x - left| ↔ (left + right) / 2 ≤ x := by
  rw [← sq_le_sq]
  constructor
  · intro closer
    nlinarith
  · intro behind
    nlinarith

theorem abs_sub_eq_iff (less : left < right) :
    |x - left| = |x - right| ↔ x = (left + right) / 2 := by
  rw [le_antisymm_iff, abs_sub_le_left_iff less, abs_sub_le_right_iff less, ← le_antisymm_iff]

/-- What is as near as a point that was passed is nearer than all points before it. -/
theorem abs_sub_lt_of_lt {found : ℚ} (less : left < right) (inside : right ≤ x)
    (closer : |x - found| ≤ |x - right|) : |x - found| < |x - left| := by
  calc |x - found| ≤ |x - right| := closer
    _ = x - right := abs_of_nonneg (sub_nonneg.mpr inside)
    _ < x - left := sub_lt_sub_left less x
    _ ≤ |x - left| := le_abs_self _

end Midpoint

theorem roundDiv_bounds (num den : Nat) :
    num / den ≤ roundDiv num den ∧ roundDiv num den ≤ num / den + 1 := by
  simp only [roundDiv]
  split
  · omega
  · split <;> omega

section RoundDiv

variable (num : Nat) {den : Nat}

theorem cast_div_eq (positive : 0 < den) :
    (num / den : ℚ) = (num / den : Nat) + (num % den : Nat) / den := by
  have nonzero : (den : ℚ) ≠ 0 := Nat.cast_ne_zero.mpr positive.ne'
  have split : (num : ℚ) = den * (num / den : Nat) + (num % den : Nat) := by
    exact_mod_cast (Nat.div_add_mod num den).symm
  rw [split]
  field_simp

/-- No quotient is more than a half away from the whole number that it is rounded to, and just a
    half only if that number is even. -/
theorem abs_sub_roundDiv (positive : 0 < den) :
    |(num / den : ℚ) - roundDiv num den| ≤ 1 / 2 ∧
      (|(num / den : ℚ) - roundDiv num den| = 1 / 2 → Even (roundDiv num den)) := by
  have denPositive : (0 : ℚ) < den := Nat.cast_pos.mpr positive
  have less : num % den < den := Nat.mod_lt num positive
  rw [cast_div_eq num positive, roundDiv]
  generalize num / den = quotient
  generalize num % den = rest at less
  have fraction : (rest / den : ℚ) ≤ 1 := (div_le_one denPositive).mpr (by exact_mod_cast less.le)
  by_cases below : 2 * rest < den
  · have half : (rest / den : ℚ) < 1 / 2 := by
      rw [div_lt_div_iff₀ denPositive two_pos]
      exact_mod_cast (by omega : rest * 2 < 1 * den)
    rw [if_pos below, add_sub_cancel_left, abs_of_nonneg (by positivity)]
    exact ⟨half.le, fun tie => absurd tie half.ne⟩
  · by_cases above : den < 2 * rest
    · have half : (1 / 2 : ℚ) < rest / den := by
        rw [div_lt_div_iff₀ two_pos denPositive]
        exact_mod_cast (by omega : 1 * den < rest * 2)
      have distance : |(quotient + rest / den : ℚ) - (quotient + 1 : Nat)| = 1 - rest / den := by
        rw [abs_of_nonpos (by push_cast; linarith)]
        push_cast
        ring
      rw [if_neg below, if_pos above, distance]
      exact ⟨by linarith, fun tie => absurd tie (by linarith)⟩
    · have half : (rest / den : ℚ) = 1 / 2 := by
        rw [div_eq_div_iff denPositive.ne' two_ne_zero]
        exact_mod_cast (by omega : rest * 2 = 1 * den)
      have even : Even (quotient + quotient % 2) := Nat.even_iff.mpr (by omega)
      rw [if_neg below, if_neg above, half]
      refine ⟨?_, fun _ => even⟩
      push_cast
      rcases Nat.mod_two_eq_zero_or_one quotient with here | next
      · rw [here, abs_le]
        norm_num
      · rw [next, abs_le]
        norm_num

/-- A quotient is rounded to the nearest whole number, of two equally near ones to the even one. -/
theorem roundDiv_nearest (positive : 0 < den) (other : Nat) :
    |(num / den : ℚ) - roundDiv num den| ≤ |(num / den : ℚ) - other| ∧
      (|(num / den : ℚ) - roundDiv num den| = |(num / den : ℚ) - other| →
        other = roundDiv num den ∨ Even (roundDiv num den)) := by
  obtain ⟨close, even⟩ := abs_sub_roundDiv num positive
  by_cases same : other = roundDiv num den
  · exact ⟨by rw [same], fun _ => .inl same⟩
  · -- Two whole numbers are one apart, and so the other is at least a half away.
    have apart : (1 : ℚ) ≤ |(roundDiv num den : ℚ) - other| := by
      have whole : (1 : ℤ) ≤ |(roundDiv num den : ℤ) - other| :=
        Int.one_le_abs (by omega)
      exact_mod_cast whole
    have detour := abs_sub_le (roundDiv num den : ℚ) (num / den) other
    rw [abs_sub_comm (roundDiv num den : ℚ) (num / den)] at detour
    refine ⟨by linarith, fun tie => .inr (even ?_)⟩
    linarith

/-- A quotient is rounded to the nearest multiple of a factor in the same way. -/
theorem roundDiv_mul_nearest (positive : 0 < den) {factor : Nat} (factorPositive : 0 < factor)
    (other : Nat) :
    |(num / den : ℚ) - (roundDiv num (den * factor) * factor : Nat)| ≤
        |(num / den : ℚ) - (other * factor : Nat)| ∧
      (|(num / den : ℚ) - (roundDiv num (den * factor) * factor : Nat)| =
          |(num / den : ℚ) - (other * factor : Nat)| →
        other = roundDiv num (den * factor) ∨ Even (roundDiv num (den * factor))) := by
  have castPositive : (0 : ℚ) < factor := Nat.cast_pos.mpr factorPositive
  have distance : ∀ multiple : Nat, |(num / den : ℚ) - (multiple * factor : Nat)| =
      |(num / (den * factor : Nat) : ℚ) - multiple| * factor := by
    intro multiple
    have scaled : (num / den : ℚ) - (multiple * factor : Nat) =
        ((num / (den * factor : Nat) : ℚ) - multiple) * factor := by
      push_cast
      field_simp
    rw [scaled, abs_mul, abs_of_pos castPositive]
  obtain ⟨closer, even⟩ := roundDiv_nearest num (Nat.mul_pos positive factorPositive) other
  rw [distance, distance]
  exact ⟨mul_le_mul_of_nonneg_right closer castPositive.le,
    fun tie => even (mul_right_cancel₀ castPositive.ne' tie)⟩

end RoundDiv

namespace Double

/-- In a binade the units are multiples of its scale, also at its end. -/
theorem units_binade {scale multiple : Nat} (low : scale = 0 ∨ 2 ^ 52 ≤ multiple)
    (high : multiple ≤ 2 ^ 53) : units (scale * 2 ^ 52 + multiple) = multiple * 2 ^ scale := by
  by_cases subnormal : multiple < 2 ^ 52
  · have unscaled : scale = 0 := by omega
    rw [unscaled, Nat.zero_mul, Nat.zero_add, units_of_lt subnormal, Nat.pow_zero, Nat.mul_one]
  · have normal : 2 ^ 52 ≤ scale * 2 ^ 52 + multiple := by omega
    rw [units_eq, significand_of_le normal, scale_eq]
    by_cases inside : multiple < 2 ^ 53
    · congr 2
      · omega
      · omega
    · -- At the end of the binade the next one begins, with twice the scale.
      have next : (scale * 2 ^ 52 + multiple) / 2 ^ 52 - 1 = scale + 1 := by omega
      have first : 2 ^ 52 + (scale * 2 ^ 52 + multiple) % 2 ^ 52 = 2 ^ 52 := by omega
      have last : multiple = 2 ^ 52 * 2 := by omega
      rw [next, first, last, pow_succ' 2 scale, Nat.mul_assoc]

theorem exists_binade (rank : Nat) :
    ∃ scale multiple, rank = scale * 2 ^ 52 + multiple ∧ (scale = 0 ∨ 2 ^ 52 ≤ multiple) ∧
      multiple < 2 ^ 53 := by
  refine ⟨scale rank, rank - scale rank * 2 ^ 52, ?_⟩
  rw [scale_eq]
  omega

theorem units_lt_units_succ (rank : Nat) : units rank < units (rank + 1) := by
  obtain ⟨scale, multiple, rfl, low, high⟩ := exists_binade rank
  rw [units_binade low high.le, Nat.add_assoc, units_binade (by omega) high]
  exact Nat.mul_lt_mul_of_pos_right (Nat.lt_succ_self _) (Nat.two_pow_pos _)

theorem units_strictMono : StrictMono units := strictMono_nat_of_lt_succ units_lt_units_succ

/-- The units of a binade and of all later ones are multiples of its scale. -/
theorem exists_multiple {scale rank : Nat} (reached : scale ≤ Double.scale rank) :
    ∃ multiple, units rank = multiple * 2 ^ scale := by
  refine ⟨significand rank * 2 ^ (Double.scale rank - scale), ?_⟩
  rw [units_eq, Nat.mul_assoc, ← Nat.pow_add, Nat.sub_add_cancel reached]

/-- The units of the binades before lie below. -/
theorem units_lt_of_scale_lt {scale rank : Nat} (before : Double.scale rank < scale) :
    units rank < 2 ^ 52 * 2 ^ scale := by
  calc units rank = significand rank * 2 ^ Double.scale rank := units_eq rank
    _ < 2 ^ 53 * 2 ^ Double.scale rank :=
        Nat.mul_lt_mul_of_pos_right (significand_lt rank) (Nat.two_pow_pos _)
    _ = 2 ^ 52 * 2 ^ (Double.scale rank + 1) := by ring
    _ ≤ 2 ^ 52 * 2 ^ scale := Nat.mul_le_mul_left _ (two_pow_le_two_pow before)

theorem even_significand_iff (rank : Nat) : Even (significand rank) ↔ Even rank := by
  rw [Nat.even_iff, Nat.even_iff]
  by_cases subnormal : rank < 2 ^ 52
  · rw [significand_of_lt subnormal]
  · rw [significand_of_le (Nat.not_lt.mp subnormal)]
    omega

section NearestRank

variable (num : Nat) {den : Nat}

/-- A quotient of units is rounded in a binade that it lies in, or in the first one. -/
theorem exists_rounding (den : Nat) :
    ∃ scale, (scale = 0 ∨ 2 ^ 52 ≤ num / (den * 2 ^ scale)) ∧ num / (den * 2 ^ scale) < 2 ^ 53 ∧
      nearestRank num den = scale * 2 ^ 52 + roundDiv num (den * 2 ^ scale) := by
  refine ⟨(num / den).log2 - 52, ?_, ?_, nearestRank_eq num den⟩
  · rw [← Nat.div_div_eq_div_mul]
    by_cases small : (num / den).log2 ≤ 52
    · exact .inl (by omega)
    · right
      have nonzero : num / den ≠ 0 := by
        intro zero
        rw [zero] at small
        exact small (by decide)
      rw [Nat.le_div_iff_mul_le (Nat.two_pow_pos _), ← Nat.pow_add]
      calc 2 ^ (52 + ((num / den).log2 - 52)) = 2 ^ (num / den).log2 := by congr 1; omega
        _ ≤ num / den := Nat.log2_self_le nonzero
  · rw [← Nat.div_div_eq_div_mul, Nat.div_lt_iff_lt_mul (Nat.two_pow_pos _), ← Nat.pow_add]
    calc num / den < 2 ^ ((num / den).log2 + 1) := Nat.lt_log2_self
      _ ≤ 2 ^ (53 + ((num / den).log2 - 52)) := two_pow_le_two_pow (by omega)

/-- A quotient is rounded to the rank of the nearest magnitude, of two equally near ones to the
    even rank, also beyond the finite ones. -/
theorem nearestRank_nearest (positive : 0 < den) (other : Nat) :
    |(num / den : ℚ) - units (nearestRank num den)| ≤ |(num / den : ℚ) - units other| ∧
      (|(num / den : ℚ) - units (nearestRank num den)| = |(num / den : ℚ) - units other| →
        other = nearestRank num den ∨ Even (nearestRank num den)) := by
  obtain ⟨scale, low, high, rank⟩ := exists_rounding num den
  obtain ⟨atLeast, atMost⟩ := roundDiv_bounds num (den * 2 ^ scale)
  have nearest := roundDiv_mul_nearest num positive (Nat.two_pow_pos scale)
  generalize roundDiv num (den * 2 ^ scale) = rounded at *
  have found : units (nearestRank num den) = rounded * 2 ^ scale := by
    rw [rank, units_binade (by omega) (by omega)]
  rw [found]
  by_cases reached : scale ≤ Double.scale other
  · -- The other magnitude is a multiple of the scale as well.
    obtain ⟨multiple, measured⟩ := exists_multiple reached
    obtain ⟨closer, even⟩ := nearest multiple
    rw [measured]
    refine ⟨closer, fun tie => (even tie).imp (fun same => ?_) fun even => ?_⟩
    · exact units_strictMono.injective (by rw [found, measured, same])
    · rw [rank, Nat.even_add, Nat.even_mul]
      exact iff_of_true (.inr (by decide)) even
  · -- The other magnitude lies below the binade, whose first point is nearer.
    have below := units_lt_of_scale_lt (Nat.not_le.mp reached)
    have inside : ((2 ^ 52 * 2 ^ scale : Nat) : ℚ) ≤ num / den := by
      have quotient : 2 ^ 52 ≤ num / (den * 2 ^ scale) := low.resolve_left (by omega)
      rw [Nat.le_div_iff_mul_le (by positivity)] at quotient
      rw [le_div_iff₀ (by exact_mod_cast positive)]
      exact_mod_cast (by linarith : 2 ^ 52 * 2 ^ scale * den ≤ num)
    have strict := abs_sub_lt_of_lt (Nat.cast_lt.mpr below) inside (nearest (2 ^ 52)).1
    exact ⟨strict.le, fun tie => absurd tie strict.ne⟩

/-- A quotient is rounded to a rank or to an earlier one if it does not lie beyond the midpoint
    behind the rank, which itself is rounded to the even neighbour. -/
theorem nearestRank_le_iff (positive : 0 < den) (rank : Nat) :
    nearestRank num den ≤ rank ↔
      (num / den : ℚ) < (units rank + units (rank + 1)) / 2 ∨
        (num / den : ℚ) = (units rank + units (rank + 1)) / 2 ∧ Even rank := by
  have nearest := nearestRank_nearest num positive
  have ascending : (units rank : ℚ) < units (rank + 1) :=
    Nat.cast_lt.mpr (units_lt_units_succ rank)
  have increasing : StrictMono fun rank => (units rank : ℚ) :=
    Nat.strictMono_cast.comp units_strictMono
  generalize (num / den : ℚ) = x at *
  generalize nearestRank num den = found at *
  constructor
  · intro atMost
    have below : (units found : ℚ) ≤ units rank := increasing.monotone atMost
    have bound := (abs_sub_le_left_iff (below.trans_lt ascending)).mp (nearest (rank + 1)).1
    rcases lt_or_eq_of_le (show x ≤ (units rank + units (rank + 1)) / 2 by linarith) with
      before | exactly
    · exact .inl before
    · -- At the midpoint itself no earlier rank is near enough, and so this one is found.
      have same : found = rank := increasing.injective (le_antisymm below (by linarith))
      subst same
      have tie := (nearest (found + 1)).2 ((abs_sub_eq_iff ascending).mpr exactly)
      exact .inr ⟨exactly, tie.resolve_left (Nat.succ_ne_self found)⟩
  · intro before
    by_contra beyond
    have above : (units (rank + 1) : ℚ) ≤ units found := increasing.monotone (by omega)
    have bound := (abs_sub_le_right_iff (ascending.trans_le above)).mp (nearest rank).1
    rcases before with strictly | ⟨exactly, even⟩
    · linarith
    · have same : found = rank + 1 := increasing.injective (le_antisymm (by linarith) above)
      subst same
      have tie := (nearest rank).2 ((abs_sub_eq_iff ascending).mpr exactly).symm
      rcases tie with previous | odd
      · omega
      · exact Nat.even_add_one.mp odd even

end NearestRank

/-- The number that a rank stands for. -/
def magnitude (rank : Nat) : ℚ := units rank / 2 ^ 1074

theorem magnitude_strictMono : StrictMono magnitude := fun _ _ less =>
  div_lt_div_of_pos_right (Nat.cast_lt.mpr (units_strictMono less)) (by positivity)

/-- No finite magnitude is nearer to a number than that of the rank, and one that is equally near
    leaves the rank the one with the even significand. -/
structure IsNearestRank (q : ℚ) (rank : Nat) : Prop where
  finite : rank < rankCount
  nearest : ∀ other < rankCount, |q - magnitude rank| ≤ |q - magnitude other|
  even : ∀ other < rankCount, |q - magnitude rank| = |q - magnitude other| →
    other = rank ∨ Even (significand rank)

/-- The double nearest to a number that is not negative, with a sign put on it.  It is infinite from
    the midpoint of the greatest finite magnitude and 2¹⁰²⁴ on, and zero up to half of the
    smallest one. -/
structure IsNearest (negative : Bool) (q : ℚ) (value : Double) : Prop where
  infinite : value = .inf negative ↔ 2 ^ 1024 - 2 ^ 970 ≤ q
  zero : value = .zero negative ↔ q ≤ 1 / 2 ^ 1075
  finite : q < 2 ^ 1024 - 2 ^ 970 →
    ∃ rank : Fin rankCount, value = .finite negative rank ∧ IsNearestRank q rank

/-- The midpoint of the greatest finite magnitude and 2¹⁰²⁴, in units. -/
theorem midpoint_greatest :
    ((units (rankCount - 1) + units (rankCount - 1 + 1)) / 2 : ℚ) =
      (2 ^ 1024 - 2 ^ 970) * 2 ^ 1074 := by
  have inBinade : rankCount - 1 = 2045 * 2 ^ 52 + (2 ^ 53 - 1) := by decide
  have greatest : units (rankCount - 1) = (2 ^ 53 - 1) * 2 ^ 2045 := by
    rw [inBinade, units_binade (.inr (by decide)) (by decide)]
  have beyond : units (rankCount - 1 + 1) = 2 ^ 53 * 2 ^ 2045 := by
    rw [inBinade, Nat.add_assoc, Nat.sub_add_cancel (by decide : 1 ≤ 2 ^ 53),
      units_binade (.inr (by decide)) (by decide)]
  have step : (2 : ℚ) ^ 2045 = 2 * 2 ^ 970 * 2 ^ 1074 := by
    rw [← pow_succ', ← pow_add]
  have limit : (2 : ℚ) ^ 1024 = 2 ^ 54 * 2 ^ 970 := by
    rw [← pow_add]
  rw [greatest, beyond, Nat.cast_mul, Nat.cast_mul, Nat.cast_pow 2 2045, Nat.cast_two, step, limit]
  generalize (2 : ℚ) ^ 970 = unit
  generalize (2 : ℚ) ^ 1074 = factor
  push_cast
  ring

section Round

variable (num : Nat) {den : Nat} (positive : 0 < den)

include positive

theorem nearestRank_lt_rankCount_iff :
    nearestRank num den < rankCount ↔ (num / den : ℚ) / 2 ^ 1074 < 2 ^ 1024 - 2 ^ 970 := by
  have odd : ¬ Even (rankCount - 1) := by decide
  rw [Nat.lt_iff_le_pred (by decide), nearestRank_le_iff num positive, midpoint_greatest,
    div_lt_iff₀ (by positivity : (0 : ℚ) < 2 ^ 1074)]
  simp only [odd, and_false, or_false]

theorem nearestRank_eq_zero_iff :
    nearestRank num den = 0 ↔ (num / den : ℚ) / 2 ^ 1074 ≤ 1 / 2 ^ 1075 := by
  have midpoint : ((units 0 + units (0 + 1)) / 2 : ℚ) = 1 / 2 ^ 1075 * 2 ^ 1074 := by
    rw [units_of_lt (by decide), units_of_lt (by decide), pow_succ]
    field_simp
    norm_num
  rw [← Nat.le_zero, nearestRank_le_iff num positive, midpoint, div_le_iff₀ (by positivity)]
  simp only [Even.zero, and_true, le_iff_lt_or_eq]

theorem isNearestRank_nearestRank (finite : nearestRank num den < rankCount) :
    IsNearestRank ((num / den : ℚ) / 2 ^ 1074) (nearestRank num den) := by
  have scaled : ∀ rank, |(num / den : ℚ) / 2 ^ 1074 - magnitude rank| =
      |(num / den : ℚ) - units rank| / 2 ^ 1074 := by
    intro rank
    rw [magnitude, ← sub_div, abs_div, abs_of_pos (by positivity : (0 : ℚ) < 2 ^ 1074)]
  refine ⟨finite, fun other _ => ?_, fun other _ tie => ?_⟩
  · rw [scaled, scaled]
    exact div_le_div_of_nonneg_right (nearestRank_nearest num positive other).1 (by positivity)
  · rw [scaled, scaled, div_left_inj' (by positivity)] at tie
    rw [even_significand_iff]
    exact (nearestRank_nearest num positive other).2 tie

/-- Rounding gives the nearest double. -/
theorem isNearest_round (negative : Bool) :
    IsNearest negative ((num / den : ℚ) / 2 ^ 1074) (round negative num den) := by
  have bound := nearestRank_lt_rankCount_iff num positive
  have least := nearestRank_eq_zero_iff num positive
  by_cases finite : nearestRank num den < rankCount
  · have found : round negative num den = .finite negative ⟨nearestRank num den, finite⟩ :=
      dif_pos finite
    refine ⟨?_, ?_, fun _ => ⟨_, found, isNearestRank_nearestRank num positive finite⟩⟩
    · exact iff_of_false (by simp [found]) (not_le.mpr (bound.mp finite))
    · rw [found, ← least]
      simp [Double.zero, Fin.ext_iff]
  · have found : round negative num den = .inf negative := dif_neg finite
    have large := not_lt.mp (mt bound.mpr finite)
    refine ⟨iff_of_true found large, ?_, fun small => absurd small (not_lt.mpr large)⟩
    rw [found, ← least]
    refine iff_of_false (by simp [Double.zero]) fun zero => finite ?_
    rw [zero]
    decide

/-- Whole numbers of 2¹⁰⁷⁴ units count ones. -/
theorem isNearest_round_ones (negative : Bool) :
    IsNearest negative (num / den : ℚ) (round negative (num * 2 ^ 1074) den) := by
  have unit : (2 : ℚ) ^ 1074 ≠ 0 := by positivity
  have rounded := isNearest_round (num * 2 ^ 1074) positive negative
  rwa [Nat.cast_mul, Nat.cast_pow 2, Nat.cast_ofNat, div_right_comm,
    mul_div_cancel_right₀ _ unit] at rounded

end Round

/-- Every number that is not negative has a nearest double. -/
theorem exists_isNearest (negative : Bool) {q : ℚ} (nonnegative : 0 ≤ q) :
    ∃ value, IsNearest negative q value := by
  have units : 0 ≤ q * 2 ^ 1074 := by positivity
  have back : q * 2 ^ 1074 / 2 ^ 1074 = q := mul_div_cancel_right₀ _ (by positivity)
  generalize q * 2 ^ 1074 = x at *
  have rounded := isNearest_round x.num.natAbs x.den_pos negative
  have numerator : (x.num.natAbs : ℚ) = x.num := by
    rw [← Int.cast_natCast, Int.natAbs_of_nonneg (Rat.num_nonneg.mpr units)]
  rw [numerator, Rat.num_div_den, back] at rounded
  exact ⟨_, rounded⟩

theorem isNearest_zero (negative : Bool) {q : ℚ} (nonnegative : 0 ≤ q) (small : q ≤ 1 / 2 ^ 1075) :
    IsNearest negative q (.zero negative) := by
  obtain ⟨value, nearest⟩ := exists_isNearest negative nonnegative
  rwa [nearest.zero.mpr small] at nearest

theorem isNearest_inf (negative : Bool) {q : ℚ} (large : 2 ^ 1024 - 2 ^ 970 ≤ q) :
    IsNearest negative q (.inf negative) := by
  have positive : (0 : ℚ) ≤ 2 ^ 1024 - 2 ^ 970 :=
    sub_nonneg.mpr (pow_le_pow_right₀ one_le_two (by decide))
  obtain ⟨value, nearest⟩ := exists_isNearest negative (positive.trans large)
  rwa [nearest.infinite.mpr large] at nearest

section Order

variable {p q : ℚ} {rank other : Nat}

/-- Of a greater number the nearest rank is no smaller. -/
theorem IsNearestRank.mono (nearest : IsNearestRank p rank) (otherNearest : IsNearestRank q other)
    (less : p ≤ q) : rank ≤ other := by
  by_contra beyond
  have before : other < rank := Nat.not_le.mp beyond
  have ascending : magnitude other < magnitude rank := magnitude_strictMono before
  have closer := nearest.nearest other otherNearest.finite
  have otherCloser := otherNearest.nearest rank nearest.finite
  rw [abs_sub_le_right_iff ascending] at closer
  rw [abs_sub_le_left_iff ascending] at otherCloser
  -- Both numbers are the midpoint, and so both ranks are even.
  obtain rfl : p = q := by linarith
  have tie := (abs_sub_eq_iff ascending).mpr (le_antisymm otherCloser closer)
  have even := (nearest.even other otherNearest.finite tie.symm).resolve_left before.ne
  have otherEven := (otherNearest.even rank nearest.finite tie).resolve_left before.ne'
  rw [even_significand_iff] at even otherEven
  -- Then a rank in between is nearer than either.
  have between : other + 1 < rank := by
    rcases Nat.lt_or_ge (other + 1) rank with apart | together
    · exact apart
    · have next : rank = other + 1 := by omega
      rw [next] at even
      exact absurd otherEven (Nat.even_add_one.mp even)
  have inside := magnitude_strictMono (Nat.lt_succ_self other)
  have outside := magnitude_strictMono between
  have nearer := otherNearest.nearest (other + 1) (between.trans nearest.finite)
  rw [abs_sub_le_left_iff inside] at nearer
  simp only [Nat.succ_eq_add_one] at *
  linarith

/-- What is nearest to two numbers is nearest to all numbers between them. -/
theorem IsNearest.between {negative : Bool} {first middle last : ℚ} {value found : Double}
    (nearFirst : IsNearest negative first value) (nearLast : IsNearest negative last value)
    (nearMiddle : IsNearest negative middle found) (above : first ≤ middle)
    (below : middle ≤ last) : found = value := by
  rcases le_or_gt (2 ^ 1024 - 2 ^ 970) first with large | small
  · rw [nearFirst.infinite.mpr large, nearMiddle.infinite.mpr (large.trans above)]
  · obtain ⟨rank, rfl, firstRank⟩ := nearFirst.finite small
    have bounded : last < 2 ^ 1024 - 2 ^ 970 := by
      by_contra large
      cases nearLast.infinite.mpr (not_lt.mp large)
    obtain ⟨lastRank, same, nearLastRank⟩ := nearLast.finite bounded
    obtain ⟨middleRank, rfl, nearMiddleRank⟩ := nearMiddle.finite (below.trans_lt bounded)
    cases same
    have equal : middleRank = rank :=
      Fin.ext (le_antisymm (nearMiddleRank.mono nearLastRank below)
        (firstRank.mono nearMiddleRank above))
    rw [equal]

theorem IsNearest.unique {negative : Bool} {value other : Double}
    (nearest : IsNearest negative q value) (otherNearest : IsNearest negative q other) :
    value = other :=
  otherNearest.between otherNearest nearest le_rfl le_rfl

end Order

end Double

end ReversePolish
