import ReversePolish.Double.Shortest
import ReversePolish.Proofs.Double.Literals

/-! # The shortest decimal has the fewest digits

The decimals that are read back as a magnitude form an interval around it, and so a grid that has
one of them has one next to the magnitude, where the search looks.  What the search finds therefore
lies on the coarsest grid that has any (`Double.exists_isCoarsest`).

A coarse grid and few digits are not the same, since zeros at the end of a coefficient do not count.
But if a decimal of the magnitude has at most `count` digits and the one that was found has more,
then there is a power of ten, or ten times one, between the two, and it lies on a coarser grid
(`Double.fitsIn_shortest`).
-/

namespace ReversePolish

/-- A number has at most so many digits, if zeros at its end are not counted. -/
def FitsIn (count n : Nat) : Prop := ∃ digits zeros, digits < 10 ^ count ∧ n = digits * 10 ^ zeros

/-- Zeros at the end make no difference. -/
theorem fitsIn_mul_pow_iff {count n zeros : Nat} :
    FitsIn count (n * 10 ^ zeros) ↔ FitsIn count n := by
  constructor
  · rintro ⟨digits, others, few, same⟩
    rcases Nat.le_total zeros others with fewer | more
    · refine ⟨digits, others - zeros, few, ?_⟩
      refine Nat.eq_of_mul_eq_mul_right (natPow_pos (by decide : 0 < 10) zeros) ?_
      rw [same, Nat.mul_assoc, ← Nat.pow_add, Nat.sub_add_cancel fewer]
    · refine ⟨n, 0, lt_of_le_of_lt ?_ few, by rw [Nat.pow_zero, Nat.mul_one]⟩
      refine Nat.le_of_mul_le_mul_right ?_ (natPow_pos (by decide : 0 < 10) others)
      rw [← same]
      exact Nat.mul_le_mul_left _ (Nat.pow_le_pow_right (by decide) more)
  · rintro ⟨digits, others, few, rfl⟩
    exact ⟨digits, others + zeros, few, by rw [Nat.mul_assoc, ← Nat.pow_add]⟩

theorem Decimal.Rescaled.fitsIn_iff {d other : Decimal} (rescaled : d.Rescaled other)
    {count : Nat} : FitsIn count other.coefficient ↔ FitsIn count d.coefficient := by
  obtain ⟨coefficient, exponent, zeros, otherZeros, rfl, rfl⟩ := rescaled
  rw [fitsIn_mul_pow_iff, fitsIn_mul_pow_iff]

theorem Double.ofRank_of_lt {negative : Bool} {rank : Nat} (finite : rank < rankCount) :
    ofRank negative rank = .finite negative ⟨rank, finite⟩ :=
  dif_pos finite

theorem Double.eq_of_ofRank {negative sign : Bool} {other : Nat} {rank : Fin rankCount}
    (same : ofRank negative other = .finite sign rank) : other = rank := by
  rw [ofRank] at same
  split at same
  · cases same
    rfl
  · cases same

namespace Decimal

/-- What lies between two decimals of a finite rank has this rank. -/
theorem rank_between {rank : Nat} (finite : rank < Double.rankCount) {first middle last : Decimal}
    (firstRank : first.rank = rank) (lastRank : last.rank = rank)
    (above : first.value ≤ middle.value) (below : middle.value ≤ last.value) :
    middle.rank = rank := by
  have nearFirst := isNearest_toDouble false first
  have nearLast := isNearest_toDouble false last
  rw [toDouble, firstRank, Double.ofRank_of_lt finite] at nearFirst
  rw [toDouble, lastRank, Double.ofRank_of_lt finite] at nearLast
  exact Double.eq_of_ofRank
    (nearFirst.between nearLast (isNearest_toDouble false middle) above below)

theorem value_grid (coefficient dropped : Nat) :
    value ⟨coefficient, dropped - 1074⟩ =
      (coefficient * 10 ^ dropped : Nat) * 10 ^ (-1074 : ℤ) := by
  rw [value, sub_eq_add_neg, zpow_add₀ (by norm_num), zpow_natCast, ← mul_assoc, Nat.cast_mul,
    Nat.cast_pow, Nat.cast_ofNat]

/-- Decimals on grids are compared as multiples of the finest grid. -/
theorem value_grid_le_iff {coefficient dropped other otherDropped : Nat} :
    value ⟨coefficient, dropped - 1074⟩ ≤ value ⟨other, otherDropped - 1074⟩ ↔
      coefficient * 10 ^ dropped ≤ other * 10 ^ otherDropped := by
  rw [value_grid, value_grid, mul_le_mul_iff_left₀ (ten_zpow_pos _), Nat.cast_le]

end Decimal

namespace Double

section Neighbours

variable {rank dropped : Nat}

/-- The neighbours are the last decimal of the grid that does not lie beyond the magnitude and the
    next one. -/
theorem mem_neighbours_iff {d : Decimal} :
    d ∈ neighbours rank dropped ↔
      d = ⟨exact rank / 10 ^ dropped, dropped - 1074⟩ ∨
        d = ⟨exact rank / 10 ^ dropped + 1, dropped - 1074⟩ := by
  have bounds := roundDiv_bounds (exact rank) (10 ^ dropped)
  simp only [neighbours, natPow_eq, List.mem_cons, List.not_mem_nil, or_false]
  rcases (by omega : roundDiv (exact rank) (10 ^ dropped) = exact rank / 10 ^ dropped ∨
    roundDiv (exact rank) (10 ^ dropped) = exact rank / 10 ^ dropped + 1) with below | above
  · rw [if_pos below, below]
  · rw [above, if_neg (by omega), or_comm]

end Neighbours

section Search

variable {rank : Nat} (positive : 0 < rank) (finite : rank < rankCount)

include positive finite

/-- On the finest grid lies the magnitude itself. -/
theorem rank_finest : Decimal.rank ⟨exact rank, (0 : Nat) - 1074⟩ = rank :=
  rank_exact positive finite

/-- A grid that has a decimal of the rank has one next to the magnitude. -/
theorem exists_neighbour {dropped other : Nat}
    (hit : Decimal.rank ⟨other, dropped - 1074⟩ = rank) :
    ∃ d ∈ neighbours rank dropped, d.rank = rank := by
  have finest := rank_finest positive finite
  rcases Nat.lt_or_ge (exact rank / 10 ^ dropped) other with beyond | before
  · refine ⟨_, mem_neighbours_iff.mpr (.inr rfl), ?_⟩
    refine Decimal.rank_between finite finest hit ?_ ?_
    · rw [Decimal.value_grid_le_iff, Nat.pow_zero, Nat.mul_one]
      exact (Nat.lt_mul_of_div_lt (Nat.lt_succ_self _) (natPow_pos (by decide) _)).le
    · rw [Decimal.value_grid_le_iff]
      exact Nat.mul_le_mul_right _ beyond
  · refine ⟨_, mem_neighbours_iff.mpr (.inl rfl), ?_⟩
    refine Decimal.rank_between finite hit finest ?_ ?_
    · rw [Decimal.value_grid_le_iff]
      exact Nat.mul_le_mul_right _ before
    · rw [Decimal.value_grid_le_iff, Nat.pow_zero, Nat.mul_one]
      exact Nat.div_mul_le_self _ _

/-- A decimal that lies on the coarsest grid that has one of the rank, among those that leave out at
    most the given number of digits of the exact decimal. -/
structure IsCoarsest (rank most coefficient dropped : Nat) : Prop where
  within : dropped ≤ most
  near : coefficient ≤ exact rank / 10 ^ dropped + 1
  hit : Decimal.rank ⟨coefficient, dropped - 1074⟩ = rank
  coarsest : ∀ coarser, dropped < coarser → coarser ≤ most →
    ∀ other, Decimal.rank ⟨other, coarser - 1074⟩ ≠ rank

/-- The search ends on the coarsest grid that has a decimal of the rank. -/
theorem exists_isCoarsest (most : Nat) :
    ∃ coefficient dropped : Nat, shortestWithin rank most = ⟨coefficient, dropped - 1074⟩ ∧
      IsCoarsest rank most coefficient dropped := by
  induction most with
  | zero =>
      refine ⟨exact rank, 0, rfl, le_rfl, ?_, rank_finest positive finite, ?_⟩
      · rw [Nat.pow_zero, Nat.div_one]
        exact Nat.le_succ _
      · intro coarser more atMost
        omega
  | succ most ih =>
      rw [shortestWithin_succ]
      cases found : (neighbours rank (most + 1)).find? (fun d => d.rank = rank) with
      | some d =>
          have hit : d.rank = rank := by simpa using List.find?_some found
          have coarsest : ∀ coarser, most + 1 < coarser → coarser ≤ most + 1 →
              ∀ other, Decimal.rank ⟨other, coarser - 1074⟩ ≠ rank := by
            intro coarser more atMost
            omega
          rcases mem_neighbours_iff.mp (List.mem_of_find?_eq_some found) with rfl | rfl
          · exact ⟨_, most + 1, rfl, le_rfl, Nat.le_succ _, hit, coarsest⟩
          · exact ⟨_, most + 1, rfl, le_rfl, le_rfl, hit, coarsest⟩
      | none =>
          obtain ⟨coefficient, dropped, same, within, near, hit, coarsest⟩ := ih
          refine ⟨coefficient, dropped, same, by omega, near, hit, ?_⟩
          intro coarser more atMost other otherHit
          rcases Nat.lt_or_ge most coarser with last | before
          · -- The last grid was searched in vain.
            obtain rfl : coarser = most + 1 := by omega
            obtain ⟨d, neighbour, same⟩ := exists_neighbour positive finite otherHit
            have missed := List.find?_eq_none.mp found d neighbour
            simp [same] at missed
          · exact coarsest coarser more before other otherHit

end Search

/-- A number of `k` bits has at most `k * 28 / 93 + 1` digits. -/
theorem two_pow_le_ten_pow (bits : Nat) : 2 ^ bits ≤ 10 ^ (bits * 28 / 93 + 1) := by
  have few : ∀ rest < 93, 2 ^ rest ≤ 10 ^ (rest * 28 / 93 + 1) := by decide
  have split := Nat.div_add_mod bits 93
  generalize bits / 93 = periods at split
  generalize same : bits % 93 = rest at split
  have less : rest < 93 := same ▸ Nat.mod_lt bits (by decide)
  have digits : bits * 28 / 93 + 1 = 28 * periods + (rest * 28 / 93 + 1) := by omega
  calc 2 ^ bits = (2 ^ 93) ^ periods * 2 ^ rest := by rw [← split, Nat.pow_add, Nat.pow_mul]
    _ ≤ (10 ^ 28) ^ periods * 10 ^ (rest * 28 / 93 + 1) :=
        Nat.mul_le_mul (Nat.pow_le_pow_left (by decide) _) (few rest less)
    _ = 10 ^ (bits * 28 / 93 + 1) := by rw [digits, Nat.pow_add 10 (28 * periods), Nat.pow_mul]

/-- On the grid where the search begins, the magnitude lies below ten. -/
theorem exact_lt_pow_mostDropped (rank : Nat) : exact rank < 10 ^ (mostDropped rank + 1) :=
  Nat.lt_log2_self.trans_le (two_pow_le_ten_pow _)

section Fewest

variable {rank : Nat} (positive : 0 < rank) (finite : rank < rankCount)

include positive finite

/-- A decimal of the rank with fewer digits than one on a grid leads to a coarser grid that has one
    as well, unless the grid is the one where the search begins. -/
theorem exists_coarser {count coefficient dropped digits : Nat} {exponent : Int}
    (many : 10 ^ count ≤ coefficient) (some_digit : 0 < count)
    (hit : Decimal.rank ⟨coefficient, dropped - 1074⟩ = rank) (few : digits < 10 ^ count)
    (nonzero : 0 < digits) (other : Decimal.rank ⟨digits, exponent⟩ = rank)
    (before : dropped < mostDropped rank) :
    ∃ coarser, dropped < coarser ∧ coarser ≤ mostDropped rank ∧
      ∃ other, Decimal.rank ⟨other, coarser - 1074⟩ = rank := by
  by_cases fine : exponent ≤ dropped - 1074
  · -- The power of ten with more digits than the one decimal lies between the two.
    refine ⟨dropped + 1, Nat.lt_succ_self _, before, 10 ^ (count - 1), ?_⟩
    have power : 10 ^ (count - 1) * 10 ^ (dropped + 1) = 10 ^ count * 10 ^ dropped := by
      rw [← Nat.pow_add, ← Nat.pow_add]
      congr 1
      omega
    refine Decimal.rank_between finite other hit ?_ ?_
    · calc Decimal.value ⟨digits, exponent⟩ ≤ Decimal.value ⟨digits, dropped - 1074⟩ :=
            mul_le_mul_of_nonneg_left (zpow_le_zpow_right₀ (by norm_num) fine) (Nat.cast_nonneg _)
        _ ≤ _ := by
            rw [Decimal.value_grid_le_iff, power]
            exact Nat.mul_le_mul_right _ few.le
    · rw [Decimal.value_grid_le_iff, power]
      exact Nat.mul_le_mul_right _ many
  · obtain ⟨coarser, rfl⟩ : ∃ coarser : Nat, exponent = coarser - 1074 :=
      ⟨(exponent + 1074).toNat, by omega⟩
    rcases Nat.lt_or_ge (mostDropped rank) coarser with beyond | inside
    · -- Ten on the grid where the search begins lies between the magnitude and the other decimal.
      refine ⟨mostDropped rank, before, le_rfl, 10, ?_⟩
      refine Decimal.rank_between finite (rank_finest positive finite) other ?_ ?_
      · rw [Decimal.value_grid_le_iff, Nat.pow_zero, Nat.mul_one, ← Nat.pow_succ']
        exact (exact_lt_pow_mostDropped rank).le
      · rw [Decimal.value_grid_le_iff, ← Nat.pow_succ']
        exact (Nat.pow_le_pow_right (by decide) beyond).trans (Nat.le_mul_of_pos_left _ nonzero)
    · exact ⟨coarser, by omega, inside, digits, other⟩

/-- No decimal of a magnitude has fewer digits than the shortest one. -/
theorem fitsIn_shortest {d : Decimal} (same : d.rank = rank) {count : Nat}
    (fits : FitsIn count d.coefficient) : FitsIn count (shortest rank).coefficient := by
  obtain ⟨digits, zeros, few, split⟩ := fits
  have other : Decimal.rank ⟨digits, d.exponent + zeros⟩ = rank := by
    rw [← same, ← Decimal.rank_scaled digits _ zeros, ← split, Int.add_sub_cancel]
  have nonzero : 0 < digits := Decimal.coefficient_pos (other.symm ▸ positive)
  have some_digit : 0 < count := by
    refine Nat.pos_of_ne_zero fun none => ?_
    rw [none, Nat.pow_zero] at few
    omega
  obtain ⟨coefficient, dropped, found, coarse⟩ :=
    exists_isCoarsest positive finite (mostDropped rank)
  rw [shortest, found]
  rcases Nat.lt_or_ge coefficient (10 ^ count) with less | many
  · exact ⟨coefficient, 0, less, (Nat.mul_one coefficient).symm⟩
  · rcases coarse.within.lt_or_eq with before | last
    · obtain ⟨coarser, more, atMost, another, hit⟩ :=
        exists_coarser positive finite many some_digit coarse.hit few nonzero other before
      exact absurd hit (coarse.coarsest coarser more atMost another)
    · -- On the first grid of the search the coefficient can only be ten.
      have tens : 10 ^ 1 ≤ 10 ^ count := Nat.pow_le_pow_right (by decide) some_digit
      have small : exact rank / 10 ^ dropped < 10 := by
        rw [Nat.div_lt_iff_lt_mul (natPow_pos (by decide) _), ← Nat.pow_succ', last]
        exact exact_lt_pow_mostDropped rank
      have near := coarse.near
      exact ⟨1, 1, by omega, by simp only; omega⟩

end Fewest

end Double

end ReversePolish
