import ReversePolish.Machine
import ReversePolish.Proofs.Actions
import ReversePolish.Proofs.Double.Integers

/-! # Quotients

Every two doubles have a quotient, which is no number exactly if one of them is none, if both are
zeros or if both are infinite.  All other quotients have the signs of both combined.  What is
left to the sizes is told by `Double.IsQuotient`, which says nothing of ranks and rounding: two
finite doubles that are not zeros have the double nearest to the exact quotient of their
magnitudes, with overflow and gradual underflow as in `Double.IsNearest`.
-/

namespace ReversePolish

namespace Double

def IsZero (value : Double) : Prop := ∃ negative, value = .zero negative

/-- The pairs whose quotient is no number. -/
def Undivided (x y : Double) : Prop :=
  x = .nan ∨ y = .nan ∨ (x.IsZero ∧ y.IsZero) ∨ (x.IsInfinite ∧ y.IsInfinite)

/-- The quotient of two doubles.  Among the pairs that are not undivided, a zero as the second or
    an infinity as the first double makes it infinite, and the other way round makes it zero. -/
inductive IsQuotient : Double → Double → Double → Prop where
  | undivided {x y : Double} (undivided : Undivided x y) : IsQuotient x y .nan
  | infinite {x y : Double} (divided : ¬ Undivided x y) (large : x.IsInfinite ∨ y.IsZero) :
    IsQuotient x y (.inf (x.isNegative != y.isNegative))
  | zero {x y : Double} (divided : ¬ Undivided x y) (small : x.IsZero ∨ y.IsInfinite) :
    IsQuotient x y (.zero (x.isNegative != y.isNegative))
  | nearest {s t : Bool} {a b : Fin rankCount} {value : Double} (dividend : 0 < a.val)
    (divisor : 0 < b.val) (nearest : IsNearest (s != t) (magnitude a / magnitude b) value) :
    IsQuotient (.finite s a) (.finite t b) value

section Sizes

variable {s : Bool} {a : Fin rankCount}

theorem isZero_finite_iff : IsZero (.finite s a) ↔ a.val = 0 := by
  constructor
  · rintro ⟨_, same⟩
    cases same
    rfl
  · intro zero
    exact ⟨s, congrArg (Double.finite s) (Fin.ext zero)⟩

theorem not_isZero_inf : ¬ IsZero (.inf s) := by
  rintro ⟨_, same⟩
  cases same

theorem not_undivided_finite {t : Bool} {b : Fin rankCount} :
    ¬ Undivided (.finite s a) (.finite t b) ↔ a.val ≠ 0 ∨ b.val ≠ 0 := by
  simp [Undivided, isZero_finite_iff, not_isInfinite_finite, imp_iff_not_or]

theorem not_infinite_or_zero {t : Bool} {b : Fin rankCount} (positive : 0 < b.val) :
    ¬ (IsInfinite (.finite s a) ∨ IsZero (.finite t b)) := by
  rintro (infinite | zero)
  · exact not_isInfinite_finite s a infinite
  · exact positive.ne' (isZero_finite_iff.mp zero)

theorem IsNearest.ne_nan {negative : Bool} {q : ℚ} {value : Double}
    (nearest : IsNearest negative q value) : value ≠ .nan := by
  rintro rfl
  rcases le_or_gt (2 ^ 1024 - 2 ^ 970) q with large | small
  · cases nearest.infinite.mpr large
  · obtain ⟨rank, finite, -⟩ := nearest.finite small
    cases finite

end Sizes

section Quotient

variable {x y value : Double}

theorem equal_zero_iff : x.equal (zero false) = true ↔ x.IsZero := by
  cases x with
  | nan => exact iff_of_false Bool.noConfusion (by simp [IsZero, zero])
  | inf s => exact iff_of_false Bool.noConfusion not_isZero_inf
  | finite s a =>
      rw [isZero_finite_iff, Fin.val_eq_zero_iff]
      simp only [equal, zero, Bool.and_eq_true, Bool.or_eq_true, beq_iff_eq]
      exact and_iff_left_of_imp .inr

/-- A zero divisor is refused, and nothing else is. -/
theorem checkedDiv_eq_error_iff : checkedDiv x y = .error .zeroDivisor ↔ y.IsZero := by
  rw [checkedDiv, ← equal_zero_iff]
  split <;> simp [*]

/-- An infinity with the one sign times a one with the other has both signs. -/
theorem mul_copySign (x y : Double) :
    mul (copySign (.inf false) x) (copySign one y) = .inf (x.isNegative != y.isNegative) :=
  rfl

/-- Where the divisor is refused, a number is given all the same. -/
theorem isQuotient_div_of_zero (divisor : y.IsZero) : IsQuotient x y (div x y) := by
  have refused : checkedDiv x y = .error .zeroDivisor := checkedDiv_eq_error_iff.mpr divisor
  have nothing_iff : (x.equal (zero false) || x = .nan) = true ↔ x.IsZero ∨ x = .nan := by
    rw [Bool.or_eq_true, equal_zero_iff, decide_eq_true_iff]
  simp only [div, refused]
  split
  · next nothing =>
      apply IsQuotient.undivided
      rcases nothing_iff.mp nothing with dividend | rfl
      · exact .inr (.inr (.inl ⟨dividend, divisor⟩))
      · exact .inl rfl
  · next something =>
      rw [nothing_iff, not_or] at something
      have divided : ¬ Undivided x y := by
        obtain ⟨t, rfl⟩ := divisor
        rintro (none | none | ⟨dividend, -⟩ | ⟨-, infinite⟩)
        · exact something.2 none
        · cases none
        · exact something.1 dividend
        · exact not_isInfinite_finite t 0 infinite
      rw [mul_copySign]
      exact .infinite divided (.inr divisor)

/-- Two magnitudes are divided exactly and then rounded to the nearest double. -/
theorem isNearest_ratio_finite {s t : Bool} {a b : Fin rankCount} (divisor : 0 < b.val) :
    IsNearest (s != t) (magnitude a / magnitude b) (ratio (.finite s a) (.finite t b)) := by
  have rounded := isNearest_round_ones (units a) (units_pos divisor) (s != t)
  have unit : (2 : ℚ) ^ 1074 ≠ 0 := pow_ne_zero 1074 two_ne_zero
  rw [magnitude, magnitude, div_div_div_cancel_right₀ unit]
  simpa only [ratio, natPow_eq] using rounded

/-- A divisor that is not a zero is divided by as it is. -/
theorem isQuotient_ratio (divisor : ¬ y.IsZero) : IsQuotient x y (ratio x y) := by
  cases x with
  | nan => exact .undivided (.inl rfl)
  | inf s =>
      cases y with
      | nan => exact .undivided (.inr (.inl rfl))
      | inf t =>
          exact .undivided (.inr (.inr (.inr ⟨isInfinite_inf s, isInfinite_inf t⟩)))
      | finite t b =>
          have divided : ¬ Undivided (.inf s) (.finite t b) := by
            simp [Undivided, not_isZero_inf, not_isInfinite_finite]
          exact .infinite divided (.inl (isInfinite_inf s))
  | finite s a =>
      cases y with
      | nan => exact .undivided (.inr (.inl rfl))
      | inf t =>
          have divided : ¬ Undivided (.finite s a) (.inf t) := by
            simp [Undivided, not_isZero_inf, not_isInfinite_finite]
          exact .zero divided (.inr (isInfinite_inf t))
      | finite t b =>
          rw [isZero_finite_iff] at divisor
          have nearest := isNearest_ratio_finite (s := s) (t := t) (a := a)
            (Nat.pos_of_ne_zero divisor)
          by_cases dividend : a.val = 0
          · -- The exact quotient is zero, and so is the nearest double.
            have zero : ratio (.finite s a) (.finite t b) = .zero (s != t) := by
              rw [nearest.zero, dividend, magnitude, units_of_lt (by decide)]
              simp
            rw [zero]
            exact .zero (not_undivided_finite.mpr (.inr divisor))
              (.inl (isZero_finite_iff.mpr dividend))
          · exact .nearest (Nat.pos_of_ne_zero dividend) (Nat.pos_of_ne_zero divisor) nearest

/-- Division gives the quotient, whatever the two doubles are. -/
theorem isQuotient_div (x y : Double) : IsQuotient x y (div x y) := by
  by_cases divisor : y.IsZero
  · exact isQuotient_div_of_zero divisor
  · have allowed : checkedDiv x y = .ok (ratio x y) :=
      if_neg fun zero => divisor (equal_zero_iff.mp zero)
    rw [div, allowed]
    exact isQuotient_ratio divisor

theorem IsQuotient.eq_nan_iff (quotient : IsQuotient x y value) :
    value = .nan ↔ Undivided x y := by
  cases quotient with
  | undivided undivided => exact iff_of_true rfl undivided
  | infinite divided => exact iff_of_false Double.noConfusion divided
  | zero divided => exact iff_of_false Double.noConfusion divided
  | nearest dividend divisor nearest =>
      exact iff_of_false nearest.ne_nan (not_undivided_finite.mpr (.inl dividend.ne'))

/-- What makes the quotient of a divided pair infinite does not also make it zero. -/
theorem not_small_of_large (divided : ¬ Undivided x y) (large : x.IsInfinite ∨ y.IsZero) :
    ¬ (x.IsZero ∨ y.IsInfinite) := by
  rintro (dividendZero | divisorInfinite)
  · rcases large with ⟨s, rfl⟩ | divisorZero
    · exact not_isZero_inf dividendZero
    · exact divided (.inr (.inr (.inl ⟨dividendZero, divisorZero⟩)))
  · rcases large with dividendInfinite | divisorZero
    · exact divided (.inr (.inr (.inr ⟨dividendInfinite, divisorInfinite⟩)))
    · obtain ⟨t, rfl⟩ := divisorInfinite
      exact not_isZero_inf divisorZero

/-- Two doubles have one quotient. -/
theorem IsQuotient.unique {other : Double} (first : IsQuotient x y value)
    (second : IsQuotient x y other) : value = other := by
  cases first with
  | undivided undivided => exact (second.eq_nan_iff.mpr undivided).symm
  | infinite divided large =>
      cases second with
      | undivided undivided => exact absurd undivided divided
      | infinite => rfl
      | zero _ small => exact absurd small (not_small_of_large divided large)
      | nearest dividend divisor => exact absurd large (not_infinite_or_zero divisor)
  | zero divided small =>
      cases second with
      | undivided undivided => exact absurd undivided divided
      | infinite _ large => exact absurd small (not_small_of_large divided large)
      | zero => rfl
      | nearest dividend divisor => exact absurd small.symm (not_infinite_or_zero dividend)
  | nearest dividend divisor nearest =>
      cases second with
      | undivided undivided =>
          exact absurd undivided (not_undivided_finite.mpr (.inl dividend.ne'))
      | infinite _ large => exact absurd large (not_infinite_or_zero divisor)
      | zero _ small => exact absurd small.symm (not_infinite_or_zero dividend)
      | nearest _ _ otherNearest => exact nearest.unique otherNearest

end Quotient

end Double

theorem State.operate_of_values {left right : Cell} {bindings : Bindings} {x y : Double}
    (leftValue : bindings.valueOf left = .ok x) (rightValue : bindings.valueOf right = .ok y)
    (rest : Stack) (symbol : Text) (combine : Combination) :
    State.operate ⟨right :: left :: rest, bindings⟩ symbol combine =
      .done ⟨.number (combine x y) :: rest, bindings⟩ := by
  simp only [operate, leftValue, rightValue]

theorem Token.action_division {vocabulary : Vocabulary}
    (standard : vocabulary.operators.get? ['/'] = some Double.div) :
    (ofWord ['/']).action vocabulary = .operate ['/'] Double.div := by
  have operator : classify ['/'] = .binaryOperator :=
    classify_eq_operator_iff.mpr (.inr (.inr (.inr rfl)))
  simp only [action, ofWord, operator, standard]

/-- Division gives every two doubles their quotient and nothing else, also where a zero divisor is
    refused at first.  It gives no number exactly for the undivided pairs.  Unless its word was
    given another meaning, the word never fails on two cells that have values, and puts just this
    quotient in their place. -/
theorem Machine.divide_quotient {machine : Machine}
    (standard : machine.vocabulary.operators.get? ['/'] = some Double.div) (x y : Double) :
    (Double.checkedDiv x y = .error .zeroDivisor ↔ y.IsZero) ∧
      (Double.div x y = .nan ↔ Double.Undivided x y) ∧
      (∀ value, Double.div x y = value ↔ Double.IsQuotient x y value) ∧
      ∀ (left right : Cell) (rest : Stack) (bindings : Bindings),
        bindings.valueOf left = .ok x → bindings.valueOf right = .ok y →
        (Token.ofWord ['/']).effect machine.vocabulary ⟨right :: left :: rest, bindings⟩ =
          .done ⟨.number (Double.div x y) :: rest, bindings⟩ := by
  have quotient := Double.isQuotient_div x y
  refine ⟨Double.checkedDiv_eq_error_iff, quotient.eq_nan_iff, fun value => ?_, ?_⟩
  · constructor
    · rintro rfl
      exact quotient
    · intro otherQuotient
      exact quotient.unique otherQuotient
  · intro left right rest bindings leftValue rightValue
    rw [Token.effect_eq_action, Token.action_division standard]
    exact State.operate_of_values leftValue rightValue rest ['/'] Double.div

/-- A variable that holds the negative zero divides one, on a machine that learned another
    operator. -/
theorem Machine.divide_quotient_negativeZero :
    let machine := Machine.fresh.addOperator ['%'] Double.mul
    let bindings : Bindings := NameTable.ofList [(['x'], .zero true)]
    machine.vocabulary.operators.get? ['/'] = some Double.div ∧
      bindings.valueOf (.number .one) = .ok .one ∧
      bindings.valueOf (.named ['x']) = .ok (.zero true) ∧
      (Token.ofWord ['/']).effect machine.vocabulary
          ⟨[.named ['x'], .number .one, .named ['y']], bindings⟩ =
        .done ⟨[.number (.inf true), .named ['y']], bindings⟩ := by
  intro machine bindings
  have standard : machine.vocabulary.operators.get? ['/'] = some Double.div := rfl
  have laws := Machine.divide_quotient standard .one (.zero true)
  refine ⟨standard, rfl, rfl, ?_⟩
  exact laws.2.2.2 (.number .one) (.named ['x']) [.named ['y']] bindings rfl rfl

end ReversePolish
