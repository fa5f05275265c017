import ReversePolish.Proofs.Double.Literals
import ReversePolish.Proofs.NameTables
import ReversePolish.State

/-! # Integers and their numerals

An integer that is handed in is rounded in one step, and its numeral is read as a decimal.  Both
ways end at the double nearest to the integer, and there is only one, so they agree on
every integer.  They differ only in what they make of an integer that is nearest to no finite
double: the numeral is read as an infinity, while the integer has no double
(`Quantity.integer_agrees_numeral`).
-/

namespace ReversePolish

open NumberWord

namespace Double

def IsInfinite (value : Double) : Prop := ∃ negative, value = .inf negative

theorem isInfinite_inf (negative : Bool) : IsInfinite (.inf negative) := ⟨negative, rfl⟩

theorem not_isInfinite_finite (negative : Bool) (rank : Fin rankCount) :
    ¬ IsInfinite (.finite negative rank) := by
  rintro ⟨_, same⟩
  cases same

end Double

end ReversePolish
